import GoBacnet.Lib.Search
import GoBacnet.Server.Object
import GoBacnet.Service.ReadRange

/-!
# Trend logs

A ring of records with sequence numbers, and the selection that ReadRange makes of it. The answer carries as many of
the selected records as fit the requester's buffer.
-/

namespace GoBacnet.Server

open Service

structure LogEntry where
  seq : Nat
  time : Int
  record : LogRecord

structure TrendLog where
  bufferSize : Nat := 1000
  stopWhenFull : Bool := false
  enable : Bool := true
  /-- Oldest first. -/
  records : List LogEntry := []
  /-- The sequence number of the newest record. -/
  total : Nat := 0

structure TrendLogConfig where
  instanceNumber : UInt32
  name : Octets
  bufferSize : UInt32 := 0
  stopWhenFull : Bool := false
  source : Option ObjectIdentifier := none
  logInterval : Int := 0
  enable : Bool := false

def newTrendLog (cfg : TrendLogConfig) : Except ObjectErr TrendLog :=
  if cfg.name = [] then .error (.plain "object: object name required")
  else if cfg.instanceNumber ≥ maxObjectInstance then
    .error (.plain ("object: instance " ++ toString cfg.instanceNumber ++ " out of range"))
  else if cfg.source.isSome ∧ cfg.logInterval ≤ 0 then .error (.plain "object: polled logging needs a log interval")
  else
    .ok
      { bufferSize := if cfg.bufferSize = 0 then 1000 else cfg.bufferSize.toNat
        stopWhenFull := cfg.stopWhenFull
        enable := cfg.enable }

def datumChoice : ApplicationValue → Option LogDatumChoice
  | .real _ => some .real
  | .boolean _ => some .boolean
  | .enumerated _ => some .enumerated
  | .unsigned _ => some .unsigned
  | .signed _ => some .signed
  | .bitString _ => some .bitString
  | .null => some .null
  | _ => none

/-- A range that an object is asked for. -/
structure RangeQuery where
  rangeBy : ReadRangeBy
  index : Nat
  time : Int
  count : Int

structure RangeResult where
  records : List LogRecord := []
  position : Nat := 0
  total : Nat
  firstSequence : Nat := 0
  sequenced : Bool
  items : List ApplicationValue := []

def RangeResult.size (sel : RangeResult) : Nat := sel.records.length + sel.items.length

inductive RangeError
  | unknownObject
  | propertyIsNotAList
  | notAnArray
  /-- A slice of the buffer ends before it starts: the runtime panics. -/
  | sliceBounds
  | encoding (err : Err)
  deriving DecidableEq

namespace TrendLog

def log (tl : TrendLog) (time : Int) (timestamp : DateTime) (v : ApplicationValue) (flags : Option BitString) :
    TrendLog :=
  match datumChoice v with
  | none => tl
  | some choice =>
    let full := tl.records.length ≥ tl.bufferSize
    if !tl.enable then tl
    else if full ∧ tl.stopWhenFull then { tl with enable := false }
    else
      let next := (tl.total + 1) % 2 ^ 32
      let total := if next = 0 then 1 else next
      let record : LogRecord := { timestamp, datumChoice := choice, datum := .value v, statusFlags := flags }
      { tl with
        records := (if full then tl.records.drop 1 else tl.records) ++ [{ seq := total, time, record }]
        total }

def setEnable (tl : TrendLog) (w : Write) : Except ObjectErr TrendLog :=
  if w.property.arrayIndex.isSome then .error .notAnArray
  else
    match w.value with
    | .boolean b => .ok { tl with enable := b }
    | _ => .error .invalidDataType

def setRecordCount (tl : TrendLog) (w : Write) : Except ObjectErr TrendLog :=
  match w.value with
  | .unsigned u => if u ≠ 0 then .error .valueOutOfRange else .ok { tl with records := [] }
  | _ => .error .invalidDataType

/-- The lowest and the highest of `count` numbers from `ref` on, or before it with a negative count. -/
def bounds (ref count : Int) : Int × Int :=
  if count < 0 then (ref + count + 1, ref) else (ref, ref + count - 1)

/-- The first and last index of a range by position. -/
def byPosition (n index : Nat) (count : Int) : Option (Nat × Nat) :=
  if count = 0 then none
  else
    let lo := max (bounds index count).1 1
    let hi := min (bounds index count).2 n
    if (index : Int) < 1 ∨ (index : Int) > n ∨ lo > hi then none else some ((lo - 1).toNat, (hi - 1).toNat)

def bySequenceNumber (firstSeq lastSeq index : Nat) (count : Int) : Option (Nat × Int) :=
  if count = 0 then none
  else
    let (lo, hi) := bounds index count
    if hi < firstSeq ∨ lo > lastSeq then none
    else some ((max lo firstSeq - firstSeq).toNat, min hi lastSeq - firstSeq)

def byTime (records : List LogEntry) (ref : Int) (count : Int) : Option (Nat × Nat) :=
  if count = 0 then none
  else if count > 0 then do
    let first ← records.findIdx? fun e => e.time > ref
    return (first, min (records.length - 1) (first + count.toNat - 1))
  else do
    let back ← records.reverse.findIdx? fun e => e.time < ref
    let last := records.length - 1 - back
    return ((last + count + 1).toNat, last)

/-- The indices that a query selects of a buffer that is not empty. -/
def select (records : List LogEntry) (first last : LogEntry) (q : RangeQuery) : Option (Nat × Int) :=
  match q.rangeBy with
  | .all => some (0, records.length - 1)
  | .position => (byPosition records.length q.index q.count).map fun (first, last) => (first, last)
  | .sequenceNumber => bySequenceNumber first.seq last.seq q.index q.count
  | .time => (byTime records q.time q.count).map fun (first, last) => (first, last)

def readRange (tl : TrendLog) (prop : PropertyReference) (q : RangeQuery) : Except RangeError RangeResult :=
  if prop.identifier ≠ propertyLogBuffer then .error .propertyIsNotAList
  else if prop.arrayIndex.isSome then .error .notAnArray
  else
    let res : RangeResult := { total := tl.records.length, sequenced := true }
    match tl.records.head?, tl.records.getLast? with
    | some oldest, some newest =>
      match select tl.records oldest newest q with
      | none => .ok res
      | some (first, last) =>
        if last + 1 < first then .error .sliceBounds
        else
          .ok { res with
            records := ((tl.records.take (last + 1).toNat).drop first).map LogEntry.record
            position := first + 1
            firstSequence := (tl.records[first]?.map LogEntry.seq).getD 0 }
    | _, _ => .ok res

end TrendLog

def rangeQuery (r : ReadRangeRequest) : RangeQuery :=
  { rangeBy := r.rangeBy, index := r.referenceIndex, time := r.referenceTime, count := r.count }

/-- The answer with the first `k` of the selected items. -/
def buildACK (r : ReadRangeRequest) (sel : RangeResult) (k : Nat) : ReadRangeACK where
  object := r.object
  property := r.property
  resultFlags := encodeResultFlags (k > 0 && sel.position = 1)
    (k > 0 && (sel.position + k - 1) % 2 ^ 32 = sel.total) (k < sel.size)
  itemCount := k
  logRecords := sel.records.take k
  itemData := if sel.records.isEmpty then (sel.items.take k).map .value else []
  firstSequence := if sel.sequenced && k > 0 && (r.rangeBy = .sequenceNumber || r.rangeBy = .time)
    then some sel.firstSequence else none

def exceeds (budget : Int) (ack : ReadRangeACK) : Bool :=
  match encodeReadRangeACK ack with
  | .error _ => true
  | .ok payload => payload.length > budget

/-- The answer with as many of the selected items as fit the budget. Next to the payload stands the answer that it
encodes. -/
def rangeReply (budget : Int) (r : ReadRangeRequest) (sel : RangeResult) :
    Except RangeError (ReadRangeACK × Octets) := do
  let n := sel.size
  let payload ← (encodeReadRangeACK (buildACK r sel n)).mapError .encoding
  if payload.length > budget then
    -- The largest prefix that fits.
    let k := Search.search (n + 1) (fun k => exceeds budget (buildACK r sel k)) - 1
    let payload ← (encodeReadRangeACK (buildACK r sel k)).mapError .encoding
    return (buildACK r sel k, payload)
  return (buildACK r sel n, payload)

/-- ReadRange: the object selects the items, and the answer carries as many as fit the budget. -/
def readRange (objects : ObjectIdentifier → Option TrendLog) (budget : Int) (r : ReadRangeRequest) :
    Except RangeError (ReadRangeACK × Octets) := do
  let tl ← match objects r.object with
    | none => .error .unknownObject
    | some tl => .ok tl
  let sel ← tl.readRange r.property (rangeQuery r)
  rangeReply budget r sel

end GoBacnet.Server
