import GoBacnet.Service.LogRecord

/-!
# ReadRange

The request for a range of a list, and its answer with the items as far as they fit.
-/

namespace GoBacnet.Service

def propertyLogBuffer : UInt32 := 131

inductive ReadRangeBy
  | all
  | position
  | sequenceNumber
  | time
  deriving DecidableEq, Repr

structure ReadRangeRequest where
  object : ObjectIdentifier
  property : PropertyReference
  rangeBy : ReadRangeBy
  /-- The reference of a range by position or by sequence number. -/
  referenceIndex : Nat := 0
  referenceTime : Int := 0
  count : Int

structure ReadRangeACK where
  object : ObjectIdentifier
  property : PropertyReference
  resultFlags : BitString
  itemCount : Nat
  logRecords : List LogRecord
  firstSequence : Option Nat
  itemData : List ItemValue := []

def encodeResultFlags (first last more : Bool) : BitString :=
  let b : UInt8 := (if first then 0x80 else 0) ||| (if last then 0x40 else 0) ||| (if more then 0x20 else 0)
  { unusedBits := 5, bytes := [b] }

def bitStringBit (bs : BitString) (bit : Nat) : Bool :=
  (bs.bytes[bit / 8]?).any fun b => b &&& (1 <<< UInt8.ofNat (7 - bit % 8)) ≠ 0

namespace ReadRangeACK

def firstItem (a : ReadRangeACK) : Bool := bitStringBit a.resultFlags 0

def lastItem (a : ReadRangeACK) : Bool := bitStringBit a.resultFlags 1

def moreItems (a : ReadRangeACK) : Bool := bitStringBit a.resultFlags 2

end ReadRangeACK

def encodeLogRecords (records : List LogRecord) : Except Err (List Element) := do
  let els ← records.mapM encodeLogRecord
  return els.flatten

def encodeReadRangeHead (object : ObjectIdentifier) (property : PropertyReference) : Except Err Octets := do
  let dst ← appendContextObjectID [] 0 object
  let dst ← appendContextUnsigned dst 1 property.identifier.toUInt64
  match property.arrayIndex with
  | none => .ok dst
  | some idx => appendContextUnsigned dst 2 idx.toUInt64

/-- The application element of an item. The encoder refuses a context primitive whatever it holds. -/
def ItemValue.element : ItemValue → Element
  | .value v => .app 0 v
  | .primitive _ => .app 0 (.context [])

def ReadRangeACK.body (ack : ReadRangeACK) : Except Err (List Element) :=
  if ack.logRecords.isEmpty then .ok (ack.itemData.map ItemValue.element) else encodeLogRecords ack.logRecords

def encodeReadRangeACK (ack : ReadRangeACK) : Except Err Octets := do
  let dst ← encodeReadRangeHead ack.object ack.property
  let dst ← appendContextBitString dst 3 ack.resultFlags
  let dst ← appendContextUnsigned dst 4 (UInt64.ofNat ack.itemCount)
  let body ← ack.body
  let dst ← appendContextTagged dst 5 body
  match ack.firstSequence with
  | none => .ok dst
  | some seq => appendContextUnsigned dst 6 (UInt64.ofNat seq)

@[simp] lemma bit_encodeResultFlags_first (first last more : Bool) :
    bitStringBit (encodeResultFlags first last more) 0 = first := by
  cases first <;> cases last <;> cases more <;> decide

@[simp] lemma bit_encodeResultFlags_last (first last more : Bool) :
    bitStringBit (encodeResultFlags first last more) 1 = last := by
  cases first <;> cases last <;> cases more <;> decide

@[simp] lemma bit_encodeResultFlags_more (first last more : Bool) :
    bitStringBit (encodeResultFlags first last more) 2 = more := by
  cases first <;> cases last <;> cases more <;> decide

lemma ReadRangeACK.body_of_records {ack : ReadRangeACK} (h : ack.itemData = []) :
    ack.body = encodeLogRecords ack.logRecords := by
  unfold ReadRangeACK.body
  cases hrecords : ack.logRecords with
  | nil => simp [h, encodeLogRecords, Pure.pure, Except.pure, Bind.bind, Except.bind]
  | cons record records => rfl

lemma encodeLogRecords_cons (r : LogRecord) (rs : List LogRecord) :
    encodeLogRecords (r :: rs) = (encodeLogRecord r).bind fun els => (encodeLogRecords rs).map (els ++ ·) := by
  unfold encodeLogRecords
  cases hr : encodeLogRecord r with
  | error e => simp [hr, Except.bind, Bind.bind]
  | ok els =>
    cases hrs : rs.mapM encodeLogRecord with
    | error e => simp [hr, hrs, Except.bind, Bind.bind, Except.map]
    | ok rest => simp [hr, hrs, Except.bind, Bind.bind, Except.map, Pure.pure, Except.pure]

end GoBacnet.Service
