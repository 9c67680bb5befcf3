import GoBacnet.Service.ReadRange

/-!
# Paged ReadRange

The client reads a list page by page until the peer reports its last item, a page comes back empty or short, or a limit
is reached.
-/

namespace GoBacnet.Client

open Service

structure ReadRangePageOptions where
  pageCount : Int := 0
  maxItems : Int := 0
  /-- An approximate bound on the octets of the items; zero disables it. -/
  maxBytes : Int := 0
  maxPages : Int := 0
  deriving DecidableEq

def ReadRangePageOptions.normalize (opts : ReadRangePageOptions) : ReadRangePageOptions :=
  { opts with
    pageCount := if opts.pageCount ≤ 0 then 50 else opts.pageCount
    maxItems := if opts.maxItems ≤ 0 then 4096 else opts.maxItems
    maxPages := if opts.maxPages ≤ 0 then 256 else opts.maxPages }

structure ReadRangePageResult where
  logRecords : List LogRecord := []
  isPartial : Bool := false
  stoppedReason : String := ""

mutual

def estimateValueBytes : ApplicationValue → Nat
  | .octetString o | .context o => 8 + o.length
  | .characterString c => 8 + c.value.length
  | .constructed els => 8 + estimateElements els
  | _ => 8

def estimateElement : Element → Nat
  | .mk _ _ _ _ v => estimateValueBytes v

def estimateElements : List Element → Nat
  | [] => 0
  | el :: els => estimateElement el + estimateElements els

end

def estimateItem (item : Element) : Nat :=
  match item.value with
  | .constructed _ => estimateElement item
  | _ => if item.context then 8 + estimateElement item else estimateElement item

def approxBytes (ack : ReadRangeACK) : Nat :=
  match encodeLogRecords ack.logRecords with
  | .error _ => 0
  | .ok items => (items.map estimateItem).sum

inductive ReadRangeError (ε : Type)
  | unsupported
  | countZero
  | peer (err : ε)
  | protocolViolation

def readRange {ε : Type} (exchange : ReadRangeRequest → Except ε ReadRangeACK) (r : ReadRangeRequest) :
    Except (ReadRangeError ε) ReadRangeACK :=
  if r.rangeBy ≠ .all ∧ r.count = 0 then .error .countZero
  else do
    let ack ← (exchange r).mapError .peer
    if ack.object ≠ r.object ∨ ack.property ≠ r.property then .error .protocolViolation else .ok ack

def nextPage (pageCount : Int) (cur : ReadRangeRequest) (ack : ReadRangeACK) : Option ReadRangeRequest :=
  match cur.rangeBy with
  | .position =>
    some { cur with referenceIndex := (cur.referenceIndex + ack.itemCount) % 2 ^ 32, count := pageCount }
  | .sequenceNumber =>
    some { cur with referenceIndex := (ack.firstSequence.getD cur.referenceIndex + ack.itemCount) % 2 ^ 32
                    count := pageCount }
  | _ => none

/-- Whether a page ends the list: the peer says so, it is empty, or it is short although more would have fitted. -/
def lastPage (cur : ReadRangeRequest) (ack : ReadRangeACK) : Bool :=
  let short := cur.count > 0 && (ack.itemCount : Int) < cur.count
  ack.lastItem || ack.itemCount = 0 || (short && !ack.moreItems)

def readPages {ε : Type} (exchange : Nat → ReadRangeRequest → Except ε ReadRangeACK) (opts : ReadRangePageOptions) :
    (left page : Nat) → ReadRangeRequest → (items bytes : Nat) → List LogRecord →
      ReadRangePageResult × Option (ReadRangeError ε)
  | 0, _, _, _, _, records => ({ logRecords := records, isPartial := true, stoppedReason := "MaxPages" }, none)
  | left + 1, page, cur, items, bytes, records =>
    match readRange (exchange page) cur with
    | .error err => ({ logRecords := records, isPartial := true, stoppedReason := "request error" }, some err)
    | .ok ack =>
      let records := records ++ ack.logRecords
      let bytes := bytes + approxBytes ack
      let items := items + ack.itemCount
      if (items : Int) ≥ opts.maxItems then
        ({ logRecords := records, isPartial := true, stoppedReason := "MaxItems" }, none)
      else if opts.maxBytes > 0 ∧ (bytes : Int) ≥ opts.maxBytes then
        ({ logRecords := records, isPartial := true, stoppedReason := "MaxBytes" }, none)
      else if lastPage cur ack then ({ logRecords := records }, none)
      else
        match nextPage opts.pageCount cur ack with
        | none => ({ logRecords := records, isPartial := true, stoppedReason := "unsupported paging mode" }, none)
        | some next => readPages exchange opts left (page + 1) next items bytes records

def firstPage (req : ReadRangeRequest) (pageCount : Int) : ReadRangeRequest :=
  if req.count = 0 then { req with count := pageCount } else req

def readRangeAll {ε : Type} (exchange : Nat → ReadRangeRequest → Except ε ReadRangeACK) (req : ReadRangeRequest)
    (opts : ReadRangePageOptions) : ReadRangePageResult × Option (ReadRangeError ε) :=
  let opts := opts.normalize
  if req.rangeBy ≠ .position ∧ req.rangeBy ≠ .sequenceNumber then ({}, some .unsupported)
  else readPages exchange opts opts.maxPages.toNat 0 (firstPage req opts.pageCount) 0 0 []

end GoBacnet.Client
