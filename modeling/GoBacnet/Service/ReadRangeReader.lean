import GoBacnet.Service.PropertyAccess
import GoBacnet.Service.ReadRange

/-!
# Reading an answer to ReadRange

The items of a Log_Buffer are records without delimiters: a record is a time stamp, a datum and, if the next element is
one, its status flags. The answer says how many records there are.
-/

namespace GoBacnet.Service

/-! ## Log records -/

def LogDatumChoice.ofTag (tag : UInt8) : Option LogDatumChoice :=
  [.logStatus, .boolean, .real, .enumerated, .unsigned, .signed, .bitString, .null, .failure, .timeChange,
    .anyValue][tag.toNat]?

def decodeLogDatumValue (choice : LogDatumChoice) (el : Element) : Except Err ItemValue :=
  match choice with
  | .logStatus | .bitString =>
    match contextBitString el with
    | .ok b => .ok (.value (.bitString b))
    | .error e =>
      -- A bit string between tags is read as well.
      match isContextConstructed el, el.value.elements with
      | true, [.mk false _ _ _ (.bitString b)] => .ok (.value (.bitString b))
      | _, _ => .error e
  | .boolean => (contextBool el).map fun b => .value (.boolean b)
  | .real | .timeChange =>
    if !el.context || isContextConstructed el then
      match isContextConstructed el, el.value.elements with
      | true, [.mk false _ _ _ (.real bits)] => .ok (.value (.real bits))
      | _, _ => .error (malformed "LogDatum real")
    else if el.value.octets.length ≠ 4 then .error (malformed "LogDatum real length")
    else .ok (.value (.real (UInt32.ofNat (BigEndian.value el.value.octets))))
  | .enumerated => (contextUnsigned32 el).map fun u => .value (.enumerated u)
  | .unsigned => (contextUnsigned el).map fun u => .value (.unsigned u)
  | .signed => (contextSigned el).map fun s => .value (.signed s)
  | .null => .ok (.value .null)
  | .failure | .anyValue =>
    if isContextConstructed el then .ok (.value (.constructed el.value.elements)) else .ok (.primitive el)

def decodeLogTimestamp (el : Element) : Except Err DateTime :=
  if el.tagNumber ≠ 0 ∨ !isContextConstructed el then .error (malformed "LogRecord timestamp")
  else
    match el.value.elements with
    | [d, t] =>
      match d.context, d.value, t.context, t.value with
      | false, .date date, false, .time time => .ok ⟨date, time⟩
      | _, _, _, _ => .error (malformed "LogRecord timestamp kinds")
    | _ => .error (malformed "LogRecord timestamp contents")

def decodeLogDatum (el : Element) : Except Err (LogDatumChoice × ItemValue) :=
  if el.tagNumber ≠ 1 ∨ !isContextConstructed el then .error (malformed "LogRecord logDatum")
  else
    match el.value.elements with
    | [choiceEl] =>
      if !choiceEl.context then .error (malformed "LogRecord logDatum choice tag")
      else
        match LogDatumChoice.ofTag choiceEl.tagNumber with
        | none => .error (malformed ("unknown LogDatum choice " ++ toString choiceEl.tagNumber))
        | some choice => (decodeLogDatumValue choice choiceEl).map fun datum => (choice, datum)
    | _ => .error (malformed "LogRecord logDatum choice")

/-- The status flags, if they come next. -/
def decodeLogFlags (els : List Element) : Except Err (Option BitString) :=
  match els with
  | el :: _ =>
    if el.context ∧ el.tagNumber = 2 ∧ !isContextConstructed el then (contextBitString el).map some else .ok none
  | [] => .ok none

def decodeLogRecord (els : List Element) : Except Err (LogRecord × Nat) :=
  match els with
  | tsEl :: datumEl :: rest => do
    let timestamp ← decodeLogTimestamp tsEl
    let (datumChoice, datum) ← decodeLogDatum datumEl
    let statusFlags ← decodeLogFlags rest
    return (⟨timestamp, datumChoice, datum, statusFlags⟩, if statusFlags.isSome then 3 else 2)
  | _ => .error (malformed "LogRecord truncated")

def readLogRecords : Nat → List Element → Except Err (List LogRecord × List Element)
  | 0, els => .ok ([], els)
  | count + 1, els => do
    let (record, n) ← decodeLogRecord els
    let (records, left) ← readLogRecords count (els.drop n)
    return (record :: records, left)

def decodeLogRecords (elements : List Element) (count : Int) : Except Err (List LogRecord) :=
  if count < 0 then .error (malformed "LogRecord count")
  else if count = 0 then
    if elements.isEmpty then .ok [] else .error (malformed "LogRecord empty count with data")
  else if count > elements.length / 2 then
    .error (malformed ("LogRecord count " ++ toString count ++ " exceeds itemData"))
  else do
    let (records, left) ← readLogRecords count.toNat elements
    if left.isEmpty then .ok records else .error (malformed "LogRecord trailing itemData")

/-! ## The answer -/

def decodeItem (item : Element) : Except Err ItemValue :=
  if item.opening || item.closing then .error (malformed "unexpected open/close in itemData")
  else if item.context && !isContextConstructed item then .ok (.primitive item)
  else if isContextConstructed item then .ok (.value (.constructed item.value.elements))
  else .ok (.value item.value)

def decodeResultFlags (el : Element) : Except Err BitString := do
  let flags ← contextBitString el
  if flags.unusedBits ≠ 5 ∨ flags.bytes.length ≠ 1 then .error (malformed "invalid resultFlags shape") else .ok flags

/-- The fields of an answer read so far; the items with the elements that they were read from. -/
structure ReadRangeReader where
  object : Option ObjectIdentifier := none
  identifier : Option UInt32 := none
  arrayIndex : Option UInt32 := none
  resultFlags : Option BitString := none
  itemCount : Option UInt32 := none
  items : Option (List Element × List ItemValue) := none
  firstSequence : Option UInt32 := none

def readRangeStep (r : ReadRangeReader) (el : Element) : Except Err ReadRangeReader :=
  if el.tagNumber = 0 ∧ !isContextConstructed el then
    (readField r.object "objectIdentifier" (contextObjectID el)).map fun f => { r with object := f }
  else if el.tagNumber = 1 ∧ !isContextConstructed el then
    (readField r.identifier "propertyIdentifier" (contextNumber el "propertyIdentifier")).map
      fun f => { r with identifier := f }
  else if el.tagNumber = 2 ∧ !isContextConstructed el then
    (readField r.arrayIndex "arrayIndex" (contextNumber el "arrayIndex")).map fun f => { r with arrayIndex := f }
  else if el.tagNumber = 3 ∧ !isContextConstructed el then
    (readField r.resultFlags "resultFlags" (decodeResultFlags el)).map fun f => { r with resultFlags := f }
  else if el.tagNumber = 4 ∧ !isContextConstructed el then
    (readField r.itemCount "itemCount" (contextNumber el "itemCount")).map fun f => { r with itemCount := f }
  else if el.tagNumber = 5 ∧ isContextConstructed el then
    (readField r.items "itemData" ((el.value.elements.mapM decodeItem).map (el.value.elements, ·))).map
      fun f => { r with items := f }
  else if el.tagNumber = 6 ∧ !isContextConstructed el then
    (readField r.firstSequence "firstSequenceNumber" (contextNumber el "firstSequenceNumber")).map
      fun f => { r with firstSequence := f }
  else .error (malformed ("unexpected ReadRangeACK tag " ++ toString el.tagNumber))

def decodeItemRecords (identifier : UInt32) (raw : List Element) (count : UInt32) : Except Err (List LogRecord) :=
  if identifier = propertyLogBuffer then decodeLogRecords raw count.toNat else .ok []

def ReadRangeReader.finish (r : ReadRangeReader) : Except Err ReadRangeACK :=
  match r.object, r.identifier, r.resultFlags, r.itemCount, r.items with
  | some object, some identifier, some flags, some count, some (raw, items) =>
    if count = 0 ∧ !items.isEmpty then .error (malformed "ReadRangeACK itemCount mismatch")
    else if count > 0 ∧ items.isEmpty then .error (malformed "ReadRangeACK itemCount mismatch")
    else do
      let records ← decodeItemRecords identifier raw count
      return {
        object := object, property := ⟨identifier, r.arrayIndex⟩, resultFlags := flags, itemCount := count.toNat
        logRecords := records, firstSequence := r.firstSequence.map UInt32.toNat, itemData := items }
  | _, _, _, _, _ => .error (malformed "ReadRangeACK missing required fields")

def decodeReadRangeACK (payload : Octets) (limits : DecodeLimits) : Except Err ReadRangeACK := do
  let elements ← parsePayload payload limits "ReadRangeACK"
  let r ← elements.foldlM readRangeStep {}
  r.finish

end GoBacnet.Service
