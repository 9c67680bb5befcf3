import GoBacnet.Constructed

/-!
# Log records

The items of a Trend Log's Log_Buffer. A record is encoded as a flat sequence of context tags.
-/

namespace GoBacnet

def appendContextUnsigned (dst : Octets) (tagNumber : UInt8) (v : UInt64) : Except Err Octets :=
  appendContextPrimitive dst tagNumber (encodeUnsigned v)

def appendContextObjectID (dst : Octets) (tagNumber : UInt8) (id : ObjectIdentifier) : Except Err Octets := do
  let enc ← encodeObjectIdentifier id
  appendContextPrimitive dst tagNumber (BigEndian.octets 4 enc.toNat)

def appendContextNull (dst : Octets) (tagNumber : UInt8) : Except Err Octets :=
  appendContextPrimitive dst tagNumber []

def appendContextSigned (dst : Octets) (tagNumber : UInt8) (v : Int64) : Except Err Octets :=
  appendContextPrimitive dst tagNumber (encodeSigned v)

def appendContextBool (dst : Octets) (tagNumber : UInt8) (v : Bool) : Except Err Octets :=
  appendContextPrimitive dst tagNumber [if v then 1 else 0]

def appendContextBitString (dst : Octets) (tagNumber : UInt8) (v : BitString) : Except Err Octets := do
  validateBitString v.unusedBits v.bytes.length
  appendContextPrimitive dst tagNumber (v.unusedBits :: v.bytes)

namespace Service

structure DateTime where
  date : Date
  time : Time
  deriving DecidableEq, Repr

inductive LogDatumChoice
  | logStatus
  | boolean
  | real
  | enumerated
  | unsigned
  | signed
  | bitString
  | null
  | failure
  | timeChange
  | anyValue
  deriving DecidableEq, Repr

def LogDatumChoice.tag (c : LogDatumChoice) : UInt8 := UInt8.ofNat c.ctorIdx

/-- The value of an item. A value of the kind of context primitives may hold the received element instead of its
octets. -/
inductive ItemValue where
  | value (v : ApplicationValue)
  | primitive (el : Element)

structure LogRecord where
  timestamp : DateTime
  datumChoice : LogDatumChoice
  datum : ItemValue
  statusFlags : Option BitString := none

def parseOneElement (raw : Octets) : Except Err (List Element) := do
  let (el, n) ← parseTag raw defaultDecodeLimits
  if el.opening then
    let (els, n) ← parseSequence raw defaultDecodeLimits (-1)
    if n ≠ raw.length ∨ els.length ≠ 1 then throw (malformed "LogDatum element shape")
    return els
  if n ≠ raw.length then throw (trailingData "LogDatum trailing")
  return [el]

def encodeLogDatum (choice : LogDatumChoice) (v : ItemValue) : Except Err (List Element) :=
  let tag := choice.tag
  match choice with
  | .logStatus | .bitString =>
    match v with
    | .value (.bitString b) => do parseOneElement (← appendContextBitString [] tag b)
    | _ => .error (malformed "LogDatum bit string kind")
  | .boolean =>
    match v with
    | .value (.boolean b) => do parseOneElement (← appendContextBool [] tag b)
    | _ => .error (malformed "LogDatum boolean kind")
  | .real | .timeChange =>
    match v with
    | .value (.real bits) => do parseOneElement (← appendContextPrimitive [] tag (BigEndian.octets 4 bits.toNat))
    | _ => .error (malformed "LogDatum real kind")
  | .enumerated =>
    match v with
    | .value (.enumerated e) => do parseOneElement (← appendContextUnsigned [] tag e.toUInt64)
    | _ => .error (malformed "LogDatum enumerated kind")
  | .unsigned =>
    match v with
    | .value (.unsigned u) => do parseOneElement (← appendContextUnsigned [] tag u)
    | _ => .error (malformed "LogDatum unsigned kind")
  | .signed =>
    match v with
    | .value (.signed s) => do parseOneElement (← appendContextSigned [] tag s)
    | _ => .error (malformed "LogDatum signed kind")
  | .null => do parseOneElement (← appendContextNull [] tag)
  | .failure | .anyValue =>
    match v with
    | .value (.constructed els) => .ok [.ctxConstructed tag els]
    | .value (.context _) => .ok [.ctxConstructed tag []]
    | .primitive el => .ok [.ctxConstructed tag [el]]
    | _ => .error (malformed "LogDatum any/failure must be constructed")

def encodeLogRecord (r : LogRecord) : Except Err (List Element) := do
  let ts ← appendContextTagged [] 0 [.app tagDate (.date r.timestamp.date), .app tagTime (.time r.timestamp.time)]
  let datumBody ← encodeLogDatum r.datumChoice r.datum
  let datum ← appendContextTagged [] 1 datumBody
  let raw ← match r.statusFlags with
    | none => .ok (ts ++ datum)
    | some flags => appendContextBitString (ts ++ datum) 2 flags
  let (els, n) ← parseSequence raw defaultDecodeLimits (-1)
  if n ≠ raw.length then throw (trailingData "LogRecord encode trailing")
  return els

end Service

end GoBacnet
