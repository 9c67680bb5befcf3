import GoBacnet.Service.LogRecord

/-!
# Fields under context tags

A service names the fields of its messages by context tags. A primitive field is kept as its content octets
until one of the functions below reads it as the type that the service gives it.
-/

namespace GoBacnet

def ApplicationValue.octets : ApplicationValue → Octets
  | .octetString o => o
  | .context o => o
  | _ => []

def ApplicationValue.elements : ApplicationValue → List Element
  | .constructed els => els
  | _ => []

def ApplicationValue.isConstructed : ApplicationValue → Bool
  | .constructed _ => true
  | _ => false

def isContextConstructed (el : Element) : Bool :=
  el.context && !el.opening && !el.closing && el.value.isConstructed

def contextOctets (el : Element) (otherwise : String) : Except Err Octets :=
  if !el.context || el.opening || el.closing || el.value.isConstructed then .error (malformed otherwise)
  else .ok el.value.octets

def contextUnsigned (el : Element) : Except Err UInt64 := do
  decodeUnsigned (← contextOctets el "not context primitive")

def contextUnsigned32 (el : Element) : Except Err UInt32 := do
  let u ← contextUnsigned el
  if u.toNat > maxUint32 then .error (malformed ("context unsigned " ++ toString u ++ " exceeds 32 bits"))
  else .ok u.toUInt32

def contextBool (el : Element) : Except Err Bool := do
  let octets ← contextOctets el "not context boolean"
  match octets with
  | [b] => if b = 0 then .ok false else if b = 1 then .ok true else .error (malformed "context boolean value")
  | _ => .error (malformed "context boolean length")

def contextDate (el : Element) : Except Err Date := do
  let octets ← contextOctets el "not context primitive"
  match octets with
  | [year, month, day, weekday] => .ok ⟨year, month, day, weekday⟩
  | _ => .error (malformed "context date length")

def contextTime (el : Element) : Except Err Time := do
  let octets ← contextOctets el "not context primitive"
  match octets with
  | [hour, minute, second, hundredths] => .ok ⟨hour, minute, second, hundredths⟩
  | _ => .error (malformed "context time length")

/-- A REAL, given by its bits. -/
def contextReal (el : Element) : Except Err UInt32 := do
  let octets ← contextOctets el "not context primitive"
  if octets.length ≠ 4 then .error (malformed "context real length")
  else .ok (UInt32.ofNat (BigEndian.value octets))

def contextSigned (el : Element) : Except Err Int64 := do
  decodeSigned (← contextOctets el "not context primitive")

def contextBitString (el : Element) : Except Err BitString := do
  let octets ← contextOctets el "not context primitive"
  match octets with
  | [] => .error (malformed "empty context bit string")
  | unused :: bytes => do
    validateBitString unused bytes.length
    .ok ⟨unused, bytes⟩

def contextCharacterString (el : Element) : Except Err CharacterString := do
  let octets ← contextOctets el "not context primitive"
  match octets with
  | [] => .error (malformed "empty context character string")
  | encoding :: value => .ok ⟨encoding, value⟩

def contextObjectID (el : Element) : Except Err ObjectIdentifier := do
  let octets ← contextOctets el "not context primitive"
  if octets.length ≠ 4 then .error (malformed "object id length")
  else .ok (decodeObjectIdentifier (UInt32.ofNat (BigEndian.value octets)))

def appendContextCharacterString (dst : Octets) (tagNumber : UInt8) (v : CharacterString) : Except Err Octets :=
  appendContextPrimitive dst tagNumber (v.encoding :: v.value)

def appendContextTime (dst : Octets) (tagNumber : UInt8) (t : Time) : Except Err Octets :=
  appendContextPrimitive dst tagNumber [t.hour, t.minute, t.second, t.hundredths]

def appendContextReal (dst : Octets) (tagNumber : UInt8) (bits : UInt32) : Except Err Octets :=
  appendContextPrimitive dst tagNumber (BigEndian.octets 4 bits.toNat)

/-! ## Error class and code -/

/-- The class or the code of an error, as an application value or under a context tag. -/
def errorFieldUint (el : Element) : Except Err UInt16 :=
  match el.value with
  | .enumerated e =>
    if e.toNat > 0xFFFF then .error (malformed "BACnet-Error field overflow") else .ok e.toUInt16
  | .unsigned u =>
    if u.toNat > 0xFFFF then .error (malformed "BACnet-Error field overflow") else .ok u.toUInt16
  | _ =>
    if el.context then do
      let u ← contextUnsigned el
      if u.toNat > 0xFFFF then .error (malformed "BACnet-Error field overflow") else .ok u.toUInt16
    else .error (malformed ("BACnet-Error field kind " ++ toString el.value.kind.ctorIdx))

/-- One field of the context-tagged form; the class and the code read so far are given. -/
def errorContextField (read : Option UInt16 × Option UInt16) (el : Element) :
    Except Err (Option UInt16 × Option UInt16) := do
  let u ← errorFieldUint el
  if el.tagNumber = 0 then
    if read.1.isSome then .error (malformed "duplicate Error Class") else .ok (some u, read.2)
  else if el.tagNumber = 1 then
    if read.2.isSome then .error (malformed "duplicate Error Code") else .ok (read.1, some u)
  else .error (malformed ("unexpected BACnet-Error tag " ++ toString el.tagNumber))

def decodeBACnetErrorContext (elements : List Element) : Except Err (UInt16 × UInt16) := do
  match ← elements.foldlM errorContextField (none, none) with
  | (some cls, some code) => .ok (cls, code)
  | _ => .error (malformed "BACnet-Error missing class/code")

def decodeBACnetErrorApplication (elements : List Element) : Except Err (UInt16 × UInt16) :=
  match elements with
  | [cls, code] => do return (← errorFieldUint cls, ← errorFieldUint code)
  | _ => .error (malformed "application BACnet-Error expects class then code")

/-- Reads the class and the code of an error: two application values, or two context-tagged
fields as releases up to v0.3.0 sent them. -/
def decodeBACnetError (elements : List Element) : Except Err (UInt16 × UInt16) :=
  if elements.isEmpty then .error (malformed "empty BACnet-Error")
  else if elements.any fun el => el.opening || el.closing || isContextConstructed el then
    .error (malformed "unexpected constructed in BACnet-Error")
  else if elements.all (·.context) then decodeBACnetErrorContext elements
  else if elements.all (!·.context) then decodeBACnetErrorApplication elements
  else .error (malformed "mixed context/application BACnet-Error")

def encodeBACnetError (dst : Octets) (cls code : UInt16) : Except Err Octets := do
  let dst ← appendApplicationValue dst (.enumerated cls.toUInt32)
  appendApplicationValue dst (.enumerated code.toUInt32)

end GoBacnet
