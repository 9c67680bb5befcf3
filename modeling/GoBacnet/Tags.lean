import GoBacnet.Lib.BigEndian
import GoBacnet.Value

/-!
# The tag codec

`parseTag` reads one tag with its value and `appendTag` writes one. Both work on a single
level: a constructed value is read by `parseSequence` from its opening tag on, and written
by `appendTag` with its elements in between.
-/

namespace GoBacnet

/-- The extended tag number that is never valid on the wire. -/
def tagNumberReserved : UInt8 := 255

def maxUint16 : Nat := 2 ^ 16 - 1

def maxUint32 : Nat := 2 ^ 32 - 1

/-- The largest `int` of a 64-bit platform. -/
def maxSafe : Nat := 2 ^ 63 - 1

def maxObjectInstance : UInt32 := 0x3FFFFF

def encodeObjectIdentifier (id : ObjectIdentifier) : Except Err UInt32 :=
  if id.type > 0x3FF then
    .error (malformed ("object type " ++ toString id.type ++ " out of range"))
  else if id.instanceNumber > maxObjectInstance then
    .error (malformed ("object instance " ++ toString id.instanceNumber ++ " out of range"))
  else .ok ((id.type.toUInt32 <<< 22) ||| id.instanceNumber)

def decodeObjectIdentifier (v : UInt32) : ObjectIdentifier :=
  ⟨(v >>> 22).toUInt16, v &&& maxObjectInstance⟩

/-- Zero to seven unused bits, and none when there are no data octets. -/
def validateBitString (unused : UInt8) (octets : Nat) : Except Err Unit :=
  if unused > 7 then .error (malformed ("bit string unused bits " ++ toString unused))
  else if octets = 0 ∧ unused ≠ 0 then
    .error (malformed ("empty bit string with " ++ toString unused ++ " unused bits"))
  else .ok ()

def decodeUnsigned (data : Octets) : Except Err UInt64 :=
  if data.length = 0 ∨ data.length > 8 then
    .error (malformed ("unsigned length " ++ toString data.length))
  else .ok (data.foldl (fun u b => (u <<< 8) ||| b.toUInt64) 0)

/-- Two's complement, most significant octet first: the first octet is sign-extended and
the others are shifted in. -/
def decodeSigned (data : Octets) : Except Err Int64 :=
  match data with
  | [] => .error (malformed "signed length 0")
  | first :: rest =>
    if data.length > 8 then .error (malformed ("signed length " ++ toString data.length))
    else
      let s : Int64 := Int64.ofNat first.toNat
      let s := if s ≥ 0x80 then s - 0x100 else s
      .ok (rest.foldl (fun s b => (s <<< 8) ||| Int64.ofNat b.toNat) s)

/-- The octets of `u` without leading zeros, at least one. -/
def encodeUnsigned (u : UInt64) : Octets :=
  if u = 0 then [0]
  else
    ([7, 6, 5, 4, 3, 2, 1, 0].map fun i : UInt64 => (u >>> (i * 8)).toUInt8).foldl
      (fun tmp b => if tmp ≠ [] ∨ b ≠ 0 then tmp ++ [b] else tmp) []

def signedWidth (v : Int64) : Nat :=
  ([1, 2, 3, 4, 5, 6, 7].find? fun width =>
    -(2 ^ (8 * width - 1) : Int) ≤ v.toInt ∧ v.toInt < 2 ^ (8 * width - 1)).getD 8

def encodeSigned (v : Int64) : Octets :=
  (List.range (signedWidth v)).map fun i => UInt8.ofInt (v.toInt >>> ((signedWidth v - 1 - i) * 8))

/-- Value octets of a tag from its length/value/type field, and how many octets the
extended forms of that field take. -/
def parseLength (data : Octets) (lvt : UInt8) : Except Err (Nat × Nat) :=
  if lvt < 5 then .ok (lvt.toNat, 0)
  else if lvt = 5 then
    match data with
    | [] => .error (malformed "truncated extended length")
    | ext :: rest =>
      if ext < 254 then .ok (ext.toNat, 1)
      else if ext = 254 then
        if data.length < 3 then .error (malformed "truncated 16-bit length")
        else .ok (BigEndian.value (rest.take 2), 3)
      else if data.length < 5 then .error (malformed "truncated 32-bit length")
      else if BigEndian.value (rest.take 4) > maxSafe then .error (limitExceeded "extended length")
      else .ok (BigEndian.value (rest.take 4), 5)
  else .error (malformed ("invalid length/value/type " ++ toString lvt))

def decodeApplicationValue (tag : ApplicationTag) (data : Octets) (lvt : UInt8)
    (limits : DecodeLimits) : Except Err ApplicationValue :=
  match tag with
  | tagNull => if data.length ≠ 0 then .error (malformed "null with value") else .ok .null
  | tagBoolean =>
    -- `parseTag` reads an application BOOLEAN before any length; this arm guards direct callers.
    if data.length ≠ 0 ∨ lvt > 1 then .error (malformed "boolean length")
    else .ok (.boolean (lvt == 1))
  | tagUnsigned => (decodeUnsigned data).map .unsigned
  | tagSigned => (decodeSigned data).map .signed
  | tagReal =>
    if data.length ≠ 4 then .error (malformed "real length")
    else .ok (.real (UInt32.ofNat (BigEndian.value data)))
  | tagDouble =>
    if data.length ≠ 8 then .error (malformed "double length")
    else .ok (.double (UInt64.ofNat (BigEndian.value data)))
  | tagOctetString =>
    if data.length > limits.maxOctetStringLength then .error (limitExceeded "octet string")
    else .ok (.octetString data)
  | tagCharacterString =>
    match data with
    | [] => .error (malformed "character string truncated")
    | encoding :: value =>
      if value.length > limits.maxCharacterLength then .error (limitExceeded "character string")
      else .ok (.characterString ⟨encoding, value⟩)
  | tagBitString =>
    match data with
    | [] => .error (malformed "bit string truncated")
    | unused :: bytes => do
      validateBitString unused bytes.length
      if bytes.length * 8 > limits.maxBitStringBits then .error (limitExceeded "bit string")
      else .ok (.bitString ⟨unused, bytes⟩)
  | tagEnumerated => do
    let u ← decodeUnsigned data
    if u.toNat > maxUint32 then .error (malformed "enumerated overflow")
    else .ok (.enumerated u.toUInt32)
  | tagDate =>
    match data with
    | [year, month, day, weekday] => .ok (.date ⟨year, month, day, weekday⟩)
    | _ => .error (malformed "date length")
  | tagTime =>
    match data with
    | [hour, minute, second, hundredths] => .ok (.time ⟨hour, minute, second, hundredths⟩)
    | _ => .error (malformed "time length")
  | tagObjectIdentifier =>
    if data.length ≠ 4 then .error (malformed "object identifier length")
    else .ok (.objectID (decodeObjectIdentifier (UInt32.ofNat (BigEndian.value data))))
  | _ =>
    -- Reserved application tags are kept as an octet string.
    if data.length > limits.maxOctetStringLength then .error (limitExceeded "unknown tag value")
    else .ok (.octetString data)

def parseTagNumber (data : Octets) (b0 : UInt8) : Except Err (UInt8 × Nat) :=
  if b0 >>> 4 = 0x0F then
    match data with
    | _ :: tagNumber :: _ =>
      -- Numbers 0 to 14 use the initial octet.
      if tagNumber < 0x0F ∨ tagNumber = tagNumberReserved then
        .error (malformed ("invalid extended tag number " ++ toString tagNumber))
      else .ok (tagNumber, 2)
    | _ => .error (malformed "truncated extended tag number")
  else .ok (b0 >>> 4, 1)

def parsePrimitive (context : Bool) (tagNumber lvt : UInt8) (valueBytes : Octets)
    (limits : DecodeLimits) : Except Err Element :=
  if context then
    if valueBytes.length > limits.maxOctetStringLength then .error (limitExceeded "context value length")
    else .ok (.ctx tagNumber valueBytes)
  else (decodeApplicationValue tagNumber valueBytes lvt limits).map (.app tagNumber)

def parseTag (data : Octets) (limits : DecodeLimits) : Except Err (Element × Nat) :=
  match data with
  | [] => .error (malformed "empty tag")
  | b0 :: _ => do
    let context := b0 &&& 0x08 != 0
    let lvt := b0 &&& 0x07
    let (tagNumber, off) ← parseTagNumber data b0
    if context && lvt == 6 then
      return (.mk true tagNumber true false .null, off)
    if context && lvt == 7 then
      return (.mk true tagNumber false true .null, off)
    if !context && tagNumber == tagBoolean then
      if lvt > 1 then throw (malformed ("boolean length/value/type " ++ toString lvt))
      return (.app tagNumber (.boolean (lvt == 1)), off)
    let (length, n) ← parseLength (data.drop off) lvt
    if length > data.length - (off + n) then throw (malformed "truncated tag value")
    let el ← parsePrimitive context tagNumber lvt ((data.drop (off + n)).take length) limits.normalize
    return (el, off + n + length)

def encodeTagHeader (context : Bool) (tagNumber : UInt8) (length : Nat) : Except Err Octets :=
  if length > maxUint32 then .error (limitExceeded ("tag value length " ++ toString length))
  else
    let b0 : UInt8 := if tagNumber < 15 then tagNumber <<< 4 else 0xF0
    let b0 := if context then b0 ||| 0x08 else b0
    let extTag : Octets := if tagNumber < 15 then [] else [tagNumber]
    if length < 5 then .ok ((b0 ||| UInt8.ofNat length) :: extTag)
    else if length < 254 then .ok ((b0 ||| 5) :: (extTag ++ [UInt8.ofNat length]))
    else if length ≤ maxUint16 then .ok ((b0 ||| 5) :: (extTag ++ 254 :: BigEndian.octets 2 length))
    else .ok ((b0 ||| 5) :: (extTag ++ 255 :: BigEndian.octets 4 length))

def appendAppPrimitive (dst : Octets) (tag : ApplicationTag) (value : Octets) : Except Err Octets := do
  let hdr ← encodeTagHeader false tag value.length
  return dst ++ hdr ++ value

def appendContextPrimitive (dst : Octets) (tagNumber : UInt8) (value : Octets) : Except Err Octets := do
  if tagNumber = tagNumberReserved then throw (malformed "tag number 255 is reserved")
  let hdr ← encodeTagHeader true tagNumber value.length
  return dst ++ hdr ++ value

def appendContextOpenClose (dst : Octets) (tagNumber : UInt8) (opening : Bool) : Octets :=
  let lvt : UInt8 := if opening then 6 else 7
  if tagNumber < 15 then dst ++ [(tagNumber <<< 4) ||| 0x08 ||| lvt]
  else dst ++ [0xF0 ||| 0x08 ||| lvt, tagNumber]

def contextContentOctets : ApplicationValue → Except Err Octets
  | .context octets => .ok octets
  | .null => .ok []
  | .boolean b => .ok [if b then 1 else 0]
  | .unsigned u => .ok (encodeUnsigned u)
  | .signed s => .ok (encodeSigned s)
  | .real bits => .ok (BigEndian.octets 4 bits.toNat)
  | .double bits => .ok (BigEndian.octets 8 bits.toNat)
  | .octetString o => .ok o
  | .characterString c => .ok (c.encoding :: c.value)
  | .bitString b => do
    validateBitString b.unusedBits b.bytes.length
    return b.unusedBits :: b.bytes
  | .enumerated e => .ok (encodeUnsigned e.toUInt64)
  | .date d => .ok [d.year, d.month, d.day, d.weekday]
  | .time t => .ok [t.hour, t.minute, t.second, t.hundredths]
  | .objectID id => do
    let enc ← encodeObjectIdentifier id
    return BigEndian.octets 4 enc.toNat
  | .constructed _ => .error (unsupported "cannot encode value kind 13 under a context tag")

mutual

def appendTag (dst : Octets) : Element → Except Err Octets
  | .mk context tagNumber opening closing value =>
    if (opening || closing || context) && tagNumber == tagNumberReserved then
      .error (malformed "tag number 255 is reserved")
    else if opening then .ok (appendContextOpenClose dst tagNumber true)
    else if closing then .ok (appendContextOpenClose dst tagNumber false)
    else if context then
      match value with
      | .constructed elements => do
        let dst ← appendTags (appendContextOpenClose dst tagNumber true) elements
        return appendContextOpenClose dst tagNumber false
      | value => do
        let raw ← contextContentOctets value
        appendContextPrimitive dst tagNumber raw
    else appendApplicationValue dst value

def appendApplicationValue (dst : Octets) : ApplicationValue → Except Err Octets
  | .null => .ok (dst ++ [tagNull <<< 4])
  | .boolean b => .ok (dst ++ [if b then (tagBoolean <<< 4) ||| 1 else tagBoolean <<< 4])
  | .unsigned u => appendAppPrimitive dst tagUnsigned (encodeUnsigned u)
  | .signed s => appendAppPrimitive dst tagSigned (encodeSigned s)
  | .real bits => appendAppPrimitive dst tagReal (BigEndian.octets 4 bits.toNat)
  | .double bits => appendAppPrimitive dst tagDouble (BigEndian.octets 8 bits.toNat)
  | .octetString o => appendAppPrimitive dst tagOctetString o
  | .characterString c => appendAppPrimitive dst tagCharacterString (c.encoding :: c.value)
  | .bitString b => do
    validateBitString b.unusedBits b.bytes.length
    appendAppPrimitive dst tagBitString (b.unusedBits :: b.bytes)
  | .enumerated e => appendAppPrimitive dst tagEnumerated (encodeUnsigned e.toUInt64)
  | .date d => appendAppPrimitive dst tagDate [d.year, d.month, d.day, d.weekday]
  | .time t => appendAppPrimitive dst tagTime [t.hour, t.minute, t.second, t.hundredths]
  | .objectID id => do
    let enc ← encodeObjectIdentifier id
    appendAppPrimitive dst tagObjectIdentifier (BigEndian.octets 4 enc.toNat)
  | .constructed elements => appendTags dst elements
  | .context _ => .error (unsupported "cannot encode value kind 14")

def appendTags (dst : Octets) : List Element → Except Err Octets
  | [] => .ok dst
  | el :: els => do
    let dst ← appendTag dst el
    appendTags dst els

end

end GoBacnet
