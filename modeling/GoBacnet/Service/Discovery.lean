import GoBacnet.Tags

/-!
# I-Am

The announcement of a device: its identifier, the largest APDU it accepts, its segmentation and its vendor.
-/

namespace GoBacnet

def objectTypeDevice : UInt16 := 8

def parseApplicationValue (data : Octets) (limits : DecodeLimits) : Except Err (ApplicationValue × Nat) := do
  let (el, n) ← parseTag data limits
  if el.context || el.opening || el.closing then throw (malformed "expected application tag")
  return (el.value, n)

def asObjectID : ApplicationValue → Except Err ObjectIdentifier
  | .objectID id => .ok id
  | v => .error (unsupported ("value kind " ++ toString v.ctorIdx ++ " is not object identifier"))

def asEnumerated : ApplicationValue → Except Err UInt32
  | .enumerated e => .ok e
  | v => .error (unsupported ("value kind " ++ toString v.ctorIdx ++ " is not enumerated"))

namespace Service

structure IAm where
  device : ObjectIdentifier
  maxAPDULength : UInt16
  segmentation : UInt8
  vendorID : UInt16
  deriving DecidableEq, Repr

/-- An Unsigned that fits 16 bits. -/
def unsigned16 (field : String) : ApplicationValue → Except Err UInt16
  | .unsigned u => if u > 0xFFFF then .error (malformed ("I-Am " ++ field ++ " overflow")) else .ok u.toUInt16
  | _ => .error (malformed ("I-Am " ++ field ++ " must be Unsigned"))

def decodeIAm (payload : Octets) (limits : DecodeLimits) : Except Err IAm := do
  let (device, n) ← parseApplicationValue payload limits
  let payload := payload.drop n
  let (maxAPDU, n) ← parseApplicationValue payload limits
  let payload := payload.drop n
  let (seg, n) ← parseApplicationValue payload limits
  let payload := payload.drop n
  let (vendor, n) ← parseApplicationValue payload limits
  let payload := payload.drop n
  if payload ≠ [] then throw (trailingData "I-Am trailing data")
  let id ← asObjectID device
  if id.type ≠ objectTypeDevice then throw (malformed "I-Am object is not Device")
  let maxAPDULength ← unsigned16 "MaxAPDU" maxAPDU
  let segmentation ← (asEnumerated seg).mapError fun _ => malformed "I-Am segmentation must be Enumerated"
  if segmentation > 3 then throw (malformed ("I-Am invalid segmentation " ++ toString segmentation))
  let vendorID ← unsigned16 "vendor ID" vendor
  return { device := id, maxAPDULength, segmentation := segmentation.toUInt8, vendorID }

end Service

end GoBacnet
