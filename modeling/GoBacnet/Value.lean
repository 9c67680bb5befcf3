import GoBacnet.Limits

/-!
# Application values and tag elements

A decoded value is a union discriminated by its kind. A REAL and a Double are held as
their bit patterns, a character string as the octets that follow its encoding octet.
-/

namespace GoBacnet

abbrev Octets := List UInt8

structure CharacterString where
  encoding : UInt8
  value : Octets
  deriving DecidableEq, Repr

structure BitString where
  unusedBits : UInt8
  bytes : Octets
  deriving DecidableEq, Repr

structure Date where
  year : UInt8
  month : UInt8
  day : UInt8
  weekday : UInt8
  deriving DecidableEq, Repr

structure Time where
  hour : UInt8
  minute : UInt8
  second : UInt8
  hundredths : UInt8
  deriving DecidableEq, Repr

structure ObjectIdentifier where
  type : UInt16
  instanceNumber : UInt32
  deriving DecidableEq, Repr

structure PropertyReference where
  identifier : UInt32
  arrayIndex : Option UInt32 := none
  deriving DecidableEq, Repr

/-- Application tag numbers. Numbers above the last one named are reserved. -/
abbrev ApplicationTag := UInt8

@[match_pattern] abbrev tagNull : ApplicationTag := 0
@[match_pattern] abbrev tagBoolean : ApplicationTag := 1
@[match_pattern] abbrev tagUnsigned : ApplicationTag := 2
@[match_pattern] abbrev tagSigned : ApplicationTag := 3
@[match_pattern] abbrev tagReal : ApplicationTag := 4
@[match_pattern] abbrev tagDouble : ApplicationTag := 5
@[match_pattern] abbrev tagOctetString : ApplicationTag := 6
@[match_pattern] abbrev tagCharacterString : ApplicationTag := 7
@[match_pattern] abbrev tagBitString : ApplicationTag := 8
@[match_pattern] abbrev tagEnumerated : ApplicationTag := 9
@[match_pattern] abbrev tagDate : ApplicationTag := 10
@[match_pattern] abbrev tagTime : ApplicationTag := 11
@[match_pattern] abbrev tagObjectIdentifier : ApplicationTag := 12

mutual

inductive Element where
  | mk (context : Bool) (tagNumber : UInt8) (opening closing : Bool) (value : ApplicationValue)

/-- A decoded value, one constructor for each kind. `context` is a context-tagged
primitive with its raw content octets. -/
inductive ApplicationValue where
  | null
  | boolean (b : Bool)
  | unsigned (u : UInt64)
  | signed (s : Int64)
  | real (bits : UInt32)
  | double (bits : UInt64)
  | octetString (o : Octets)
  | characterString (c : CharacterString)
  | bitString (b : BitString)
  | enumerated (e : UInt32)
  | date (d : Date)
  | time (t : Time)
  | objectID (id : ObjectIdentifier)
  | constructed (elements : List Element)
  | context (octets : Octets)

end

namespace Element

def context : Element → Bool
  | mk c _ _ _ _ => c

def tagNumber : Element → UInt8
  | mk _ t _ _ _ => t

def opening : Element → Bool
  | mk _ _ o _ _ => o

def closing : Element → Bool
  | mk _ _ _ c _ => c

def value : Element → ApplicationValue
  | mk _ _ _ _ v => v

@[simp] lemma context_mk (c t o k v) : (mk c t o k v).context = c := rfl
@[simp] lemma tagNumber_mk (c t o k v) : (mk c t o k v).tagNumber = t := rfl
@[simp] lemma opening_mk (c t o k v) : (mk c t o k v).opening = o := rfl
@[simp] lemma closing_mk (c t o k v) : (mk c t o k v).closing = k := rfl
@[simp] lemma value_mk (c t o k v) : (mk c t o k v).value = v := rfl

abbrev app (tag : ApplicationTag) (v : ApplicationValue) : Element := mk false tag false false v

abbrev ctx (tag : UInt8) (octets : Octets) : Element := mk true tag false false (.context octets)

abbrev ctxConstructed (tag : UInt8) (elements : List Element) : Element :=
  mk true tag false false (.constructed elements)

end Element

/-- The kinds of values, in the order of their numbers. -/
inductive ValueKind where
  | null
  | boolean
  | unsigned
  | signed
  | real
  | double
  | octetString
  | characterString
  | bitString
  | enumerated
  | date
  | time
  | objectID
  | constructed
  | context
  deriving DecidableEq, Repr

def ApplicationValue.kind : ApplicationValue → ValueKind
  | .null => .null
  | .boolean _ => .boolean
  | .unsigned _ => .unsigned
  | .signed _ => .signed
  | .real _ => .real
  | .double _ => .double
  | .octetString _ => .octetString
  | .characterString _ => .characterString
  | .bitString _ => .bitString
  | .enumerated _ => .enumerated
  | .date _ => .date
  | .time _ => .time
  | .objectID _ => .objectID
  | .constructed _ => .constructed
  | .context _ => .context

def ApplicationValue.tagNumber : ApplicationValue → ApplicationTag
  | .null => tagNull
  | .boolean _ => tagBoolean
  | .unsigned _ => tagUnsigned
  | .signed _ => tagSigned
  | .real _ => tagReal
  | .double _ => tagDouble
  | .octetString _ => tagOctetString
  | .characterString _ => tagCharacterString
  | .bitString _ => tagBitString
  | .enumerated _ => tagEnumerated
  | .date _ => tagDate
  | .time _ => tagTime
  | .objectID _ => tagObjectIdentifier
  | .constructed _ => tagNull
  | .context _ => tagNull

end GoBacnet
