import GoBacnet.ContextField
import GoBacnet.Lib.Binary32
import GoBacnet.Lib.Table
import GoBacnet.Server.Object

/-!
# Objects over a table of properties

The built-in objects keep their properties in a table. A property is stored in the table or computed from the state
of the object; a write is checked and stored, or handled by the property's own setter. An operation that changes
properties reports them to the notifier of the device.
-/

namespace GoBacnet.Server

def propertyPropertyList : UInt32 := 371

/-- What an object is, apart from its state. -/
structure Header where
  id : ObjectIdentifier
  name : Octets
  /-- The properties in the order of their definition. -/
  order : List UInt32

inductive Getter (σ : Type) where
  | stored
  | header (f : Header → ApplicationValue)
  | state (f : σ → ApplicationValue)

/-- Handles a write: the new state and the properties whose value changed. -/
abbrev Setter (σ : Type) := Write → σ → Except ObjectErr (σ × List UInt32)

structure Property (σ : Type) where
  value : ApplicationValue := .null
  get : Getter σ := .stored
  set : Option (Setter σ) := none
  writable : Bool := false
  kinds : List ValueKind := []
  array : Bool := false

structure Base (σ : Type) extends Header where
  props : Table UInt32 (Property σ)
  /-- Whether a notifier is installed. -/
  notify : Bool := false
  state : σ

structure Change where
  object : ObjectIdentifier
  properties : List UInt32
  deriving DecidableEq, Repr

def charString (s : Octets) : ApplicationValue := .characterString ⟨0, s⟩

def kindAllowed (kinds : List ValueKind) (k : ValueKind) : Bool := k ∈ kinds

/-- Every property except those that every object has. -/
def Header.propertyList (h : Header) : ApplicationValue :=
  .constructed ((h.order.filter fun id => id ≠ propertyObjectIdentifier ∧ id ≠ propertyObjectName ∧
    id ≠ propertyObjectType ∧ id ≠ propertyPropertyList).map fun id => .app 0 (.enumerated id))

def arrayItem (v : ApplicationValue) (idx : UInt32) : Except ObjectErr ApplicationValue :=
  let n := UInt32.ofNat v.elements.length
  if idx = 0 then .ok (.unsigned n.toUInt64)
  else if idx > n then .error .invalidArrayIndex
  else
    match v.elements[idx.toNat - 1]? with
    | some el => if el.context then .ok (.constructed [el]) else .ok el.value
    | none => .error .invalidArrayIndex

namespace Property

variable {σ : Type}

def store (p : Property σ) (w : Write) : Except ObjectErr (Property σ) :=
  match w.property.arrayIndex with
  | some idx =>
    if !p.array then .error .notAnArray
    -- Resizing an array through index 0 is not supported.
    else if idx = 0 ∨ idx > UInt32.ofNat p.value.elements.length then .error .invalidArrayIndex
    else if !kindAllowed p.kinds w.value.kind then .error .invalidDataType
    else .ok { p with value := .constructed (p.value.elements.set (idx.toNat - 1) (.app 0 w.value)) }
  | none =>
    if p.array then
      match w.value with
      | .constructed els =>
        if els.any fun el => el.context || !kindAllowed p.kinds el.value.kind then .error .invalidDataType
        else .ok { p with value := .constructed els }
      | _ => .error .invalidDataType
    else if !kindAllowed p.kinds w.value.kind then .error .invalidDataType
    else .ok { p with value := w.value }

end Property

namespace Base

variable {σ : Type}

/-- Adds or replaces a property. -/
def define (b : Base σ) (id : UInt32) (p : Property σ) : Base σ :=
  { b with
    order := if (b.props.lookup id).isSome then b.order else b.order ++ [id]
    props := b.props.insert id p }

def new (id : ObjectIdentifier) (name : Octets) (state : σ) : Base σ :=
  let b : Base σ := { id, name, order := [], props := ∅, state }
  let b := b.define propertyObjectIdentifier { get := .header fun h => .objectID h.id }
  let b := b.define propertyObjectName { get := .header fun h => charString h.name }
  let b := b.define propertyObjectType { get := .header fun h => .enumerated h.id.type.toUInt32 }
  b.define propertyPropertyList { array := true, get := .header Header.propertyList }

def valueOf (b : Base σ) (p : Property σ) : ApplicationValue :=
  match p.get with
  | .stored => p.value
  | .header f => f b.toHeader
  | .state f => f b.state

def readProperty (b : Base σ) (ref : PropertyReference) : Except ObjectErr ApplicationValue :=
  match b.props.lookup ref.identifier with
  | none => .error .unknownProperty
  | some p =>
    match ref.arrayIndex with
    | none => .ok (b.valueOf p)
    | some idx => if !p.array then .error .notAnArray else arrayItem (b.valueOf p) idx

def writeLocked (b : Base σ) (w : Write) : Except ObjectErr (Base σ × List UInt32) :=
  match b.props.lookup w.property.identifier with
  | none => .error .unknownProperty
  | some p =>
    if !p.writable then .error .writeAccessDenied
    else
      match p.set with
      | some set => (set w b.state).map fun (s, changed) => ({ b with state := s }, changed)
      | none =>
        (p.store w).map fun p =>
          ({ b with props := b.props.insert w.property.identifier p }, [w.property.identifier])

def report (b : Base σ) (changed : List UInt32) : List Change :=
  if !changed.isEmpty && b.notify then [⟨b.id, changed⟩] else []

def writeProperty (b : Base σ) (w : Write) : Base σ × Except ObjectErr Unit × List Change :=
  match b.writeLocked w with
  | .error e => (b, .error e, [])
  | .ok (b', changed) => (b', .ok (), b.report changed)

/-- An update by the application, with what the notifier receives. -/
def update (b : Base σ) (fn : σ → σ × List UInt32) : Base σ × List Change :=
  let (s, changed) := fn b.state
  ({ b with state := s }, b.report changed)

end Base

/-! ## Values -/

def statusFlags (inAlarm fault overridden outOfService : Bool) : BitString :=
  let b : UInt8 := (if inAlarm then 0x80 else 0) ||| (if fault then 0x40 else 0) |||
    (if overridden then 0x20 else 0) ||| (if outOfService then 0x10 else 0)
  { unusedBits := 4, bytes := [b] }

def maskBits (n : Nat) (mask : UInt8) : ApplicationValue :=
  let bit (i : Nat) : UInt8 := if mask &&& (1 <<< UInt8.ofNat i) ≠ 0 then 0x80 >>> UInt8.ofNat i else 0
  .bitString { unusedBits := UInt8.ofNat (8 - n), bytes := [(List.range n).foldl (fun b i => b ||| bit i) 0] }

def bitsOf (bs : BitString) (n : Nat) : UInt8 :=
  let bit (i : Nat) : UInt8 :=
    if (bs.bytes[i / 8]?).any fun b => b &&& (0x80 >>> UInt8.ofNat (i % 8)) ≠ 0 then 1 <<< UInt8.ofNat i else 0
  (List.range n).foldl (fun v i => v ||| bit i) 0

/-- Whether two values are the same: by their numbers, or else by their encodings. -/
def sameValue (a b : ApplicationValue) : Bool :=
  match a, b with
  | .real x, .real y => Binary32.eq x y
  | .enumerated x, .enumerated y => x = y
  | .unsigned x, .unsigned y => x = y
  | .boolean x, .boolean y => x = y
  | .null, .null => true
  | a, b =>
    a.kind = b.kind &&
      match appendApplicationValue [] a, appendApplicationValue [] b with
      | .ok ea, .ok eb => ea = eb
      | _, _ => false

/-! ## Command prioritisation -/

def propertyPresentValue : UInt32 := 85
def propertyPriorityArray : UInt32 := 87
def propertyRelinquishDefault : UInt32 := 104
def propertyCurrentCommandPriority : UInt32 := 431

structure PriorityArray where
  slots : Vector (Option ApplicationValue) 16 := .replicate 16 none
  relinquish : ApplicationValue

def defaultPriority : UInt8 := 16

namespace PriorityArray

def present (pa : PriorityArray) : ApplicationValue := (pa.slots.toList.findSome? id).getD pa.relinquish

def active (pa : PriorityArray) : Option Nat := (pa.slots.toList.findIdx? Option.isSome).map (· + 1)

def write (pa : PriorityArray) (v : ApplicationValue) (priority : UInt8) : Except ObjectErr PriorityArray :=
  let priority := if priority = 0 then defaultPriority else priority
  if priority < 1 ∨ priority > 16 then .error .valueOutOfRange
  else
    let slot := match v with
      | .null => none
      | v => some v
    .ok { pa with slots := pa.slots.setIfInBounds (priority.toNat - 1) slot }

def value (pa : PriorityArray) : ApplicationValue :=
  .constructed (pa.slots.toList.map fun slot => .app 0 (slot.getD .null))

def currentPriority (pa : PriorityArray) : ApplicationValue :=
  match pa.active with
  | some p => .unsigned (UInt64.ofNat p)
  | none => .null

end PriorityArray

variable {σ : Type}

def scalarSetter (set : ApplicationValue → σ → Except ObjectErr (σ × List UInt32)) : Setter σ := fun w s =>
  if w.property.arrayIndex.isSome then .error .notAnArray else set w.value s

structure Commanded (σ : Type) where
  pa : σ → PriorityArray
  withPA : σ → PriorityArray → σ
  check : σ → ApplicationValue → Except ObjectErr Unit
  onChange : List UInt32

namespace Commanded

def setRelinquishDefault (c : Commanded σ) : Setter σ :=
  scalarSetter fun v s => do
    c.check s v
    let pa : PriorityArray := { c.pa s with relinquish := v }
    let changed := if sameValue (c.pa s).present pa.present then [] else c.onChange
    return (c.withPA s pa, propertyRelinquishDefault :: changed)

def checkCommand (c : Commanded σ) (s : σ) (v : ApplicationValue) : Except ObjectErr Unit :=
  if v.kind ≠ .null then c.check s v else .ok ()

def setPresentValue (c : Commanded σ) : Setter σ := fun w s =>
  if w.property.arrayIndex.isSome then .error .notAnArray
  else do
    c.checkCommand s w.value
    let pa ← (c.pa s).write w.value w.priority
    let changed := if sameValue (c.pa s).present pa.present then [] else c.onChange
    return (c.withPA s pa, propertyPriorityArray :: propertyCurrentCommandPriority :: changed)

end Commanded

def Base.defineCommandable (b : Base σ) (c : Commanded σ) : Base σ :=
  let b := b.define propertyPriorityArray { array := true, get := .state fun s => (c.pa s).value }
  let b := b.define propertyRelinquishDefault
    { writable := true, get := .state fun s => (c.pa s).relinquish, set := some c.setRelinquishDefault }
  let b := b.define propertyCurrentCommandPriority { get := .state fun s => (c.pa s).currentPriority }
  b.define propertyPresentValue
    { writable := true, get := .state fun s => (c.pa s).present, set := some c.setPresentValue }

end GoBacnet.Server
