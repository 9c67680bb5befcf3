import GoBacnet.Server.Point

/-!
# Value objects

A CharacterString Value, an Integer Value or a Positive Integer Value. The integers are held in 32 bits; a value
outside that range is refused.
-/

namespace GoBacnet.Server

def objectTypeCharacterStringValue : UInt16 := 40
def objectTypeIntegerValue : UInt16 := 45
def objectTypePositiveIntegerValue : UInt16 := 48

structure ValueState where
  kind : ValueKind
  commandable : Bool
  /-- The present value of an object that is not commandable. -/
  pv : ApplicationValue
  /-- The priority array of a commandable object. -/
  pa : PriorityArray
  outOfService : Bool := false

abbrev ValueObject := Base ValueState

namespace ValueState

def present (s : ValueState) : ApplicationValue := if s.commandable then s.pa.present else s.pv

def statusFlags (s : ValueState) : BitString := Server.statusFlags false false false s.outOfService

def checkValue (s : ValueState) (v : ApplicationValue) : Except ObjectErr Unit :=
  if v.kind ≠ s.kind then .error .invalidDataType
  else
    match v with
    | .signed i => if i < -2147483648 ∨ i > 2147483647 then .error .valueOutOfRange else .ok ()
    | .unsigned u => if u > 0xFFFFFFFF then .error .valueOutOfRange else .ok ()
    | _ => .ok ()

def writePresentValue : Setter ValueState :=
  scalarSetter fun v s => do
    s.checkValue v
    return if sameValue s.pv v then (s, []) else ({ s with pv := v }, [propertyPresentValue])

def commanded : Commanded ValueState where
  pa := pa
  withPA s pa := { s with pa }
  check := checkValue
  onChange := [propertyPresentValue]

end ValueState

/-- The configuration of a value object. Fields that do not apply to its type are ignored. -/
structure ValueConfig where
  instanceNumber : UInt32
  name : Octets
  description : Octets := []
  commandable : Bool := false
  units : UInt32 := 0
  text : Octets := []
  integer : Int32 := 0
  unsigned : UInt32 := 0

def ValueObject.definePresentValue (o : ValueObject) : ValueObject :=
  if o.state.commandable then o.defineCommandable ValueState.commanded
  else o.define propertyPresentValue
    { writable := true, get := .state ValueState.pv, set := some ValueState.writePresentValue }

def ValueObject.defineStatus (o : ValueObject) (cfg : ValueConfig) : ValueObject :=
  let o := if cfg.description = [] then o else o.define propertyDescription (textProperty cfg.description)
  let o := o.define propertyStatusFlags { get := .state fun s => .bitString s.statusFlags }
  let o := o.define propertyEventState { value := .enumerated EventState.normal }
  let o := o.define propertyReliability { value := .enumerated reliabilityNoFaultDetected }
  o.define propertyOutOfService (outOfServiceProperty (·.outOfService) fun s b => { s with outOfService := b })

def ValueObject.defineUnits (o : ValueObject) (cfg : ValueConfig) : ValueObject :=
  if o.state.kind = .characterString then o else o.define propertyUnits { value := .enumerated cfg.units }

def newValue (t : UInt16) (kind : ValueKind) (initial : ApplicationValue) (cfg : ValueConfig) :
    Except ObjectErr ValueObject :=
  if cfg.instanceNumber ≥ maxObjectInstance then
    .error (.plain ("object: instance " ++ toString cfg.instanceNumber ++ " out of range"))
  else if cfg.name = [] then .error (.plain "object: object name required")
  else
    let o : ValueObject := Base.new ⟨t, cfg.instanceNumber⟩ cfg.name
      { kind, commandable := cfg.commandable, pv := initial, pa := { relinquish := initial } }
    .ok ((o.definePresentValue.defineStatus cfg).defineUnits cfg)

def newCharacterStringValue (cfg : ValueConfig) : Except ObjectErr ValueObject :=
  newValue objectTypeCharacterStringValue .characterString (charString cfg.text) cfg

def newIntegerValue (cfg : ValueConfig) : Except ObjectErr ValueObject :=
  newValue objectTypeIntegerValue .signed (.signed cfg.integer.toInt64) cfg

def newPositiveIntegerValue (cfg : ValueConfig) : Except ObjectErr ValueObject :=
  newValue objectTypePositiveIntegerValue .unsigned (.unsigned cfg.unsigned.toUInt64) cfg

def ValueState.setPresentValue (s : ValueState) (v : ApplicationValue) : ValueState × List UInt32 :=
  let s' := if s.commandable then { s with pa := { s.pa with relinquish := v } } else { s with pv := v }
  (s', if sameValue s.present s'.present then [] else [propertyPresentValue])

def ValueObject.setPresentValue (o : ValueObject) (v : ApplicationValue) :
    ValueObject × Except ObjectErr Unit × List Change :=
  match o.state.checkValue v with
  | .error e => (o, .error e, [])
  | .ok () =>
    let (o', changes) := o.update fun s => s.setPresentValue v
    (o', .ok (), changes)

end GoBacnet.Server
