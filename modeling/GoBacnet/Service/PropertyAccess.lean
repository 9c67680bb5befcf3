import GoBacnet.ContextField

/-!
# Property access services

The payloads of ReadPropertyMultiple, WriteProperty, WritePropertyMultiple and the COV notifications. Lists
have no length field: the object or property identifier of an item ends the item before it. A decoder parses
the payload into elements and reads these one after the other, with what it has read so far as its state.
-/

namespace GoBacnet.Service

structure Access (ι : Type) where
  object : ObjectIdentifier
  properties : List ι := []

abbrev ReadAccessSpecification := Access PropertyReference

/-- What ReadPropertyMultiple returned for one property. -/
inductive PropertyOutcome where
  | value (v : ApplicationValue)
  | errorResponse (cls code : UInt16)
  /-- An error that carries no class and code. -/
  | error (text : String)

structure PropertyResult where
  property : PropertyReference
  outcome : PropertyOutcome

abbrev ReadAccessResult := Access PropertyResult

structure PropertyValue where
  property : PropertyReference
  value : ApplicationValue
  priority : Option UInt8 := none

abbrev WritePropertyValue := PropertyValue

abbrev WriteAccessSpecification := Access WritePropertyValue

structure WritePropertyRequest where
  object : ObjectIdentifier
  property : PropertyReference
  value : ApplicationValue
  priority : Option UInt8 := none

structure COVNotification where
  processIdentifier : UInt32
  initiatingDevice : ObjectIdentifier
  monitoredObject : ObjectIdentifier
  timeRemaining : UInt32
  values : List PropertyValue

/-! ## Encoding -/

def appendOptional {α : Type} (append : Octets → α → Except Err Octets) (dst : Octets) :
    Option α → Except Err Octets
  | none => .ok dst
  | some a => append dst a

def appendPropertyReference (idTag indexTag : UInt8) (dst : Octets) (p : PropertyReference) : Except Err Octets := do
  let dst ← appendContextUnsigned dst idTag p.identifier.toUInt64
  appendOptional (fun dst idx => appendContextUnsigned dst indexTag idx.toUInt64) dst p.arrayIndex

/-- Appends an object identifier and, between the tags of context 1, the items that belong to it. -/
def appendAccess {ι : Type} (appendItem : Octets → ι → Except Err Octets) (dst : Octets) (a : Access ι) :
    Except Err Octets := do
  let dst ← appendContextObjectID dst 0 a.object
  let dst ← a.properties.foldlM appendItem (dst ++ [0x1E])
  return dst ++ [0x1F]

def encodeReadPropertyMultiple (specs : List ReadAccessSpecification) : Except Err Octets :=
  specs.foldlM (appendAccess (appendPropertyReference 0 1)) []

def appendPropertyResult (dst : Octets) (p : PropertyResult) : Except Err Octets := do
  let dst ← appendPropertyReference 2 3 dst p.property
  match p.outcome with
  | .errorResponse cls code =>
    let dst ← encodeBACnetError (dst ++ [0x5E]) cls code
    return dst ++ [0x5F]
  | .error _ => .error (malformed "property Err must be *ErrorResponse")
  | .value v =>
    let dst ← appendApplicationValue (dst ++ [0x4E]) v
    return dst ++ [0x4F]

def encodeReadPropertyMultipleACK (results : List ReadAccessResult) : Except Err Octets :=
  results.foldlM (appendAccess appendPropertyResult) []

def appendPriority (tag : UInt8) (what : String) (dst : Octets) (priority : UInt8) : Except Err Octets :=
  if priority < 1 ∨ priority > 16 then .error (malformed (what ++ " priority out of range"))
  else appendContextUnsigned dst tag priority.toUInt64

def encodeWriteProperty (req : WritePropertyRequest) : Except Err Octets := do
  let dst ← appendContextObjectID [] 0 req.object
  let dst ← appendPropertyReference 1 2 dst req.property
  let body ← appendApplicationValue [] req.value
  appendOptional (appendPriority 4 "WriteProperty") (dst ++ [0x3E] ++ body ++ [0x3F]) req.priority

def appendWritePropertyValue (dst : Octets) (p : WritePropertyValue) : Except Err Octets := do
  let dst ← appendPropertyReference 0 1 dst p.property
  let body ← appendApplicationValue [] p.value
  appendOptional (appendPriority 3 "WritePropertyMultiple") (dst ++ [0x2E] ++ body ++ [0x2F]) p.priority

def appendWriteAccess (dst : Octets) (spec : WriteAccessSpecification) : Except Err Octets :=
  if spec.properties.isEmpty then .error (malformed "WriteAccessSpecification requires properties")
  else appendAccess appendWritePropertyValue dst spec

def encodeWritePropertyMultiple (specs : List WriteAccessSpecification) : Except Err Octets :=
  if specs.isEmpty then .error (malformed "WritePropertyMultiple requires at least one specification")
  else specs.foldlM appendWriteAccess []

def appendPropertyValue (what : String) (dst : Octets) (pv : PropertyValue) : Except Err Octets := do
  let dst ← appendPropertyReference 0 1 dst pv.property
  let dst ← appendContextTagged dst 2 [.app 0 pv.value]
  appendOptional (appendPriority 3 what) dst pv.priority

def appendPropertyValues (dst : Octets) (values : List PropertyValue) (what : String) : Except Err Octets :=
  values.foldlM (appendPropertyValue what) dst

def encodeCOVNotification (note : COVNotification) : Except Err Octets := do
  let dst ← appendContextUnsigned [] 0 note.processIdentifier.toUInt64
  let dst ← appendContextObjectID dst 1 note.initiatingDevice
  let dst ← appendContextObjectID dst 2 note.monitoredObject
  let dst ← appendContextUnsigned dst 3 note.timeRemaining.toUInt64
  if note.values.isEmpty then .error (malformed "COV notification without values")
  else
    let dst ← appendPropertyValues (dst ++ [0x4E]) note.values "COV notification"
    return dst ++ [0x4F]

/-! ## Decoding -/

def parseAll (payload : Octets) (limits : DecodeLimits) (trailing : String) : Except Err (List Element) := do
  let (elements, n) ← parseSequence payload limits (-1)
  if n ≠ payload.length then .error (trailingData trailing) else .ok elements

def parsePayload (payload : Octets) (limits : DecodeLimits) (what : String) : Except Err (List Element) :=
  parseAll payload limits (what ++ " trailing data")

def propertyValue (elements : List Element) : ApplicationValue :=
  match elements with
  | [el] => if el.context then .constructed elements else el.value
  | _ => .constructed elements

/-- The objects read so far, the last one first, and whether the last one has its list. -/
structure AccessReader (ι : Type) where
  read : List (Access ι) := []
  haveProps : Bool := false

structure AccessFormat (ι : Type) where
  beforeObject : AccessReader ι → Except Err Unit := fun _ => .ok ()
  beforeList : AccessReader ι → Except Err Unit := fun _ => .ok ()
  readList : List Element → Except Err (List ι)
  listWithoutObject : String
  unexpectedTag : String

/-- Reads one element of a message with a list for each object. -/
def AccessFormat.step {ι : Type} (f : AccessFormat ι) (r : AccessReader ι) (el : Element) :
    Except Err (AccessReader ι) :=
  if el.tagNumber = 0 ∧ !isContextConstructed el then do
    f.beforeObject r
    let id ← contextObjectID el
    return ⟨⟨id, []⟩ :: r.read, false⟩
  else if el.tagNumber = 1 ∧ isContextConstructed el then
    match r.read with
    | [] => .error (malformed f.listWithoutObject)
    | cur :: read => do
      f.beforeList r
      let properties ← f.readList el.value.elements
      return ⟨{ cur with properties := properties } :: read, true⟩
  else .error (malformed (f.unexpectedTag ++ toString el.tagNumber))

/-- Reads one element of a list of property references; those read so far are given, the last one first. -/
def propertyReferenceStep (read : List PropertyReference) (el : Element) : Except Err (List PropertyReference) :=
  if isContextConstructed el || !el.context then .error (malformed "BACnetPropertyReference element")
  else if el.tagNumber = 0 then do
    let u ← contextUnsigned32 el
    return ⟨u, none⟩ :: read
  else if el.tagNumber = 1 then
    match read with
    | ⟨id, none⟩ :: read => do
      let u ← contextUnsigned32 el
      return ⟨id, some u⟩ :: read
    | _ => .error (malformed "propertyArrayIndex without propertyIdentifier")
  else .error (malformed ("unexpected BACnetPropertyReference tag " ++ toString el.tagNumber))

def decodePropertyReferences (elements : List Element) : Except Err (List PropertyReference) := do
  let read ← elements.foldlM propertyReferenceStep []
  if read.isEmpty then .error (malformed "empty listOfPropertyReferences") else .ok read.reverse

def readPropertyMultipleFormat : AccessFormat PropertyReference where
  beforeObject r :=
    if !r.read.isEmpty && !r.haveProps then
      .error (malformed "ReadAccessSpecification missing listOfPropertyReferences")
    else .ok ()
  beforeList r := if r.haveProps then .error (malformed "duplicate listOfPropertyReferences") else .ok ()
  readList := decodePropertyReferences
  listWithoutObject := "listOfPropertyReferences without object"
  unexpectedTag := "unexpected ReadPropertyMultiple tag "

def decodeReadPropertyMultiple (payload : Octets) (limits : DecodeLimits) :
    Except Err (List ReadAccessSpecification) := do
  let elements ← parsePayload payload limits "ReadPropertyMultiple"
  let r ← elements.foldlM readPropertyMultipleFormat.step {}
  if r.read.isEmpty then .error (malformed "ReadPropertyMultiple empty")
  else if !r.haveProps then .error (malformed "ReadAccessSpecification missing listOfPropertyReferences")
  else .ok r.read.reverse

structure ResultReader where
  out : List PropertyResult := []
  property : Option PropertyReference := none
  outcome : Option PropertyOutcome := none

/-- Ends the property that is being read. -/
def ResultReader.flush (r : ResultReader) : Except Err ResultReader :=
  match r.property, r.outcome with
  | none, _ => .ok r
  | some _, none => .error (malformed "RPM property missing value or error")
  | some p, some outcome => .ok { out := ⟨p, outcome⟩ :: r.out }

/-- Reads the outcome of a property, which must be its first one. -/
def ResultReader.readOutcome (r : ResultReader) (what : String) (outcome : Except Err PropertyOutcome) :
    Except Err ResultReader :=
  if r.property.isNone then .error (malformed (what ++ " without property"))
  else if r.outcome.isSome then .error (malformed "duplicate property outcome")
  else do return { r with outcome := some (← outcome) }

def propertyResultStep (r : ResultReader) (el : Element) : Except Err ResultReader :=
  if el.tagNumber = 2 ∧ !isContextConstructed el then do
    let r ← r.flush
    let u ← contextUnsigned32 el
    return { r with property := some ⟨u, none⟩ }
  else if el.tagNumber = 3 ∧ !isContextConstructed el then
    match r.property with
    | none => .error (malformed "arrayIndex without property")
    | some p => do
      let idx ← contextUnsigned32 el
      return { r with property := some { p with arrayIndex := some idx } }
  else if el.tagNumber = 4 ∧ isContextConstructed el then
    r.readOutcome "propertyValue" (.ok (.value (propertyValue el.value.elements)))
  else if el.tagNumber = 5 ∧ isContextConstructed el then
    r.readOutcome "propertyAccessError" do
      let (cls, code) ← decodeBACnetError el.value.elements
      return .errorResponse cls code
  else .error (malformed ("unexpected RPM property tag " ++ toString el.tagNumber))

def decodeRPMPropertyResults (elements : List Element) : Except Err (List PropertyResult) := do
  let r ← elements.foldlM propertyResultStep {}
  let r ← r.flush
  return r.out.reverse

def readPropertyMultipleACKFormat : AccessFormat PropertyResult where
  readList := decodeRPMPropertyResults
  listWithoutObject := "RPM results without object"
  unexpectedTag := "unexpected RPM ACK tag "

def decodeReadPropertyMultipleACK (payload : Octets) (limits : DecodeLimits) :
    Except Err (List ReadAccessResult) := do
  let elements ← parsePayload payload limits "RPM ACK"
  let r ← elements.foldlM readPropertyMultipleACKFormat.step {}
  return r.read.reverse

/-- The property values read so far, the last one first, and the fields of the one that is being read. -/
structure ValueReader where
  out : List PropertyValue := []
  property : Option PropertyReference := none
  value : Option ApplicationValue := none
  priority : Option UInt8 := none

/-- The field of a 32-bit number that a decoder checks itself. -/
def contextNumber (el : Element) (what : String) : Except Err UInt32 := do
  let u ← contextUnsigned el
  if u.toNat > maxUint32 then .error (malformed (what ++ " overflow")) else .ok u.toUInt32

/-- The number of a priority for writing, 1 to 16. -/
def contextPriority (el : Element) (outOfRange : UInt64 → String) : Except Err UInt8 := do
  let u ← contextUnsigned el
  if u < 1 ∨ u > 16 then .error (malformed (outOfRange u)) else .ok u.toUInt8

def ValueReader.flushWrite (r : ValueReader) : Except Err ValueReader :=
  match r.property, r.value with
  | none, none => .ok r
  | some p, some v => .ok { out := ⟨p, v, r.priority⟩ :: r.out }
  | _, _ => .error (malformed "WritePropertyValue missing property or value")

def writePropertyValueStep (r : ValueReader) (el : Element) : Except Err ValueReader :=
  if el.tagNumber = 0 ∧ !isContextConstructed el then do
    let r ← r.flushWrite
    let u ← contextNumber el "propertyIdentifier"
    return { r with property := some ⟨u, none⟩ }
  else if el.tagNumber = 1 ∧ !isContextConstructed el then
    match r.property with
    | none => .error (malformed "arrayIndex without property")
    | some p =>
      if p.arrayIndex.isSome then .error (malformed "duplicate arrayIndex")
      else if r.value.isSome then .error (malformed "arrayIndex after propertyValue")
      else do
        let idx ← contextNumber el "arrayIndex"
        return { r with property := some { p with arrayIndex := some idx } }
  else if el.tagNumber = 2 ∧ isContextConstructed el then
    if r.property.isNone then .error (malformed "propertyValue without property")
    else if r.value.isSome then .error (malformed "duplicate propertyValue")
    else .ok { r with value := some (propertyValue el.value.elements) }
  else if el.tagNumber = 3 ∧ !isContextConstructed el then
    if r.property.isNone || r.value.isNone then .error (malformed "priority without property value")
    else if r.priority.isSome then .error (malformed "duplicate priority")
    else do
      let p ← contextPriority el fun _ => "WritePropertyMultiple priority out of range"
      return { r with priority := some p }
  else .error (malformed ("unexpected WritePropertyValue tag " ++ toString el.tagNumber))

def decodeWPMPropertyValues (elements : List Element) : Except Err (List WritePropertyValue) := do
  let r ← elements.foldlM writePropertyValueStep {}
  let r ← r.flushWrite
  return r.out.reverse

def writePropertyMultipleFormat : AccessFormat WritePropertyValue where
  beforeList r := if r.haveProps then .error (malformed "duplicate listOfProperties") else .ok ()
  readList := decodeWPMPropertyValues
  listWithoutObject := "listOfProperties without object"
  unexpectedTag := "unexpected WritePropertyMultiple tag "

def decodeWritePropertyMultiple (payload : Octets) (limits : DecodeLimits) :
    Except Err (List WriteAccessSpecification) := do
  let elements ← parsePayload payload limits "WritePropertyMultiple"
  let r ← elements.foldlM writePropertyMultipleFormat.step {}
  if r.read.isEmpty then .error (malformed "WritePropertyMultiple empty")
  else if r.read.any (·.properties.isEmpty) then .error (malformed "WriteAccessSpecification missing properties")
  else .ok r.read.reverse

def ValueReader.flushCOV (r : ValueReader) : Except Err ValueReader :=
  match r.property, r.value with
  | none, _ => .ok r
  | some _, none => .error (malformed "property value missing value")
  | some p, some v => .ok { out := ⟨p, v, r.priority⟩ :: r.out }

def covValueStep (r : ValueReader) (el : Element) : Except Err ValueReader :=
  if el.tagNumber = 0 ∧ !isContextConstructed el then do
    let r ← r.flushCOV
    let u ← contextUnsigned32 el
    return { r with property := some ⟨u, none⟩ }
  else if el.tagNumber = 1 ∧ !isContextConstructed el then
    match r.property, r.value with
    | some ⟨id, none⟩, none => do
      let idx ← contextUnsigned32 el
      return { r with property := some ⟨id, some idx⟩ }
    | _, _ => .error (malformed "misplaced property array index")
  else if el.tagNumber = 2 ∧ isContextConstructed el then
    if r.property.isNone || r.value.isSome then .error (malformed "misplaced property value")
    else .ok { r with value := some (propertyValue el.value.elements) }
  else if el.tagNumber = 3 ∧ !isContextConstructed el then
    if r.value.isNone || r.priority.isSome then .error (malformed "misplaced property priority")
    else do
      let p ← contextPriority el fun u => "property priority " ++ toString u ++ " out of range"
      return { r with priority := some p }
  else .error (malformed ("unexpected COV value tag " ++ toString el.tagNumber))

def decodeCOVValues (elements : List Element) : Except Err (List PropertyValue) := do
  let r ← elements.foldlM covValueStep {}
  let r ← r.flushCOV
  return r.out.reverse

def readField {α : Type} (field : Option α) (duplicate : String) (value : Except Err α) : Except Err (Option α) :=
  if field.isSome then .error (malformed ("duplicate " ++ duplicate)) else value.map some

/-- The fields of a COV notification read so far. -/
structure COVReader where
  processIdentifier : Option UInt32 := none
  initiatingDevice : Option ObjectIdentifier := none
  monitoredObject : Option ObjectIdentifier := none
  timeRemaining : Option UInt32 := none
  values : Option (List PropertyValue) := none

def covNotificationStep (r : COVReader) (el : Element) : Except Err COVReader :=
  if el.tagNumber = 0 ∧ !isContextConstructed el then
    (readField r.processIdentifier "processIdentifier" (contextNumber el "processIdentifier")).map
      fun pid => { r with processIdentifier := pid }
  else if el.tagNumber = 1 ∧ !isContextConstructed el then
    (readField r.initiatingDevice "initiatingDevice" (contextObjectID el)).map
      fun device => { r with initiatingDevice := device }
  else if el.tagNumber = 2 ∧ !isContextConstructed el then
    (readField r.monitoredObject "monitoredObject" (contextObjectID el)).map
      fun object => { r with monitoredObject := object }
  else if el.tagNumber = 3 ∧ !isContextConstructed el then
    (readField r.timeRemaining "timeRemaining" (contextNumber el "timeRemaining")).map
      fun time => { r with timeRemaining := time }
  else if el.tagNumber = 4 ∧ isContextConstructed el then
    (readField r.values "listOfValues" (decodeCOVValues el.value.elements)).map
      fun values => { r with values := values }
  else .error (malformed ("unexpected COV notification tag " ++ toString el.tagNumber))

def decodeCOVNotification (payload : Octets) (limits : DecodeLimits) : Except Err COVNotification := do
  let elements ← parsePayload payload limits "COV notification"
  match ← elements.foldlM covNotificationStep {} with
  | ⟨some pid, some device, some object, some time, some values⟩ => .ok ⟨pid, device, object, time, values⟩
  | _ => .error (malformed "COV notification missing required fields")

/-- The fields of a WriteProperty request read so far. -/
structure WriteReader where
  object : Option ObjectIdentifier := none
  identifier : Option UInt32 := none
  arrayIndex : Option UInt32 := none
  value : Option ApplicationValue := none
  priority : Option UInt8 := none

def writePropertyStep (r : WriteReader) (el : Element) : Except Err WriteReader :=
  if el.tagNumber = 0 ∧ !isContextConstructed el then
    (readField r.object "objectIdentifier" (contextObjectID el)).map fun object => { r with object := object }
  else if el.tagNumber = 1 ∧ !isContextConstructed el then
    (readField r.identifier "propertyIdentifier" (contextUnsigned32 el)).map
      fun identifier => { r with identifier := identifier }
  else if el.tagNumber = 2 ∧ !isContextConstructed el then
    (readField r.arrayIndex "arrayIndex" (contextUnsigned32 el)).map fun idx => { r with arrayIndex := idx }
  else if el.tagNumber = 3 ∧ isContextConstructed el then
    (readField r.value "propertyValue" (.ok (propertyValue el.value.elements))).map fun v => { r with value := v }
  else if el.tagNumber = 4 ∧ !isContextConstructed el then do
    -- The priority is checked before it is found to be a second one.
    let p ← contextPriority el fun _ => "WriteProperty priority out of range"
    (readField r.priority "priority" (.ok p)).map fun p => { r with priority := p }
  else .error (malformed ("unexpected WriteProperty tag " ++ toString el.tagNumber))

def decodeWriteProperty (payload : Octets) (limits : DecodeLimits) : Except Err WritePropertyRequest := do
  let elements ← parsePayload payload limits "WriteProperty"
  let r ← elements.foldlM writePropertyStep {}
  match r.object, r.identifier, r.value with
  | some object, some identifier, some value => .ok ⟨object, ⟨identifier, r.arrayIndex⟩, value, r.priority⟩
  | _, _, _ => .error (malformed "WriteProperty missing required fields")

end GoBacnet.Service
