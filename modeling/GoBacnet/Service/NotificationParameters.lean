import GoBacnet.ContextField

/-!
# Notification parameters

The parameters of an event notification are a choice of event types. Each known choice has a typed body; the
elements of any choice are kept as they were received. The encoder writes the typed body when there is one.
-/

namespace GoBacnet.Service

/-- The context tag of a choice. -/
abbrev NotificationParametersChoice := UInt8

@[match_pattern] abbrev notificationChangeOfBitstring : NotificationParametersChoice := 0
@[match_pattern] abbrev notificationChangeOfState : NotificationParametersChoice := 1
@[match_pattern] abbrev notificationChangeOfValue : NotificationParametersChoice := 2
@[match_pattern] abbrev notificationCommandFailure : NotificationParametersChoice := 3
@[match_pattern] abbrev notificationFloatingLimit : NotificationParametersChoice := 4
@[match_pattern] abbrev notificationOutOfRange : NotificationParametersChoice := 5
@[match_pattern] abbrev notificationComplexEventType : NotificationParametersChoice := 6
@[match_pattern] abbrev notificationChangeOfLifeSafety : NotificationParametersChoice := 8
@[match_pattern] abbrev notificationExtended : NotificationParametersChoice := 9
@[match_pattern] abbrev notificationBufferReady : NotificationParametersChoice := 10
@[match_pattern] abbrev notificationUnsignedRange : NotificationParametersChoice := 11

structure PropertyStates where
  choice : UInt8
  value : ApplicationValue

structure ChangeOfStateParams where
  newState : PropertyStates
  statusFlags : BitString

structure ChangeOfBitstringParams where
  referencedBitstring : BitString
  statusFlags : BitString

inductive NewValue where
  | value (v : ApplicationValue)
  /-- A value of the kind of context primitives that holds the received element instead of its octets. -/
  | primitive (el : Element)

structure ChangeOfValueParams where
  newValue : NewValue
  statusFlags : BitString

/-- The REAL fields are held as their bits. -/
structure OutOfRangeParams where
  exceedingValue : UInt32
  statusFlags : BitString
  deadband : UInt32
  exceededLimit : UInt32

structure CommandFailureParams where
  commandValue : ApplicationValue
  statusFlags : BitString
  feedbackValue : ApplicationValue

structure FloatingLimitParams where
  referenceValue : UInt32
  statusFlags : BitString
  setPointValue : UInt32
  errorLimit : UInt32

structure UnsignedRangeParams where
  exceedingValue : UInt32
  statusFlags : BitString
  exceededLimit : UInt32

structure BufferReadyParams where
  bufferProperty : List Element := []
  previousCount : UInt32 := 0
  currentCount : UInt32 := 0

structure ChangeOfLifeSafetyParams where
  newState : UInt32
  newMode : UInt32
  statusFlags : BitString
  operationExpected : UInt32

structure ExtendedParams where
  vendorID : UInt16 := 0
  extendedEventType : UInt32 := 0
  parameters : List Element := []

structure ComplexEventTypeParams where
  values : List Element

structure NotificationParameters where
  choice : NotificationParametersChoice
  changeOfBitstring : Option ChangeOfBitstringParams := none
  changeOfState : Option ChangeOfStateParams := none
  changeOfValue : Option ChangeOfValueParams := none
  outOfRange : Option OutOfRangeParams := none
  commandFailure : Option CommandFailureParams := none
  floatingLimit : Option FloatingLimitParams := none
  unsignedRange : Option UnsignedRangeParams := none
  bufferReady : Option BufferReadyParams := none
  changeOfLifeSafety : Option ChangeOfLifeSafetyParams := none
  extended : Option ExtendedParams := none
  complexEventType : Option ComplexEventTypeParams := none
  /-- The elements of the chosen alternative. -/
  rawElements : List Element := []

/-! ## Encoding -/

def parseElement (raw : Octets) (what : String) : Except Err Element :=
  match parseTag raw defaultDecodeLimits with
  | .ok (el, n) => if n ≠ raw.length then .error (malformed what) else .ok el
  | .error _ => .error (malformed what)

def parseElements (raw : Octets) (what : String) : Except Err (List Element) :=
  match parseSequence raw defaultDecodeLimits (-1) with
  | .ok (els, n) => if n ≠ raw.length then .error (malformed what) else .ok els
  | .error _ => .error (malformed what)

def parseContextUnsignedElement (tag : UInt8) (v : UInt64) : Except Err Element := do
  parseElement (← appendContextUnsigned [] tag v) "context unsigned"

def parseContextBitStringElement (tag : UInt8) (bs : BitString) : Except Err Element := do
  parseElement (← appendContextBitString [] tag bs) "statusFlags"

def encodePropertyStates (ps : PropertyStates) : Except Err (List Element) :=
  match ps.value with
  | .boolean b => do return [← parseElement (← appendContextBool [] ps.choice b) "PropertyStates"]
  | .enumerated e => do return [← parseElement (← appendContextUnsigned [] ps.choice e.toUInt64) "PropertyStates"]
  | .unsigned u => do return [← parseElement (← appendContextUnsigned [] ps.choice u) "PropertyStates"]
  | v => .ok [.mk true ps.choice false false v]

def changeOfValueNewValue : NewValue → Except Err Element
  | .value (.constructed els) => .ok (.ctxConstructed 0 els)
  | .value (.bitString b) => .ok (.ctxConstructed 0 [.mk true 0 false false (.bitString b)])
  | .value (.real bits) => .ok (.ctxConstructed 0 [.mk true 1 false false (.real bits)])
  | .value v => .error (unsupported ("change-of-value new-value kind " ++ toString v.kind.ctorIdx))
  | .primitive _ => .error (unsupported ("change-of-value new-value kind " ++ toString ValueKind.context.ctorIdx))

/-- The fields that a floating limit and an out of range have in common: a REAL, the status flags and two more
REALs. -/
def encodeRealFlagsRealReal (v0 : UInt32) (flags : BitString) (v2 v3 : UInt32) (what : String) :
    Except Err (List Element) := do
  let raw ← appendContextReal [] 0 v0
  let raw ← appendContextBitString raw 1 flags
  let raw ← appendContextReal raw 2 v2
  let raw ← appendContextReal raw 3 v3
  parseElements raw what

def encodeFloatingLimit (p : FloatingLimitParams) : Except Err (List Element) :=
  encodeRealFlagsRealReal p.referenceValue p.statusFlags p.setPointValue p.errorLimit "floating-limit"

def encodeOutOfRange (p : OutOfRangeParams) : Except Err (List Element) :=
  encodeRealFlagsRealReal p.exceedingValue p.statusFlags p.deadband p.exceededLimit "out-of-range"

def encodeChangeOfState (p : ChangeOfStateParams) : Except Err (List Element) := do
  let ps ← encodePropertyStates p.newState
  let flags ← parseContextBitStringElement 1 p.statusFlags
  return [.ctxConstructed 0 ps, flags]

def encodeChangeOfBitstring (p : ChangeOfBitstringParams) : Except Err (List Element) := do
  let raw ← appendContextBitString [] 0 p.referencedBitstring
  let raw ← appendContextBitString raw 1 p.statusFlags
  parseElements raw "change-of-bitstring"

def encodeChangeOfValue (p : ChangeOfValueParams) : Except Err (List Element) := do
  let newValue ← changeOfValueNewValue p.newValue
  let flags ← parseContextBitStringElement 1 p.statusFlags
  return [newValue, flags]

def encodeCommandFailure (p : CommandFailureParams) : Except Err (List Element) := do
  let flags ← parseContextBitStringElement 1 p.statusFlags
  return [.mk true 0 false false p.commandValue, flags, .mk true 2 false false p.feedbackValue]

def encodeBufferReady (p : BufferReadyParams) : Except Err (List Element) := do
  let prev ← parseContextUnsignedElement 1 p.previousCount.toUInt64
  let cur ← parseContextUnsignedElement 2 p.currentCount.toUInt64
  return p.bufferProperty ++ [prev, cur]

def encodeUnsignedRange (p : UnsignedRangeParams) : Except Err (List Element) := do
  let ex ← parseContextUnsignedElement 0 p.exceedingValue.toUInt64
  let flags ← parseContextBitStringElement 1 p.statusFlags
  let lim ← parseContextUnsignedElement 2 p.exceededLimit.toUInt64
  return [ex, flags, lim]

def encodeChangeOfLifeSafety (p : ChangeOfLifeSafetyParams) : Except Err (List Element) := do
  let st ← parseContextUnsignedElement 0 p.newState.toUInt64
  let mode ← parseContextUnsignedElement 1 p.newMode.toUInt64
  let flags ← parseContextBitStringElement 2 p.statusFlags
  let op ← parseContextUnsignedElement 3 p.operationExpected.toUInt64
  return [st, mode, flags, op]

def encodeExtended (p : ExtendedParams) : Except Err (List Element) := do
  let vid ← parseContextUnsignedElement 0 p.vendorID.toUInt64
  let et ← parseContextUnsignedElement 1 p.extendedEventType.toUInt64
  return [vid, et] ++ if p.parameters.isEmpty then [] else [.ctxConstructed 2 p.parameters]

/-- The elements of the chosen alternative and its tag. A typed body comes first, in the order of the source. -/
def encodeNotificationInner (p : NotificationParameters) :
    Except Err (List Element × NotificationParametersChoice) :=
  if let some body := p.changeOfState then (encodeChangeOfState body).map (·, notificationChangeOfState)
  else if let some body := p.changeOfBitstring then (encodeChangeOfBitstring body).map (·, notificationChangeOfBitstring)
  else if let some body := p.changeOfValue then (encodeChangeOfValue body).map (·, notificationChangeOfValue)
  else if let some body := p.outOfRange then (encodeOutOfRange body).map (·, notificationOutOfRange)
  else if let some body := p.commandFailure then (encodeCommandFailure body).map (·, notificationCommandFailure)
  else if let some body := p.floatingLimit then (encodeFloatingLimit body).map (·, notificationFloatingLimit)
  else if let some body := p.bufferReady then (encodeBufferReady body).map (·, notificationBufferReady)
  else if let some body := p.unsignedRange then (encodeUnsignedRange body).map (·, notificationUnsignedRange)
  else if let some body := p.changeOfLifeSafety then
    (encodeChangeOfLifeSafety body).map (·, notificationChangeOfLifeSafety)
  else if let some body := p.extended then (encodeExtended body).map (·, notificationExtended)
  else if let some body := p.complexEventType then .ok (body.values, notificationComplexEventType)
  else if p.rawElements.isEmpty then .error (malformed "empty NotificationParameters")
  else .ok (p.rawElements, p.choice)

def encodeNotificationParameters (p : NotificationParameters) : Except Err (List Element) := do
  let (inner, choice) ← encodeNotificationInner p
  return [.ctxConstructed choice inner]

/-! ## Decoding -/

/-- A REAL under the given tag: its four octets, or an application REAL between tags. -/
def notificationReal (el : Element) (tag : UInt8) : Except Err UInt32 :=
  if el.tagNumber ≠ tag then .error (malformed "real tag")
  else if isContextConstructed el then
    match el.value.elements with
    | [.mk false _ _ _ (.real bits)] => .ok bits
    | _ => .error (malformed "real constructed")
  else if el.value.octets.length ≠ 4 then .error (malformed "real length")
  else .ok (UInt32.ofNat (BigEndian.value el.value.octets))

/-- A decoder whose error is replaced by a text of its own. -/
def orMalformed {α : Type} (r : Except Err α) (what : String) : Except Err α :=
  match r with
  | .ok a => .ok a
  | .error _ => .error (malformed what)

def decodePropertyState (el : Element) : Except Err ApplicationValue :=
  if !isContextConstructed el && el.tagNumber == 0 then
    (orMalformed (contextBool el) "PropertyStates boolean-value").map .boolean
  else if !isContextConstructed el then
    match contextUnsigned32 el with
    | .ok u => .ok (.enumerated u)
    | .error _ => .ok (.context el.value.octets)
  else .ok (.constructed el.value.elements)

def decodeChangeOfState (els : List Element) : Except Err ChangeOfStateParams :=
  match els with
  | [state, flags] =>
    if state.tagNumber ≠ 0 || !isContextConstructed state then .error (malformed "new-state")
    else
      match state.value.elements with
      | [psEl] =>
        if !psEl.context then .error (malformed "PropertyStates choice")
        else do
          let v ← decodePropertyState psEl
          if flags.tagNumber ≠ 1 || isContextConstructed flags then .error (malformed "status-flags")
          else
            let statusFlags ← contextBitString flags
            return ⟨⟨psEl.tagNumber, v⟩, statusFlags⟩
      | _ => .error (malformed "PropertyStates")
  | _ => .error (malformed "change-of-state fields")

def notificationBitString (el : Element) (tag : UInt8) (what : String) : Except Err BitString :=
  if el.tagNumber ≠ tag then .error (malformed what) else orMalformed (contextBitString el) what

def decodeChangeOfBitstring (els : List Element) : Except Err ChangeOfBitstringParams :=
  match els with
  | [ref, flags] => do
    let referenced ← notificationBitString ref 0 "referenced-bitstring"
    let statusFlags ← notificationBitString flags 1 "status-flags"
    return ⟨referenced, statusFlags⟩
  | _ => .error (malformed "change-of-bitstring fields")

def decodeChangeOfValue (els : List Element) : Except Err ChangeOfValueParams :=
  match els with
  | [new, flags] =>
    if new.tagNumber ≠ 0 then .error (malformed "new-value")
    else do
      let newValue := if isContextConstructed new then .value (.constructed new.value.elements) else .primitive new
      let statusFlags ← notificationBitString flags 1 "status-flags"
      return ⟨newValue, statusFlags⟩
  | _ => .error (malformed "change-of-value fields")

def decodeOutOfRange (els : List Element) : Except Err OutOfRangeParams :=
  match els with
  | [v0, flags, v2, v3] => do
    let exceeding ← notificationReal v0 0
    let statusFlags ← notificationBitString flags 1 "status-flags"
    let deadband ← notificationReal v2 2
    let limit ← notificationReal v3 3
    return ⟨exceeding, statusFlags, deadband, limit⟩
  | _ => .error (malformed "out-of-range fields")

/-- The tags of the fields are not looked at. -/
def decodeCommandFailure (els : List Element) : Except Err CommandFailureParams :=
  match els with
  | [command, flags, feedback] => do
    let statusFlags ← contextBitString flags
    return ⟨command.value, statusFlags, feedback.value⟩
  | _ => .error (malformed "command-failure fields")

def decodeFloatingLimit (els : List Element) : Except Err FloatingLimitParams :=
  match els with
  | [v0, flags, v2, v3] => do
    let ref ← notificationReal v0 0
    let statusFlags ← contextBitString flags
    let set ← notificationReal v2 2
    let lim ← notificationReal v3 3
    return ⟨ref, statusFlags, set, lim⟩
  | _ => .error (malformed "floating-limit fields")

def bufferReadyStep (br : BufferReadyParams) (el : Element) : Except Err BufferReadyParams :=
  if el.tagNumber = 0 then .ok { br with bufferProperty := br.bufferProperty ++ [el] }
  else if el.tagNumber = 1 ∧ !isContextConstructed el then
    (contextUnsigned32 el).map fun u => { br with previousCount := u }
  else if el.tagNumber = 2 ∧ !isContextConstructed el then
    (contextUnsigned32 el).map fun u => { br with currentCount := u }
  else .ok br

def decodeBufferReady (els : List Element) : Except Err BufferReadyParams :=
  els.foldlM bufferReadyStep {}

def decodeUnsignedRange (els : List Element) : Except Err UnsignedRangeParams :=
  match els with
  | [ex, flags, lim] => do
    let exceeding ← contextUnsigned32 ex
    let statusFlags ← contextBitString flags
    let limit ← contextUnsigned32 lim
    return ⟨exceeding, statusFlags, limit⟩
  | _ => .error (malformed "unsigned-range fields")

def decodeChangeOfLifeSafety (els : List Element) : Except Err ChangeOfLifeSafetyParams :=
  match els with
  | [st, mode, flags, op] => do
    let newState ← contextUnsigned32 st
    let newMode ← contextUnsigned32 mode
    let statusFlags ← contextBitString flags
    let operation ← contextUnsigned32 op
    return ⟨newState, newMode, statusFlags, operation⟩
  | _ => .error (malformed "change-of-life-safety fields")

def narrowU16 (u : UInt64) (what : String) : Except Err UInt16 :=
  if u.toNat > maxUint16 then .error (malformed (what ++ " " ++ toString u ++ " exceeds 16 bits")) else .ok u.toUInt16

def extendedStep (ext : ExtendedParams) (el : Element) : Except Err ExtendedParams :=
  if el.tagNumber = 0 ∧ !isContextConstructed el then do
    let u ← contextUnsigned el
    let vendorID ← narrowU16 u "vendorId"
    return { ext with vendorID := vendorID }
  else if el.tagNumber = 1 ∧ !isContextConstructed el then
    (contextUnsigned32 el).map fun u => { ext with extendedEventType := u }
  else if el.tagNumber = 2 ∧ isContextConstructed el then .ok { ext with parameters := el.value.elements }
  else .ok ext

def decodeExtended (els : List Element) : Except Err ExtendedParams :=
  els.foldlM extendedStep {}

/-- Reads the choice; the typed body of a known one is set next to the elements. -/
def decodeNotificationParameters (elements : List Element) : Except Err NotificationParameters :=
  match elements with
  | [el] =>
    if !el.context || !isContextConstructed el then .error (malformed "NotificationParameters CHOICE")
    else
      let els := el.value.elements
      let p : NotificationParameters := { choice := el.tagNumber, rawElements := els }
      if p.choice = notificationChangeOfState then
        (decodeChangeOfState els).map fun body => { p with changeOfState := some body }
      else if p.choice = notificationChangeOfBitstring then
        (decodeChangeOfBitstring els).map fun body => { p with changeOfBitstring := some body }
      else if p.choice = notificationChangeOfValue then
        (decodeChangeOfValue els).map fun body => { p with changeOfValue := some body }
      else if p.choice = notificationOutOfRange then
        (decodeOutOfRange els).map fun body => { p with outOfRange := some body }
      else if p.choice = notificationCommandFailure then
        (decodeCommandFailure els).map fun body => { p with commandFailure := some body }
      else if p.choice = notificationFloatingLimit then
        (decodeFloatingLimit els).map fun body => { p with floatingLimit := some body }
      else if p.choice = notificationBufferReady then
        (decodeBufferReady els).map fun body => { p with bufferReady := some body }
      else if p.choice = notificationUnsignedRange then
        (decodeUnsignedRange els).map fun body => { p with unsignedRange := some body }
      else if p.choice = notificationChangeOfLifeSafety then
        (decodeChangeOfLifeSafety els).map fun body => { p with changeOfLifeSafety := some body }
      else if p.choice = notificationExtended then
        (decodeExtended els).map fun body => { p with extended := some body }
      else if p.choice = notificationComplexEventType then .ok { p with complexEventType := some ⟨els⟩ }
      else .ok p
  | _ => .error (malformed "NotificationParameters CHOICE")

end GoBacnet.Service
