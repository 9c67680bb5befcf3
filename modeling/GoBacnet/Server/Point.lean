import GoBacnet.Server.Base

/-!
# Point objects

An analog, binary or multi-state input, output or value object. Its present value is a REAL, an enumerated 0 or 1, or
an unsigned number from 1 to the number of states. With intrinsic reporting it also has the properties that configure
event detection.
-/

namespace GoBacnet.Server

def objectTypeAnalogInput : UInt16 := 0
def objectTypeAnalogOutput : UInt16 := 1
def objectTypeAnalogValue : UInt16 := 2
def objectTypeBinaryInput : UInt16 := 3
def objectTypeBinaryOutput : UInt16 := 4
def objectTypeBinaryValue : UInt16 := 5
def objectTypeMultiStateInput : UInt16 := 13
def objectTypeMultiStateOutput : UInt16 := 14
def objectTypeMultiStateValue : UInt16 := 19

def propertyActiveText : UInt32 := 4
def propertyAckedTransitions : UInt32 := 0
def propertyAlarmValue : UInt32 := 6
def propertyAlarmValues : UInt32 := 7
def propertyCOVIncrement : UInt32 := 22
def propertyDeadband : UInt32 := 25
def propertyDescription : UInt32 := 28
def propertyEventEnable : UInt32 := 35
def propertyEventState : UInt32 := 36
def propertyFaultValues : UInt32 := 39
def propertyHighLimit : UInt32 := 45
def propertyInactiveText : UInt32 := 46
def propertyLimitEnable : UInt32 := 52
def propertyLowLimit : UInt32 := 59
def propertyNotificationClass : UInt32 := 17
def propertyNotifyType : UInt32 := 72
def propertyNumberOfStates : UInt32 := 74
def propertyOutOfService : UInt32 := 81
def propertyPolarity : UInt32 := 84
def propertyReliability : UInt32 := 103
def propertyStateText : UInt32 := 110
def propertyStatusFlags : UInt32 := 111
def propertyTimeDelay : UInt32 := 113
def propertyUnits : UInt32 := 117
def propertyEventTimeStamps : UInt32 := 130
def propertyEventDetectionEnable : UInt32 := 353

namespace EventState

@[match_pattern] abbrev normal : UInt32 := 0
@[match_pattern] abbrev fault : UInt32 := 1
@[match_pattern] abbrev offnormal : UInt32 := 2
@[match_pattern] abbrev highLimit : UInt32 := 3
@[match_pattern] abbrev lowLimit : UInt32 := 4

end EventState

def reliabilityNoFaultDetected : UInt32 := 0
def reliabilityMultiStateFault : UInt32 := 9

def notifyEvent : UInt32 := 1

inductive PointKind
  | analog
  | binary
  | multiState
  deriving DecidableEq, Repr

/-- The configuration of intrinsic reporting; the REAL fields are held as their bits. -/
structure EventConfig where
  notificationClass : UInt32 := 0
  /-- The reported transitions, one bit each. -/
  eventEnable : UInt8 := 0
  notifyType : UInt32 := 0
  /-- The seconds that a condition holds before it is reported. -/
  timeDelay : UInt32 := 0
  highLimit : UInt32 := 0
  lowLimit : UInt32 := 0
  deadband : UInt32 := 0
  /-- Bit 0 enables the low limit, bit 1 the high limit. -/
  limitEnable : UInt8 := 0
  alarmValue : UInt32 := 0
  alarmValues : List UInt32 := []
  faultValues : List UInt32 := []

/-- The state of event detection. A time is in nanoseconds; a time stamp is absent until its transition happened. -/
structure Intrinsic where
  cfg : EventConfig := {}
  enabled : Bool := true
  /-- The transitions that are acknowledged, one bit each. -/
  acked : UInt8 := 7
  /-- The latest transitions to an off-normal state, to FAULT and to NORMAL. -/
  stamps : Vector (Option Int) 3 := .replicate 3 none
  /-- The state that the current condition leads to. -/
  pending : UInt32 := EventState.normal
  since : Option Int := none
  lastFault : UInt32 := 0

structure PointState where
  kind : PointKind
  input : Bool
  commandable : Bool
  /-- The present value of a point that is not commandable. -/
  pv : ApplicationValue
  /-- The priority array of a commandable point. -/
  pa : PriorityArray
  outOfService : Bool := false
  eventState : UInt32 := EventState.normal
  reliability : UInt32 := reliabilityNoFaultDetected
  covIncrement : UInt32 := 0
  states : UInt32 := 0
  /-- Whether the point has intrinsic reporting. -/
  reports : Bool := false
  intrinsic : Intrinsic := {}

abbrev Point := Base PointState

structure Zone where
  dateTimeOf : Int → Service.DateTime
  dateTimeToTime : Service.DateTime → Int

def outOfServiceProperty {σ : Type} (get : σ → Bool) (set : σ → Bool → σ) : Property σ where
  writable := true
  get := .state fun s => .boolean (get s)
  set := some <| scalarSetter fun v s =>
    match v with
    | .boolean b =>
      if get s = b then .ok (s, []) else .ok (set s b, [propertyOutOfService, propertyStatusFlags])
    | _ => .error .invalidDataType

namespace PointState

def present (s : PointState) : ApplicationValue := if s.commandable then s.pa.present else s.pv

def hasState (list : List UInt32) (v : ApplicationValue) : Bool :=
  match v with
  | .unsigned u => list.any fun st => st.toUInt64 = u
  | _ => list.any fun st => st = 0

def currentReliability (s : PointState) : UInt32 :=
  if s.reliability = reliabilityNoFaultDetected ∧ s.kind = .multiState ∧ s.reports ∧
      hasState s.intrinsic.cfg.faultValues s.present then reliabilityMultiStateFault
  else s.reliability

def statusFlags (s : PointState) : BitString :=
  Server.statusFlags (s.eventState ≠ EventState.normal) (s.currentReliability ≠ reliabilityNoFaultDetected) false
    s.outOfService

def checkValue (s : PointState) (v : ApplicationValue) : Except ObjectErr Unit :=
  match s.kind, v with
  | .analog, .real bits => if Binary32.isNaN bits || Binary32.isInf bits then .error .valueOutOfRange else .ok ()
  | .binary, .enumerated e => if e > 1 then .error .valueOutOfRange else .ok ()
  | .multiState, .unsigned u => if u < 1 ∨ u > s.states.toUInt64 then .error .valueOutOfRange else .ok ()
  | _, _ => .error .invalidDataType

def writePresentValue : Setter PointState :=
  scalarSetter fun v s =>
    if s.input ∧ !s.outOfService then .error .writeAccessDenied
    else do
      s.checkValue v
      return if sameValue s.pv v then (s, []) else ({ s with pv := v }, [propertyPresentValue])

def writeCOVIncrement : Setter PointState :=
  scalarSetter fun v s =>
    match v with
    | .real bits =>
      if Binary32.lt bits 0 || Binary32.isNaN bits then .error .valueOutOfRange
      else .ok ({ s with covIncrement := bits }, [propertyCOVIncrement])
    | _ => .error .invalidDataType

def commanded : Commanded PointState where
  pa := pa
  withPA s pa := { s with pa }
  check := checkValue
  onChange := [propertyPresentValue]

def modifyConfig (s : PointState) (f : EventConfig → EventConfig) : PointState :=
  { s with intrinsic := { s.intrinsic with cfg := f s.intrinsic.cfg } }

end PointState

/-! ## The properties of intrinsic reporting -/

structure ConfigField (α : Type) where
  get : EventConfig → α
  set : EventConfig → α → EventConfig

namespace ConfigField

def unsigned (f : ConfigField UInt32) (id : UInt32) : Property PointState where
  writable := true
  get := .state fun s => .unsigned (f.get s.intrinsic.cfg).toUInt64
  set := some <| scalarSetter fun v s =>
    match v with
    | .unsigned u =>
      if u > 0xFFFFFFFF then .error .valueOutOfRange else .ok (s.modifyConfig (f.set · u.toUInt32), [id])
    | _ => .error .invalidDataType

def bits (f : ConfigField UInt8) (id : UInt32) (n : Nat) : Property PointState where
  writable := true
  get := .state fun s => maskBits n (f.get s.intrinsic.cfg)
  set := some <| scalarSetter fun v s =>
    match v with
    | .bitString bs => .ok (s.modifyConfig (f.set · (bitsOf bs n)), [id])
    | _ => .error .invalidDataType

def real (f : ConfigField UInt32) (id : UInt32) (nonNegative : Bool) : Property PointState where
  writable := true
  get := .state fun s => .real (f.get s.intrinsic.cfg)
  set := some <| scalarSetter fun v s =>
    match v with
    | .real r =>
      if Binary32.isNaN r || Binary32.isInf r || (nonNegative && Binary32.lt r 0) then .error .valueOutOfRange
      else .ok (s.modifyConfig (f.set · r), [id])
    | _ => .error .invalidDataType

def enumerated (f : ConfigField UInt32) (id : UInt32) : Property PointState where
  writable := true
  get := .state fun s => .enumerated (f.get s.intrinsic.cfg)
  set := some <| scalarSetter fun v s =>
    match v with
    | .enumerated e => if e > 1 then .error .valueOutOfRange else .ok (s.modifyConfig (f.set · e), [id])
    | _ => .error .invalidDataType

def listed : ApplicationValue → Except ObjectErr (List ApplicationValue)
  | .constructed els => if els.any Element.context then .error .invalidDataType else .ok (els.map Element.value)
  | v => .ok [v]

def stateValue (states : UInt32) : ApplicationValue → Except ObjectErr UInt32
  | .unsigned u => if u < 1 ∨ u > states.toUInt64 then .error .valueOutOfRange else .ok u.toUInt32
  | _ => .error .invalidDataType

def states (f : ConfigField (List UInt32)) (id : UInt32) : Property PointState where
  writable := true
  get := .state fun s => .constructed ((f.get s.intrinsic.cfg).map fun v => .app 0 (.unsigned v.toUInt64))
  set := some <| scalarSetter fun v s => do
    let next ← (← listed v).mapM (stateValue s.states)
    return (s.modifyConfig (f.set · next), [id, propertyReliability, propertyStatusFlags])

end ConfigField

def writeEventDetectionEnable : Setter PointState :=
  scalarSetter fun v s =>
    match v with
    | .boolean b => .ok ({ s with intrinsic := { s.intrinsic with enabled := b } }, [propertyEventDetectionEnable])
    | _ => .error .invalidDataType

def timeStampElement (zone : Zone) (t : Option Int) : Element :=
  let dt := match t with
    | some t => zone.dateTimeOf t
    | none => ⟨⟨0xFF, 0xFF, 0xFF, 0xFF⟩, ⟨0xFF, 0xFF, 0xFF, 0xFF⟩⟩
  .ctxConstructed 2 [.app 0 (.date dt.date), .app 0 (.time dt.time)]

def Intrinsic.timeStamps (zone : Zone) (i : Intrinsic) : ApplicationValue :=
  .constructed (i.stamps.toList.map (timeStampElement zone))

def Point.defineReporting (zone : Zone) (p : Point) : Point :=
  let p := p.define propertyNotificationClass <|
    ConfigField.unsigned ⟨(·.notificationClass), fun c v => { c with notificationClass := v }⟩ propertyNotificationClass
  let p := p.define propertyTimeDelay <|
    ConfigField.unsigned ⟨(·.timeDelay), fun c v => { c with timeDelay := v }⟩ propertyTimeDelay
  let p := p.define propertyEventEnable <|
    ConfigField.bits ⟨(·.eventEnable), fun c v => { c with eventEnable := v }⟩ propertyEventEnable 3
  let p := p.define propertyNotifyType <|
    ConfigField.enumerated ⟨(·.notifyType), fun c v => { c with notifyType := v }⟩ propertyNotifyType
  let p := p.define propertyEventDetectionEnable
    { writable := true, get := .state fun s => .boolean s.intrinsic.enabled, set := some writeEventDetectionEnable }
  let p := p.define propertyAckedTransitions { get := .state fun s => maskBits 3 s.intrinsic.acked }
  p.define propertyEventTimeStamps { array := true, get := .state fun s => s.intrinsic.timeStamps zone }

def Point.defineAlgorithm (p : Point) : Point :=
  match p.state.kind with
  | .analog =>
    let p := p.define propertyHighLimit <|
      ConfigField.real ⟨(·.highLimit), fun c v => { c with highLimit := v }⟩ propertyHighLimit false
    let p := p.define propertyLowLimit <|
      ConfigField.real ⟨(·.lowLimit), fun c v => { c with lowLimit := v }⟩ propertyLowLimit false
    let p := p.define propertyDeadband <|
      ConfigField.real ⟨(·.deadband), fun c v => { c with deadband := v }⟩ propertyDeadband true
    p.define propertyLimitEnable <|
      ConfigField.bits ⟨(·.limitEnable), fun c v => { c with limitEnable := v }⟩ propertyLimitEnable 2
  | .binary =>
    p.define propertyAlarmValue <|
      ConfigField.enumerated ⟨(·.alarmValue), fun c v => { c with alarmValue := v }⟩ propertyAlarmValue
  | .multiState =>
    let p := p.define propertyAlarmValues <|
      ConfigField.states ⟨(·.alarmValues), fun c v => { c with alarmValues := v }⟩ propertyAlarmValues
    p.define propertyFaultValues <|
      ConfigField.states ⟨(·.faultValues), fun c v => { c with faultValues := v }⟩ propertyFaultValues

/-- Adds the properties of intrinsic reporting. -/
def Point.defineEvents (zone : Zone) (p : Point) : Point := (p.defineReporting zone).defineAlgorithm

/-! ## Construction -/

/-- The configuration of a point. Fields that do not apply to its kind are ignored. -/
structure PointConfig where
  instanceNumber : UInt32
  name : Octets
  description : Octets := []
  commandable : Bool := false
  units : UInt32 := 0
  value : UInt32 := 0
  covIncrement : UInt32 := 0
  active : Bool := false
  polarity : UInt32 := 0
  activeText : Octets := []
  inactiveText : Octets := []
  numberOfStates : UInt32 := 0
  state : UInt32 := 0
  stateText : Option (List Octets) := none
  events : Option EventConfig := none

/-- The first present value. -/
def PointConfig.initial (cfg : PointConfig) : PointKind → Except ObjectErr ApplicationValue
  | .analog =>
    if Binary32.lt cfg.covIncrement 0 || Binary32.isNaN cfg.covIncrement then
      .error (.plain "object: COV increment must be >= 0")
    else .ok (.real cfg.value)
  | .binary =>
    if cfg.polarity > 1 then .error (.plain "object: polarity must be 0 or 1")
    else .ok (.enumerated (if cfg.active then 1 else 0))
  | .multiState =>
    let st := if cfg.state = 0 then 1 else cfg.state
    if cfg.numberOfStates = 0 then .error (.plain "object: number of states required")
    else if cfg.stateText.any fun texts => UInt32.ofNat texts.length ≠ cfg.numberOfStates then
      .error (.plain ("object: state text has " ++ toString (cfg.stateText.getD []).length ++ " entries for " ++
        toString cfg.numberOfStates ++ " states"))
    else if st > cfg.numberOfStates then
      .error (.plain ("object: state " ++ toString st ++ " out of range 1.." ++ toString cfg.numberOfStates))
    else .ok (.unsigned st.toUInt64)

def PointConfig.checkEvents (cfg : PointConfig) (t : UInt16) (kind : PointKind) (ev : EventConfig) :
    Except ObjectErr Unit :=
  if t = objectTypeMultiStateOutput then
    -- A Multi-state Output would report its feedback value, which it does not have.
    .error (.plain "object: intrinsic reporting is not supported on multi-state output objects")
  else
    match if kind = .multiState then (ev.alarmValues ++ ev.faultValues).find? fun v => v < 1 ∨ v > cfg.numberOfStates
      else none with
    | some v =>
      .error (.plain ("object: alarm or fault value " ++ toString v ++ " out of range 1.." ++
        toString cfg.numberOfStates))
    | none =>
      if ev.notifyType > notifyEvent then .error (.plain ("object: notify type " ++ toString ev.notifyType))
      else if Binary32.lt ev.deadband 0 then .error (.plain "object: deadband must be >= 0")
      else .ok ()

/-- A text that may be written. -/
def textProperty {σ : Type} (text : Octets) : Property σ :=
  { value := charString text, writable := true, kinds := [.characterString] }

def Point.definePresentValue (p : Point) : Point :=
  if p.state.commandable then p.defineCommandable PointState.commanded
  else p.define propertyPresentValue
    { writable := true, get := .state PointState.pv, set := some PointState.writePresentValue }

def Point.defineStatus (p : Point) (cfg : PointConfig) : Point :=
  let p := if cfg.description = [] then p else p.define propertyDescription (textProperty cfg.description)
  let p := p.define propertyStatusFlags { get := .state fun s => .bitString s.statusFlags }
  let p := p.define propertyEventState { get := .state fun s => .enumerated s.eventState }
  let p := p.define propertyReliability { get := .state fun s => .enumerated s.currentReliability }
  p.define propertyOutOfService (outOfServiceProperty (·.outOfService) fun s b => { s with outOfService := b })

def Point.defineKind (p : Point) (t : UInt16) (cfg : PointConfig) : Point :=
  match p.state.kind with
  | .analog =>
    let p := p.define propertyUnits { value := .enumerated cfg.units }
    p.define propertyCOVIncrement
      { writable := true, get := .state fun s => .real s.covIncrement, set := some PointState.writeCOVIncrement }
  | .binary =>
    let p := if t = objectTypeBinaryValue then p else p.define propertyPolarity { value := .enumerated cfg.polarity }
    if cfg.activeText = [] ∧ cfg.inactiveText = [] then p
    else (p.define propertyInactiveText (textProperty cfg.inactiveText)).define propertyActiveText
      (textProperty cfg.activeText)
  | .multiState =>
    let p := p.define propertyNumberOfStates { value := .unsigned cfg.numberOfStates.toUInt64 }
    match cfg.stateText with
    | none => p
    | some texts => p.define propertyStateText
        { array := true, writable := true, kinds := [.characterString]
          value := .constructed (texts.map fun text => .app 0 (charString text)) }

def PointConfig.initialState (cfg : PointConfig) (kind : PointKind) (input commandable : Bool)
    (initial : ApplicationValue) : PointState where
  kind := kind
  input := input
  commandable := commandable
  pv := initial
  pa := { relinquish := initial }
  covIncrement := if kind = .analog then cfg.covIncrement else 0
  states := if kind = .multiState then cfg.numberOfStates else 0
  reports := cfg.events.isSome
  intrinsic := { cfg := cfg.events.getD {} }

def newPoint (zone : Zone) (t : UInt16) (kind : PointKind) (input commandable : Bool) (cfg : PointConfig) :
    Except ObjectErr Point :=
  if cfg.instanceNumber > maxObjectInstance - 1 then
    .error (.plain ("object: instance " ++ toString cfg.instanceNumber ++ " out of range"))
  else if cfg.name = [] then .error (.plain "object: object name required")
  else do
    let initial ← cfg.initial kind
    let p : Point := Base.new ⟨t, cfg.instanceNumber⟩ cfg.name (cfg.initialState kind input commandable initial)
    let p := (p.definePresentValue.defineStatus cfg).defineKind t cfg
    match cfg.events with
    | none => .ok p
    | some ev => (cfg.checkEvents t kind ev).map fun _ => p.defineEvents zone

def newAnalogInput (zone : Zone) : PointConfig → Except ObjectErr Point :=
  newPoint zone objectTypeAnalogInput .analog true false

def newAnalogOutput (zone : Zone) : PointConfig → Except ObjectErr Point :=
  newPoint zone objectTypeAnalogOutput .analog false true

def newAnalogValue (zone : Zone) (cfg : PointConfig) : Except ObjectErr Point :=
  newPoint zone objectTypeAnalogValue .analog false cfg.commandable cfg

def newBinaryInput (zone : Zone) : PointConfig → Except ObjectErr Point :=
  newPoint zone objectTypeBinaryInput .binary true false

def newBinaryOutput (zone : Zone) : PointConfig → Except ObjectErr Point :=
  newPoint zone objectTypeBinaryOutput .binary false true

def newBinaryValue (zone : Zone) (cfg : PointConfig) : Except ObjectErr Point :=
  newPoint zone objectTypeBinaryValue .binary false cfg.commandable cfg

def newMultiStateInput (zone : Zone) : PointConfig → Except ObjectErr Point :=
  newPoint zone objectTypeMultiStateInput .multiState true false

def newMultiStateOutput (zone : Zone) : PointConfig → Except ObjectErr Point :=
  newPoint zone objectTypeMultiStateOutput .multiState false true

def newMultiStateValue (zone : Zone) (cfg : PointConfig) : Except ObjectErr Point :=
  newPoint zone objectTypeMultiStateValue .multiState false cfg.commandable cfg

/-! ## Updates by the application -/

/-- A new reading: it is ignored while an input is out of service, and is the relinquish default of a commandable
point. -/
def PointState.setPresentValue (s : PointState) (v : ApplicationValue) : PointState × List UInt32 :=
  let report (s' : PointState) : PointState × List UInt32 :=
    (s', if sameValue s.present s'.present then [] else [propertyPresentValue])
  if s.commandable then report { s with pa := { s.pa with relinquish := v } }
  else if s.input ∧ s.outOfService then (s, [])
  else report { s with pv := v }

def Point.setPresentValue (p : Point) (v : ApplicationValue) : Point × Except ObjectErr Unit × List Change :=
  match p.state.checkValue v with
  | .error e => (p, .error e, [])
  | .ok () =>
    let (p', changes) := p.update fun s => s.setPresentValue v
    (p', .ok (), changes)

def PointState.setReliability (s : PointState) (r : UInt32) : PointState × List UInt32 :=
  if s.reliability = r then (s, [])
  else ({ s with reliability := r }, [propertyReliability, propertyStatusFlags])

def Point.setReliability (p : Point) (r : UInt32) : Point × List Change := p.update fun s => s.setReliability r

end GoBacnet.Server
