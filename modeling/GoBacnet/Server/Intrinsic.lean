import GoBacnet.Server.Point
import GoBacnet.Service.EventNotification

/-!
# Intrinsic reporting

Event detection of a point: OUT_OF_RANGE for an analog point, CHANGE_OF_STATE for the others, and FAULT while its
reliability is not good. A condition is reported once it held for the time delay.
-/

namespace GoBacnet.Server

open Service

namespace EventType

def changeOfState : UInt32 := 1
def outOfRange : UInt32 := 5
def changeOfReliability : UInt32 := 19

end EventType

def notifyAckNotification : UInt32 := 2

def limitEnableLow : UInt8 := 1
def limitEnableHigh : UInt8 := 2

def transitionOf (state : UInt32) : Fin 3 :=
  if state = EventState.normal then 2 else if state = EventState.fault then 1 else 0

def transitionBit (tr : Fin 3) : UInt8 := 1 <<< UInt8.ofNat tr

def enableToOffNormal : UInt8 := transitionBit 0
def enableToNormal : UInt8 := transitionBit 2

namespace ObjectErr

def invalidTimeStamp : ObjectErr := .response classServices 14
def invalidEventState : ObjectErr := .response classServices 73
def noAlarmConfigured : ObjectErr := .response classObject 74

end ObjectErr

/-- A change of the event state, or an acknowledgment, that is reported to the recipients. -/
structure EventTransition where
  object : ObjectIdentifier
  notificationClass : UInt32
  eventType : UInt32
  notifyType : UInt32
  fromState : UInt32
  toState : UInt32
  transition : Fin 3
  timeStamp : Option Int
  params : Option NotificationParameters := none

/-- The sum and the difference of two REALs. -/
def realAdd (a b : UInt32) : UInt32 := (Float32.ofBits a + Float32.ofBits b).toBits

def realSub (a b : UInt32) : UInt32 := (Float32.ofBits a - Float32.ofBits b).toBits

namespace PointState

def eventType (s : PointState) (state : UInt32) : UInt32 :=
  if state = EventState.fault then EventType.changeOfReliability
  else if s.kind = .analog then EventType.outOfRange
  else EventType.changeOfState

def realOf : ApplicationValue → UInt32
  | .real bits => bits
  | _ => 0

def enumOf : ApplicationValue → UInt32
  | .enumerated e => e
  | _ => 0

def changeOfState (s : PointState) (alarm : Bool) : UInt32 :=
  let cfg := s.intrinsic.cfg
  if s.eventState = EventState.normal then
    if alarm ∧ cfg.eventEnable &&& enableToOffNormal ≠ 0 then EventState.offnormal else s.eventState
  else if s.eventState = EventState.offnormal then
    if ¬alarm ∧ cfg.eventEnable &&& enableToNormal ≠ 0 then EventState.normal else s.eventState
  else s.eventState

def outOfRange (s : PointState) (v : UInt32) : UInt32 :=
  let cfg := s.intrinsic.cfg
  let toOffNormal := cfg.eventEnable &&& enableToOffNormal ≠ 0
  let toNormal := cfg.eventEnable &&& enableToNormal ≠ 0
  let low := cfg.limitEnable &&& limitEnableLow ≠ 0
  let high := cfg.limitEnable &&& limitEnableHigh ≠ 0
  if s.eventState = EventState.normal then
    if Binary32.lt cfg.highLimit v ∧ high ∧ toOffNormal then EventState.highLimit
    else if Binary32.lt v cfg.lowLimit ∧ low ∧ toOffNormal then EventState.lowLimit
    else s.eventState
  else if s.eventState = EventState.highLimit then
    if ¬high ∨ (Binary32.lt v (realSub cfg.highLimit cfg.deadband) ∧ toNormal) then EventState.normal else s.eventState
  else if s.eventState = EventState.lowLimit then
    if ¬low ∨ (Binary32.lt (realAdd cfg.lowLimit cfg.deadband) v ∧ toNormal) then EventState.normal else s.eventState
  else s.eventState

/-- The state that the algorithm leads to from the current event state, without the time delay. -/
def condition (s : PointState) : UInt32 :=
  match s.kind with
  | .analog => s.outOfRange (realOf s.present)
  | .binary => s.changeOfState (enumOf s.present = s.intrinsic.cfg.alarmValue)
  | .multiState => s.changeOfState (hasState s.intrinsic.cfg.alarmValues s.present)

def limit (s : PointState) (state : UInt32) : UInt32 :=
  if state = EventState.highLimit then s.intrinsic.cfg.highLimit
  else if state = EventState.lowLimit then s.intrinsic.cfg.lowLimit
  else 0

/-- The element that an encoder wrote. -/
def writtenElement (raw : Except Err Octets) : Element :=
  match raw.bind (parseTag · defaultDecodeLimits) with
  | .ok (el, _) => el
  | .error _ => .app 0 .null

def eventParams (s : PointState) (eventType exceeded : UInt32) : NotificationParameters :=
  if eventType = EventType.outOfRange then
    { choice := notificationOutOfRange
      outOfRange := some { exceedingValue := realOf s.present, statusFlags := s.statusFlags
                           deadband := s.intrinsic.cfg.deadband, exceededLimit := exceeded } }
  else if eventType = EventType.changeOfState then
    { choice := notificationChangeOfState
      changeOfState := some { newState := ⟨if s.kind = .multiState then 11 else 1, s.present⟩
                              statusFlags := s.statusFlags } }
  else
    { choice := EventType.changeOfReliability.toUInt8
      rawElements := [
        writtenElement (appendContextUnsigned [] 0 s.currentReliability.toUInt64),
        writtenElement (appendContextBitString [] 1 s.statusFlags),
        .ctxConstructed 2 [writtenElement (appendContextUnsigned [] 0 propertyPresentValue.toUInt64),
          .ctxConstructed 2 [.app 0 s.present]]] }

def detect (s : PointState) (now : Int) : Intrinsic × UInt32 :=
  let i := s.intrinsic
  if s.currentReliability ≠ reliabilityNoFaultDetected then ({ i with pending := EventState.fault }, EventState.fault)
  else if s.eventState = EventState.fault then ({ i with pending := EventState.normal }, EventState.normal)
  else
    let next := s.condition
    if next = s.eventState then ({ i with pending := s.eventState }, s.eventState)
    else
      let i := if next ≠ i.pending then { i with pending := next, since := some now } else i
      -- A condition that was never entered has no time: the delay is over.
      let elapsed := i.since.all fun since => now - since ≥ i.cfg.timeDelay.toNat * 1000000000
      (i, if elapsed then next else s.eventState)

def enter (s : PointState) (id : ObjectIdentifier) (now : Int) (ackRequired : UInt32 → Fin 3 → Bool)
    (toState : UInt32) : PointState × EventTransition :=
  let fromState := s.eventState
  let tr := transitionOf toState
  let exceeded := if toState = EventState.normal then s.limit fromState else s.limit toState
  let i := s.intrinsic
  let lastFault := if toState = EventState.fault then s.currentReliability else i.lastFault
  let s := { s with eventState := toState, intrinsic := { i with stamps := i.stamps.set tr (some now), lastFault } }
  let eventType :=
    if toState = EventState.normal ∧ fromState = EventState.fault then EventType.changeOfReliability
    else s.eventType toState
  let ev : EventTransition := {
    object := id, notificationClass := i.cfg.notificationClass, eventType, notifyType := i.cfg.notifyType
    fromState, toState, transition := tr, timeStamp := some now, params := some (s.eventParams eventType exceeded) }
  let acked := if ackRequired i.cfg.notificationClass tr then i.acked &&& ~~~transitionBit tr else i.acked
  ({ s with intrinsic := { s.intrinsic with acked } }, ev)

def evaluateEvents (s : PointState) (id : ObjectIdentifier) (now : Int) (ackRequired : UInt32 → Fin 3 → Bool) :
    PointState × List UInt32 × List EventTransition :=
  if !s.intrinsic.enabled then (s, [], [])
  else
    let (i, toState) := s.detect now
    let s := { s with intrinsic := i }
    if toState = s.eventState ∧ (toState ≠ EventState.fault ∨ s.currentReliability = i.lastFault) then (s, [], [])
    else
      let (s, ev) := s.enter id now ackRequired toState
      (s, [propertyEventState, propertyStatusFlags, propertyEventTimeStamps, propertyAckedTransitions], [ev])

def acknowledgeAlarm (s : PointState) (zone : Zone) (id : ObjectIdentifier) (state : UInt32) (stamp : TimeStamp) :
    Except ObjectErr (PointState × EventTransition) :=
  let i := s.intrinsic
  let tr := transitionOf state
  let ev : EventTransition := {
    object := id, notificationClass := i.cfg.notificationClass, eventType := s.eventType state
    notifyType := notifyAckNotification, fromState := s.eventState, toState := state, transition := tr
    timeStamp := i.stamps[tr] }
  if i.acked &&& transitionBit tr = 0 then
    match stamp with
    | .dateTime dt =>
      if i.stamps[tr].any fun t => t > zone.dateTimeToTime dt then .error .invalidTimeStamp
      else .ok ({ s with intrinsic := { i with acked := i.acked ||| transitionBit tr } }, ev)
    | _ => .error .invalidTimeStamp
  else if state ≠ s.eventState then .error .invalidEventState
  else .ok (s, ev)

end PointState

namespace Point

/-- Times carry hundredths of a second. -/
def truncate (now : Int) : Int := now - now % 10000000

def evaluateEvents (p : Point) (now : Int) (ackRequired : UInt32 → Fin 3 → Bool) :
    Point × List EventTransition × List Change :=
  if !p.state.reports then (p, [], [])
  else
    let (s, changed, out) := p.state.evaluateEvents p.id (truncate now) ackRequired
    let (p, changes) := p.update fun _ => (s, changed)
    (p, out, changes)

def acknowledgeAlarm (zone : Zone) (p : Point) (state : UInt32) (stamp : TimeStamp) :
    Point × Except ObjectErr EventTransition × List Change :=
  if !p.state.reports then (p, .error .noAlarmConfigured, [])
  else if state > EventState.lowLimit then (p, .error .invalidEventState, [])
  else
    match p.state.acknowledgeAlarm zone p.id state stamp with
    | .error e => (p, .error e, [])
    | .ok (s, ev) =>
      let (p, changes) := p.update fun _ => (s, [propertyAckedTransitions])
      (p, .ok ev, changes)

end Point

end GoBacnet.Server
