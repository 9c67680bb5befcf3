import GoBacnet.Service.NotificationParameters
import GoBacnet.Service.PropertyAccess

/-!
# Event notifications

The payload of a confirmed or unconfirmed EventNotification. Its fields may come in any order; each may come
once.
-/

namespace GoBacnet.Service

inductive TimeStamp where
  | time (t : Time)
  | sequence (n : UInt32)
  | dateTime (dt : DateTime)
  deriving DecidableEq, Repr

structure EventNotification where
  processIdentifier : UInt32
  initiatingDevice : ObjectIdentifier
  eventObject : ObjectIdentifier
  timeStamp : TimeStamp
  notificationClass : UInt32
  priority : UInt8
  eventType : UInt32
  messageText : Option CharacterString := none
  notifyType : UInt32
  ackRequired : Option Bool := none
  fromState : Option UInt32 := none
  toState : UInt32
  /-- The parameters as they were received. -/
  notificationParams : Option ApplicationValue := none
  parameters : Option NotificationParameters := none

def encodeTimeStamp : TimeStamp → Except Err Octets
  | .time t => appendContextTime [] 0 t
  | .sequence n => appendContextUnsigned [] 1 n.toUInt64
  | .dateTime dt => appendContextTagged [] 2 [.app 0 (.date dt.date), .app 0 (.time dt.time)]

def decodeTimeStamp (el : Element) : Except Err TimeStamp :=
  if el.tagNumber = 0 ∧ !isContextConstructed el then (contextTime el).map .time
  else if el.tagNumber = 1 ∧ !isContextConstructed el then (contextNumber el "TimeStamp sequence").map .sequence
  else if el.tagNumber = 2 ∧ isContextConstructed el then
    match el.value.elements with
    | [d, t] =>
      match d.context, d.value, t.context, t.value with
      | false, .date date, false, .time time => .ok (.dateTime ⟨date, time⟩)
      | _, _, _, _ => .error (malformed "TimeStamp dateTime kinds")
    | _ => .error (malformed "TimeStamp dateTime contents")
  else .error (malformed ("unexpected TimeStamp tag " ++ toString el.tagNumber))

def appendTimeStampField (dst : Octets) (tagNumber : UInt8) (ts : TimeStamp) : Except Err Octets := do
  let body ← encodeTimeStamp ts
  return dst ++ [(tagNumber <<< 4) ||| 0x08 ||| 6] ++ body ++ [(tagNumber <<< 4) ||| 0x08 ||| 7]

/-- Appends the parameters: the typed ones if there are any, otherwise those that were received. -/
def appendParameters (dst : Octets) (note : EventNotification) : Except Err Octets :=
  match note.parameters, note.notificationParams with
  | some p, _ => do appendContextTagged dst 12 (← encodeNotificationParameters p)
  | none, some (.constructed els) => appendContextTagged dst 12 els
  | none, some _ => .error (malformed "notificationParameters must be constructed")
  | none, none => .ok dst

def encodeEventNotification (note : EventNotification) : Except Err Octets := do
  let dst ← appendContextUnsigned [] 0 note.processIdentifier.toUInt64
  let dst ← appendContextObjectID dst 1 note.initiatingDevice
  let dst ← appendContextObjectID dst 2 note.eventObject
  let dst ← appendTimeStampField dst 3 note.timeStamp
  let dst ← appendContextUnsigned dst 4 note.notificationClass.toUInt64
  let dst ← appendContextUnsigned dst 5 note.priority.toUInt64
  let dst ← appendContextUnsigned dst 6 note.eventType.toUInt64
  let dst ← appendOptional (appendContextCharacterString · 7 ·) dst note.messageText
  let dst ← appendContextUnsigned dst 8 note.notifyType.toUInt64
  let dst ← appendOptional (appendContextBool · 9 ·) dst note.ackRequired
  let dst ← appendOptional (fun dst state => appendContextUnsigned dst 10 (UInt32.toUInt64 state)) dst note.fromState
  let dst ← appendContextUnsigned dst 11 note.toState.toUInt64
  appendParameters dst note

/-- The fields of a notification read so far. -/
structure EventReader where
  processIdentifier : Option UInt32 := none
  initiatingDevice : Option ObjectIdentifier := none
  eventObject : Option ObjectIdentifier := none
  timeStamp : Option TimeStamp := none
  notificationClass : Option UInt32 := none
  priority : Option UInt8 := none
  eventType : Option UInt32 := none
  messageText : Option CharacterString := none
  notifyType : Option UInt32 := none
  ackRequired : Option Bool := none
  fromState : Option UInt32 := none
  toState : Option UInt32 := none
  parameters : Option (List Element × NotificationParameters) := none

def contextNumber8 (el : Element) (what : String) : Except Err UInt8 := do
  let u ← contextUnsigned el
  if u.toNat > 0xFF then .error (malformed (what ++ " overflow")) else .ok u.toUInt8

def decodeTimeStampField (el : Element) : Except Err TimeStamp :=
  match el.value.elements with
  | [ts] => decodeTimeStamp ts
  | _ => .error (malformed "TimeStamp wrapper")

def eventNotificationStep (r : EventReader) (el : Element) : Except Err EventReader :=
  if el.tagNumber = 0 ∧ !isContextConstructed el then
    (readField r.processIdentifier "processIdentifier" (contextNumber el "processIdentifier")).map
      fun f => { r with processIdentifier := f }
  else if el.tagNumber = 1 ∧ !isContextConstructed el then
    (readField r.initiatingDevice "initiatingDeviceIdentifier" (contextObjectID el)).map
      fun f => { r with initiatingDevice := f }
  else if el.tagNumber = 2 ∧ !isContextConstructed el then
    (readField r.eventObject "eventObjectIdentifier" (contextObjectID el)).map fun f => { r with eventObject := f }
  else if el.tagNumber = 3 ∧ isContextConstructed el then
    (readField r.timeStamp "timeStamp" (decodeTimeStampField el)).map fun f => { r with timeStamp := f }
  else if el.tagNumber = 4 ∧ !isContextConstructed el then
    (readField r.notificationClass "notificationClass" (contextNumber el "notificationClass")).map
      fun f => { r with notificationClass := f }
  else if el.tagNumber = 5 ∧ !isContextConstructed el then
    (readField r.priority "priority" (contextNumber8 el "priority")).map fun f => { r with priority := f }
  else if el.tagNumber = 6 ∧ !isContextConstructed el then
    (readField r.eventType "eventType" (contextNumber el "eventType")).map fun f => { r with eventType := f }
  else if el.tagNumber = 7 ∧ !isContextConstructed el then
    (readField r.messageText "messageText" (contextCharacterString el)).map fun f => { r with messageText := f }
  else if el.tagNumber = 8 ∧ !isContextConstructed el then
    (readField r.notifyType "notifyType" (contextNumber el "notifyType")).map fun f => { r with notifyType := f }
  else if el.tagNumber = 9 ∧ !isContextConstructed el then
    (readField r.ackRequired "ackRequired" (contextBool el)).map fun f => { r with ackRequired := f }
  else if el.tagNumber = 10 ∧ !isContextConstructed el then
    (readField r.fromState "fromState" (contextNumber el "fromState")).map fun f => { r with fromState := f }
  else if el.tagNumber = 11 ∧ !isContextConstructed el then
    (readField r.toState "toState" (contextNumber el "toState")).map fun f => { r with toState := f }
  else if el.tagNumber = 12 ∧ isContextConstructed el then
    (readField r.parameters "eventValues"
      ((decodeNotificationParameters el.value.elements).map (el.value.elements, ·))).map
        fun f => { r with parameters := f }
  else .error (malformed ("unexpected EventNotification tag " ++ toString el.tagNumber))

/-- The notification, if no required field is missing. -/
def EventReader.finish (r : EventReader) : Except Err EventNotification :=
  match r.processIdentifier, r.initiatingDevice, r.eventObject, r.timeStamp, r.notificationClass, r.priority,
    r.eventType, r.notifyType, r.toState with
  | some pid, some device, some object, some ts, some cls, some priority, some type, some notify, some state =>
    .ok {
      processIdentifier := pid, initiatingDevice := device, eventObject := object, timeStamp := ts
      notificationClass := cls, priority := priority, eventType := type, messageText := r.messageText
      notifyType := notify, ackRequired := r.ackRequired, fromState := r.fromState, toState := state
      notificationParams := r.parameters.map fun p => .constructed p.1
      parameters := r.parameters.map (·.2) }
  | _, _, _, _, _, _, _, _, _ => .error (malformed "EventNotification missing required fields")

def decodeEventNotification (payload : Octets) (limits : DecodeLimits) : Except Err EventNotification := do
  let elements ← parsePayload payload limits "EventNotification"
  let r ← elements.foldlM eventNotificationStep {}
  r.finish

end GoBacnet.Service
