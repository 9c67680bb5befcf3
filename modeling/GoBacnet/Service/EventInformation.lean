import GoBacnet.Service.EventNotification

/-!
# GetEventInformation

The summaries of the objects in an event state, as many as an answer has room for.
-/

namespace GoBacnet.Service

structure EventSummary where
  object : ObjectIdentifier
  eventState : UInt32
  acknowledgedTransitions : BitString
  eventTimeStamps : ApplicationValue
  notifyType : UInt32
  eventEnable : BitString
  eventPriorities : ApplicationValue

structure GetEventInformationACK where
  summaries : List EventSummary
  moreEvents : Bool

def encodeEventSummary (s : EventSummary) : Except Err Octets := do
  if !s.eventTimeStamps.isConstructed then throw (malformed "eventTimeStamps must be constructed")
  if !s.eventPriorities.isConstructed then throw (malformed "eventPriorities must be constructed")
  let sum ← appendContextObjectID [] 0 s.object
  let sum ← appendContextUnsigned sum 1 s.eventState.toUInt64
  let sum ← appendContextBitString sum 2 s.acknowledgedTransitions
  let sum ← appendContextTagged sum 3 s.eventTimeStamps.elements
  let sum ← appendContextUnsigned sum 4 s.notifyType.toUInt64
  let sum ← appendContextBitString sum 5 s.eventEnable
  appendContextTagged sum 6 s.eventPriorities.elements

def encodeGetEventInformationACK (ack : GetEventInformationACK) : Except Err Octets := do
  let dst ← ack.summaries.foldlM (fun dst s => do return dst ++ (← encodeEventSummary s)) [0x0E]
  appendContextBool (dst ++ [0x0F]) 1 ack.moreEvents

end GoBacnet.Service
