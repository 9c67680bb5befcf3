import GoBacnet.Server.ObjectTable
import GoBacnet.Service.EventInformation

/-!
# Event information of a device

GetEventInformation lists the objects in an event state, or with a transition that is not acknowledged, in the order
of their identifiers. A requester goes on after the last object it received.
-/

namespace GoBacnet.Server

open Service

structure EventInfo where
  object : ObjectIdentifier
  eventState : UInt32
  /-- The transitions that are acknowledged, one bit each. -/
  acked : UInt8
  timeStamps : Option DateTime × Option DateTime × Option DateTime
  notifyType : UInt32
  eventEnable : UInt8
  notificationClass : UInt32

def eventStateNormal : UInt32 := 0

def ObjectIdentifier.less (a b : ObjectIdentifier) : Bool :=
  if a.type ≠ b.type then a.type < b.type else a.instanceNumber < b.instanceNumber

variable {β : Type}

def ObjectTable.objectIdentifiers (d : ObjectTable β) : List ObjectIdentifier :=
  d.device :: (d.objects.keys.filter (· ≠ d.device)).mergeSort fun a b => !ObjectIdentifier.less b a

structure EventModel (β : Type) where
  eventInfo : Obj β → Option EventInfo
  priorities : UInt32 → UInt8 × UInt8 × UInt8

/-- The event status of every reporting object, in object order. -/
def eventInfos (env : EventModel β) (d : ObjectTable β) : List EventInfo :=
  d.objectIdentifiers.filterMap fun id => (d.objects.lookup id).bind env.eventInfo

def transitionBits (mask : UInt8) : BitString :=
  let bit (i : UInt8) : UInt8 := if mask &&& (1 <<< i) ≠ 0 then 0x80 >>> i else 0
  { unusedBits := 5, bytes := [bit 0 ||| bit 1 ||| bit 2] }

/-- The date and time that stand for a transition that has not happened. -/
def unspecified : DateTime := ⟨⟨0xFF, 0xFF, 0xFF, 0xFF⟩, ⟨0xFF, 0xFF, 0xFF, 0xFF⟩⟩

def stampElement (t : Option DateTime) : Element :=
  let read := do
    let raw ← encodeTimeStamp (.dateTime (t.getD unspecified))
    parseSequence raw defaultDecodeLimits (-1)
  match read with
  | .ok (el :: _, _) => el
  | _ => .app 0 .null

def eventSummary (env : EventModel β) (info : EventInfo) : EventSummary :=
  let (s0, s1, s2) := info.timeStamps
  let (p0, p1, p2) := env.priorities info.notificationClass
  { object := info.object, eventState := info.eventState, acknowledgedTransitions := transitionBits info.acked
    eventTimeStamps := .constructed [stampElement s0, stampElement s1, stampElement s2]
    notifyType := info.notifyType, eventEnable := transitionBits info.eventEnable
    eventPriorities := .constructed
      [.app 0 (.unsigned p0.toUInt64), .app 0 (.unsigned p1.toUInt64), .app 0 (.unsigned p2.toUInt64)] }

def EventInfo.listed (info : EventInfo) : Bool := !(info.eventState = eventStateNormal && info.acked = 7)

def afterLast : Option ObjectIdentifier → List EventInfo → List EventInfo
  | none, infos => infos
  | some last, infos => (infos.dropWhile (·.object ≠ last)).drop 1

/-- The answer with the first `n` summaries, or with fewer while it exceeds the budget. -/
def eventPage (budget : Int) (all : List EventSummary) : Nat → Except Err (GetEventInformationACK × Octets)
  | 0 => do
    let ack : GetEventInformationACK := { summaries := [], moreEvents := 0 < all.length }
    return (ack, ← encodeGetEventInformationACK ack)
  | n + 1 => do
    let ack : GetEventInformationACK := { summaries := all.take (n + 1), moreEvents := n + 1 < all.length }
    let payload ← encodeGetEventInformationACK ack
    if payload.length ≤ budget then return (ack, payload) else eventPage budget all n

/-- GetEventInformation after the last object received. Next to the payload stands the answer that it encodes. -/
def getEventInformation (env : EventModel β) (d : ObjectTable β) (budget : Int) (last : Option ObjectIdentifier) :
    Except Err (GetEventInformationACK × Octets) :=
  let all := ((afterLast last (eventInfos env d)).filter EventInfo.listed).map (eventSummary env)
  eventPage budget all all.length

end GoBacnet.Server

namespace GoBacnet.Client

open Service

/-- Asks for the next page after the last object of the one before, at most `pages` times. -/
def eventPages {ε : Type} (ask : Option ObjectIdentifier → Except ε GetEventInformationACK) :
    Nat → Option ObjectIdentifier → Except ε (List GetEventInformationACK)
  | 0, _ => .ok []
  | pages + 1, last => do
    let ack ← ask last
    match ack.moreEvents, ack.summaries.getLast? with
    | true, some s => return ack :: (← eventPages ask pages (some s.object))
    | _, _ => return [ack]

end GoBacnet.Client
