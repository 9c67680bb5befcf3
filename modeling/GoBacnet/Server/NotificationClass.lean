import GoBacnet.Address
import GoBacnet.Server.ListProperty
import GoBacnet.Server.Point

/-!
# Notification Class objects

A Notification Class holds the priorities and the recipients of event notifications. A recipient list on the wire is
flat: seven elements for each destination, with nothing between them.
-/

namespace GoBacnet.Server

def objectTypeNotificationClass : UInt16 := 15

def propertyAckRequired : UInt32 := 1
def propertyPriority : UInt32 := 86
def propertyRecipientList : UInt32 := 102

/-- A recipient of notifications: a device, or an address that is a broadcast if its MAC is empty. -/
structure Destination where
  /-- Bit 0 is Monday, bit 6 Sunday. -/
  validDays : UInt8 := 0
  fromTime : Time
  toTime : Time
  device : Option ObjectIdentifier := none
  network : UInt16 := 0
  mac : Octets := []
  processID : UInt32 := 0
  confirmed : Bool := false
  transitions : UInt8 := 0
  deriving DecidableEq, Repr

namespace Destination

def recipient (d : Destination) : Element :=
  match d.device with
  | some id => elementOrZero do
      let raw ← appendContextObjectID [] 0 id
      let (el, _) ← parseTag raw defaultDecodeLimits
      return el
  | none => .ctxConstructed 1 [.app 0 (.unsigned d.network.toUInt64), .app 0 (.octetString d.mac)]

def elements (d : Destination) : List Element :=
  [.app 0 (maskBits 7 d.validDays), .app 0 (.time d.fromTime), .app 0 (.time d.toTime), d.recipient,
    .app 0 (.unsigned d.processID.toUInt64), .app 0 (.boolean d.confirmed), .app 0 (maskBits 3 d.transitions)]

def equal (d o : Destination) : Bool := d = o

end Destination

/-- Reads the recipient of a destination: a device, or a network and a MAC. -/
def parseRecipient (r : Element) : Option (Option ObjectIdentifier × UInt16 × Octets) :=
  if r.context && r.tagNumber == 0 && !isContextConstructed r then
    (contextObjectID r).toOption.map fun id => (some id, 0, [])
  else if r.context && r.tagNumber == 1 && isContextConstructed r then
    match r.value.elements with
    | [.mk false _ _ _ (.unsigned network), .mk false _ _ _ (.octetString mac)] =>
      if network > 0xFFFF then none
      else if mac.length > 0 ∧ !(newMAC mac).isOk then none
      else some (none, network.toUInt16, mac)
    | _ => none
  else none

def parseDestination (e : List Element) : Option Destination :=
  match e with
  | [.mk false _ _ _ (.bitString days), .mk false _ _ _ (.time fromTime), .mk false _ _ _ (.time toTime), r,
      .mk false _ _ _ (.unsigned pid), .mk false _ _ _ (.boolean confirmed), .mk false _ _ _ (.bitString transitions)] =>
    if pid > 0xFFFFFFFF then none
    else (parseRecipient r).map fun (device, network, mac) =>
      { validDays := bitsOf days 7, fromTime, toTime, device, network, mac, processID := pid.toUInt32, confirmed
        transitions := bitsOf transitions 3 }
  | _ => none

/-- Reads destinations of which `i` were read before. -/
def parseDestinationsFrom (i : Nat) : List Element → Except ListError (List Destination)
  | e₀ :: e₁ :: e₂ :: e₃ :: e₄ :: e₅ :: e₆ :: rest =>
    match parseDestination [e₀, e₁, e₂, e₃, e₄, e₅, e₆] with
    | none => .error ⟨.invalidDataType, some (UInt32.ofNat (i + 1))⟩
    | some d => (parseDestinationsFrom (i + 1) rest).map (d :: ·)
  | _ => .ok []

/-- Reads a list of destinations, or finds the first one that is not valid. -/
def parseDestinations (els : List Element) : Except ListError (List Destination) :=
  if els.length % 7 ≠ 0 then .error ⟨.invalidDataType, some (UInt32.ofNat (els.length / 7 + 1))⟩
  else parseDestinationsFrom 0 els

/-! ## The object -/

structure NotificationClassState where
  maxRecipients : Nat
  /-- The priorities of notifications of transitions to an off-normal state, to FAULT and to NORMAL. -/
  priority : Vector UInt8 3
  ackReq : UInt8
  recipients : List Destination

abbrev NotificationClass := Base NotificationClassState

namespace NotificationClassState

def priorityOf : ApplicationValue → Except ObjectErr UInt8
  | .unsigned u => if u > 255 then .error .valueOutOfRange else .ok u.toUInt8
  | _ => .error .invalidDataType

def writePriority : Setter NotificationClassState := fun w s =>
  match w.property.arrayIndex with
  | some i =>
    if i = 0 ∨ i > 3 then .error .invalidArrayIndex
    else do
      let p ← priorityOf w.value
      return ({ s with priority := s.priority.setIfInBounds (i.toNat - 1) p }, [propertyPriority])
  | none =>
    match w.value with
    | .constructed [e₁, e₂, e₃] =>
      if e₁.context || e₂.context || e₃.context then .error .invalidDataType
      else do
        let priority := #v[← priorityOf e₁.value, ← priorityOf e₂.value, ← priorityOf e₃.value]
        return ({ s with priority }, [propertyPriority])
    | _ => .error .invalidDataType

def writeAckRequired : Setter NotificationClassState :=
  scalarSetter fun v s =>
    match v with
    | .bitString bs => .ok ({ s with ackReq := bitsOf bs 3 }, [propertyAckRequired])
    | _ => .error .invalidDataType

def recipientList (s : NotificationClassState) : ApplicationValue := .constructed (s.recipients.flatMap (·.elements))

def writeRecipientList : Setter NotificationClassState :=
  scalarSetter fun v s =>
    if v.kind ≠ .constructed then .error .invalidDataType
    else
      match parseDestinations v.elements with
      | .error e => .error e.err
      | .ok ds =>
        if ds.length > s.maxRecipients then .error .noSpaceToWriteProperty
        else .ok ({ s with recipients := ds }, [propertyRecipientList])

end NotificationClassState

def recipientListProperty : Property NotificationClassState where
  writable := true
  get := .state NotificationClassState.recipientList
  set := some NotificationClassState.writeRecipientList

structure NotificationClassConfig where
  instanceNumber : UInt32
  name : Octets
  description : Octets := []
  priority : Option (Vector UInt8 3) := none
  ackRequired : UInt8 := 0
  recipients : List Destination := []
  maxRecipients : Int := 0

def newNotificationClass (cfg : NotificationClassConfig) : Except ObjectErr NotificationClass :=
  let maxRecipients := if cfg.maxRecipients ≤ 0 then 32 else cfg.maxRecipients.toNat
  if cfg.name = [] then .error (.plain "object: object name required")
  else if cfg.instanceNumber ≥ maxObjectInstance then
    .error (.plain ("object: instance " ++ toString cfg.instanceNumber ++ " out of range"))
  else if cfg.recipients.length > maxRecipients then
    .error (.plain ("object: " ++ toString cfg.recipients.length ++ " recipients, at most " ++ toString maxRecipients))
  else
    let nc : NotificationClass := Base.new ⟨objectTypeNotificationClass, cfg.instanceNumber⟩ cfg.name
      { maxRecipients, priority := cfg.priority.getD #v[255, 255, 255], ackReq := cfg.ackRequired &&& 7
        recipients := cfg.recipients }
    let nc := if cfg.description = [] then nc else nc.define propertyDescription (textProperty cfg.description)
    let nc := nc.define propertyNotificationClass { value := .unsigned cfg.instanceNumber.toUInt64 }
    let nc := nc.define propertyPriority
      { array := true, writable := true, set := some NotificationClassState.writePriority
        get := .state fun s => .constructed (s.priority.toList.map fun p => .app 0 (.unsigned p.toUInt64)) }
    let nc := nc.define propertyAckRequired
      { writable := true, get := .state fun s => maskBits 3 s.ackReq
        set := some NotificationClassState.writeAckRequired }
    .ok (nc.define propertyRecipientList recipientListProperty)

namespace NotificationClass

def addListElements (nc : NotificationClass) (prop : PropertyReference) (els : List Element) :
    NotificationClass × Except ListError Unit × List Change :=
  modifyList nc propertyRecipientList prop els parseDestinations fun s add =>
    (addItems Destination.equal s.maxRecipients add s.recipients).map fun recipients =>
      ({ s with recipients }, [propertyRecipientList])

def removeListElements (nc : NotificationClass) (prop : PropertyReference) (els : List Element) :
    NotificationClass × Except ListError Unit × List Change :=
  modifyList nc propertyRecipientList prop els parseDestinations fun s remove =>
    (removeItems Destination.equal remove s.recipients).map fun recipients =>
      ({ s with recipients }, [propertyRecipientList])

end NotificationClass

end GoBacnet.Server
