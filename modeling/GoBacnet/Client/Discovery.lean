import GoBacnet.Client.Path
import GoBacnet.Client.Registry
import GoBacnet.Server.Packet
import GoBacnet.Service.Discovery

/-!
# Discovery

How an I-Am reaches the registry: the virtual link function says which node originated a datagram, the network layer
which address it came from. An observation names the target that its device is addressed by, and the capabilities of
a target are looked up in the registry.
-/

namespace GoBacnet.Client

open Apdu Bvlc

/-! ## Inbound announcements -/

structure DiscoveryConfig where
  limits : DecodeLimits := {}
  /-- The broadcast management device of a foreign device. -/
  bbmd : Option Endpoint := none

def npduOrigin (cfg : DiscoveryConfig) (msg : Message) (immediate : Endpoint) : Option Endpoint :=
  if msg.function = functionOriginalUnicastNPDU ∨ msg.function = functionOriginalBroadcastNPDU then some immediate
  else if msg.function = functionForwardedNPDU then
    if cfg.bbmd.any fun bbmd => immediate ≠ bbmd then none else some (Link.origin msg immediate)
  else none

def bipMACAddress (ep : Endpoint) : Option Address := (Link.mac ep).map Address.ofLocalStation

def sourceOf (n : Npdu.NPDU) (origin immediate : Endpoint) : Option PacketSource :=
  if n.source.mac.isZero ∧ n.source.scope = .localStation then
    (bipMACAddress origin).map fun addr => ⟨addr, origin, immediate⟩
  else some ⟨n.source, origin, immediate⟩

/-- The APDU of a datagram and where it came from. -/
def handlePacket (cfg : DiscoveryConfig) (data : Octets) (immediate : Endpoint) : Option (PDU × PacketSource) := do
  let msg ← (Bvlc.parse data cfg.limits).toOption
  let origin ← npduOrigin cfg msg immediate
  guard origin.isValid
  guard (msg.payload ≠ [])
  let (n, _) ← (Npdu.parse msg.payload cfg.limits).toOption
  let src ← sourceOf n origin immediate
  guard (!n.networkMessage ∧ n.apdu ≠ [])
  let pdu ← (Apdu.parse n.apdu cfg.limits).toOption
  return (pdu, src)

def iAmCapabilities (iam : Service.IAm) : DeviceCapabilities where
  maxAPDULengthAccepted := ⟨iam.maxAPDULength, true, .fromIAm⟩
  segmentation := ⟨iam.segmentation, true, .fromIAm⟩
  vendorID := ⟨iam.vendorID, true, .fromIAm⟩

def handleUnconfirmed (cfg : DiscoveryConfig) (req : UnconfirmedRequest) (src : PacketSource) (now : Int) :
    Option DeviceObservation :=
  if req.serviceChoice = Server.serviceIAm then
    (Service.decodeIAm req.payload cfg.limits).toOption.map fun iam =>
      { instanceNumber := iam.device.instanceNumber
        address :=
          if src.bacnetAddress.mac.isZero then (bipMACAddress src.origin).getD src.bacnetAddress else src.bacnetAddress
        origin := src.origin
        immediatePeer := src.immediate
        lastSeen := now
        capabilities := iAmCapabilities iam }
  else none

def observation (cfg : DiscoveryConfig) (data : Octets) (immediate : Endpoint) (now : Int) :
    Option DeviceObservation :=
  match handlePacket cfg data immediate with
  | some (.unconfirmedRequest req, src) => handleUnconfirmed cfg req src now
  | _ => none

structure Datagram where
  order : ObservationOrder
  data : Octets
  immediate : Endpoint
  now : Int

def Registry.receive (cfg : DiscoveryConfig) (r : Registry) (d : Datagram) : Option Registry :=
  match observation cfg d.data d.immediate d.now with
  | some o => some (r.upsert d.order o d.now).1
  | none => some r

/-! ## Targets -/

structure DeviceTarget extends Target where
  maxAPDU : UInt16 := 0
  deriving DecidableEq

/-- The target that addresses an observed device over the path it was seen on. A device seen through a broadcast
management device is addressed directly, one behind a router through the router. -/
def DeviceObservation.target (o : DeviceObservation) : DeviceTarget where
  address := o.address
  endpoint :=
    if o.origin.isValid ∧ o.origin ≠ o.immediatePeer then
      match o.address.scope with
      | .remoteStation | .remoteBroadcast => o.immediatePeer
      | .localStation | .localBroadcast | .globalBroadcast => o.origin
    else o.immediatePeer
  maxAPDU := if o.capabilities.maxAPDULengthAccepted.known then o.capabilities.maxAPDULengthAccepted.value else 0

def Target.describes (target : Target) (o : DeviceObservation) : Bool :=
  !((target.address.scope = .remoteStation || target.address.scope = .localStation) && o.address ≠ target.address) &&
  !(target.endpoint.isValid && o.immediatePeer.isValid && o.immediatePeer ≠ target.endpoint) &&
  !(target.origin.isValid && (!o.origin.isValid || o.origin ≠ target.origin))

def Registry.resolveCapabilities (order : ObservationOrder) (r : Registry) (target : Target) :
    Option DeviceCapabilities :=
  ((order.arrange r.byKey.entries).find? fun e => target.describes e.2).map fun e => e.2.capabilities

def segmentationBoth : UInt8 := 0
def segmentationReceive : UInt8 := 2

def Registry.peerAcceptsSegmentedRequests (order : ObservationOrder) (r : Registry) (target : Target) : Bool :=
  match r.resolveCapabilities order target with
  | none => false
  | some caps =>
    caps.segmentation.known &&
      (caps.segmentation.value = segmentationBoth || caps.segmentation.value = segmentationReceive)

end GoBacnet.Client
