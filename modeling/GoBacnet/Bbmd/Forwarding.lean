import GoBacnet.Bbmd
import GoBacnet.Lib.Table

/-!
# What a broadcast management device forwards

The broadcast distribution table, the foreign device table with its lazily purged registrations, and what the device
sends for each message. Times are in nanoseconds.
-/

namespace GoBacnet.Bbmd

open BigEndian Bvlc

def second : Int := 1000000000

def gracePeriod : Int := 30 * second

structure BDTEntry where
  endpoint : Endpoint
  mask : IPv4
  deriving DecidableEq, Repr

structure FDTEntry where
  address : Endpoint
  ttl : UInt16
  remaining : UInt16
  deriving DecidableEq, Repr

/-- A registration of a foreign device. -/
structure Foreign where
  ttl : UInt16
  expires : Int
  deriving DecidableEq, Repr

structure OutboundPacket where
  data : Octets
  destination : Endpoint := {}
  broadcast : Bool := false
  deriving DecidableEq, Repr

/-- A broadcast management device with its tables. -/
structure Node where
  self : Endpoint
  max : Nat := 128
  reject : Bool := false
  bdt : List BDTEntry := []
  fdt : Table Endpoint Foreign := ∅

/-- Addresses are ordered by kind, address and port. -/
def sortKey (ep : Endpoint) : List Nat :=
  match ep.addr with
  | .none => [0, ep.port.toNat]
  | .v4 a b c d => [32, a.toNat, b.toNat, c.toNat, d.toNat, ep.port.toNat]
  | .v6 hi lo zone => [128, hi.toNat, lo.toNat] ++ zone.toList.map (fun c => c.toNat + 1) ++ [0, ep.port.toNat]

/-- The seconds left, rounded up. -/
def remaining (now expires : Int) : UInt16 := UInt16.ofNat (min ((expires - now + second - 1) / second) 0xFFFF).toNat

def Foreign.entry (now : Int) (ep : Endpoint) (f : Foreign) : FDTEntry where
  address := ep
  ttl := f.ttl
  remaining := Bbmd.remaining now f.expires

/-- The address that a peer gets forwarded broadcasts at: its own ORed with the inverted mask. -/
def forwardAddress (e : BDTEntry) : Endpoint :=
  match e.endpoint.addr with
  | .v4 a b c d => ⟨.v4 (a ||| ~~~e.mask.a) (b ||| ~~~e.mask.b) (c ||| ~~~e.mask.c) (d ||| ~~~e.mask.d), e.endpoint.port⟩
  | _ => e.endpoint

def oneHop (e : BDTEntry) : Bool := e.mask = ⟨0xFF, 0xFF, 0xFF, 0xFF⟩

def forwarded (origin : Endpoint) (npdu : Octets) : Except Err Octets :=
  match origin.addr with
  | .v4 a b c d =>
    Bvlc.append [] { function := functionForwardedNPDU, originIP := ⟨a, b, c, d⟩, originPort := origin.port
                     payload := npdu }
  | _ => .error (malformed "origin is not an IPv4 endpoint")

def endpointOctets (ep : Endpoint) : Option Octets :=
  match ep.addr with
  | .v4 a b c d => some ([a, b, c, d] ++ octets16 ep.port)
  | _ => none

def scanMask (seenZero : Bool) : List Bool → Bool
  | [] => true
  | false :: bits => scanMask true bits
  | true :: bits => !seenZero && scanMask seenZero bits

/-- Whether the ones of a mask are all before its zeros. -/
def contiguous (mask : IPv4) : Bool :=
  scanMask false ([mask.a, mask.b, mask.c, mask.d].flatMap fun o =>
    [7, 6, 5, 4, 3, 2, 1, 0].map fun i => (o >>> i) &&& 1 = 1)

def encodeBDTEntries (entries : List BDTEntry) : Except Err Octets := do
  let parts ← entries.zipIdx.mapM fun (e, i) =>
    match endpointOctets e.endpoint with
    | none => .error (malformed ("BDT entry " ++ toString i ++ " invalid endpoint"))
    | some enc =>
      if contiguous e.mask then .ok (enc ++ [e.mask.a, e.mask.b, e.mask.c, e.mask.d])
      else .error (malformed ("BDT entry " ++ toString i ++ " non-contiguous mask"))
  return parts.flatten

def encodeFDTEntries (entries : List FDTEntry) : Except Err Octets := do
  let parts ← entries.zipIdx.mapM fun (e, i) =>
    match endpointOctets e.address with
    | none => .error (malformed ("FDT entry " ++ toString i ++ " invalid address"))
    | some enc => .ok (enc ++ octets16 e.ttl ++ octets16 e.remaining)
  return parts.flatten

def decodeDeleteFDTEntry (payload : Octets) : Except Err Endpoint :=
  match payload with
  | [a, b, c, d, hi, lo] => .ok ⟨.v4 a b c d, uint16 hi lo⟩
  | _ => .error (malformed "Delete-FDT length")

/-- What handling a message does: the packets sent, whether the NPDU is also for the local device and as whose, and the
device afterwards. -/
structure Outcome where
  sent : List OutboundPacket := []
  deliver : Bool := false
  origin : Endpoint := {}
  bbmd : Node

namespace Node

variable (b : Node) (now : Int)

def purge : Node := { b with fdt := Table.retain (fun _ f => now < f.expires) b.fdt }

/-- The live registrations in the order of their addresses; the expired ones are dropped. -/
def fdtLocked : List FDTEntry × Node :=
  (((b.purge now).fdt.entries.map fun e => e.2.entry now e.1).insertionSort
    fun x y => sortKey x.address ≤ sortKey y.address, b.purge now)

def peerDestinations (origin : Endpoint) : List Endpoint :=
  (b.bdt.filter fun e => !(forwardAddress e = b.self || e.endpoint = b.self || forwardAddress e = origin)).map
    forwardAddress

def foreignDestinations (origin : Endpoint) : List Endpoint :=
  ((b.fdtLocked now).1.map FDTEntry.address).filter fun ep => !(ep = origin || ep = b.self)

def distribute (origin : Endpoint) (npdu : Octets) (peers : Bool) : List OutboundPacket × Node :=
  match forwarded origin npdu with
  | .error _ => ([], b)
  | .ok frame =>
    let dests := (if peers then b.peerDestinations origin else []) ++ b.foreignDestinations now origin
    (dests.map fun destination => { data := frame, destination }, (b.fdtLocked now).2)

def result (destination : Endpoint) (code : UInt16) : List OutboundPacket :=
  match Bvlc.append [] { function := functionResult, resultCode := code } with
  | .error _ => []
  | .ok frame => [{ data := frame, destination }]

/-- The answer with a table, or the refusal if the table cannot be encoded. -/
def tableAck (destination : Endpoint) (fn : Function) (body : Except Err Octets) (nak : UInt16) : List OutboundPacket :=
  match body >>= fun body => Bvlc.append [] { function := fn, payload := body } with
  | .error _ => result destination nak
  | .ok frame => [{ data := frame, destination }]

def isPeerOneHop (sender : Endpoint) : Bool :=
  b.bdt.any fun e => e.endpoint = sender && e.endpoint ≠ b.self && oneHop e

def registered (ep : Endpoint) : Bool := (b.fdt.lookup ep).any fun f => now < f.expires

def register (ep : Endpoint) (ttl : UInt16) : UInt16 × Node :=
  if b.reject then (resultRegisterForeignDeviceNAK, b)
  else
    let b := b.purge now
    if ep ∉ b.fdt ∧ Table.size b.fdt ≥ b.max then (resultRegisterForeignDeviceNAK, b)
    else
      (resultSuccessfulCompletion,
        { b with fdt := b.fdt.insert ep { ttl, expires := now + ttl.toNat * second + gracePeriod } })

def delete (ep : Endpoint) : Bool × Node :=
  if ep ∉ b.fdt then (false, b) else (true, { b with fdt := b.fdt.erase ep })

/-- Handles a message. The clock is read at `now`, and once more at `later` for the foreign devices that a broadcast is
distributed to. -/
def handleBVLC (later : Int) (msg : Message) (sender : Endpoint) : Outcome :=
  -- A broadcast of its own that looped back.
  if sender = b.self then { bbmd := b }
  else
    match msg.function with
    | functionOriginalBroadcastNPDU =>
      if confirmedRequest msg.payload then { bbmd := b }
      else
        let (sent, b) := b.distribute later sender msg.payload true
        { sent, deliver := true, origin := sender, bbmd := b }
    | functionForwardedNPDU =>
      let origin := msg.originAddrPort.getD {}
      if origin = b.self then { bbmd := b }
      else
        let rebroadcast :=
          if b.isPeerOneHop sender then
            match forwarded origin msg.payload with
            | .error _ => []
            | .ok frame => [{ data := frame, broadcast := true }]
          else []
        let (sent, b) := b.distribute later origin msg.payload false
        { sent := rebroadcast ++ sent, deliver := true, origin, bbmd := b }
    | functionDistributeBroadcastToNetwork =>
      -- An unregistered sender is refused.
      if !b.registered now sender ∨ confirmedRequest msg.payload then
        { sent := result sender resultDistributeBroadcastToNetworkNAK, bbmd := b }
      else
        match forwarded sender msg.payload with
        | .error _ => { sent := result sender resultDistributeBroadcastToNetworkNAK, bbmd := b }
        | .ok frame =>
          let (sent, b) := b.distribute later sender msg.payload true
          { sent := { data := frame, broadcast := true } :: sent, deliver := true, origin := sender, bbmd := b }
    | functionRegisterForeignDevice =>
      let (code, b) := b.register now sender msg.ttl
      { sent := result sender code, bbmd := b }
    | functionReadBroadcastDistributionTable =>
      { sent := tableAck sender functionReadBroadcastDistributionTableAck (encodeBDTEntries b.bdt)
          resultReadBroadcastDistributionTableNAK
        bbmd := b }
    | functionWriteBroadcastDistributionTable =>
      { sent := result sender resultWriteBroadcastDistributionTableNAK, bbmd := b }
    | functionReadForeignDeviceTable =>
      let (entries, b) := b.fdtLocked now
      { sent := tableAck sender functionReadForeignDeviceTableAck (encodeFDTEntries entries)
          resultReadForeignDeviceTableNAK
        bbmd := b }
    | functionDeleteForeignDeviceTableEntry =>
      match decodeDeleteFDTEntry msg.payload with
      | .error _ => { sent := result sender resultDeleteForeignDeviceTableEntryNAK, bbmd := b }
      | .ok ep =>
        let (deleted, b) := b.delete ep
        { sent := result sender
            (if deleted then resultSuccessfulCompletion else resultDeleteForeignDeviceTableEntryNAK)
          bbmd := b }
    -- Original-Unicast-NPDU, BVLC-Result and the table ACKs are no functions of the device.
    | _ => { bbmd := b }

/-- A broadcast of the local device, which also goes to the peers and the foreign devices. -/
def localBroadcast (npdu : Octets) : List OutboundPacket × Node := b.distribute now b.self npdu true

end Node

end GoBacnet.Bbmd
