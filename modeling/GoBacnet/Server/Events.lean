import GoBacnet.Server.Packet
import GoBacnet.Service.Discovery

/-!
# Recipients of event notifications

The addresses of devices are learnt from their I-Am, those of remote networks from the routes.
-/

namespace GoBacnet

def Link.endpoint (mac : Octets) : Option Endpoint :=
  match mac with
  | [a, b, c, d, hi, lo] => some ⟨.v4 a b c d, BigEndian.uint16 hi lo⟩
  | _ => none

def Address.isBroadcast (a : Address) : Bool :=
  match a.scope with
  | .localBroadcast | .remoteBroadcast | .globalBroadcast => true
  | .localStation | .remoteStation => false

namespace Server

/-- The bound of the address cache that is filled from I-Am. -/
def maxBindings : Nat := 256

/-- Where a device is: the B/IP node that its messages go to, and its address behind it. -/
structure Binding where
  node : Endpoint
  addr : Address
  deriving DecidableEq

abbrev Bindings := AList fun _ : UInt32 => Binding

/-- Records the address of a device that announced itself. -/
def iAm (s : Settings) (bindings : Bindings) (req : Apdu.UnconfirmedRequest) (p : Peer) : Bindings :=
  match Service.decodeIAm req.payload s.cfg.limits with
  | .error _ => bindings
  | .ok r =>
    if r.device.type ≠ objectTypeDevice ∨ r.device = s.device then bindings
    else if r.device.instanceNumber ∉ bindings ∧ bindings.entries.length ≥ maxBindings then bindings
    else bindings.insert r.device.instanceNumber { node := p.immediate, addr := p.source }

def executeUnconfirmed (s : Settings) (bindings : Bindings) (req : Apdu.UnconfirmedRequest) (p : Peer) : Bindings :=
  if req.serviceChoice = serviceIAm then iAm s bindings req p else bindings

inductive Recipient
  | device (instanceNumber : UInt32)
  | address (addr : Option Address)
  deriving DecidableEq

/-- What the server broadcasts to find a recipient. -/
inductive Query
  | whoIs (instanceNumber : UInt32)
  | whoIsRouterToNetwork (network : UInt16)
  deriving DecidableEq, Repr

/-- Where a notification goes, if that is known. -/
structure Resolution where
  node : Endpoint
  dest : Address
  broadcast : Bool
  deriving DecidableEq

/-- Finds where a recipient is. A device that is not bound yet is asked for, and the notification skipped. -/
def resolve (bindings : Bindings) (routes : Routes) (confirmed : Bool) :
    Recipient → Option Resolution × Option Query
  | .device instanceNumber =>
    match bindings.lookup instanceNumber with
    | some b => (some ⟨b.node, b.addr, false⟩, none)
    | none => (none, some (.whoIs instanceNumber))
  | .address none => (none, none)
  | .address (some addr) =>
    -- A remote or global broadcast goes out as a local broadcast with its DNET.
    if addr.isBroadcast then (some ⟨{}, addr, true⟩, none)
    else if addr.scope = .remoteStation then
      match routes.lookup addr.network with
      | some router => (some ⟨router, addr, false⟩, none)
      | none =>
        (if confirmed then none else some ⟨{}, addr, true⟩, some (.whoIsRouterToNetwork addr.network))
    else ((Link.endpoint addr.mac.octets).map fun node => ⟨node, addr, false⟩, none)

end Server

end GoBacnet
