import GoBacnet.Value

/-!
# Addresses

BACnet network addresses and BACnet/IP endpoints.
-/

namespace GoBacnet

def maxMACLength : Nat := 7

/-- A BACnet MAC address of at most seven octets. -/
structure MAC where
  octets : Octets
  length_le : octets.length ≤ maxMACLength
  deriving DecidableEq

namespace MAC

def empty : MAC := ⟨[], by decide⟩

def isZero (m : MAC) : Bool := m.octets.length == 0

end MAC

def newMAC (b : Octets) : Except Err MAC :=
  if h : b.length > maxMACLength then
    .error (malformed ("MAC length " ++ toString b.length ++ " exceeds " ++ toString maxMACLength))
  else .ok ⟨b, Nat.le_of_not_lt h⟩

inductive AddressScope
  | localStation
  | localBroadcast
  | remoteStation
  | remoteBroadcast
  | globalBroadcast
  deriving DecidableEq, Repr

/-- A data-link-independent BACnet network address. -/
structure Address where
  network : UInt16 := 0
  mac : MAC := MAC.empty
  scope : AddressScope := .localStation
  deriving DecidableEq

namespace Address

def ofLocalStation (mac : MAC) : Address := { scope := .localStation, mac }

def ofLocalBroadcast : Address := { scope := .localBroadcast }

def ofRemoteStation (network : UInt16) (mac : MAC) : Address := { scope := .remoteStation, network, mac }

def ofRemoteBroadcast (network : UInt16) : Address := { scope := .remoteBroadcast, network }

def ofGlobalBroadcast : Address := { scope := .globalBroadcast }

end Address

inductive IPAddr
  | none
  | v4 (a b c d : UInt8)
  | v6 (hi lo : UInt64) (zone : String)
  deriving DecidableEq, Repr

structure Endpoint where
  addr : IPAddr := .none
  port : UInt16 := 0
  deriving DecidableEq, Repr

def Endpoint.isValid (e : Endpoint) : Bool :=
  match e.addr with
  | .v4 .. => true
  | _ => false

namespace Link

/-- The six-octet B/IP MAC address of a valid endpoint. -/
def mac (ep : Endpoint) : Option MAC :=
  match ep.addr with
  | .v4 a b c d => some ⟨[a, b, c, d, (ep.port >>> 8).toUInt8, ep.port.toUInt8], by simp [maxMACLength]⟩
  | _ => none

end Link

end GoBacnet
