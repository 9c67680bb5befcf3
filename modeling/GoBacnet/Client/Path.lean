import GoBacnet.Client.SegmentReceive

/-!
# Response paths

Responses are only accepted from the path that the target of a request describes.
-/

namespace GoBacnet.Client

/-- A remote device: its address, the immediate B/IP peer, and the forwarded origin if one is
expected. -/
structure Target where
  address : Address
  endpoint : Endpoint
  origin : Endpoint := {}
  deriving DecidableEq

def normalizeTarget (target : Target) : Except Err Target :=
  if !target.endpoint.isValid then .error (malformed "target endpoint is not a valid IPv4 address and port")
  else if target.address.scope = .localStation && target.address.mac.isZero then
    match Link.mac target.endpoint with
    | some mac => .ok { target with address := .ofLocalStation mac }
    | none => .error (malformed "target endpoint has no BACnet/IP MAC")
  else .ok target

/-- The endpoint check of every path: it only fails for two valid endpoints that differ. -/
def matchImmediate (target : Target) (src : PacketSource) : Bool :=
  !(target.endpoint.isValid && src.immediate.isValid && target.endpoint != src.immediate)

/-- Whether `src` is an acceptable path for traffic that should come from `target`. -/
def matchTargetSource (target : Target) (src : PacketSource) : Bool :=
  match target.address.scope with
  | .remoteStation | .remoteBroadcast =>
    src.bacnetAddress == target.address && matchImmediate target src
  | .localStation | .localBroadcast | .globalBroadcast =>
    -- A forwarded NPDU must come from the claimed origin by the expected BBMD.
    if target.origin.isValid then
      src.origin.isValid && target.origin == src.origin && matchImmediate target src
    else if (src.bacnetAddress.scope == .localStation || src.bacnetAddress.scope == .remoteStation) &&
        src.bacnetAddress != target.address then false
    else matchImmediate target src

end GoBacnet.Client
