import GoBacnet.Address
import GoBacnet.Lib.BigEndian

/-!
# NPDU framing

The network layer: a version, a control octet that says which fields follow, the destination and the source
on other networks, the hop count, and a network message or an APDU. The decoder is strict about reserved
control bits, network numbers and the payload of router messages.
-/

namespace GoBacnet.Npdu

open BigEndian

def version1 : UInt8 := 1

def controlNetworkMessage : UInt8 := 0x80
def controlDestinationSpec : UInt8 := 0x20
def controlSourceSpec : UInt8 := 0x08
def controlExpectingReply : UInt8 := 0x04
def controlPriorityMask : UInt8 := 0x03

/-- Bits that are zero on the wire. -/
def controlReservedBits : UInt8 := 0x40 ||| 0x10

/-! Network message types with a checked payload -/

@[match_pattern] abbrev netMsgIAmRouterToNetwork : UInt8 := 0x01
@[match_pattern] abbrev netMsgICouldBeRouterToNetwork : UInt8 := 0x02
@[match_pattern] abbrev netMsgRejectMessageToNetwork : UInt8 := 0x03
@[match_pattern] abbrev netMsgRouterBusyToNetwork : UInt8 := 0x04
@[match_pattern] abbrev netMsgRouterAvailableToNetwork : UInt8 := 0x05
@[match_pattern] abbrev netMsgNetworkNumberIs : UInt8 := 0x13

/-- A network PDU. A network message carries `netMsgType` and `netMsgData`, any other an APDU. -/
@[ext]
structure NPDU where
  version : UInt8 := 0
  control : UInt8 := 0
  destination : Address := {}
  source : Address := {}
  hopCount : UInt8 := 0
  networkMessage : Bool := false
  netMsgType : UInt8 := 0
  netMsgData : Octets := []
  apdu : Octets := []
  expectingReply : Bool := false
  priority : UInt8 := 0
  deriving DecidableEq

/-! ## Decoding -/

def decodeNetworkList (data : Octets) : Except Err (List UInt16) :=
  match data with
  | [] => .ok []
  | [_] => .error (malformed "odd network list length")
  | hi :: lo :: rest => do
    -- The length is checked before any network number.
    if rest.length % 2 ≠ 0 then throw (malformed "odd network list length")
    if uint16 hi lo = 0 then throw (malformed "network number 0 in list")
    let out ← decodeNetworkList rest
    return uint16 hi lo :: out

def decodeRejectMessageToNetwork (data : Octets) : Except Err (UInt8 × UInt16) :=
  match data with
  | [reason, hi, lo] => .ok (reason, uint16 hi lo)
  | _ =>
    if data.length < 3 then .error (malformed "Reject-Message-To-Network truncated")
    else .error (trailingData "Reject-Message-To-Network trailing")

def decodeICouldBeRouterToNetwork (data : Octets) : Except Err (UInt16 × UInt8) :=
  match data with
  | [hi, lo, perf] => .ok (uint16 hi lo, perf)
  | _ =>
    if data.length < 3 then .error (malformed "I-Could-Be-Router-To-Network truncated")
    else .error (trailingData "I-Could-Be-Router-To-Network trailing")

def validateNetworkMessageData (msgType : UInt8) (data : Octets) : Except Err Unit :=
  match msgType with
  | netMsgIAmRouterToNetwork | netMsgRouterAvailableToNetwork | netMsgRouterBusyToNetwork => do
    let _ ← decodeNetworkList data
  | netMsgRejectMessageToNetwork => do
    let _ ← decodeRejectMessageToNetwork data
  | netMsgICouldBeRouterToNetwork => do
    let _ ← decodeICouldBeRouterToNetwork data
  | netMsgNetworkNumberIs =>
    if data.length < 2 then .error (malformed "Network-Number-Is truncated") else .ok ()
  | _ => .ok ()

def parseDestination (data : Octets) : Except Err (Address × Octets) :=
  match data with
  | [] | [_] => .error (malformed "DNET truncated")
  | [_, _] => .error (malformed "DLEN truncated")
  | hi :: lo :: dlen :: rest => do
    let dnet := uint16 hi lo
    if dlen.toNat > maxMACLength then throw (malformed ("DLEN " ++ toString dlen))
    if dlen.toNat > rest.length then throw (malformed "DADR truncated")
    let mac ← newMAC (rest.take dlen.toNat)
    let rest := rest.drop dlen.toNat
    if dnet = 0xFFFF then
      if dlen ≠ 0 then throw (malformed "global broadcast with non-zero DLEN")
      return (.ofGlobalBroadcast, rest)
    if dlen = 0 then
      if dnet = 0 then throw (malformed "remote broadcast DNET 0")
      return (.ofRemoteBroadcast dnet, rest)
    if dnet = 0 then throw (malformed "remote station DNET 0")
    return (.ofRemoteStation dnet mac, rest)

def parseSource (data : Octets) : Except Err (Address × Octets) :=
  match data with
  | [] | [_] => .error (malformed "SNET truncated")
  | [_, _] => .error (malformed "SLEN truncated")
  | hi :: lo :: slen :: rest => do
    let snet := uint16 hi lo
    if slen = 0 ∨ slen.toNat > maxMACLength then throw (malformed ("SLEN " ++ toString slen))
    if slen.toNat > rest.length then throw (malformed "SADR truncated")
    let mac ← newMAC (rest.take slen.toNat)
    let rest := rest.drop slen.toNat
    -- The global broadcast network number is never a source.
    if snet = 0xFFFF then throw (malformed "SNET 0xFFFF")
    if snet = 0 then return (.ofLocalStation mac, rest)
    return (.ofRemoteStation snet mac, rest)

def parseHopCount (data : Octets) : Except Err (UInt8 × Octets) :=
  match data with
  | [] => .error (malformed "hop count truncated")
  | hop :: rest => .ok (hop, rest)

def parseIf {α : Type} (present : Bool) (field : Octets → Except Err (α × Octets)) (absent : α) (data : Octets) :
    Except Err (α × Octets) :=
  if present then field data else .ok (absent, data)

def parse (data : Octets) (limits : DecodeLimits) : Except Err (NPDU × Nat) :=
  if data.length > limits.normalize.maxDatagramSize then .error (limitExceeded "NPDU size")
  else match data with
  | version :: control :: rest => do
    if version ≠ version1 then throw (unsupported ("NPDU version " ++ toString version))
    if control &&& controlReservedBits ≠ 0 then throw (malformed "NPDU reserved control bits set")
    let networkMessage := control &&& controlNetworkMessage != 0
    let expectingReply := control &&& controlExpectingReply != 0
    let priority := control &&& controlPriorityMask
    let hasDst := control &&& controlDestinationSpec != 0
    let hasSrc := control &&& controlSourceSpec != 0
    let (destination, rest) ← parseIf hasDst parseDestination {} rest
    let (source, rest) ← parseIf hasSrc parseSource {} rest
    -- The hop count follows the addresses whenever there is a destination.
    let (hopCount, rest) ← parseIf hasDst parseHopCount 0 rest
    if networkMessage then
      match rest with
      | [] => throw (malformed "network message type truncated")
      | netMsgType :: netMsgData =>
        validateNetworkMessageData netMsgType netMsgData
        return (
          { version, control, destination, source, hopCount, networkMessage, netMsgType, netMsgData, expectingReply,
            priority },
          data.length)
    else
      return (
        { version, control, destination, source, hopCount, networkMessage, expectingReply, priority, apdu := rest },
        data.length)
  | _ => .error (malformed "NPDU truncated")

/-! ## Encoding -/

def validateRemoteNetwork (role : String) (network : UInt16) : Except Err Unit :=
  if network = 0 ∨ network = 0xFFFF then
    .error (malformed ("remote " ++ role ++ " network " ++ toString network))
  else .ok ()

/-- Whether the destination is encoded. Local destinations carry no DNET. -/
def hasDestination (destination : Address) : Except Err Bool :=
  match destination.scope with
  | .remoteStation => do
    validateRemoteNetwork "destination" destination.network
    if destination.mac.isZero then throw (malformed "remote station destination without MAC")
    return true
  | .remoteBroadcast => do
    validateRemoteNetwork "destination" destination.network
    return true
  | .globalBroadcast => .ok true
  | .localStation | .localBroadcast => .ok false

def hasSource (source : Address) : Except Err Bool :=
  match source.scope with
  | .localStation => .ok (!source.mac.isZero)
  | .remoteStation =>
    if source.mac.isZero then .ok false
    else do
      validateRemoteNetwork "source" source.network
      return true
  | .localBroadcast | .remoteBroadcast | .globalBroadcast => .ok false

def macLength (mac : Octets) : Except Err UInt8 :=
  if mac.length > maxMACLength then
    .error (malformed ("MAC length " ++ toString mac.length ++ " exceeds " ++ toString maxMACLength))
  else .ok (UInt8.ofNat mac.length)

def appendDestination (dst : Octets) (destination : Address) : Except Err Octets :=
  match destination.scope with
  | .globalBroadcast => .ok (dst ++ [0xFF, 0xFF, 0])
  | .remoteBroadcast => .ok (dst ++ octets16 destination.network ++ [0])
  | .remoteStation => do
    let dlen ← macLength destination.mac.octets
    return dst ++ octets16 destination.network ++ [dlen] ++ destination.mac.octets
  | .localStation | .localBroadcast => .ok dst

def appendSource (dst : Octets) (source : Address) : Except Err Octets := do
  let snet := if source.scope = .localStation then 0 else source.network
  let slen ← macLength source.mac.octets
  return dst ++ octets16 snet ++ [slen] ++ source.mac.octets

def appendIf (present : Bool) (field : Octets → Except Err Octets) (dst : Octets) : Except Err Octets :=
  if present then field dst else .ok dst

def controlBit (set : Bool) (bit : UInt8) : UInt8 := if set then bit else 0

def controlOctet (n : NPDU) (hasDst hasSrc : Bool) : UInt8 :=
  controlBit n.networkMessage controlNetworkMessage |||
    controlBit (n.expectingReply || n.control &&& controlExpectingReply != 0) controlExpectingReply |||
    (n.priority &&& controlPriorityMask) ||| controlBit hasDst controlDestinationSpec |||
    controlBit hasSrc controlSourceSpec

def append (dst : Octets) (n : NPDU) : Except Err Octets := do
  let version := if n.version = 0 then version1 else n.version
  let hasDst ← hasDestination n.destination
  let hasSrc ← hasSource n.source
  let dst := dst ++ [version, controlOctet n hasDst hasSrc]
  let dst ← appendIf hasDst (appendDestination · n.destination) dst
  let dst ← appendIf hasSrc (appendSource · n.source) dst
  let dst := if hasDst then dst ++ [if n.hopCount = 0 then 255 else n.hopCount] else dst
  if n.networkMessage then return dst ++ n.netMsgType :: n.netMsgData
  return dst ++ n.apdu

end GoBacnet.Npdu
