import GoBacnet.Address
import GoBacnet.Lib.BigEndian

/-!
# BVLC framing

The virtual link layer of BACnet/IP: a type octet, a function and the length of the whole datagram, then what
the function carries.
-/

namespace GoBacnet.Bvlc

open BigEndian

def typeBACnetIP : UInt8 := 0x81

/-- A BVLC function. Functions that are not named here are carried with their payload. -/
abbrev Function := UInt8

@[match_pattern] abbrev functionResult : Function := 0x00
@[match_pattern] abbrev functionWriteBroadcastDistributionTable : Function := 0x01
@[match_pattern] abbrev functionReadBroadcastDistributionTable : Function := 0x02
@[match_pattern] abbrev functionReadBroadcastDistributionTableAck : Function := 0x03
@[match_pattern] abbrev functionForwardedNPDU : Function := 0x04
@[match_pattern] abbrev functionRegisterForeignDevice : Function := 0x05
@[match_pattern] abbrev functionReadForeignDeviceTable : Function := 0x06
@[match_pattern] abbrev functionReadForeignDeviceTableAck : Function := 0x07
@[match_pattern] abbrev functionDeleteForeignDeviceTableEntry : Function := 0x08
@[match_pattern] abbrev functionDistributeBroadcastToNetwork : Function := 0x09
@[match_pattern] abbrev functionOriginalUnicastNPDU : Function := 0x0A
@[match_pattern] abbrev functionOriginalBroadcastNPDU : Function := 0x0B

/-! Result codes -/

def resultSuccessfulCompletion : UInt16 := 0x0000
def resultWriteBroadcastDistributionTableNAK : UInt16 := 0x0010
def resultReadBroadcastDistributionTableNAK : UInt16 := 0x0020
def resultRegisterForeignDeviceNAK : UInt16 := 0x0030
def resultReadForeignDeviceTableNAK : UInt16 := 0x0040
def resultDeleteForeignDeviceTableEntryNAK : UInt16 := 0x0050
def resultDistributeBroadcastToNetworkNAK : UInt16 := 0x0060

/-- The four octets of an IPv4 address. -/
structure IPv4 where
  a : UInt8 := 0
  b : UInt8 := 0
  c : UInt8 := 0
  d : UInt8 := 0
  deriving DecidableEq, Repr

/-- A BVLC message. The origin belongs to a Forwarded-NPDU, the result code to a BVLC-Result and the time to
live to a Register-Foreign-Device; each is zero elsewhere. -/
structure Message where
  function : Function
  payload : Octets := []
  originIP : IPv4 := {}
  originPort : UInt16 := 0
  resultCode : UInt16 := 0
  ttl : UInt16 := 0
  deriving DecidableEq, Repr

/-- What follows the header, by function. -/
def parseBody (fn : Function) (body : Octets) : Except Err Message :=
  match fn with
  | functionResult =>
    match body with
    | [hi, lo] => .ok { function := fn, resultCode := uint16 hi lo }
    | _ => .error (malformed "BVLC-Result length")
  | functionForwardedNPDU =>
    match body with
    | a :: b :: c :: d :: hi :: lo :: payload =>
      .ok { function := fn, originIP := ⟨a, b, c, d⟩, originPort := uint16 hi lo, payload }
    | _ => .error (malformed "Forwarded-NPDU truncated")
  | functionRegisterForeignDevice =>
    match body with
    | [hi, lo] => .ok { function := fn, ttl := uint16 hi lo }
    | _ => .error (malformed "Register-Foreign-Device length")
  | fn => .ok { function := fn, payload := body }

def parse (data : Octets) (limits : DecodeLimits) : Except Err Message :=
  match data with
  | type :: fn :: hi :: lo :: body =>
    if data.length > limits.normalize.maxDatagramSize then .error (limitExceeded "datagram size")
    else if type ≠ typeBACnetIP then
      .error (malformed ("BVLC type 0x" ++ String.ofList (Nat.toDigits 16 type.toNat)))
    else if (uint16 hi lo).toNat ≠ data.length then
      .error (malformed ("BVLC length " ++ toString (uint16 hi lo) ++ " != datagram " ++ toString data.length))
    else parseBody fn body
  | _ => .error (malformed "BVLC truncated")

/-- What the message carries after its header. -/
def body (msg : Message) : Octets :=
  match msg.function with
  | functionResult => octets16 msg.resultCode
  | functionRegisterForeignDevice => octets16 msg.ttl
  | functionForwardedNPDU =>
    [msg.originIP.a, msg.originIP.b, msg.originIP.c, msg.originIP.d] ++ octets16 msg.originPort ++ msg.payload
  | _ => msg.payload

/-- Appends the encoding of a message, with the length of the whole datagram in its header. -/
def append (dst : Octets) (msg : Message) : Except Err Octets :=
  let total := 4 + (body msg).length
  if total > 65535 then .error (malformed "BVLC too large")
  else .ok (dst ++ [typeBACnetIP, msg.function] ++ octets16 (UInt16.ofNat total) ++ body msg)

def Message.originAddrPort (msg : Message) : Option Endpoint :=
  if msg.function ≠ functionForwardedNPDU then none
  else some ⟨.v4 msg.originIP.a msg.originIP.b msg.originIP.c msg.originIP.d, msg.originPort⟩

end GoBacnet.Bvlc
