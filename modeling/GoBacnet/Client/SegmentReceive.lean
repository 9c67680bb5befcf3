import GoBacnet.Address
import GoBacnet.Segment
import GoBacnet.Client.Policy

/-!
# Receiving a segmented ComplexACK

The reassembly of a segmented answer, one for each pending transaction.
-/

namespace GoBacnet.Client

open Apdu Segment

/-- Where a packet came from: the NPDU source, the B/IP node that originated it and the one that
sent the datagram. -/
structure PacketSource where
  bacnetAddress : Address
  origin : Endpoint
  immediate : Endpoint
  deriving DecidableEq

structure SegState where
  invokeID : UInt8
  service : UInt8
  asm : Reassembly
  src : PacketSource
  destAddr : Address
  deriving DecidableEq

def defaultSegmentReceiveWindow : UInt8 := 1

/-- A segment already received, up to half the sequence numbers back. -/
def seqDuplicate (got expected : UInt8) : Bool :=
  let delta := expected - got
  delta ≠ 0 && delta ≤ 128

def ackOutbound (st : SegState) (negative : Bool) : Octets :=
  appendSegmentACK [] ⟨negative, false, st.invokeID, st.asm.last, st.asm.window⟩

def abortOutbound (st : SegState) (reason : UInt8) : Octets :=
  appendAbort [] { server := false, invokeID := st.invokeID, reason }

/-- What a segment leads to: nothing to report yet, the whole payload, or an error that ends the
transaction. -/
inductive AcceptResult
  | pending
  | complete (payload : Octets)
  | failed (err : ReqErr)
  deriving DecidableEq, Repr

structure AcceptStep where
  entry : Option SegState
  outbound : List Octets := []
  result : AcceptResult := .pending
  deriving DecidableEq

/-- One segment offered to the reassembly of its invoke ID. -/
def addSegment (st : SegState) (ack : ComplexACK) (src : PacketSource) : AcceptStep :=
  let (asm, outcome) := st.asm.add ack.sequenceNumber ack.moreFollows ack.payload
  match outcome with
  | .outOfOrder =>
    -- A segment already received is acknowledged again; any other is answered with a NAK.
    { entry := some st, outbound := [ackOutbound st (!seqDuplicate ack.sequenceNumber st.asm.expected)] }
  | .tooManySegments =>
    { entry := none, outbound := [abortOutbound st abortReasonOutOfResources]
      result := .failed (.abort ack.invokeID false abortReasonOutOfResources) }
  | .tooLong =>
    { entry := none, outbound := [abortOutbound st abortReasonAPDUTooLong]
      result := .failed (.abort ack.invokeID false abortReasonAPDUTooLong) }
  | .stored => { entry := some { st with asm, src } }
  | .storedAck =>
    let st := { st with asm, src }
    { entry := some st, outbound := [ackOutbound st false] }
  | .complete =>
    let st := { st with asm, src }
    { entry := none, outbound := [ackOutbound st false], result := .complete asm.buf }

def newSegState (limits : DecodeLimits) (localWindow : UInt8) (destAddr : Address) (ack : ComplexACK)
    (src : PacketSource) : SegState where
  invokeID := ack.invokeID
  service := ack.serviceChoice
  asm := newReassembly (Segment.window localWindow ack.proposedWindowSize) limits.maxSegments
    limits.maxReassembledAPDU
  src := src
  destAddr := destAddr

/-- A segment of a ComplexACK for a transaction that was found and whose source and service match.
`entry` is the reassembly of the invoke ID and `enterSegmented` whether the transaction is still
pending when the reassembly starts. -/
def acceptSegment (limits : DecodeLimits) (localWindow : UInt8) (destAddr : Address) (enterSegmented : Bool)
    (entry : Option SegState) (ack : ComplexACK) (src : PacketSource) : AcceptStep :=
  match entry with
  | some st =>
    -- Every segment carries the service choice; a mismatch is a protocol violation.
    if st.service ≠ ack.serviceChoice then
      { entry := none, outbound := [abortOutbound st abortReasonInvalidAPDUInThisState]
        result := .failed .protocolViolation }
    else addSegment st ack src
  | none =>
    if ack.sequenceNumber ≠ 0 then { entry := none, result := .failed .protocolViolation }
    else if !enterSegmented then { entry := none }
    else addSegment (newSegState limits localWindow destAddr ack src) ack src

end GoBacnet.Client
