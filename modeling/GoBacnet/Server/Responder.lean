import GoBacnet.Address
import GoBacnet.Apdu
import GoBacnet.Segment

/-!
# The responding side of confirmed transactions

Reassembly of segmented requests, transmission of segmented ComplexACKs and repeated requests.
A transaction is found by the requester it belongs to and its invoke ID.
-/

namespace GoBacnet.Server

open Apdu Segment

structure Config where
  limits : DecodeLimits := {}
  maxAPDU : Nat := 1476
  segmentation : Bool := true
  maxSegments : Int := 64
  window : UInt8 := 4
  apduTimeout : Nat := 3000
  segmentTimeout : Nat := 2000
  retries : Nat := 3
  deriving DecidableEq, Repr

/-- Where a request came from and where the reply goes. -/
structure Peer where
  immediate : Endpoint
  origin : Endpoint
  source : Address := {}
  broadcast : Bool := false
  deriving DecidableEq

/-- The parts of the transaction key of a confirmed request. -/
structure Key where
  origin : Endpoint
  source : Address
  invokeID : UInt8
  deriving DecidableEq

def Peer.key (p : Peer) (invokeID : UInt8) : Key := ⟨p.origin, p.source, invokeID⟩

/-- A transaction of the responder. `acks` and `aborted` say that the channels of a segmented
reply exist. The reassembly of a request that arrived unsegmented is never used. -/
structure Rtx where
  peer : Peer
  invokeID : UInt8
  service : UInt8
  content : Octets := []
  segmented : Bool := false
  asm : Reassembly := newReassembly 1 0 0
  deadline : Nat := 0
  header : ConfirmedRequest
  acks : Bool := false
  aborted : Bool := false
  deriving DecidableEq

def abortReply (invokeID reason : UInt8) : Octets :=
  appendAbort [] { server := true, invokeID, reason }

def segmentACKReply (invokeID seq window : UInt8) (nak : Bool) : Octets :=
  appendSegmentACK [] ⟨nak, true, invokeID, seq, window⟩

/-- What the receive loop does with one segment: the entry of the key afterwards, the APDUs sent
back and the payload handed to a worker. -/
structure SegmentStep where
  entry : Option Rtx
  replies : List Octets := []
  execute : Option Octets := none
  deriving DecidableEq

/-- The transaction that the first segment of a request starts. -/
def newSegmented (cfg : Config) (req : ConfirmedRequest) (p : Peer) : Rtx where
  peer := p
  invokeID := req.invokeID
  service := req.serviceChoice
  segmented := true
  asm := newReassembly (Segment.window cfg.window req.proposedWindowSize) cfg.maxSegments
    cfg.limits.maxReassembledAPDU
  header := req

/-- One segment offered to a transaction that is in the table. -/
def addSegment (cfg : Config) (now : Nat) (t : Rtx) (req : ConfirmedRequest) : SegmentStep :=
  if !t.segmented || t.acks then { entry := some t }
  else
    let (asm, outcome) := t.asm.add req.sequenceNumber req.moreFollows req.payload
    match outcome with
    | .outOfOrder =>
      -- A repeat of the last segment received in order re-acknowledges it.
      let nak := req.sequenceNumber ≠ asm.last
      { entry := some t, replies := [segmentACKReply req.invokeID asm.last asm.window nak] }
    | .tooManySegments | .tooLong =>
      { entry := none, replies := [abortReply req.invokeID abortReasonBufferOverflow] }
    | .stored =>
      { entry := some { t with asm, deadline := now + 2 * cfg.segmentTimeout } }
    | .storedAck =>
      { entry := some { t with asm, deadline := now + 2 * cfg.segmentTimeout }
        replies := [segmentACKReply req.invokeID req.sequenceNumber asm.window false] }
    | .complete =>
      { entry := some { t with
          asm, deadline := now + 2 * cfg.segmentTimeout, segmented := false,
          content := t.service :: asm.buf,
          header := { t.header with
            maxSegments := req.maxSegments, maxAPDU := req.maxAPDU,
            segmentedResponseAccepted := req.segmentedResponseAccepted } }
        replies := [segmentACKReply req.invokeID req.sequenceNumber asm.window false]
        execute := some asm.buf }

def segment (cfg : Config) (now : Nat) (entry : Option Rtx) (req : ConfirmedRequest) (p : Peer) : SegmentStep :=
  if !cfg.segmentation then
    { entry, replies := [abortReply req.invokeID abortReasonSegmentationNotSupported] }
  else
    match entry with
    | some t => addSegment cfg now t req
    | none =>
      if req.sequenceNumber ≠ 0 then
        { entry := none, replies := [abortReply req.invokeID abortReasonInvalidAPDUInThisState] }
      else addSegment cfg now (newSegmented cfg req p) req

def expired (now : Nat) (t : Rtx) : Bool := t.segmented && now > t.deadline

/-- The entry of a transaction after its requester aborted it: a reassembly is dropped, a request
that is being executed finishes. -/
def abortFromClient (entry : Option Rtx) : Option Rtx :=
  entry.filter fun t => t.aborted || !t.segmented

/-- The state of the loop that sends a segmented ComplexACK. -/
structure SendSegments where
  window : Nat := 1
  acked : Int := -1
  retries : Nat := 0
  deriving DecidableEq, Repr

namespace SendSegments

def windowEnd (s : SendSegments) (count : Nat) : Int := min (s.acked + 1 + s.window) count

inductive AckResult
  | ignored (s : SendSegments)
  | progressed (s : SendSegments)
  deriving DecidableEq, Repr

def onAck (s : SendSegments) (stop : Int) (ack : SegmentACK) : AckResult :=
  let s := if validWindow ack.actualWindowSize then { s with window := ack.actualWindowSize.toNat } else s
  let base := s.acked + 1
  -- Sequence numbers are modulo 256; segments in flight are within one window above `acked`.
  let n := base + (ack.sequenceNumber.toNat - base % 256 + 256) % 256
  if n ≥ stop then .ignored s
  else if n > s.acked then .progressed { s with acked := n, retries := 0 }
  else if !ack.negativeACK then .ignored s
  else .progressed s

end SendSegments

def encodeSegment (cfg : Config) (req : ConfirmedRequest) (payload : Octets) (segSize count i : Nat) : Octets :=
  appendComplexACK []
    { segmentedMessage := true, moreFollows := i + 1 < count, invokeID := req.invokeID,
      sequenceNumber := UInt8.ofNat i, proposedWindowSize := cfg.window,
      serviceChoice := req.serviceChoice, payload := slice payload segSize i }

def decodeMaxSegments (code : UInt8) : Nat :=
  match code with
  | 1 => 2
  | 2 => 4
  | 3 => 8
  | 4 => 16
  | 5 => 32
  | 6 => 64
  | _ => 0

inductive ReplyPlan
  | whole
  | refused (reason : UInt8)
  | segments (segSize count : Nat)
  deriving DecidableEq, Repr

def planReply (cfg : Config) (req : ConfirmedRequest) (replyLen : Nat) (payload : Octets) : ReplyPlan :=
  let remoteMax := (decodeMaxAPDUSize req.maxAPDU).getD 0
  let limit := min remoteMax cfg.maxAPDU
  if replyLen ≤ limit then .whole
  else if !req.segmentedResponseAccepted || !cfg.segmentation then .refused abortReasonSegmentationNotSupported
  else
    let segSize := limit - 5
    let count := count payload.length segSize
    let maxSegs := decodeMaxSegments req.maxSegments
    if (maxSegs > 0 ∧ count > maxSegs) ∨ count > cfg.maxSegments ∨ count > Segment.maxSegments then
      .refused abortReasonBufferOverflow
    else .segments segSize count

end GoBacnet.Server
