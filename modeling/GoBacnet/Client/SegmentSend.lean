import GoBacnet.Segment
import GoBacnet.Client.Policy

/-!
# Sending a segmented confirmed request

The request is cut into segments once. The first segment goes alone; the SegmentACK for it
carries the window in which the others follow.
-/

namespace GoBacnet.Client

open Apdu Segment

/-- The header of a segment of a confirmed request: type, max-info, invoke ID, sequence number,
window and service choice. -/
def confirmedSeg0Overhead : Nat := 6

def defaultSegmentSendWindow : UInt8 := 16

def confirmedSegment (req : ConfirmedRequest) (size count : Nat) (proposedWindow : UInt8) (i : Nat) :
    ConfirmedRequest :=
  { req with
    segmentedMessage := true, moreFollows := i + 1 < count, sequenceNumber := UInt8.ofNat i,
    proposedWindowSize := proposedWindow, payload := slice req.payload size i }

def buildConfirmedSegments (req : ConfirmedRequest) (remoteMax : Nat) (proposedWindow : UInt8) :
    Except Err (List Octets) :=
  let proposedWindow := if validWindow proposedWindow then proposedWindow else defaultSegmentSendWindow
  let size := remoteMax - confirmedSeg0Overhead
  if size < 1 then .error (apduTooLarge "remote max APDU too small for segmented confirmed request")
  else
    let count := count req.payload.length size
    if count > Segment.maxSegments then
      .error (apduTooLarge "confirmed request requires more than 256 segments")
    else
      let out := (List.range count).map fun i =>
        appendConfirmedRequest [] (confirmedSegment req size count proposedWindow i)
      if out.any (fun seg => seg.length > remoteMax) then
        .error (apduTooLarge "segmented APDU exceeds remote max")
      else .ok out

structure SendLoop where
  window : UInt8 := 1
  nextToSend : Nat := 0
  highestAcked : Int := -1
  inFlight : Int := 0
  nakRounds : Nat := 0
  deriving DecidableEq, Repr

inductive AckVerdict
  | waiting (s : SendLoop)
  | progress (s : SendLoop)
  | aborted (reason : UInt8) (err : ReqErr)
  deriving DecidableEq, Repr

namespace SendLoop

/-- The loop ends when every one of the `n` segments is acknowledged. -/
def done (s : SendLoop) (n : Nat) : Bool := s.highestAcked + 1 ≥ n

def maySend (s : SendLoop) (n : Nat) : Bool := s.inFlight < s.window.toNat && s.nextToSend < n

/-- One segment was handed to the transport. -/
def sent (s : SendLoop) : SendLoop := { s with nextToSend := s.nextToSend + 1, inFlight := s.inFlight + 1 }

/-- A negative SegmentACK names the last segment received in order; sending resumes after it. -/
def onNak (s : SendLoop) (retryCount : Nat) (serviceChoice seq : UInt8) : AckVerdict :=
  let s := { s with nakRounds := s.nakRounds + 1 }
  if s.nakRounds > retryCount + 3 then
    .aborted abortReasonTSMTimeout (wrapOutcomeUnknown serviceChoice .timeout)
  else
    let resume := (seq + 1).toNat % 256
    -- After progress, 255 is the 256th segment, not a restart.
    let resume := if resume = 0 ∧ s.highestAcked ≥ 0 then 256 else resume
    if resume > s.nextToSend then .aborted abortReasonInvalidAPDUInThisState .protocolViolation
    else if (resume : Int) ≤ s.highestAcked then .waiting s
    else .progress { s with nextToSend := resume, highestAcked := resume - 1, inFlight := 0 }

/-- A positive SegmentACK acknowledges every segment up to the one it names. -/
def onPositive (s : SendLoop) (seq : UInt8) : AckVerdict :=
  let acked := seq.toNat
  if (acked : Int) ≤ s.highestAcked then .waiting s
  else if acked ≥ s.nextToSend then .aborted abortReasonInvalidAPDUInThisState .protocolViolation
  else
    let newly := acked - s.highestAcked
    .progress { s with highestAcked := acked, inFlight := max 0 (s.inFlight - newly), nakRounds := 0 }

def onAck (s : SendLoop) (retryCount : Nat) (invokeID serviceChoice : UInt8) (ack : SegmentACK) : AckVerdict :=
  if ack.invokeID ≠ invokeID ∨ ack.server = false then .waiting s
  else
    let s := if validWindow ack.actualWindowSize then { s with window := ack.actualWindowSize } else s
    if ack.negativeACK then s.onNak retryCount serviceChoice ack.sequenceNumber
    else s.onPositive ack.sequenceNumber

end SendLoop

/-- What ends the wait for a SegmentACK other than a SegmentACK. -/
inductive GiveUp
  | context
  | closed
  | timer
  deriving DecidableEq, Repr

/-- The cause of the error that the loop returns. -/
def GiveUp.cause (invokeID : UInt8) : GiveUp → ReqErr
  | .context => .context
  | .closed => .closed
  | .timer => .abort invokeID false abortReasonTSMTimeout

def GiveUp.abortReason : GiveUp → Option UInt8
  | .context => some abortReasonOther
  | .closed => none
  | .timer => some abortReasonTSMTimeout

/-- The capacity of the channel that hands SegmentACKs to the loop; when it is full they are lost. -/
def ackChCap : Nat := 128

/-- Abort sent by the requesting side. -/
def clientAbort (invokeID reason : UInt8) : Octets := appendAbort [] { server := false, invokeID, reason }

end GoBacnet.Client
