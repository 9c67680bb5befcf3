import GoBacnet.Lib.Transition
import GoBacnet.Server.Responder

/-!
# The server's own confirmed requests

Confirmed notifications are sent by one goroutine each, which shares a table from invoke IDs to pending requests
with the receive loop. An answer is matched to the pending request of its invoke ID and put into the channel of
that request, from which its goroutine takes it.
-/

namespace GoBacnet.Server

open Apdu

/-- How a request ended: with an answer, or with none. -/
inductive InvokeResult
  | answered (pdu : PDU) (p : Peer)
  | sendFailed
  | cancelled
  | timedOut
  deriving DecidableEq

/-- Where a request is: about to send, waiting for an answer, about to give its invoke ID back, or returned. -/
inductive InvokePhase
  | sending
  | waiting
  | returning (res : InvokeResult)
  | returned (res : InvokeResult)
  deriving DecidableEq

/-- A request in progress: where it goes, its service and payload, its invoke ID, and its channel, which holds one
answer. With the answer goes who sent it, which the channel of the source does not carry. -/
structure Invocation where
  node : Endpoint
  dest : Address
  svc : UInt8
  payload : Octets
  id : UInt8
  ch : Option (PDU × Peer) := none
  attempt : Nat := 0
  phase : InvokePhase := .sending
  deriving DecidableEq

def answerID : PDU → Option UInt8
  | .simpleACK ack => some ack.invokeID
  | .complexACK ack => some ack.invokeID
  | .error e => some e.invokeID
  | .reject r => some r.invokeID
  | .abort a => some a.invokeID
  | .confirmedRequest _ | .unconfirmedRequest _ | .segmentACK _ => none

structure Requester where
  next : UInt8 := 0
  pending : UInt8 → Option Nat := fun _ => none
  calls : List Invocation := []
  /-- The answer that the receive loop is about to put into the channel of a request. -/
  deliver : Option (Nat × PDU × Peer) := none
  sent : List (Endpoint × Address × Octets) := []

namespace Requester

/-- The first free invoke ID of the next `n`, and the one to begin with next time. -/
def allocate (pending : UInt8 → Option Nat) : Nat → UInt8 → Option UInt8 × UInt8
  | 0, next => (none, next)
  | n + 1, next => if (pending next).isNone then (some next, next + 1) else allocate pending n (next + 1)

def frame (cfg : Config) (c : Invocation) : Octets :=
  appendConfirmedRequest []
    { segmentedMessage := false, moreFollows := false, segmentedResponseAccepted := false, maxSegments := 0,
      maxAPDU := (encodeMaxAPDUSize cfg.maxAPDU).getD 0, invokeID := c.id, sequenceNumber := 0,
      proposedWindowSize := 0, serviceChoice := c.svc, payload := c.payload }

inductive Action
  | invoke (node : Endpoint) (dest : Address) (svc : UInt8) (payload : Octets)
  /-- A send returns. -/
  | send (call : Nat) (ok : Bool)
  /-- A waiting request takes the answer from its channel, is cancelled, or runs into its timeout. -/
  | take (call : Nat)
  | cancel (call : Nat)
  | timeout (call : Nat)
  /-- A request that is done gives its invoke ID back. -/
  | release (call : Nat)
  /-- The receive loop looks an answer up, and then delivers it. -/
  | response (pdu : PDU) (p : Peer)
  | deliver
  deriving DecidableEq

def modify (r : Requester) (call : Nat) (f : Invocation → Option Invocation) : Option Requester := do
  let c ← r.calls[call]?
  let c ← f c
  some { r with calls := r.calls.set call c }

def step (cfg : Config) (r : Requester) : Action → Option Requester
  | .invoke node dest svc payload =>
    let (id, next) := allocate r.pending 256 r.next
    match id with
    | none => some { r with next }
    | some id =>
      some { r with
        next
        pending := Function.update r.pending id (some r.calls.length)
        calls := r.calls ++ [{ node, dest, svc, payload, id }] }
  | .send call ok => do
    let c ← r.calls[call]?
    if c.phase ≠ .sending then none
    else if ok then
      some { r with
        calls := r.calls.set call { c with phase := .waiting }
        sent := r.sent ++ [(c.node, c.dest, frame cfg c)] }
    else some { r with calls := r.calls.set call { c with phase := .returning .sendFailed } }
  | .take call => r.modify call fun c =>
    match c.phase, c.ch with
    | .waiting, some (pdu, p) => some { c with ch := none, phase := .returning (.answered pdu p) }
    | _, _ => none
  | .cancel call => r.modify call fun c =>
    if c.phase = .waiting then some { c with phase := .returning .cancelled } else none
  | .timeout call => r.modify call fun c =>
    if c.phase ≠ .waiting then none
    else if c.attempt < cfg.retries then some { c with attempt := c.attempt + 1, phase := .sending }
    else some { c with phase := .returning .timedOut }
  | .release call => do
    let c ← r.calls[call]?
    match c.phase with
    | .returning res =>
      some { r with
        pending := Function.update r.pending c.id none
        calls := r.calls.set call { c with phase := .returned res } }
    | _ => none
  | .response pdu p =>
    if r.deliver ≠ none then none
    else
      match (answerID pdu).bind r.pending with
      | none => some r
      | some call =>
        match r.calls[call]? with
        | none => none
        | some c => if c.node ≠ p.immediate then some r else some { r with deliver := some (call, pdu, p) }
  | .deliver => do
    let (call, pdu, p) ← r.deliver
    let c ← r.calls[call]?
    -- A channel that already holds an answer drops the new one.
    some { r with deliver := none, calls := r.calls.set call { c with ch := c.ch.or (some (pdu, p)) } }

end Requester

end GoBacnet.Server
