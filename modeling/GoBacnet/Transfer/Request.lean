import GoBacnet.Lib.Transition
import GoBacnet.Client.SegmentSend
import GoBacnet.Server.Responder

/-!
# Transfer of a segmented request

The client's sending loop and the server's responder, joined by a network that keeps every
message of the transaction for ever and delivers any of them at any time. A message that is
never delivered is lost, one that is delivered again is duplicated, and no order is kept.
-/

namespace GoBacnet.Transfer.Request

open Apdu Client Server

/-- What one transaction fixes. -/
structure Params where
  req : ConfirmedRequest
  remoteMax : Nat
  proposedWindow : UInt8
  retryCount : Nat
  clientLimits : DecodeLimits
  server : Server.Config
  peer : Peer
  segments : List Octets

/-- Where the sending loop is: filling the window, waiting for a SegmentACK, or returned. -/
inductive Pc
  | filling
  | waiting
  | returned (err : Option ReqErr)
  deriving DecidableEq, Repr

/-- The network holds all messages sent so far. `completed` records the payload of every
reassembly that reported completion. -/
structure State where
  loop : SendLoop := {}
  pc : Pc := .filling
  ackCh : List SegmentACK := []
  toServer : List Octets := []
  toClient : List Octets := []
  entry : Option Rtx := none
  now : Nat := 0
  completed : List Octets := []
  deriving DecidableEq

inductive Action
  /-- The transport is handed the next segment; `ok` is whether it reported success. -/
  | send (ok : Bool)
  /-- The window is full or every segment is sent. -/
  | startWaiting
  /-- Every segment is acknowledged. -/
  | finish
  /-- The context ends, the client closes or the segment timer expires. -/
  | giveUp (why : GiveUp)
  | takeAck
  | deliverToClient (i : Nat)
  | deliverToServer (i : Nat)
  | expire
  /-- The worker finished the request or the queue refused it. -/
  | release
  | tick
  deriving DecidableEq

def serverReceive (P : Params) (now : Nat) (entry : Option Rtx) (bytes : Octets) : SegmentStep :=
  match Apdu.parse bytes P.server.limits with
  | .ok (.confirmedRequest req) =>
    if req.segmentedMessage && req.invokeID == P.req.invokeID then Server.segment P.server now entry req P.peer
    else { entry }
  | .ok (.abort a) =>
    if !a.server && a.invokeID == P.req.invokeID then { entry := abortFromClient entry } else { entry }
  | _ => { entry }

/-- The SegmentACKs that the client's receive loop hands to the sending loop. -/
def clientReceive (P : Params) (ackCh : List SegmentACK) (bytes : Octets) : List SegmentACK :=
  match Apdu.parse bytes P.clientLimits with
  | .ok (.segmentACK ack) =>
    if ack.server && ack.invokeID == P.req.invokeID && ackCh.length < ackChCap then ackCh ++ [ack] else ackCh
  | _ => ackCh

def step (P : Params) (s : State) : Action → Option State
  | .send ok =>
    if s.pc = .filling ∧ !s.loop.done P.segments.length ∧ s.loop.maySend P.segments.length then
      match P.segments[s.loop.nextToSend]? with
      | none => none
      | some seg =>
        -- A transport error does not prove non-delivery.
        let s := { s with toServer := s.toServer ++ [seg] }
        some (if ok then { s with loop := s.loop.sent }
          else { s with pc := .returned (some (wrapOutcomeUnknown P.req.serviceChoice .transport)) })
    else none
  | .startWaiting =>
    if s.pc = .filling ∧ !s.loop.done P.segments.length ∧ !s.loop.maySend P.segments.length then
      some { s with pc := .waiting }
    else none
  | .finish =>
    if s.pc = .filling ∧ s.loop.done P.segments.length then some { s with pc := .returned none } else none
  | .giveUp why =>
    if s.pc = .waiting then
      some { s with
        pc := .returned (some (wrapOutcomeUnknown P.req.serviceChoice (why.cause P.req.invokeID)))
        toServer := s.toServer ++ (why.abortReason.map (clientAbort P.req.invokeID)).toList }
    else none
  | .takeAck =>
    if s.pc = .waiting then
      match s.ackCh with
      | [] => none
      | ack :: rest =>
        match s.loop.onAck P.retryCount P.req.invokeID P.req.serviceChoice ack with
        | .waiting loop => some { s with ackCh := rest, loop }
        | .progress loop => some { s with ackCh := rest, loop, pc := .filling }
        | .aborted reason err =>
          some { s with
            ackCh := rest, pc := .returned (some err)
            toServer := s.toServer ++ [clientAbort P.req.invokeID reason] }
    else none
  | .deliverToClient i =>
    s.toClient[i]?.map fun bytes => { s with ackCh := clientReceive P s.ackCh bytes }
  | .deliverToServer i =>
    s.toServer[i]?.map fun bytes =>
      let r := serverReceive P s.now s.entry bytes
      { s with
        entry := r.entry, toClient := s.toClient ++ r.replies
        completed := s.completed ++ r.execute.toList }
  | .expire => some { s with entry := s.entry.filter fun t => !expired s.now t }
  | .release =>
    match s.entry with
    | some t => if t.segmented then none else some { s with entry := none }
    | none => none
  | .tick => some { s with now := s.now + 1 }

abbrev Reachable (P : Params) : State → Prop := Transition.Reachable {} (step P)

end GoBacnet.Transfer.Request
