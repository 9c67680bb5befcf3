import GoBacnet.Lib.Transition
import GoBacnet.Client.SegmentReceive
import GoBacnet.Server.Responder

/-!
# Transfer of a segmented reply

The server's sending loop and the client's segment receiver, joined by a network that keeps every
message of the transaction for ever and delivers any of them at any time.
-/

namespace GoBacnet.Transfer.Reply

open Apdu Client Server

/-- What one transaction fixes. `segSize` and `count` are the cut of the payload that `finish`
decided on. -/
structure Params where
  req : ConfirmedRequest
  payload : Octets
  segSize : Nat
  count : Nat
  server : Server.Config
  clientLimits : DecodeLimits
  localWindow : UInt8
  destAddr : Address
  src : PacketSource

inductive Pc
  | loopHead
  | sending (i stop : Int)
  | waiting (stop : Int)
  | returned (ok : Bool)
  deriving DecidableEq, Repr

structure State where
  loop : SendSegments := {}
  pc : Pc := .loopHead
  acks : List SegmentACK := []
  toServer : List Octets := []
  toClient : List Octets := []
  entry : Option SegState := none
  completed : List Octets := []
  deriving DecidableEq

inductive Action
  /-- The window after the last acknowledged segment is chosen, or the loop ends. -/
  | startWindow
  | send (ok : Bool)
  | startWaiting
  /-- The context ends or the requester aborts. -/
  | giveUp
  | timer
  | takeAck
  /-- Message `i` reaches the client, whose transaction is `pending` or not. -/
  | deliverToClient (i : Nat) (pending : Bool)
  | deliverToServer (i : Nat)
  /-- The client's transaction ends and takes its reassembly with it. -/
  | release
  deriving DecidableEq

def acksCap : Nat := 16

/-- The client's receive loop on one datagram's APDU. A segment for another service ends the
transaction before it reaches the reassembly. -/
def clientReceive (P : Params) (pending : Bool) (entry : Option SegState) (bytes : Octets) : AcceptStep :=
  match Apdu.parse bytes P.clientLimits with
  | .ok (.complexACK ack) =>
    if pending && ack.segmentedMessage && ack.invokeID == P.req.invokeID && ack.serviceChoice == P.req.serviceChoice then
      acceptSegment P.clientLimits.normalize P.localWindow P.destAddr pending entry ack P.src
    else { entry }
  | _ => { entry }

def serverReceive (P : Params) (acks : List SegmentACK) (bytes : Octets) : List SegmentACK :=
  match Apdu.parse bytes P.server.limits with
  | .ok (.segmentACK ack) =>
    if !ack.server && ack.invokeID == P.req.invokeID && acks.length < acksCap then acks ++ [ack] else acks
  | _ => acks

def step (P : Params) (s : State) : Action → Option State
  | .startWindow =>
    if s.pc = .loopHead then
      some (if s.loop.acked < P.count - 1 then { s with pc := .sending (s.loop.acked + 1) (s.loop.windowEnd P.count) }
        else { s with pc := .returned true })
    else none
  | .send ok =>
    match s.pc with
    | .sending i stop =>
      if i < stop then
        let seg := encodeSegment P.server P.req P.payload P.segSize P.count i.toNat
        some { s with toClient := s.toClient ++ [seg], pc := if ok then .sending (i + 1) stop else .returned false }
      else none
    | _ => none
  | .startWaiting =>
    match s.pc with
    | .sending i stop => if i < stop then none else some { s with pc := .waiting stop }
    | _ => none
  | .giveUp =>
    match s.pc with
    | .waiting _ => some { s with pc := .returned false }
    | _ => none
  | .timer =>
    match s.pc with
    | .waiting _ =>
      let loop := { s.loop with retries := s.loop.retries + 1 }
      some (if loop.retries > P.server.retries then
          { s with loop, pc := .returned false
                   toClient := s.toClient ++ [abortReply P.req.invokeID abortReasonTSMTimeout] }
        else { s with loop, pc := .loopHead })
    | _ => none
  | .takeAck =>
    match s.pc, s.acks with
    | .waiting stop, ack :: rest =>
      match s.loop.onAck stop ack with
      | .ignored loop => some { s with acks := rest, loop }
      | .progressed loop => some { s with acks := rest, loop, pc := .loopHead }
    | _, _ => none
  | .deliverToClient i pending =>
    s.toClient[i]?.map fun bytes =>
      let r := clientReceive P pending s.entry bytes
      { s with
        entry := r.entry, toServer := s.toServer ++ r.outbound
        completed := match r.result with
          | .complete payload => s.completed ++ [payload]
          | _ => s.completed }
  | .deliverToServer i =>
    s.toServer[i]?.map fun bytes => { s with acks := serverReceive P s.acks bytes }
  | .release => some { s with entry := none }

abbrev Reachable (P : Params) : State → Prop := Transition.Reachable {} (step P)

end GoBacnet.Transfer.Reply
