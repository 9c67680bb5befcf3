import GoBacnet.Transfer.Reply
import GoBacnet.Transfer.Request

/-!
# The sending loops in any environment

The loop that sends a segmented reply and the loop that sends a segmented request, each against a peer that may send
any SegmentACK at any time. What was sent and announced is recorded next to the variables of the loop.
-/

namespace GoBacnet.Transfer

open Apdu Segment

namespace ReplySender

open Server (SendSegments)
open Reply (Pc)

structure Params where
  count : Nat
  retries : Nat

structure State where
  loop : SendSegments := {}
  pc : Pc := .loopHead
  /-- The segments sent so far. -/
  sent : List Int := []
  /-- The segments sent since the window was last chosen. -/
  round : List Int := []
  /-- The last valid window of a SegmentACK, and the one when the window was last chosen. -/
  announced : Nat := 1
  allowed : Nat := 1
  /-- The SegmentACKs taken so far. -/
  taken : List SegmentACK := []
  deriving DecidableEq

inductive Action
  | startWindow
  | send (ok : Bool)
  | startWaiting
  | giveUp
  | timer
  | ack (a : SegmentACK)
  deriving DecidableEq

def step (P : Params) (s : State) : Action → Option State
  | .startWindow =>
    if s.pc = .loopHead then
      some (if s.loop.acked < P.count - 1 then
          { s with pc := .sending (s.loop.acked + 1) (s.loop.windowEnd P.count), round := [], allowed := s.announced }
        else { s with pc := .returned true })
    else none
  | .send ok =>
    match s.pc with
    | .sending i stop =>
      if i < stop then
        some { s with
          sent := i :: s.sent, round := i :: s.round, pc := if ok then .sending (i + 1) stop else .returned false }
      else none
    | _ => none
  | .startWaiting =>
    match s.pc with
    | .sending i stop => if i < stop then none else some { s with pc := .waiting stop }
    | _ => none
  | .giveUp =>
    match s.pc with
    | .waiting _ => some { s with pc := .returned false }
    | _ => none
  | .timer =>
    match s.pc with
    | .waiting _ =>
      let loop := { s.loop with retries := s.loop.retries + 1 }
      some { s with loop, pc := if loop.retries > P.retries then .returned false else .loopHead }
    | _ => none
  | .ack a =>
    match s.pc with
    | .waiting stop =>
      let s := { s with
        taken := a :: s.taken
        announced := if validWindow a.actualWindowSize then a.actualWindowSize.toNat else s.announced }
      match s.loop.onAck stop a with
      | .ignored loop => some { s with loop }
      | .progressed loop => some { s with loop, pc := .loopHead }
    | _ => none

abbrev Reachable (P : Params) : State → Prop := Transition.Reachable {} (step P)

end ReplySender

namespace RequestSender

open Client (SendLoop GiveUp wrapOutcomeUnknown)
open Request (Pc)

structure Params where
  count : Nat
  retryCount : Nat
  invokeID : UInt8
  serviceChoice : UInt8

structure State where
  loop : SendLoop := {}
  pc : Pc := .filling
  /-- The segments sent so far. -/
  sent : List Nat := []
  /-- The last valid window of a SegmentACK for the transaction. -/
  announced : Nat := 1
  /-- The SegmentACKs taken so far. -/
  taken : List SegmentACK := []
  deriving DecidableEq

inductive Action
  | send (ok : Bool)
  | startWaiting
  | finish
  | giveUp (why : GiveUp)
  | ack (a : SegmentACK)
  deriving DecidableEq

def step (P : Params) (s : State) : Action → Option State
  | .send ok =>
    if s.pc = .filling ∧ !s.loop.done P.count ∧ s.loop.maySend P.count then
      let s := { s with sent := s.loop.nextToSend :: s.sent }
      some (if ok then { s with loop := s.loop.sent }
        else { s with pc := .returned (some (wrapOutcomeUnknown P.serviceChoice .transport)) })
    else none
  | .startWaiting =>
    if s.pc = .filling ∧ !s.loop.done P.count ∧ !s.loop.maySend P.count then some { s with pc := .waiting } else none
  | .finish => if s.pc = .filling ∧ s.loop.done P.count then some { s with pc := .returned none } else none
  | .giveUp why =>
    if s.pc = .waiting then
      some { s with pc := .returned (some (wrapOutcomeUnknown P.serviceChoice (why.cause P.invokeID))) }
    else none
  | .ack a =>
    if s.pc = .waiting then
      let s := { s with
        taken := a :: s.taken
        announced := if a.invokeID = P.invokeID ∧ a.server ∧ validWindow a.actualWindowSize
          then a.actualWindowSize.toNat else s.announced }
      match s.loop.onAck P.retryCount P.invokeID P.serviceChoice a with
      | .waiting loop => some { s with loop }
      | .progress loop => some { s with loop, pc := .filling }
      | .aborted _ err => some { s with pc := .returned (some err) }
    else none

abbrev Reachable (P : Params) : State → Prop := Transition.Reachable {} (step P)

end RequestSender

end GoBacnet.Transfer
