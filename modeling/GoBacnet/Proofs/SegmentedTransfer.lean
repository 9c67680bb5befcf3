import GoBacnet.Proofs.ReplyTransfer
import GoBacnet.Proofs.RequestTransfer

/-!
# Integrity of segmented transfers in both directions
-/

namespace GoBacnet.Proofs

open Apdu Segment Server
open Client (buildConfirmedSegments)

/-- A reply that `finish` decides to segment is cut into 1 to 256 segments of at least one octet.
The request was accepted, so its Max-APDU code is defined, and a server accepts at least 50 octets. -/
lemma cut_of_plan {P : Transfer.Reply.Params} {replyLen : Nat} (hmax : 50 ≤ P.server.maxAPDU)
    (hcode : (decodeMaxAPDUSize P.req.maxAPDU).isSome)
    (hplan : planReply P.server P.req replyLen P.payload = .segments P.segSize P.count) : Reply.Cut P := by
  have hremote : 50 ≤ (decodeMaxAPDUSize P.req.maxAPDU).getD 0 := by
    unfold decodeMaxAPDUSize at hcode ⊢
    split <;> simp_all
  unfold planReply at hplan
  simp only at hplan
  split_ifs at hplan with h1 h2 h3
  obtain ⟨hsize, hcount⟩ := ReplyPlan.segments.inj hplan
  push Not at h3
  refine ⟨?_, by omega, ?_⟩
  · rw [← hsize, ← hcount]
  · rw [← hcount]
    exact h3.2.2

/-- Integrity of segmented transfers. For every request the client splits and every reply the
server splits, and whatever the network loses, duplicates, delays or reorders: a reassembly that
reports completion holds the sender's payload, and a sending loop that returns without error does so
after the receiver's reassembly was complete. -/
theorem segmentedTransfer_integrity :
    (∀ P : Transfer.Request.Params,
      buildConfirmedSegments P.req P.remoteMax P.proposedWindow = .ok P.segments →
      ∀ s, Transfer.Request.Reachable P s →
        (∀ payload ∈ s.completed, payload = P.req.payload) ∧
          (s.pc = .returned none → s.completed ≠ [])) ∧
    (∀ (P : Transfer.Reply.Params) (replyLen : Nat), 50 ≤ P.server.maxAPDU →
      (decodeMaxAPDUSize P.req.maxAPDU).isSome →
      planReply P.server P.req replyLen P.payload = .segments P.segSize P.count →
      ∀ s, Transfer.Reply.Reachable P s →
        (∀ payload ∈ s.completed, payload = P.payload) ∧
          (s.pc = .returned true → s.completed ≠ [])) :=
  ⟨fun _ hbuild _ hs => requestTransfer_integrity hbuild hs,
    fun _ _ hmax hcode hplan _ hs => Reply.replyTransfer_integrity (cut_of_plan hmax hcode hplan) hs⟩

def twoSegments : Transfer.Request.Params where
  req := { invokeID := 7, serviceChoice := 15, maxAPDU := 5, payload := [1, 2, 3, 4] }
  remoteMax := 8
  proposedWindow := 2
  retryCount := 0
  clientLimits := {}
  server := { limits := defaultDecodeLimits }
  peer := { immediate := { addr := .v4 10 0 0 2, port := 47808 }, origin := { addr := .v4 10 0 0 2, port := 47808 } }
  segments := [[0x0C, 0x05, 7, 0, 2, 15, 1, 2], [0x08, 0x05, 7, 1, 2, 15, 3, 4]]

def twoSegmentsRun : List Transfer.Request.Action :=
  [.send true, .startWaiting, .deliverToServer 0, .deliverToServer 0, .deliverToClient 0, .takeAck, .send true,
    .startWaiting, .deliverToServer 1, .deliverToClient 1, .takeAck, .deliverToClient 2, .takeAck, .finish]

theorem segmentedTransfer_integrity_twoSegments :
    ∃ s, Transition.run (Transfer.Request.step twoSegments) {} twoSegmentsRun = some s ∧
      s.pc = .returned none ∧ s.completed ≠ [] ∧ ∀ payload ∈ s.completed, payload = [1, 2, 3, 4] := by
  have hpc : (Transition.run (Transfer.Request.step twoSegments) {} twoSegmentsRun).map (·.pc) =
      some (.returned none) := by decide +kernel
  obtain ⟨s, hs, hpc⟩ := Option.map_eq_some_iff.mp hpc
  have hreach : Transfer.Request.Reachable twoSegments s := Transition.Reachable.run .init hs
  have h := segmentedTransfer_integrity.1 twoSegments (by decide +kernel) s hreach
  exact ⟨s, hs, hpc, h.2 hpc, h.1⟩

end GoBacnet.Proofs
