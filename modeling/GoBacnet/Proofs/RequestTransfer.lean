import GoBacnet.Proofs.ApduRoundTrip
import GoBacnet.Proofs.Reassembly
import GoBacnet.Transfer.Request

/-!
# Integrity of a segmented request

Whatever the network does with the messages of the transaction, the server's reassemblies hold
prefixes of the payload, every SegmentACK names a segment that some reassembly stored, and the
client's loop never counts more segments as acknowledged than that.
-/

namespace GoBacnet.Proofs

open Apdu Segment Server Transfer.Request
open Client (defaultSegmentSendWindow confirmedSegment buildConfirmedSegments SendLoop clientAbort)

structure Cut (P : Params) (size n : Nat) (window : UInt8) : Prop where
  count : n = count P.req.payload.length size
  size_pos : 1 ≤ size
  le_max : n ≤ 256
  segments : P.segments = (List.range n).map fun i =>
    appendConfirmedRequest [] (confirmedSegment P.req size n window i)

lemma cut_of_build {P : Params}
    (h : buildConfirmedSegments P.req P.remoteMax P.proposedWindow = .ok P.segments) :
    ∃ size n window, Cut P size n window := by
  unfold buildConfirmedSegments at h
  simp only at h
  generalize (if validWindow P.proposedWindow then P.proposedWindow else defaultSegmentSendWindow) = w at h
  split at h
  · simp at h
  · next hsize =>
    split at h
    · simp at h
    · next hcount =>
      split at h
      · simp at h
      · exact ⟨_, _, _, rfl, by omega, Nat.le_of_not_lt hcount, (Except.ok.inj h).symm⟩

section

variable {P : Params} {size n : Nat} {window : UInt8}

variable {g : Nat} {m : Octets} {s : State}

/-- A reassembly in progress holds between one and all but one of the segments, at most `g`. -/
def EntryOk (P : Params) (size n g : Nat) (entry : Option Rtx) : Prop :=
  ∀ t, entry = some t → t.segmented = true →
    t.acks = false ∧ ∃ k, 1 ≤ k ∧ k < n ∧ k ≤ g ∧ Holds P.req.payload size t.asm k

/-- A SegmentACK of the server names one of the first `g` segments. -/
def ReplyOk (P : Params) (g : Nat) (m : Octets) : Prop :=
  (∃ reason, m = abortReply P.req.invokeID reason) ∨
    ∃ j w nak, j < g ∧ m = segmentACKReply P.req.invokeID (UInt8.ofNat j) w nak

lemma ReplyOk.mono {g' : Nat} (hg : g ≤ g') (h : ReplyOk P g m) : ReplyOk P g' m := by
  rcases h with h | ⟨j, w, nak, hj, h⟩
  · exact .inl h
  · exact .inr ⟨j, w, nak, hj.trans_le hg, h⟩

/-- The result of one segment at the server, seen from outside: `g` segments have been stored by
some reassembly before, `g'` after. -/
structure StepOk (P : Params) (size n g g' : Nat) (r : SegmentStep) : Prop where
  le : g ≤ g'
  le_n : g' ≤ n
  entry : EntryOk P size n g' r.entry
  replies : ∀ m ∈ r.replies, ReplyOk P g' m
  execute : ∀ pl, r.execute = some pl → pl = P.req.payload
  full : g' = n → g = n ∨ r.execute.isSome

lemma stepOk_unchanged (hg : g ≤ n) {r : SegmentStep} (hentry : EntryOk P size n g r.entry)
    (hreplies : ∀ m ∈ r.replies, ReplyOk P g m) (hexec : r.execute = none) : StepOk P size n g g r :=
  ⟨le_rfl, hg, hentry, hreplies, by simp [hexec], fun h => .inl h⟩

lemma addSegment_ok (hcut : Cut P size n window) {k i now : Nat} {t : Rtx} (hg : g ≤ n) (hi : i < n)
    (hk : k < n) (hkg : k ≤ g) (hfirst : k = 0 → i = 0) (hseg : t.segmented = true) (hacks : t.acks = false)
    (hholds : Holds P.req.payload size t.asm k) :
    ∃ g', StepOk P size n g g'
      (addSegment P.server now t (wireRequest (confirmedSegment P.req size n window i))) := by
  have hadd := hholds.add hcut.le_max hk hi
  cases hres : t.asm.add (UInt8.ofNat i) (decide (i + 1 < n)) (slice P.req.payload size i) with
  | mk asm outcome =>
  rw [hres] at hadd
  simp only [addSegment, hseg, hacks, Bool.not_true, Bool.or_self, Bool.false_eq_true, if_false, wireRequest,
    confirmedSegment, hres]
  cases hadd with
  | outOfOrder hne hr =>
    subst hr
    obtain ⟨j, rfl⟩ : ∃ j, k = j + 1 := ⟨k - 1, by omega⟩
    refine ⟨g, stepOk_unchanged hg ?_ ?_ rfl⟩
    · rintro t' ⟨⟩ _
      exact ⟨hacks, j + 1, by omega, hk, hkg, hholds⟩
    · intro m hm
      obtain rfl := List.mem_singleton.mp hm
      rw [hholds.last]
      exact .inr ⟨j, _, _, by omega, rfl⟩
  | tooManySegments _ _ _ =>
    refine ⟨g, stepOk_unchanged hg (by intro t' h; cases h) ?_ rfl⟩
    intro m hm
    obtain rfl := List.mem_singleton.mp hm
    exact .inl ⟨_, rfl⟩
  | tooLong _ _ _ =>
    refine ⟨g, stepOk_unchanged hg (by intro t' h; cases h) ?_ rfl⟩
    intro m hm
    obtain rfl := List.mem_singleton.mp hm
    exact .inl ⟨_, rfl⟩
  | stored hik hmore h =>
    subst hik
    refine ⟨max g (i + 1), le_max_left _ _, by omega, ?_, by simp, by simp, fun hfull => .inl (by omega)⟩
    rintro t' ⟨⟩ _
    exact ⟨rfl, i + 1, by omega, hmore, le_max_right _ _, h⟩
  | storedAck hik hmore h =>
    subst hik
    refine ⟨max g (i + 1), le_max_left _ _, by omega, ?_, ?_, by simp, fun hfull => .inl (by omega)⟩
    · rintro t' ⟨⟩ _
      exact ⟨rfl, i + 1, by omega, hmore, le_max_right _ _, h⟩
    · intro m hm
      obtain rfl := List.mem_singleton.mp hm
      exact .inr ⟨i, _, _, by omega, rfl⟩
  | complete hik hlast h =>
    subst hik
    refine ⟨max g (i + 1), le_max_left _ _, by omega, ?_, ?_, ?_, fun _ => .inr rfl⟩
    · rintro t' ⟨⟩ hseg'
      simp at hseg'
    · intro m hm
      obtain rfl := List.mem_singleton.mp hm
      exact .inr ⟨i, _, _, by omega, rfl⟩
    · rintro pl ⟨⟩
      rw [h.buf, hlast, hcut.count]
      exact chunks_count _ hcut.size_pos

/-- Every segment of the request, delivered in any state, keeps what the server holds and says
within the payload. -/
lemma segment_ok (hcut : Cut P size n window) {i now : Nat} {entry : Option Rtx} (hg : g ≤ n) (hi : i < n)
    (hentry : EntryOk P size n g entry) :
    ∃ g', StepOk P size n g g'
      (Server.segment P.server now entry (wireRequest (confirmedSegment P.req size n window i)) P.peer) := by
  have hunchanged (replies : List Octets) (hreplies : ∀ m ∈ replies, ∃ reason, m = abortReply P.req.invokeID reason) :
      StepOk P size n g g { entry, replies } :=
    stepOk_unchanged hg hentry (fun m hm => .inl (hreplies m hm)) rfl
  unfold Server.segment
  split
  · exact ⟨g, hunchanged _ fun m hm => ⟨_, List.mem_singleton.mp hm⟩⟩
  · cases entry with
    | some t =>
      by_cases hseg : t.segmented = true
      · obtain ⟨hacks, k, h1, hk, hkg, hholds⟩ := hentry t rfl hseg
        exact addSegment_ok hcut hg hi hk hkg (by omega) hseg hacks hholds
      · refine ⟨g, ?_⟩
        simp only [addSegment, hseg, Bool.not_false, Bool.true_or, if_true]
        exact hunchanged _ (by simp)
    | none =>
      dsimp only
      split
      · exact ⟨g, hunchanged _ fun m hm => ⟨_, List.mem_singleton.mp hm⟩⟩
      · next hzero =>
        push Not at hzero
        have hi0 : i = 0 := by
          have : UInt8.ofNat i = UInt8.ofNat 0 := hzero
          exact (uint8_ofNat_inj (by have := hcut.le_max; omega) (by omega)).mp this
        exact addSegment_ok hcut hg hi (by omega) (Nat.zero_le g) (fun _ => hi0) rfl rfl (holds_new _ _ _ _ _)

def ClientMsg (P : Params) (m : Octets) : Prop :=
  m ∈ P.segments ∨ ∃ reason, m = clientAbort P.req.invokeID reason

lemma serverReceive_ok (hcut : Cut P size n window) (now : Nat) {entry : Option Rtx} (hg : g ≤ n)
    (hentry : EntryOk P size n g entry) (hm : ClientMsg P m) :
    ∃ g', StepOk P size n g g' (serverReceive P now entry m) := by
  have hsame : StepOk P size n g g { entry } := stepOk_unchanged hg hentry (by simp) rfl
  rcases hm with hm | ⟨reason, rfl⟩
  · rw [hcut.segments] at hm
    obtain ⟨i, hi, rfl⟩ := List.mem_map.mp hm
    have hi := List.mem_range.mp hi
    unfold serverReceive
    split
    · next req hparse =>
      cases eq_of_parse_confirmedRequest rfl hparse
      split
      · exact segment_ok hcut hg hi hentry
      · exact ⟨g, hsame⟩
    · next a hparse => cases eq_of_parse_confirmedRequest rfl hparse
    · exact ⟨g, hsame⟩
  · unfold serverReceive
    rw [clientAbort, parse_appendAbort]
    split_ifs
    · exact ⟨g, hsame⟩
    · refine ⟨g, stepOk_unchanged hg ?_ (by simp) ?_⟩
      · dsimp only
        split
        · intro t ht hseg
          simp only [abortFromClient, Option.filter_eq_some_iff] at ht
          exact hentry t ht.1 hseg
        · exact hentry
      · dsimp only
        split <;> rfl

/-! ## The client's side -/

def AckOk (g : Nat) (ack : SegmentACK) : Prop := ∃ j, j < g ∧ ack.sequenceNumber = UInt8.ofNat j

lemma clientReceive_ok {ackCh : List SegmentACK} (hch : ∀ a ∈ ackCh, AckOk g a)
    (hm : ReplyOk P g m) : ∀ a ∈ clientReceive P ackCh m, AckOk g a := by
  unfold clientReceive
  rcases hm with ⟨reason, rfl⟩ | ⟨j, w, nak, hj, rfl⟩
  · rw [abortReply, parse_appendAbort]
    split_ifs <;> exact hch
  · split
    · next ack hparse =>
      cases eq_of_parse_segmentACK hparse
      split
      · exact List.forall_mem_append.mpr ⟨hch, List.forall_mem_singleton.mpr ⟨j, hj, rfl⟩⟩
      · exact hch
    · exact hch

lemma onAck_highestAcked (hg : g ≤ 256) {s : SendLoop} (hs : s.highestAcked + 1 ≤ g) {ack : SegmentACK}
    (hack : AckOk g ack) {retryCount : Nat} {id service : UInt8} {s' : SendLoop}
    (h : s.onAck retryCount id service ack = .waiting s' ∨ s.onAck retryCount id service ack = .progress s') :
    s'.highestAcked + 1 ≤ g := by
  obtain ⟨j, hj, hseq⟩ := hack
  unfold SendLoop.onAck at h
  split at h
  · simp at h
    rw [← h]
    exact hs
  · simp only at h
    generalize hs₁ : (if validWindow ack.actualWindowSize then { s with window := ack.actualWindowSize } else s) = s₁ at h
    have hs₁' : s₁.highestAcked = s.highestAcked := by
      rw [← hs₁]
      split <;> rfl
    have hnat : (UInt8.ofNat j).toNat = j := by simpa using Nat.mod_eq_of_lt (by omega : j < 256)
    split at h
    · rw [hseq] at h
      unfold SendLoop.onNak at h
      simp only at h
      have hresume : (UInt8.ofNat j + 1).toNat % 256 ≤ j + 1 := by
        rw [uint8_ofNat_succ]
        simp only [UInt8.toNat_ofNat']
        omega
      have hj' : j = 255 ∨ (UInt8.ofNat j + 1).toNat % 256 = j + 1 := by
        rw [uint8_ofNat_succ]
        simp only [UInt8.toNat_ofNat']
        omega
      split_ifs at h <;> simp at h
      all_goals
        subst h
        simp only
        omega
    · rw [hseq] at h
      unfold SendLoop.onPositive at h
      simp only [hnat] at h
      split_ifs at h <;> simp at h
      · subst h
        omega
      · subst h
        simp only
        omega

/-! ## The run -/

/-- What holds in every state of the transfer; `g` is the largest number of segments that a
reassembly has stored. -/
structure Inv (P : Params) (size n : Nat) (s : State) (g : Nat) : Prop where
  le_n : g ≤ n
  toServer : ∀ m ∈ s.toServer, ClientMsg P m
  entry : EntryOk P size n g s.entry
  toClient : ∀ m ∈ s.toClient, ReplyOk P g m
  ackCh : ∀ a ∈ s.ackCh, AckOk g a
  highestAcked : s.loop.highestAcked + 1 ≤ g
  returned : s.pc = .returned none → n ≤ s.loop.highestAcked + 1
  completed : ∀ pl ∈ s.completed, pl = P.req.payload
  full : g = n → s.completed ≠ []

lemma inv_init (hcut : Cut P size n window) : Inv P size n {} 0 where
  le_n := Nat.zero_le n
  toServer := by simp
  entry := by
    intro t ht
    cases ht
  toClient := by simp
  ackCh := by simp
  highestAcked := by simp
  returned := by simp
  completed := by simp
  full := by
    have := hcut.count ▸ count_pos hcut.size_pos
    omega

lemma inv_deliverToServer (hcut : Cut P size n window) (h : Inv P size n s g)
    (hm : m ∈ s.toServer) :
    ∃ g', Inv P size n
      { s with
        entry := (serverReceive P s.now s.entry m).entry
        toClient := s.toClient ++ (serverReceive P s.now s.entry m).replies
        completed := s.completed ++ (serverReceive P s.now s.entry m).execute.toList } g' := by
  obtain ⟨g', hstep⟩ := serverReceive_ok hcut s.now h.le_n h.entry (h.toServer m hm)
  refine ⟨g', hstep.le_n, h.toServer, hstep.entry, ?_, ?_, ?_, h.returned, ?_, ?_⟩
  · exact List.forall_mem_append.mpr ⟨fun m hm => (h.toClient m hm).mono hstep.le, hstep.replies⟩
  · intro a ha
    obtain ⟨j, hj, hseq⟩ := h.ackCh a ha
    exact ⟨j, hj.trans_le hstep.le, hseq⟩
  · have := h.highestAcked
    have := hstep.le
    simp only
    omega
  · intro pl hpl
    rcases List.mem_append.mp hpl with hpl | hpl
    · exact h.completed pl hpl
    · exact hstep.execute pl (Option.mem_toList.mp hpl)
  · intro hfull
    rcases hstep.full hfull with hg | hexec
    · simp [h.full hg]
    · obtain ⟨pl, hpl⟩ := Option.isSome_iff_exists.mp hexec
      simp [hpl]

lemma inv_step (hcut : Cut P size n window) {s' : State} {a : Action} (h : Inv P size n s g)
    (hstep : step P s a = some s') : ∃ g', Inv P size n s' g' := by
  have hlen : P.segments.length = n := by simp [hcut.segments]
  have hsend (ms : List Octets) (hms : ∀ m ∈ ms, ClientMsg P m) : ∀ m ∈ s.toServer ++ ms, ClientMsg P m :=
    List.forall_mem_append.mpr ⟨h.toServer, hms⟩
  cases a with
  | send ok =>
    simp only [step] at hstep
    split at hstep
    · split at hstep
      · cases hstep
      · next seg hseg =>
        have hms := hsend [seg] fun m hm => .inl (by
          obtain rfl := List.mem_singleton.mp hm
          exact List.mem_of_getElem? hseg)
        refine ⟨g, ?_⟩
        cases ok <;> cases hstep
        · exact { h with toServer := hms, returned := by simp }
        · exact { h with toServer := hms }
    · cases hstep
  | startWaiting =>
    simp only [step] at hstep
    split at hstep <;> cases hstep
    exact ⟨g, { h with returned := by simp }⟩
  | finish =>
    simp only [step] at hstep
    split at hstep
    · next hguard =>
      cases hstep
      refine ⟨g, { h with returned := fun _ => ?_ }⟩
      simpa [SendLoop.done, hlen] using hguard.2
    · cases hstep
  | giveUp why =>
    simp only [step] at hstep
    split at hstep <;> cases hstep
    refine ⟨g, { h with toServer := hsend _ ?_, returned := by simp }⟩
    intro m hm
    obtain ⟨reason, -, rfl⟩ := Option.map_eq_some_iff.mp (Option.mem_toList.mp hm)
    exact .inr ⟨reason, rfl⟩
  | takeAck =>
    simp only [step] at hstep
    split at hstep
    · next hpc =>
      split at hstep
      · cases hstep
      · next ack rest hch =>
        have hack : AckOk g ack := h.ackCh ack (by simp [hch])
        have hrest : ∀ a ∈ rest, AckOk g a := fun a ha => h.ackCh a (by simp [hch, ha])
        have hg256 : g ≤ 256 := h.le_n.trans hcut.le_max
        refine ⟨g, ?_⟩
        split at hstep <;> cases hstep
        · next loop hverdict =>
          exact { h with ackCh := hrest, highestAcked := onAck_highestAcked hg256 h.highestAcked hack (.inl hverdict)
                         returned := by simp [hpc] }
        · next loop hverdict =>
          exact { h with ackCh := hrest, highestAcked := onAck_highestAcked hg256 h.highestAcked hack (.inr hverdict)
                         returned := by simp }
        · next reason err hverdict =>
          refine { h with ackCh := hrest, toServer := hsend _ fun m hm => ?_, returned := by simp }
          exact .inr ⟨reason, List.mem_singleton.mp hm⟩
    · cases hstep
  | deliverToClient i =>
    obtain ⟨m, hm, rfl⟩ := Option.map_eq_some_iff.mp hstep
    exact ⟨g, { h with ackCh := clientReceive_ok h.ackCh (h.toClient m (List.mem_of_getElem? hm)) }⟩
  | deliverToServer i =>
    obtain ⟨m, hm, rfl⟩ := Option.map_eq_some_iff.mp hstep
    exact inv_deliverToServer hcut h (List.mem_of_getElem? hm)
  | expire =>
    cases hstep
    refine ⟨g, { h with entry := fun t ht hseg => ?_ }⟩
    exact h.entry t (Option.filter_eq_some_iff.mp ht).1 hseg
  | release =>
    simp only [step] at hstep
    split at hstep
    · split at hstep <;> cases hstep
      exact ⟨g, { h with entry := fun t ht => by cases ht }⟩
    · cases hstep
  | tick =>
    cases hstep
    exact ⟨g, { h with }⟩

lemma inv_reachable (hcut : Cut P size n window) (hs : Transfer.Request.Reachable P s) :
    ∃ g, Inv P size n s g := by
  refine hs.invariant (fun s => ∃ g, Inv P size n s g) ⟨0, inv_init hcut⟩ ?_
  rintro s a s' ⟨g, h⟩ - hstep
  exact inv_step hcut h hstep

/-- Integrity of a segmented request. For every request that is split into segments and every
behaviour of the network: a completed reassembly holds the payload of the request, and the sending
loop returns without error only after the server's reassembly was complete. -/
theorem requestTransfer_integrity
    (hbuild : buildConfirmedSegments P.req P.remoteMax P.proposedWindow = .ok P.segments)
    (hs : Transfer.Request.Reachable P s) :
    (∀ pl ∈ s.completed, pl = P.req.payload) ∧ (s.pc = .returned none → s.completed ≠ []) := by
  obtain ⟨size, n, window, hcut⟩ := cut_of_build hbuild
  obtain ⟨g, h⟩ := inv_reachable hcut hs
  refine ⟨h.completed, fun hpc => h.full ?_⟩
  have hall := h.returned hpc
  have hacked := h.highestAcked
  have hle := h.le_n
  omega

end

end GoBacnet.Proofs
