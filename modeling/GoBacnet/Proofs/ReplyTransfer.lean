import GoBacnet.Proofs.ApduRoundTrip
import GoBacnet.Proofs.Reassembly
import GoBacnet.Transfer.Reply

/-!
# Integrity of a segmented reply

The counterpart of the request's transfer: the client's reassemblies hold prefixes of the payload,
and the server's loop never counts more segments as acknowledged than one of them stored.
-/

namespace GoBacnet.Proofs.Reply

open Apdu Segment Server Transfer.Reply
open Client (PacketSource SegState AcceptStep acceptSegment)

variable {g : Nat} {m : Octets} {s : State}

structure Cut (P : Params) : Prop where
  count : P.count = count P.payload.length P.segSize
  size_pos : 1 ≤ P.segSize
  le_max : P.count ≤ 256

variable {P : Params}

/-- A reassembly in progress holds between one and all but one of the segments, at most `g`. -/
def EntryOk (P : Params) (g : Nat) (entry : Option SegState) : Prop :=
  ∀ st, entry = some st → ∃ k, 1 ≤ k ∧ k < P.count ∧ k ≤ g ∧ Holds P.payload P.segSize st.asm k

def OutboundOk (g : Nat) (m : Octets) : Prop :=
  (∃ a, m = appendAbort [] a) ∨
    ∃ j ack, j < g ∧ ack.sequenceNumber = UInt8.ofNat j ∧ m = appendSegmentACK [] ack

lemma OutboundOk.mono {g' : Nat} (hg : g ≤ g') (h : OutboundOk g m) : OutboundOk g' m := by
  rcases h with h | ⟨j, ack, hj, h⟩
  · exact .inl h
  · exact .inr ⟨j, ack, hj.trans_le hg, h⟩

/-- The result of one segment at the client, seen from outside. -/
structure StepOk (P : Params) (g g' : Nat) (r : AcceptStep) : Prop where
  le : g ≤ g'
  le_n : g' ≤ P.count
  entry : EntryOk P g' r.entry
  outbound : ∀ m ∈ r.outbound, OutboundOk g' m
  complete : ∀ pl, r.result = .complete pl → pl = P.payload
  full : g' = P.count → g = P.count ∨ ∃ pl, r.result = .complete pl

lemma stepOk_unchanged (hg : g ≤ P.count) {r : AcceptStep} (hentry : EntryOk P g r.entry)
    (hout : ∀ m ∈ r.outbound, OutboundOk g m) (hres : ∀ pl, r.result ≠ .complete pl) : StepOk P g g r :=
  ⟨le_rfl, hg, hentry, hout, fun pl h => absurd h (hres pl), fun h => .inl h⟩

def wireSegment (P : Params) (i : Nat) : ComplexACK where
  segmentedMessage := true
  moreFollows := i + 1 < P.count
  invokeID := P.req.invokeID
  sequenceNumber := UInt8.ofNat i
  proposedWindowSize := P.server.window
  serviceChoice := P.req.serviceChoice
  payload := slice P.payload P.segSize i

lemma entryOk_none (P : Params) (g : Nat) : EntryOk P g none := by
  intro st h
  cases h

lemma addSegment_ok (hcut : Cut P) {k i : Nat} {st : SegState} (hg : g ≤ P.count) (hi : i < P.count)
    (hk : k < P.count) (hkg : k ≤ g) (hfirst : k = 0 → i = 0) (hholds : Holds P.payload P.segSize st.asm k)
    (src : PacketSource) : ∃ g', StepOk P g g' (Client.addSegment st (wireSegment P i) src) := by
  have hadd := hholds.add hcut.le_max hk hi
  cases hres : st.asm.add (UInt8.ofNat i) (decide (i + 1 < P.count)) (slice P.payload P.segSize i) with
  | mk asm outcome =>
  rw [hres] at hadd
  simp only [Client.addSegment, wireSegment, hres]
  cases hadd with
  | outOfOrder hne hr =>
    obtain ⟨j, rfl⟩ : ∃ j, k = j + 1 := ⟨k - 1, by omega⟩
    refine ⟨g, stepOk_unchanged hg ?_ ?_ (by simp)⟩
    · rintro st' ⟨⟩
      exact ⟨j + 1, by omega, hk, hkg, hholds⟩
    · intro m hm
      obtain rfl := List.mem_singleton.mp hm
      exact .inr ⟨j, _, by omega, hholds.last, rfl⟩
  | tooManySegments _ _ _ =>
    refine ⟨g, stepOk_unchanged hg (entryOk_none P g) ?_ (by simp)⟩
    intro m hm
    exact .inl ⟨_, List.mem_singleton.mp hm⟩
  | tooLong _ _ _ =>
    refine ⟨g, stepOk_unchanged hg (entryOk_none P g) ?_ (by simp)⟩
    intro m hm
    exact .inl ⟨_, List.mem_singleton.mp hm⟩
  | stored hik hmore h =>
    subst hik
    refine ⟨max g (i + 1), le_max_left _ _, by omega, ?_, by simp, by simp, fun hfull => .inl (by omega)⟩
    rintro st' ⟨⟩
    exact ⟨i + 1, by omega, hmore, le_max_right _ _, h⟩
  | storedAck hik hmore h =>
    subst hik
    refine ⟨max g (i + 1), le_max_left _ _, by omega, ?_, ?_, by simp, fun hfull => .inl (by omega)⟩
    · rintro st' ⟨⟩
      exact ⟨i + 1, by omega, hmore, le_max_right _ _, h⟩
    · intro m hm
      obtain rfl := List.mem_singleton.mp hm
      exact .inr ⟨i, _, by omega, h.last, rfl⟩
  | complete hik hlast h =>
    subst hik
    refine ⟨max g (i + 1), le_max_left _ _, by omega, entryOk_none P _, ?_, ?_, fun _ => .inr ⟨_, rfl⟩⟩
    · intro m hm
      obtain rfl := List.mem_singleton.mp hm
      exact .inr ⟨i, _, by omega, h.last, rfl⟩
    · rintro pl ⟨⟩
      rw [h.buf, hlast, hcut.count]
      exact chunks_count _ hcut.size_pos

lemma acceptSegment_ok (hcut : Cut P) {i : Nat} {entry : Option SegState} (hg : g ≤ P.count) (hi : i < P.count)
    (hentry : EntryOk P g entry) (limits : DecodeLimits) (pending : Bool) :
    ∃ g', StepOk P g g'
      (acceptSegment limits P.localWindow P.destAddr pending entry (wireSegment P i) P.src) := by
  unfold acceptSegment
  cases entry with
  | some st =>
    dsimp only
    split
    · refine ⟨g, stepOk_unchanged hg (entryOk_none P g) ?_ (by simp)⟩
      intro m hm
      exact .inl ⟨_, List.mem_singleton.mp hm⟩
    · obtain ⟨k, h1, hk, hkg, hholds⟩ := hentry st rfl
      exact addSegment_ok hcut hg hi hk hkg (by omega) hholds P.src
  | none =>
    dsimp only
    split
    · exact ⟨g, stepOk_unchanged hg (entryOk_none P g) (by simp) (by simp)⟩
    · next hzero =>
      push Not at hzero
      have hi0 : i = 0 := by
        have : UInt8.ofNat i = UInt8.ofNat 0 := hzero
        exact (uint8_ofNat_inj (by have := hcut.le_max; omega) (by omega)).mp this
      split
      · exact ⟨g, stepOk_unchanged hg (entryOk_none P g) (by simp) (by simp)⟩
      · exact addSegment_ok hcut hg hi (by omega) (Nat.zero_le g) (fun _ => hi0) (holds_new _ _ _ _ _) P.src

def ServerMsg (P : Params) (m : Octets) : Prop :=
  (∃ i, i < P.count ∧ m = encodeSegment P.server P.req P.payload P.segSize P.count i) ∨
    ∃ a, m = appendAbort [] a

lemma clientReceive_ok (hcut : Cut P) {entry : Option SegState} (hg : g ≤ P.count)
    (hentry : EntryOk P g entry) (hm : ServerMsg P m) (pending : Bool) :
    ∃ g', StepOk P g g' (clientReceive P pending entry m) := by
  have hsame : StepOk P g g { entry } := stepOk_unchanged hg hentry (by simp) (by simp)
  unfold clientReceive
  rcases hm with ⟨i, hi, rfl⟩ | ⟨a, rfl⟩
  · have hseg : encodeSegment P.server P.req P.payload P.segSize P.count i =
        appendComplexACK [] (wireSegment P i) := rfl
    rw [hseg]
    split
    · next ack hparse =>
      cases eq_of_parse_complexACK rfl hparse
      split
      · exact acceptSegment_ok hcut hg hi hentry _ pending
      · exact ⟨g, hsame⟩
    · exact ⟨g, hsame⟩
  · rw [parse_appendAbort]
    split_ifs <;> exact ⟨g, hsame⟩

/-! ## The server's side -/

def AckOk (g : Nat) (ack : SegmentACK) : Prop := ∃ j, j < g ∧ ack.sequenceNumber = UInt8.ofNat j

lemma serverReceive_ok {acks : List SegmentACK} (hacks : ∀ a ∈ acks, AckOk g a)
    (hm : OutboundOk g m) : ∀ a ∈ serverReceive P acks m, AckOk g a := by
  unfold serverReceive
  rcases hm with ⟨a, rfl⟩ | ⟨j, ack, hj, hseq, rfl⟩
  · rw [parse_appendAbort]
    split_ifs <;> exact hacks
  · split
    · next ack' hparse =>
      cases eq_of_parse_segmentACK hparse
      split
      · exact List.forall_mem_append.mpr ⟨hacks, List.forall_mem_singleton.mpr ⟨j, hj, hseq⟩⟩
      · exact hacks
    · exact hacks

/-- A window end never passes the last segment, so the sequence number of a SegmentACK that counts
is the number of the segment. -/
lemma onAck_acked (hg : g ≤ 256) {s : SendSegments} (hlo : -1 ≤ s.acked) (hs : s.acked + 1 ≤ g)
    {stop : Int} (hstop : stop ≤ 256) {ack : SegmentACK} (hack : AckOk g ack) {s' : SendSegments}
    (h : s.onAck stop ack = .ignored s' ∨ s.onAck stop ack = .progressed s') :
    -1 ≤ s'.acked ∧ s'.acked + 1 ≤ g := by
  obtain ⟨j, hj, hseq⟩ := hack
  have hnat : (UInt8.ofNat j).toNat = j := by simpa using Nat.mod_eq_of_lt (by omega : j < 256)
  unfold SendSegments.onAck at h
  simp only [hseq, hnat] at h
  generalize hs₁ : (if validWindow ack.actualWindowSize then { s with window := ack.actualWindowSize.toNat }
    else s) = s₁ at h
  have hacked : s₁.acked = s.acked := by
    rw [← hs₁]
    split <;> rfl
  split_ifs at h <;> simp at h
  · subst h
    omega
  · subst h
    simp only
    omega
  · subst h
    omega
  · subst h
    omega

/-! ## The run -/

def PcOk (P : Params) (s : State) : Prop :=
  match s.pc with
  | .loopHead => True
  | .sending i stop => 0 ≤ i ∧ stop ≤ P.count
  | .waiting stop => stop ≤ P.count
  | .returned ok => ok = true → (P.count : Int) ≤ s.loop.acked + 1

/-- What holds in every state of the transfer; `g` is the largest number of segments that a
reassembly has stored. -/
structure Inv (P : Params) (s : State) (g : Nat) : Prop where
  le_n : g ≤ P.count
  pc : PcOk P s
  toClient : ∀ m ∈ s.toClient, ServerMsg P m
  entry : EntryOk P g s.entry
  toServer : ∀ m ∈ s.toServer, OutboundOk g m
  acks : ∀ a ∈ s.acks, AckOk g a
  acked_lo : -1 ≤ s.loop.acked
  acked : s.loop.acked + 1 ≤ g
  completed : ∀ pl ∈ s.completed, pl = P.payload
  full : g = P.count → s.completed ≠ []

lemma inv_init (hcut : Cut P) : Inv P {} 0 where
  le_n := Nat.zero_le _
  pc := trivial
  toClient := by simp
  entry := entryOk_none P 0
  toServer := by simp
  acks := by simp
  acked_lo := le_rfl
  acked := by simp
  completed := by simp
  full := by
    have := hcut.count ▸ count_pos hcut.size_pos
    omega

lemma inv_deliverToClient (hcut : Cut P) (h : Inv P s g)
    (hm : m ∈ s.toClient) (pending : Bool) :
    ∃ g', Inv P
      { s with
        entry := (clientReceive P pending s.entry m).entry
        toServer := s.toServer ++ (clientReceive P pending s.entry m).outbound
        completed := match (clientReceive P pending s.entry m).result with
          | .complete payload => s.completed ++ [payload]
          | _ => s.completed } g' := by
  obtain ⟨g', hstep⟩ := clientReceive_ok hcut h.le_n h.entry (h.toClient m hm) pending
  refine ⟨g', hstep.le_n, h.pc, h.toClient, hstep.entry, ?_, ?_, h.acked_lo, ?_, ?_, ?_⟩
  · exact List.forall_mem_append.mpr ⟨fun m hm => (h.toServer m hm).mono hstep.le, hstep.outbound⟩
  · intro a ha
    obtain ⟨j, hj, hseq⟩ := h.acks a ha
    exact ⟨j, hj.trans_le hstep.le, hseq⟩
  · have := h.acked
    have := hstep.le
    simp only
    omega
  · intro pl hpl
    dsimp only at hpl
    split at hpl
    · next payload hres =>
      rcases List.mem_append.mp hpl with hpl | hpl
      · exact h.completed pl hpl
      · obtain rfl := List.mem_singleton.mp hpl
        exact hstep.complete _ hres
    · exact h.completed pl hpl
  · intro hfull
    dsimp only
    rcases hstep.full hfull with hg | ⟨pl, hpl⟩
    · split
      · simp
      · exact h.full hg
    · simp [hpl]

lemma inv_step (hcut : Cut P) {s' : State} {a : Action} (h : Inv P s g)
    (hstep : step P s a = some s') : ∃ g', Inv P s' g' := by
  have hsend (m : Octets) (hm : ServerMsg P m) : ∀ m' ∈ s.toClient ++ [m], ServerMsg P m' := by
    intro m' hm'
    rcases List.mem_append.mp hm' with hm' | hm'
    · exact h.toClient m' hm'
    · obtain rfl := List.mem_singleton.mp hm'
      exact hm
  have hpc := h.pc
  have hlo := h.acked_lo
  cases a with
  | startWindow =>
    simp only [step] at hstep
    split at hstep <;> cases hstep
    refine ⟨g, ?_⟩
    split
    · refine { h with pc := ⟨by omega, ?_⟩ }
      exact min_le_right _ _
    · next hdone => exact { h with pc := fun _ => by dsimp only; omega }
  | send ok =>
    simp only [step] at hstep
    split at hstep
    · next i stop heq =>
      simp only [PcOk, heq] at hpc
      split at hstep
      · next hlt =>
        cases hstep
        refine ⟨g, { h with toClient := hsend _ (.inl ⟨i.toNat, by omega, rfl⟩), pc := ?_ }⟩
        cases ok
        · simp [PcOk]
        · exact ⟨by omega, hpc.2⟩
      · cases hstep
    · cases hstep
  | startWaiting =>
    simp only [step] at hstep
    split at hstep
    · next i stop heq =>
      simp only [PcOk, heq] at hpc
      split at hstep <;> cases hstep
      exact ⟨g, { h with pc := hpc.2 }⟩
    · cases hstep
  | giveUp =>
    simp only [step] at hstep
    split at hstep <;> cases hstep
    exact ⟨g, { h with pc := by simp [PcOk] }⟩
  | timer =>
    simp only [step] at hstep
    split at hstep <;> cases hstep
    refine ⟨g, ?_⟩
    split
    · exact { h with pc := by simp [PcOk], toClient := hsend _ (.inr ⟨_, rfl⟩) }
    · exact { h with pc := trivial }
  | takeAck =>
    simp only [step] at hstep
    split at hstep
    · next stop ack rest heq hacks =>
      simp only [PcOk, heq] at hpc
      have hack : AckOk g ack := h.acks ack (by simp [hacks])
      have hrest : ∀ a ∈ rest, AckOk g a := fun a ha => h.acks a (by simp [hacks, ha])
      have hstop : stop ≤ 256 := by
        have := hcut.le_max
        omega
      refine ⟨g, ?_⟩
      split at hstep <;> cases hstep
      · next loop hverdict =>
        obtain ⟨h1, h2⟩ := onAck_acked (h.le_n.trans hcut.le_max) hlo h.acked hstop hack (.inl hverdict)
        exact { h with acks := hrest, acked_lo := h1, acked := h2, pc := by simpa [PcOk, heq] using hpc }
      · next loop hverdict =>
        obtain ⟨h1, h2⟩ := onAck_acked (h.le_n.trans hcut.le_max) hlo h.acked hstop hack (.inr hverdict)
        exact { h with acks := hrest, acked_lo := h1, acked := h2, pc := trivial }
    · cases hstep
  | deliverToClient i pending =>
    obtain ⟨m, hm, rfl⟩ := Option.map_eq_some_iff.mp hstep
    exact inv_deliverToClient hcut h (List.mem_of_getElem? hm) pending
  | deliverToServer i =>
    obtain ⟨m, hm, rfl⟩ := Option.map_eq_some_iff.mp hstep
    exact ⟨g, { h with acks := serverReceive_ok h.acks (h.toServer m (List.mem_of_getElem? hm)) }⟩
  | release =>
    cases hstep
    exact ⟨g, { h with entry := entryOk_none P g }⟩

lemma inv_reachable (hcut : Cut P) (hs : Transfer.Reply.Reachable P s) : ∃ g, Inv P s g := by
  refine hs.invariant (fun s => ∃ g, Inv P s g) ⟨0, inv_init hcut⟩ ?_
  rintro s a s' ⟨g, h⟩ - hstep
  exact inv_step hcut h hstep

theorem replyTransfer_integrity (hcut : Cut P) (hs : Transfer.Reply.Reachable P s) :
    (∀ pl ∈ s.completed, pl = P.payload) ∧ (s.pc = .returned true → s.completed ≠ []) := by
  obtain ⟨g, h⟩ := inv_reachable hcut hs
  refine ⟨h.completed, fun hpc => h.full ?_⟩
  have hall := h.pc
  simp only [PcOk, hpc, forall_const] at hall
  have hacked := h.acked
  have hle := h.le_n
  omega

end GoBacnet.Proofs.Reply
