import GoBacnet.Transfer.Senders

/-!
# What the reply loop counts as acknowledged

The loop maps an 8-bit sequence number to the segment at most 255 after the last one acknowledged. With at most 256
segments this is the named segment or one that was not sent, so a stale SegmentACK never moves the loop.
-/

namespace GoBacnet.Proofs.ReplySender

open Apdu Segment Transfer.ReplySender
open Server (SendSegments)

variable {P : Params}

variable {s s' : State}

def windowAfter (window : Nat) (a : SegmentACK) : Nat :=
  if validWindow a.actualWindowSize then a.actualWindowSize.toNat else window

lemma windowAfter_bounds {window : Nat} (h : 1 ≤ window ∧ window ≤ 127) (a : SegmentACK) :
    1 ≤ windowAfter window a ∧ windowAfter window a ≤ 127 := by
  unfold windowAfter
  split_ifs with hw
  · simpa [validWindow, maxWindow, UInt8.le_iff_toNat_le] using hw
  · exact h

def named (acked : Int) (seq : UInt8) : Int := acked + 1 + (seq.toNat - (acked + 1) % 256 + 256) % 256

lemma named_bounds (acked : Int) (seq : UInt8) : acked < named acked seq ∧ named acked seq ≤ acked + 256 := by
  unfold named
  omega

lemma named_emod (acked : Int) (seq : UInt8) : named acked seq % 256 = seq.toNat := by
  have hseq := seq.toNat_lt
  unfold named
  omega

lemma onAck_eq (s : SendSegments) (stop : Int) (a : SegmentACK) :
    s.onAck stop a =
      if named s.acked a.sequenceNumber < stop then
        .progressed ⟨windowAfter s.window a, named s.acked a.sequenceNumber, 0⟩
      else .ignored { s with window := windowAfter s.window a } := by
  have hlt := (named_bounds s.acked a.sequenceNumber).1
  have hloop : (if validWindow a.actualWindowSize then { s with window := a.actualWindowSize.toNat } else s) =
      { s with window := windowAfter s.window a } := by
    unfold windowAfter
    split_ifs <;> rfl
  simp only [SendSegments.onAck, hloop]
  change (if named s.acked a.sequenceNumber ≥ stop then _ else _) = _
  by_cases hstop : named s.acked a.sequenceNumber < stop
  · have hge : ¬ named s.acked a.sequenceNumber ≥ stop := not_le.mpr hstop
    simp only [hge, hstop, if_true, if_false]
    exact if_pos hlt
  · simp only [hstop, not_lt.mp hstop, if_true, if_false]

/-- What the place of the loop says about its window and the segments sent. -/
def AtPc (P : Params) (s : State) : Prop :=
  match s.pc with
  | .loopHead => True
  | .sending i stop =>
    s.loop.acked + 1 ≤ i ∧ i ≤ stop ∧ stop = min (s.loop.acked + 1 + s.allowed) P.count ∧
      s.round.length = i - (s.loop.acked + 1) ∧ ∀ j, 0 ≤ j → j < i → j ∈ s.sent
  | .waiting stop =>
    s.loop.acked + 1 ≤ stop ∧ stop ≤ s.loop.acked + 128 ∧ stop ≤ P.count ∧ ∀ j, 0 ≤ j → j < stop → j ∈ s.sent
  | .returned ok => ok → s.loop.acked + 1 = P.count

structure Sound (P : Params) (s : State) : Prop where
  acked_ge : -1 ≤ s.loop.acked
  acked_lt : s.loop.acked + 1 ≤ P.count
  window_eq : s.loop.window = s.announced
  announced : 1 ≤ s.announced ∧ s.announced ≤ 127
  allowed : s.allowed ≤ 127
  /-- Until a SegmentACK is taken the window is one segment. -/
  first : s.taken = [] → s.announced = 1 ∧ s.allowed = 1
  round : s.round.length ≤ s.allowed
  acked_sent : ∀ i, 0 ≤ i → i ≤ s.loop.acked → i ∈ s.sent
  /-- The position is the segment that some SegmentACK named. -/
  acked_taken : 0 ≤ s.loop.acked → ∃ a ∈ s.taken, (a.sequenceNumber.toNat : Int) = s.loop.acked
  atPc : AtPc P s

lemma Sound.atSending {i stop : Int} (h : Sound P s) (hpc : s.pc = .sending i stop) :
    s.loop.acked + 1 ≤ i ∧ i ≤ stop ∧ stop = min (s.loop.acked + 1 + s.allowed) P.count ∧
      s.round.length = i - (s.loop.acked + 1) ∧ ∀ j, 0 ≤ j → j < i → j ∈ s.sent := by
  simpa only [AtPc, hpc] using h.atPc

lemma Sound.atWaiting {stop : Int} (h : Sound P s) (hpc : s.pc = .waiting stop) :
    s.loop.acked + 1 ≤ stop ∧ stop ≤ s.loop.acked + 128 ∧ stop ≤ P.count ∧ ∀ j, 0 ≤ j → j < stop → j ∈ s.sent := by
  simpa only [AtPc, hpc] using h.atPc

lemma sound_init : Sound P {} where
  acked_ge := le_refl _
  acked_lt := by simp
  window_eq := rfl
  announced := by decide
  allowed := by decide
  first := fun _ => ⟨rfl, rfl⟩
  round := by decide
  acked_sent := by
    intro i hlo hhi
    simp only at hhi
    omega
  acked_taken := fun h => absurd h (by decide)
  atPc := trivial

lemma sound_startWindow (h : Sound P s) (hs : step P s .startWindow = some s') : Sound P s' := by
  simp only [step] at hs
  split_ifs at hs with hpc hlt
  · cases hs
    have hstop : s.loop.windowEnd P.count = min (s.loop.acked + 1 + s.announced) P.count := by
      simp [SendSegments.windowEnd, h.window_eq]
    refine { h with
      allowed := h.announced.2, first := fun ht => ⟨(h.first ht).1, (h.first ht).1⟩, round := by simp
      atPc := ⟨le_refl _, ?_, hstop, by simp, fun j hlo hhi => h.acked_sent j hlo (by omega)⟩ }
    have := h.announced.1
    simp only [hstop]
    omega
  · cases hs
    have hlast : s.loop.acked + 1 = P.count := by
      have := h.acked_lt
      omega
    exact { h with atPc := fun _ => hlast }

lemma sound_send {ok : Bool} (h : Sound P s) (hs : step P s (.send ok) = some s') : Sound P s' := by
  cases hpc : s.pc with
  | sending i stop =>
    simp only [step, hpc] at hs
    by_cases hlt : i < stop
    swap
    · exact nomatch (if_neg hlt).symm.trans hs
    obtain rfl := Option.some.inj ((if_pos hlt).symm.trans hs)
    obtain ⟨hi, -, hstop, hlen, hsent⟩ := h.atSending hpc
    have hround : (s.round.length : Int) + 1 ≤ s.allowed := by omega
    refine { h with
      round := by simpa using Int.toNat_le_toNat hround
      acked_sent := fun j hlo hhi => List.mem_cons_of_mem _ (h.acked_sent j hlo hhi)
      atPc := ?_ }
    cases ok with
    | false => exact fun hok => absurd hok (by decide)
    | true =>
      refine ⟨by simp only; omega, hlt, hstop, by simp [hlen]; omega, fun j hlo hhi => ?_⟩
      rcases (show j < i ∨ j = i by omega) with hj | rfl
      · exact List.mem_cons_of_mem _ (hsent j hlo hj)
      · exact List.mem_cons_self
  | loopHead => simp [step, hpc] at hs
  | waiting _ => simp [step, hpc] at hs
  | returned _ => simp [step, hpc] at hs

lemma sound_startWaiting (h : Sound P s) (hs : step P s .startWaiting = some s') : Sound P s' := by
  cases hpc : s.pc with
  | sending i stop =>
    simp only [step, hpc] at hs
    split_ifs at hs with hlt
    cases hs
    obtain ⟨hi, hle, hstop, -, hsent⟩ := h.atSending hpc
    have hallowed := h.allowed
    have hlo : s.loop.acked + 1 ≤ stop := hi.trans hle
    have hhi : stop ≤ s.loop.acked + 128 := by omega
    exact { h with atPc := ⟨hlo, hhi, by omega, fun j hj0 hj => hsent j hj0 (by omega)⟩ }
  | loopHead => simp [step, hpc] at hs
  | waiting _ => simp [step, hpc] at hs
  | returned _ => simp [step, hpc] at hs

lemma sound_giveUp (h : Sound P s) (hs : step P s .giveUp = some s') : Sound P s' := by
  cases hpc : s.pc with
  | waiting stop =>
    simp only [step, hpc] at hs
    cases hs
    exact { h with atPc := fun hok => absurd hok (by decide) }
  | loopHead => simp [step, hpc] at hs
  | sending _ _ => simp [step, hpc] at hs
  | returned _ => simp [step, hpc] at hs

lemma sound_timer (h : Sound P s) (hs : step P s .timer = some s') : Sound P s' := by
  cases hpc : s.pc with
  | waiting stop =>
    simp only [step, hpc] at hs
    cases hs
    refine { h with atPc := ?_ }
    unfold AtPc
    split_ifs
    · exact fun hok => absurd hok (by decide)
    · trivial
  | loopHead => simp [step, hpc] at hs
  | sending _ _ => simp [step, hpc] at hs
  | returned _ => simp [step, hpc] at hs

lemma step_ack {stop : Int} (hpc : s.pc = .waiting stop) (a : SegmentACK) :
    step P s (.ack a) = some
      { s with
        taken := a :: s.taken, announced := windowAfter s.announced a
        loop := if named s.loop.acked a.sequenceNumber < stop
          then ⟨windowAfter s.loop.window a, named s.loop.acked a.sequenceNumber, 0⟩
          else { s.loop with window := windowAfter s.loop.window a }
        pc := if named s.loop.acked a.sequenceNumber < stop then .loopHead else .waiting stop } := by
  simp only [step, hpc, onAck_eq]
  by_cases h : named s.loop.acked a.sequenceNumber < stop
  · simp only [h, if_true]
    rfl
  · simp only [h, if_false]
    rfl

lemma step_ack_waiting {a : SegmentACK} (hs : step P s (.ack a) = some s') : ∃ stop, s.pc = .waiting stop := by
  cases hpc : s.pc with
  | waiting stop => exact ⟨stop, rfl⟩
  | loopHead => simp [step, hpc] at hs
  | sending _ _ => simp [step, hpc] at hs
  | returned _ => simp [step, hpc] at hs

lemma sound_ack (hcount : P.count ≤ 256) {a : SegmentACK} (h : Sound P s)
    (hs : step P s (.ack a) = some s') : Sound P s' := by
  obtain ⟨stop, hpc⟩ := step_ack_waiting hs
  rw [step_ack hpc] at hs
  cases hs
  obtain ⟨hlo, hstop, hle, hsent⟩ := h.atWaiting hpc
  have hnamed := named_bounds s.loop.acked a.sequenceNumber
  have hge := h.acked_ge
  have hannounced := windowAfter_bounds h.announced a
  by_cases hn : named s.loop.acked a.sequenceNumber < stop
  · simp only [hn, if_true]
    exact {
      acked_ge := by simp only; omega
      acked_lt := by simp only; omega
      window_eq := by simp only [h.window_eq]
      announced := hannounced
      allowed := h.allowed
      first := fun ht => absurd ht (List.cons_ne_nil _ _)
      round := h.round
      acked_sent := fun i hi0 hi => hsent i hi0 (lt_of_le_of_lt hi hn)
      -- Below 256 the segment is its own sequence number.
      acked_taken := fun hpos => ⟨a, List.mem_cons_self, by
        have := named_emod s.loop.acked a.sequenceNumber
        simp only at hpos ⊢
        omega⟩
      atPc := trivial }
  · simp only [hn, if_false]
    exact {
      acked_ge := hge
      acked_lt := h.acked_lt
      window_eq := by simp only [h.window_eq]
      announced := hannounced
      allowed := h.allowed
      first := fun ht => absurd ht (List.cons_ne_nil _ _)
      round := h.round
      acked_sent := h.acked_sent
      acked_taken := fun hpos => by
        obtain ⟨b, hb, hacked⟩ := h.acked_taken hpos
        exact ⟨b, List.mem_cons_of_mem _ hb, hacked⟩
      atPc := ⟨hlo, hstop, hle, hsent⟩ }

lemma sound_step (hcount : P.count ≤ 256) {act : Action} (h : Sound P s)
    (hs : step P s act = some s') : Sound P s' := by
  cases act with
  | startWindow => exact sound_startWindow h hs
  | send ok => exact sound_send h hs
  | startWaiting => exact sound_startWaiting h hs
  | giveUp => exact sound_giveUp h hs
  | timer => exact sound_timer h hs
  | ack a => exact sound_ack hcount h hs

lemma sound_reachable (hcount : P.count ≤ 256) (hs : Reachable P s) : Sound P s :=
  hs.invariant (Sound P) sound_init fun _ _ _ h _ hstep => sound_step hcount h hstep

lemma acked_mono {act : Action} (hs : step P s act = some s') : s.loop.acked ≤ s'.loop.acked := by
  cases act with
  | ack a =>
    obtain ⟨stop, hpc⟩ := step_ack_waiting hs
    rw [step_ack hpc] at hs
    cases hs
    have := (named_bounds s.loop.acked a.sequenceNumber).1
    simp only
    split_ifs
    · exact this.le
    · exact le_refl _
  | startWindow | send _ | startWaiting | giveUp | timer =>
    simp only [step] at hs
    grind

lemma stale_ignored (hcount : P.count ≤ 256) {a : SegmentACK} (h : Sound P s)
    (hstale : (a.sequenceNumber.toNat : Int) < s.loop.acked) (hs : step P s (.ack a) = some s') :
    s'.pc = s.pc ∧ s'.loop = { s.loop with window := s'.loop.window } := by
  obtain ⟨stop, hpc⟩ := step_ack_waiting hs
  rw [step_ack hpc] at hs
  cases hs
  obtain ⟨-, -, hle, -⟩ := h.atWaiting hpc
  have hn : ¬ named s.loop.acked a.sequenceNumber < stop := by
    have h1 := named_emod s.loop.acked a.sequenceNumber
    have h2 := named_bounds s.loop.acked a.sequenceNumber
    have h3 := h.acked_ge
    omega
  simp [hn, hpc]

/-- Whatever SegmentACKs arrive, the acknowledged position only grows, covers sent segments only and is one that a
SegmentACK named; a round sends no more than the window announced when it began, and the loop returns success only
after the last segment was acknowledged. -/
theorem replySender_safe (P : Params) (hcount : P.count ≤ 256) (s : State) (hs : Reachable P s) :
    (∀ i, 0 ≤ i → i ≤ s.loop.acked → i ∈ s.sent) ∧
      (0 ≤ s.loop.acked → ∃ a ∈ s.taken, (a.sequenceNumber.toNat : Int) = s.loop.acked) ∧
      s.round.length ≤ s.allowed ∧
      (s.taken = [] → s.allowed = 1) ∧
      (s.pc = .returned true → s.loop.acked = P.count - 1) ∧
      ∀ act s', step P s act = some s' →
        s.loop.acked ≤ s'.loop.acked ∧
          (act = .startWindow → s'.pc ≠ .returned true → s'.allowed = s.announced ∧ s'.round = []) ∧
          ∀ a, act = .ack a → (a.sequenceNumber.toNat : Int) < s.loop.acked →
            s'.pc = s.pc ∧ s'.loop = { s.loop with window := s'.loop.window } := by
  have h := sound_reachable hcount hs
  refine ⟨h.acked_sent, h.acked_taken, h.round, fun ht => (h.first ht).2, fun hpc => ?_, fun act s' hstep => ?_⟩
  · have hlast : s.loop.acked + 1 = P.count := by simpa [AtPc, hpc] using h.atPc
    omega
  · refine ⟨acked_mono hstep, ?_, ?_⟩
    · rintro rfl hne
      simp only [step] at hstep
      split_ifs at hstep
      · cases hstep
        exact ⟨rfl, rfl⟩
      · cases hstep
        exact absurd rfl hne
    · rintro a rfl hstale
      exact stale_ignored hcount h hstale hstep

/-- Three segments in two rounds, the second one under the window of the first SegmentACK. -/
theorem replySender_safe_threeSegments :
    ∃ s, Reachable ⟨3, 0⟩ s ∧ s.pc = .returned true ∧ s.sent = [2, 1, 0] ∧ s.round.length ≤ s.allowed ∧
      s.loop.acked = 2 := by
  have hrun : Transition.run (step ⟨3, 0⟩) {}
      [.startWindow, .send true, .startWaiting, .ack ⟨false, false, 1, 0, 2⟩, .startWindow, .send true,
        .send true, .startWaiting, .ack ⟨true, false, 1, 0, 2⟩, .ack ⟨false, false, 1, 2, 2⟩, .startWindow] = some _ := rfl
  have hreach : Reachable ⟨3, 0⟩ _ := Transition.Reachable.run .init hrun
  obtain ⟨-, -, hround, -, hdone, -⟩ := replySender_safe ⟨3, 0⟩ (by decide) _ hreach
  exact ⟨_, hreach, rfl, rfl, hround, hdone rfl⟩

/-- A SegmentACK ends the wait at once and the loop goes on with the segment after `j`, if there is one. -/
def RestartsAfter (P : Params) (s : State) (a : SegmentACK) (j : Int) : Prop :=
  ∃ s' s'', step P s (.ack a) = some s' ∧ step P s' .startWindow = some s'' ∧
    if j + 1 < P.count then ∃ stop, s''.pc = .sending (j + 1) stop ∧ j + 1 < stop else s''.pc = .returned true

lemma named_of_emod {acked j : Int} {seq : UInt8} (hlo : acked < j) (hhi : j ≤ acked + 256)
    (hseq : (seq.toNat : Int) = j % 256) : named acked seq = j := by
  have h1 := named_emod acked seq
  have h2 := named_bounds acked seq
  omega

/-- A negative SegmentACK for a segment of the window restarts the window after it. One that repeats the last
acknowledged segment stands for the segment 256 after it and is ignored. -/
theorem nak_restarts_iff (P : Params) (hcount : P.count ≤ 256) (s : State) (hs : Reachable P s) (stop : Int)
    (hpc : s.pc = .waiting stop) (a : SegmentACK) (_hneg : a.negativeACK = true) (j : Int) (hlo : s.loop.acked ≤ j)
    (hhi : j < stop) (hseq : (a.sequenceNumber.toNat : Int) = j % 256) :
    RestartsAfter P s a j ↔ s.loop.acked < j := by
  have h := sound_reachable hcount hs
  obtain ⟨-, hstop, hle, -⟩ := h.atWaiting hpc
  have hge := h.acked_ge
  constructor
  · rintro ⟨s', s'', hack, hstart, -⟩
    by_contra hnot
    -- The number of the last acknowledged segment stands for the one 256 later.
    have hnamed : named s.loop.acked a.sequenceNumber = s.loop.acked + 256 :=
      named_of_emod (by omega) (le_refl _) (by omega)
    have hn : ¬ named s.loop.acked a.sequenceNumber < stop := by omega
    rw [step_ack hpc] at hack
    cases hack
    simp [step, hn] at hstart
  · intro hlt
    have hnamed : named s.loop.acked a.sequenceNumber = j := named_of_emod hlt (by omega) hseq
    have hwindow := (windowAfter_bounds (h.window_eq ▸ h.announced) a).1
    refine ⟨_, _, step_ack hpc a, by simp only [step, hnamed, hhi, if_true]; rfl, ?_⟩
    split_ifs with hlast hnext hnext
    · exact ⟨_, rfl, by simp only [SendSegments.windowEnd]; omega⟩
    · exact absurd hlast (by omega)
    · exact absurd hnext (by omega)
    · rfl

def afterFirstWindow : List Action :=
  [.startWindow, .send true, .startWaiting, .ack ⟨false, false, 1, 0, 4⟩, .startWindow, .send true, .send true,
    .send true, .send true, .startWaiting]

theorem nak_restarts_inside_window :
    ∃ s, Transition.run (step ⟨10, 3⟩) {} afterFirstWindow = some s ∧ s.pc = .waiting 5 ∧ s.loop.acked = 0 ∧
      RestartsAfter ⟨10, 3⟩ s ⟨true, false, 1, 2, 4⟩ 2 := by
  have hrun : Transition.run (step ⟨10, 3⟩) {} afterFirstWindow = some _ := rfl
  have hreach : Reachable ⟨10, 3⟩ _ := Transition.Reachable.run .init hrun
  have hiff := nak_restarts_iff ⟨10, 3⟩ (by decide) _ hreach 5 rfl ⟨true, false, 1, 2, 4⟩ rfl 2 (by decide)
    (by decide) (by decide)
  exact ⟨_, hrun, rfl, rfl, hiff.mpr (by decide)⟩

/-- Segments 1 to 4 are in flight and segment 1 is lost: the negative SegmentACK names segment 0 again, and the loop
goes on waiting. -/
theorem nak_of_last_acknowledged_ignored :
    ∃ s, Transition.run (step ⟨10, 3⟩) {} afterFirstWindow = some s ∧ s.pc = .waiting 5 ∧ s.loop.acked = 0 ∧
      (∃ s', step ⟨10, 3⟩ s (.ack ⟨true, false, 1, 0, 4⟩) = some s' ∧ s'.pc = .waiting 5 ∧ s'.loop = s.loop) ∧
      ¬ RestartsAfter ⟨10, 3⟩ s ⟨true, false, 1, 0, 4⟩ 0 := by
  refine ⟨_, rfl, rfl, rfl, ⟨_, rfl, rfl, rfl⟩, ?_⟩
  rintro ⟨s', s'', hack, hstart, -⟩
  cases hack
  exact nomatch hstart

end GoBacnet.Proofs.ReplySender
