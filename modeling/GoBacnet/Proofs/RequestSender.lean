import GoBacnet.Transfer.Senders

/-!
# The counters of the request loop

A positive SegmentACK moves `highestAcked` inside the segments in flight; a negative one also takes the segments after
it back out of flight. In both cases the next segment stays where `highestAcked` and `inFlight` put it.
-/

namespace GoBacnet.Proofs.RequestSender

open Apdu Segment Transfer.RequestSender
open Client (SendLoop AckVerdict GiveUp)

variable {P : Params}

variable {n : Nat} {a : SegmentACK} {l l' : SendLoop} {s s' : State} {seq : UInt8}

/-- The counters agree and do not pass the segments. -/
structure Counted (n : Nat) (l : SendLoop) : Prop where
  highestAcked : -1 ≤ l.highestAcked
  inFlight : 0 ≤ l.inFlight
  next : (l.nextToSend : Int) = l.highestAcked + 1 + l.inFlight
  le : l.nextToSend ≤ n

lemma counted_sent (h : Counted n l) (hmay : l.maySend n = true) : Counted n l.sent := by
  obtain ⟨-, hlt⟩ : l.inFlight < l.window.toNat ∧ l.nextToSend < n := by simpa [SendLoop.maySend] using hmay
  have hinFlight := h.inFlight
  have hnext := h.next
  exact {
    highestAcked := h.highestAcked
    inFlight := by simp only [SendLoop.sent]; omega
    next := by simp only [SendLoop.sent]; omega
    le := hlt }

/-- What a SegmentACK with sequence number `seq` that does not abort leaves of the counters. -/
structure Moved (n : Nat) (seq : UInt8) (l l' : SendLoop) : Prop where
  counted : Counted n l'
  window : l'.window = l.window
  /-- Nothing that was not sent is counted as sent. -/
  next_le : l'.nextToSend ≤ l.nextToSend
  /-- The position stays, or moves up to the segment named. -/
  highestAcked : l'.highestAcked = l.highestAcked ∨
    l.highestAcked < l'.highestAcked ∧ l'.highestAcked = seq.toNat

lemma onPositive_waiting (hv : l.onPositive seq = .waiting l') : l' = l := by
  simp only [SendLoop.onPositive] at hv
  split_ifs at hv
  exact (AckVerdict.waiting.inj hv).symm

lemma onPositive_progress (h : Counted n l)
    (hv : l.onPositive seq = .progress l') : Moved n seq l l' := by
  have hhighest := h.highestAcked
  have hnext := h.next
  simp only [SendLoop.onPositive] at hv
  split_ifs at hv with hold hbeyond
  obtain rfl := AckVerdict.progress.inj hv
  have hinFlight : max 0 (l.inFlight - (seq.toNat - l.highestAcked)) =
      l.inFlight - (seq.toNat - l.highestAcked) := max_eq_right (by omega)
  exact {
    counted := {
      highestAcked := by simp only; omega
      inFlight := by simp
      next := by simp only [hinFlight]; omega
      le := h.le }
    window := rfl
    next_le := le_refl _
    highestAcked := .inr ⟨not_le.mp hold, rfl⟩ }

lemma onNak_waiting {retryCount : Nat} {service : UInt8}
    (hv : l.onNak retryCount service seq = .waiting l') : l' = { l with nakRounds := l.nakRounds + 1 } := by
  simp only [SendLoop.onNak] at hv
  split_ifs at hv <;> exact (AckVerdict.waiting.inj hv).symm

lemma resume_eq (highestAcked : Int) (seq : UInt8) :
    (if (seq + 1).toNat % 256 = 0 ∧ highestAcked ≥ 0 then 256 else (seq + 1).toNat % 256) = seq.toNat + 1 ∨
      (if (seq + 1).toNat % 256 = 0 ∧ highestAcked ≥ 0 then 256 else (seq + 1).toNat % 256) = 0 ∧
        highestAcked < 0 := by
  have hadd : (seq + 1).toNat = (seq.toNat + 1) % 256 := by simp [UInt8.toNat_add]
  have hseq := seq.toNat_lt
  rw [hadd]
  split_ifs <;> omega

lemma onNak_progress {retryCount : Nat} {service : UInt8} (h : Counted n l)
    (hv : l.onNak retryCount service seq = .progress l') : Moved n seq l l' := by
  have hle := h.le
  have hhighest := h.highestAcked
  have hresume := resume_eq l.highestAcked seq
  simp only [SendLoop.onNak] at hv
  generalize (if (seq + 1).toNat % 256 = 0 ∧ l.highestAcked ≥ 0 then 256 else (seq + 1).toNat % 256) = resume
    at hv hresume
  split_ifs at hv with hrounds hbeyond hold
  obtain rfl := AckVerdict.progress.inj hv
  exact {
    counted := {
      highestAcked := by simp only; omega
      inFlight := le_refl _
      next := by simp
      le := by simp only; omega }
    window := rfl
    next_le := not_lt.mp hbeyond
    highestAcked := by simp only; omega }

def withWindow (l : SendLoop) (a : SegmentACK) : SendLoop :=
  if validWindow a.actualWindowSize then { l with window := a.actualWindowSize } else l

lemma withWindow_eq (l : SendLoop) (a : SegmentACK) : withWindow l a = { l with window := (withWindow l a).window } := by
  unfold withWindow
  split_ifs <;> rfl

def Ours (P : Params) (a : SegmentACK) : Prop := a.invokeID = P.invokeID ∧ a.server = true

lemma onAck_of_not_ours (ha : ¬ Ours P a) (l : SendLoop) :
    l.onAck P.retryCount P.invokeID P.serviceChoice a = .waiting l := by
  refine if_pos ?_
  simpa [Ours, Classical.or_iff_not_imp_left] using ha

lemma onAck_of_ours (ha : Ours P a) (l : SendLoop) :
    l.onAck P.retryCount P.invokeID P.serviceChoice a =
      if a.negativeACK then (withWindow l a).onNak P.retryCount P.serviceChoice a.sequenceNumber
      else (withWindow l a).onPositive a.sequenceNumber :=
  if_neg (by simp [ha.1, ha.2])

lemma onAck_waiting (ha : Ours P a)
    (hv : l.onAck P.retryCount P.invokeID P.serviceChoice a = .waiting l') :
    ∃ rounds, l' = { withWindow l a with nakRounds := rounds } := by
  rw [onAck_of_ours ha] at hv
  split_ifs at hv
  · exact ⟨_, onNak_waiting hv⟩
  · exact ⟨_, onPositive_waiting hv⟩

lemma counted_withWindow (h : Counted n l) (a : SegmentACK) : Counted n (withWindow l a) := by
  rw [withWindow_eq]
  exact ⟨h.highestAcked, h.inFlight, h.next, h.le⟩

lemma onAck_progress (ha : Ours P a) (h : Counted n l)
    (hv : l.onAck P.retryCount P.invokeID P.serviceChoice a = .progress l') :
    Moved n a.sequenceNumber (withWindow l a) l' := by
  rw [onAck_of_ours ha] at hv
  split_ifs at hv
  · exact onNak_progress (counted_withWindow h a) hv
  · exact onPositive_progress (counted_withWindow h a) hv

def AtPc (P : Params) (s : State) : Prop :=
  match s.pc with
  | .filling => True
  | .waiting | .returned (some _) => s.loop.highestAcked + 1 < P.count
  | .returned none => s.loop.highestAcked + 1 = P.count

structure Sound (P : Params) (s : State) : Prop where
  counted : Counted P.count s.loop
  window : (∀ err, s.pc ≠ .returned err) → s.loop.window.toNat = s.announced
  first : s.taken = [] → s.announced = 1
  sent : ∀ i < s.loop.nextToSend, i ∈ s.sent
  /-- The position is the segment that some SegmentACK named. -/
  acked_taken : 0 ≤ s.loop.highestAcked →
    ∃ a ∈ s.taken, Ours P a ∧ (a.sequenceNumber.toNat : Int) = s.loop.highestAcked
  atPc : AtPc P s

lemma sound_init : Sound P {} where
  counted := ⟨le_refl _, le_refl _, by decide, Nat.zero_le _⟩
  window := fun _ => rfl
  first := fun _ => rfl
  sent := fun i hi => absurd hi (Nat.not_lt_zero i)
  acked_taken := fun h => absurd h (by decide)
  atPc := trivial

lemma not_done (h : (!s.loop.done P.count) = true) : s.loop.highestAcked + 1 < P.count := by
  simpa [SendLoop.done] using h

lemma sound_send {ok : Bool} (h : Sound P s) (hs : step P s (.send ok) = some s') : Sound P s' := by
  obtain ⟨⟨hpc, hdone, hmay⟩, hs⟩ := Option.ite_none_right_eq_some.mp hs
  have hsent : ∀ i < s.loop.nextToSend + 1, i ∈ s.loop.nextToSend :: s.sent := by
    intro i hi
    rcases Nat.lt_succ_iff_lt_or_eq.mp hi with hlt | rfl
    · exact List.mem_cons_of_mem _ (h.sent i hlt)
    · exact List.mem_cons_self
  cases ok with
  | true =>
    cases hs
    exact { h with
      counted := counted_sent h.counted hmay, sent := hsent, atPc := by simp [AtPc, hpc] }
  | false =>
    cases hs
    exact { h with
      window := fun hne => absurd rfl (hne _)
      sent := fun i hi => hsent i (hi.trans (Nat.lt_succ_self _)), atPc := not_done hdone }

lemma sound_startWaiting (h : Sound P s) (hs : step P s .startWaiting = some s') : Sound P s' := by
  obtain ⟨⟨hpc, hdone, -⟩, hs⟩ := Option.ite_none_right_eq_some.mp hs
  cases hs
  exact { h with window := fun _ => h.window (by simp [hpc]), atPc := not_done hdone }

lemma sound_finish (h : Sound P s) (hs : step P s .finish = some s') : Sound P s' := by
  obtain ⟨⟨-, hdone⟩, hs⟩ := Option.ite_none_right_eq_some.mp hs
  cases hs
  have hge : (P.count : Int) ≤ s.loop.highestAcked + 1 := by simpa [SendLoop.done] using hdone
  have hall : s.loop.highestAcked + 1 = P.count := by
    have hnext := h.counted.next
    have hinFlight := h.counted.inFlight
    have hle := h.counted.le
    omega
  exact { h with window := fun hne => absurd rfl (hne _), atPc := hall }

lemma sound_giveUp {why : GiveUp} (h : Sound P s) (hs : step P s (.giveUp why) = some s') :
    Sound P s' := by
  obtain ⟨hpc, hs⟩ := Option.ite_none_right_eq_some.mp hs
  cases hs
  have hleft : s.loop.highestAcked + 1 < P.count := by simpa [AtPc, hpc] using h.atPc
  exact { h with window := fun hne => absurd rfl (hne _), atPc := hleft }

lemma sound_ack (h : Sound P s) (hs : step P s (.ack a) = some s') :
    Sound P s' := by
  obtain ⟨hpc, hs⟩ := Option.ite_none_right_eq_some.mp hs
  have hleft : s.loop.highestAcked + 1 < P.count := by simpa [AtPc, hpc] using h.atPc
  have hfirst : ∀ {p : Prop}, a :: s.taken = [] → p := fun ht => absurd ht (List.cons_ne_nil _ _)
  have htaken : 0 ≤ s.loop.highestAcked →
      ∃ b ∈ a :: s.taken, Ours P b ∧ (b.sequenceNumber.toNat : Int) = s.loop.highestAcked := by
    intro hpos
    obtain ⟨b, hb, hours⟩ := h.acked_taken hpos
    exact ⟨b, List.mem_cons_of_mem _ hb, hours⟩
  by_cases ha : Ours P a
  · have hwindow : (withWindow s.loop a).window.toNat = if a.invokeID = P.invokeID ∧ a.server ∧
        validWindow a.actualWindowSize then a.actualWindowSize.toNat else s.announced := by
      simp only [ha.1, ha.2, true_and, withWindow]
      split_ifs
      · rfl
      · exact h.window (by simp [hpc])
    cases hv : s.loop.onAck P.retryCount P.invokeID P.serviceChoice a with
    | waiting l =>
      simp only [hv] at hs
      cases hs
      obtain ⟨rounds, rfl⟩ := onAck_waiting ha hv
      rw [withWindow_eq]
      exact {
        counted := ⟨h.counted.highestAcked, h.counted.inFlight, h.counted.next, h.counted.le⟩
        window := fun _ => hwindow, first := hfirst, sent := h.sent, acked_taken := htaken
        atPc := by simpa [AtPc, hpc] using hleft }
    | progress l =>
      simp only [hv] at hs
      cases hs
      have hmoved := onAck_progress ha h.counted hv
      rw [withWindow_eq] at hmoved
      refine {
        counted := hmoved.counted
        window := fun _ => by simpa only [hmoved.window] using hwindow
        first := hfirst
        sent := fun i hi => h.sent i (lt_of_lt_of_le hi hmoved.next_le)
        acked_taken := fun hpos => ?_
        atPc := trivial }
      rcases hmoved.highestAcked with hsame | ⟨-, hnamed⟩
      · simp only [hsame] at hpos ⊢
        exact htaken hpos
      · exact ⟨a, List.mem_cons_self, ha, hnamed.symm⟩
    | aborted reason err =>
      simp only [hv] at hs
      cases hs
      exact { h with
        window := fun hne => absurd rfl (hne _), first := hfirst, acked_taken := htaken, atPc := hleft }
  · have hnone : ¬ (a.invokeID = P.invokeID ∧ a.server ∧ validWindow a.actualWindowSize) :=
      fun hall => ha ⟨hall.1, hall.2.1⟩
    simp only [onAck_of_not_ours ha, hnone, if_false] at hs
    cases hs
    exact { h with first := hfirst, acked_taken := htaken }

lemma sound_step {act : Action} (h : Sound P s) (hs : step P s act = some s') : Sound P s' := by
  cases act with
  | send ok => exact sound_send h hs
  | startWaiting => exact sound_startWaiting h hs
  | finish => exact sound_finish h hs
  | giveUp why => exact sound_giveUp h hs
  | ack a => exact sound_ack h hs

lemma sound_reachable (hs : Reachable P s) : Sound P s :=
  hs.invariant (Sound P) sound_init fun _ _ _ h _ hstep => sound_step h hstep

lemma highestAcked_mono {act : Action} (h : Sound P s) (hs : step P s act = some s') :
    s.loop.highestAcked ≤ s'.loop.highestAcked := by
  cases act with
  | ack a =>
    obtain ⟨hpc, hs⟩ := Option.ite_none_right_eq_some.mp hs
    by_cases ha : Ours P a
    · cases hv : s.loop.onAck P.retryCount P.invokeID P.serviceChoice a with
      | waiting l =>
        simp only [hv] at hs
        cases hs
        obtain ⟨rounds, rfl⟩ := onAck_waiting ha hv
        rw [withWindow_eq]
      | progress l =>
        simp only [hv] at hs
        cases hs
        have hmoved := (onAck_progress ha h.counted hv).highestAcked
        rw [withWindow_eq] at hmoved
        rcases hmoved with hsame | ⟨hlt, -⟩
        · exact hsame.ge
        · exact hlt.le
      | aborted reason err =>
        simp only [hv] at hs
        cases hs
        exact le_refl _
    · simp only [onAck_of_not_ours ha] at hs
      cases hs
      exact le_refl _
  | send ok =>
    obtain ⟨-, hs⟩ := Option.ite_none_right_eq_some.mp hs
    cases hs
    cases ok <;> exact le_refl _
  | startWaiting | finish | giveUp _ =>
    obtain ⟨-, hs⟩ := Option.ite_none_right_eq_some.mp hs
    cases hs
    exact le_refl _

lemma returns_of_all_acknowledged (h : Sound P s) (hall : s.loop.highestAcked + 1 = P.count) :
    s.pc = .returned none ∨ s.pc = .filling ∧ step P s .finish = some { s with pc := .returned none } ∧
      ∀ act, act ≠ .finish → step P s act = none := by
  have hdone : s.loop.done P.count = true := by simp [SendLoop.done, hall]
  cases hpc : s.pc with
  | filling =>
    refine .inr ⟨rfl, by simp [step, hpc, hdone], fun act hne => ?_⟩
    cases act with
    | finish => exact absurd rfl hne
    | send _ | startWaiting | giveUp _ | ack _ => simp [step, hpc, hdone]
  | waiting =>
    have hleft : s.loop.highestAcked + 1 < P.count := by simpa [AtPc, hpc] using h.atPc
    exact absurd hall hleft.ne
  | returned err =>
    cases err with
    | none => exact .inl rfl
    | some e =>
      have hleft : s.loop.highestAcked + 1 < P.count := by simpa [AtPc, hpc] using h.atPc
      exact absurd hall hleft.ne

/-- Whatever SegmentACKs arrive, the counters agree, the position only grows, covers sent segments only and is one that
a SegmentACK named, sending stops at the window announced last, and the loop returns without an error exactly when
every segment is acknowledged. -/
theorem requestSender_safe (P : Params) (s : State) (hs : Reachable P s) :
    (s.loop.nextToSend : Int) = s.loop.highestAcked + 1 + s.loop.inFlight ∧
      (∀ i : Nat, (i : Int) ≤ s.loop.highestAcked → i ∈ s.sent) ∧
      (0 ≤ s.loop.highestAcked →
        ∃ a ∈ s.taken, Ours P a ∧ (a.sequenceNumber.toNat : Int) = s.loop.highestAcked) ∧
      (s.taken = [] → s.announced = 1) ∧
      (∀ err, s.pc = .returned err → (err = none ↔ s.loop.highestAcked + 1 = P.count)) ∧
      (s.loop.highestAcked + 1 = P.count →
        s.pc = .returned none ∨ s.pc = .filling ∧ step P s .finish = some { s with pc := .returned none } ∧
          ∀ act, act ≠ .finish → step P s act = none) ∧
      ∀ act s', step P s act = some s' →
        s.loop.highestAcked ≤ s'.loop.highestAcked ∧
          ∀ ok, act = .send ok → s.loop.inFlight < s.announced := by
  have h := sound_reachable hs
  have hnext := h.counted.next
  have hinFlight := h.counted.inFlight
  refine ⟨hnext, fun i hi => h.sent i (by omega), h.acked_taken, h.first, fun err hpc => ?_,
    returns_of_all_acknowledged h, fun act s' hstep => ⟨highestAcked_mono h hstep, ?_⟩⟩
  · cases err with
    | none => exact iff_of_true rfl (by simpa [AtPc, hpc] using h.atPc)
    | some e =>
      have hleft : s.loop.highestAcked + 1 < P.count := by simpa [AtPc, hpc] using h.atPc
      exact iff_of_false nofun hleft.ne
  · rintro ok rfl
    obtain ⟨⟨hpc, -, hmay⟩, -⟩ := Option.ite_none_right_eq_some.mp hstep
    have hlt : s.loop.inFlight < s.loop.window.toNat := by
      simp only [SendLoop.maySend, Bool.and_eq_true, decide_eq_true_eq] at hmay
      exact hmay.1
    rwa [h.window (by simp [hpc])] at hlt

/-- Three segments, the last two under the window of the first SegmentACK; a negative one takes the third back. -/
theorem requestSender_safe_threeSegments :
    ∃ s, Reachable ⟨3, 0, 1, 15⟩ s ∧ s.pc = .returned none ∧ s.sent = [2, 2, 1, 0] ∧
      s.loop.highestAcked + 1 = 3 := by
  have hrun : Transition.run (step ⟨3, 0, 1, 15⟩) {}
      [.send true, .startWaiting, .ack ⟨false, true, 1, 0, 2⟩, .send true, .send true, .startWaiting,
        .ack ⟨true, true, 1, 1, 2⟩, .send true, .startWaiting, .ack ⟨false, true, 1, 2, 2⟩, .finish] = some _ := rfl
  have hreach : Reachable ⟨3, 0, 1, 15⟩ _ := Transition.Reachable.run .init hrun
  obtain ⟨-, -, -, -, hreturned, -⟩ := requestSender_safe ⟨3, 0, 1, 15⟩ _ hreach
  exact ⟨_, hreach, rfl, rfl, (hreturned none rfl).mp rfl⟩

end GoBacnet.Proofs.RequestSender
