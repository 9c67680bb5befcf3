import GoBacnet.Proofs.Reassembly

/-!
# Any sequence of segments

A reassembly that is offered arbitrary segments holds exactly the ones that it accepted. The accepted segments are kept
beside it as a history, from which the place of the next segment in its window can be read.
-/

namespace GoBacnet.Segment

/-- The arguments of one call of `add`. -/
structure Offer where
  seq : UInt8
  more : Bool
  payload : Octets

def Outcome.isAccepted : Outcome → Bool
  | .stored | .storedAck | .complete => true
  | _ => false

/-- A positive SegmentACK is due. -/
def Outcome.isAckDue : Outcome → Bool
  | .storedAck | .complete => true
  | _ => false

def Reassembly.offer (r : Reassembly) (o : Offer) : Reassembly × Outcome := r.add o.seq o.more o.payload

/-- A reassembly with the segments that it has accepted. -/
structure History where
  reassembly : Reassembly
  accepted : List Offer := []

namespace History

def step (h : History) (o : Offer) : History where
  reassembly := (h.reassembly.offer o).1
  accepted := if (h.reassembly.offer o).2.isAccepted then h.accepted ++ [o] else h.accepted

def run (window : UInt8) (maxSegments maxOctets : Int) (offers : List Offer) : History :=
  offers.foldl step { reassembly := newReassembly window maxSegments maxOctets }

end History

/-- The number of segments accepted after the latest one without more-follows. -/
def sinceLast (accepted : List Offer) : Nat := (accepted.reverse.takeWhile (·.more)).length

/-- The distance of the next segment from the one that windows count from: the first one, or the latest one without
more-follows if there is one. -/
def distance (accepted : List Offer) : Nat :=
  if sinceLast accepted = accepted.length then accepted.length else sinceLast accepted + 1

/-- What the limits and the expected number allow next. -/
def Reassembly.Takes (r : Reassembly) (o : Offer) : Prop :=
  o.seq = r.expected ∧ (r.segments : Int) + 1 ≤ r.maxSegments ∧ (r.buf.length : Int) + o.payload.length ≤ r.maxOctets

/-- The reassembly after a segment that it takes. -/
def Reassembly.store (r : Reassembly) (o : Offer) (inWindow : UInt8) : Reassembly :=
  { r with buf := r.buf ++ o.payload, segments := r.segments + 1, expected := r.expected + 1, inWindow }

structure History.Sound (window : UInt8) (maxSegments maxOctets : Int) (h : History) : Prop where
  buf : h.reassembly.buf = h.accepted.flatMap (·.payload)
  segments : h.reassembly.segments = h.accepted.length
  expected : h.reassembly.expected = UInt8.ofNat h.accepted.length
  limits : h.accepted = [] ∨
    (h.reassembly.segments : Int) ≤ maxSegments ∧ (h.reassembly.buf.length : Int) ≤ maxOctets
  window : h.reassembly.window = if window = 0 then 1 else window
  maxSegments : h.reassembly.maxSegments = maxSegments
  maxOctets : h.reassembly.maxOctets = maxOctets
  inWindow : h.reassembly.inWindow.toNat = (distance h.accepted - 1) % h.reassembly.window.toNat

end GoBacnet.Segment

namespace GoBacnet.Proofs

open Segment

variable {r : Reassembly} {o : Offer} {accepted : List Offer}

/-! ## Distances -/

lemma sinceLast_concat_more (h : o.more = true) : sinceLast (accepted ++ [o]) = sinceLast accepted + 1 := by
  simp [sinceLast, h]

lemma sinceLast_concat_last (h : o.more = false) : sinceLast (accepted ++ [o]) = 0 := by
  simp [sinceLast, h]

lemma distance_concat_more (h : o.more = true) : distance (accepted ++ [o]) = distance accepted + 1 := by
  rw [distance, distance, sinceLast_concat_more h, List.length_append, List.length_singleton]
  split_ifs <;> omega

lemma distance_concat_last (h : o.more = false) : distance (accepted ++ [o]) = 1 := by
  rw [distance, sinceLast_concat_last h, List.length_append, List.length_singleton, if_neg (by omega)]

lemma distance_eq_zero_iff : distance accepted = 0 ↔ accepted = [] := by
  rw [distance]
  by_cases h : sinceLast accepted = accepted.length
  · rw [if_pos h, List.length_eq_zero_iff]
  · rw [if_neg h]
    refine iff_of_false (Nat.succ_ne_zero _) ?_
    rintro rfl
    exact h rfl

lemma mod_eq_of_pred {p w : Nat} (hw : 0 < w) (hp : p ≠ 0) :
    p % w = if w ≤ (p - 1) % w + 1 then 0 else (p - 1) % w + 1 := by
  have hlt := Nat.mod_lt (p - 1) hw
  have hmod : ((p - 1) % w + 1) % w = p % w := by
    rw [Nat.mod_add_mod, Nat.sub_add_cancel (Nat.one_le_iff_ne_zero.mpr hp)]
  rw [← hmod]
  split_ifs with h
  · rw [show (p - 1) % w + 1 = w by omega, Nat.mod_self]
  · exact Nat.mod_eq_of_lt (by omega)

/-! ## One segment -/

lemma offer_rejected (h : ¬ r.Takes o) :
    (r.offer o).1 = r ∧ (r.offer o).2.isAccepted = false ∧ (r.offer o).2.isAckDue = false := by
  unfold Reassembly.offer Reassembly.add
  by_cases hseq : o.seq = r.expected
  · by_cases hmany : (r.segments : Int) + 1 > r.maxSegments
    · simp [hseq, hmany, Outcome.isAccepted, Outcome.isAckDue]
    · have hlong : (r.buf.length : Int) + o.payload.length > r.maxOctets :=
        not_le.mp fun hle => h ⟨hseq, not_lt.mp hmany, hle⟩
      simp [hseq, hmany, hlong, Outcome.isAccepted, Outcome.isAckDue]
  · simp [hseq, Outcome.isAccepted, Outcome.isAckDue]

lemma offer_last (h : r.Takes o) (hlast : o.more = false) : r.offer o = (r.store o 0, .complete) := by
  obtain ⟨hseq, hmany, hlong⟩ := h
  simp [Reassembly.offer, Reassembly.add, Reassembly.store, hseq, hlast, not_lt.mpr hmany, not_lt.mpr hlong]

lemma offer_more (h : r.Takes o) (hmore : o.more = true) :
    r.offer o = if r.segments = 0 ∨ r.window ≤ r.inWindow + 1 then (r.store o 0, .storedAck)
      else (r.store o (r.inWindow + 1), .stored) := by
  obtain ⟨hseq, hmany, hlong⟩ := h
  simp [Reassembly.offer, Reassembly.add, Reassembly.store, hseq, hmore, not_lt.mpr hmany, not_lt.mpr hlong]

/-! ## Runs -/

section Run

variable {window : UInt8} {maxSegments maxOctets : Int} {h : History}

lemma sound_start : History.Sound window maxSegments maxOctets { reassembly := newReassembly window maxSegments maxOctets } where
  buf := rfl
  segments := rfl
  expected := rfl
  limits := .inl rfl
  window := rfl
  maxSegments := rfl
  maxOctets := rfl
  inWindow := (Nat.zero_mod _).symm

lemma window_pos (hs : h.Sound window maxSegments maxOctets) : 0 < h.reassembly.window.toNat := by
  rw [hs.window]
  split_ifs with hzero
  · decide
  · exact Nat.pos_of_ne_zero fun htoNat => hzero (UInt8.toNat_inj.mp htoNat)

lemma toNat_inWindow_succ (hs : h.Sound window maxSegments maxOctets) :
    (h.reassembly.inWindow + 1).toNat = (distance h.accepted - 1) % h.reassembly.window.toNat + 1 := by
  have hlt := Nat.mod_lt (distance h.accepted - 1) (window_pos hs)
  have hwindow := h.reassembly.window.toNat_lt
  rw [UInt8.toNat_add, hs.inWindow]
  exact Nat.mod_eq_of_lt (by simp only [UInt8.toNat_one] at *; omega)

/-- A segment that is not the last is acknowledged when its distance is a multiple of the window. -/
lemma offer_accepted (hs : h.Sound window maxSegments maxOctets) (ht : h.reassembly.Takes o) :
    ∃ inWindow out, h.reassembly.offer o = (h.reassembly.store o inWindow, out) ∧ out.isAccepted = true ∧
      inWindow.toNat = (distance (h.accepted ++ [o]) - 1) % h.reassembly.window.toNat ∧
      (out.isAckDue = true ↔ o.more = false ∨ distance h.accepted % h.reassembly.window.toNat = 0) := by
  cases hmore : o.more with
  | false =>
    refine ⟨0, .complete, offer_last ht hmore, rfl, ?_, by simp [Outcome.isAckDue]⟩
    rw [distance_concat_last hmore]
    exact (Nat.zero_mod _).symm
  | true =>
    have hfirst : h.reassembly.segments = 0 ↔ distance h.accepted = 0 := by
      rw [hs.segments, distance_eq_zero_iff, List.length_eq_zero_iff]
    have hfull : h.reassembly.window ≤ h.reassembly.inWindow + 1 ↔
        h.reassembly.window.toNat ≤ (distance h.accepted - 1) % h.reassembly.window.toNat + 1 := by
      rw [UInt8.le_iff_toNat_le, toNat_inWindow_succ hs]
    rw [offer_more ht hmore, distance_concat_more hmore, Nat.add_sub_cancel]
    by_cases hdue : h.reassembly.segments = 0 ∨ h.reassembly.window ≤ h.reassembly.inWindow + 1
    · have hmod : distance h.accepted % h.reassembly.window.toNat = 0 := by
        rcases Nat.eq_zero_or_pos (distance h.accepted) with hzero | hpos
        · rw [hzero, Nat.zero_mod]
        · rw [mod_eq_of_pred (window_pos hs) hpos.ne', if_pos]
          exact hfull.mp (hdue.resolve_left fun hseg => hpos.ne' (hfirst.mp hseg))
      exact ⟨0, .storedAck, if_pos hdue, rfl, hmod.symm, by simp [Outcome.isAckDue, hmod]⟩
    · obtain ⟨hseg, hopen⟩ := not_or.mp hdue
      have hmod := mod_eq_of_pred (window_pos hs) (mt hfirst.mpr hseg)
      rw [if_neg (mt hfull.mpr hopen)] at hmod
      refine ⟨h.reassembly.inWindow + 1, .stored, if_neg hdue, rfl, ?_, by simp [Outcome.isAckDue, hmod]⟩
      rw [toNat_inWindow_succ hs, hmod]

lemma sound_step (hs : h.Sound window maxSegments maxOctets) (o : Offer) :
    (h.step o).Sound window maxSegments maxOctets := by
  by_cases ht : h.reassembly.Takes o
  · obtain ⟨inWindow, out, hoffer, hacc, hin, -⟩ := offer_accepted hs ht
    obtain ⟨-, hmany, hlong⟩ := ht
    have hstep : h.step o = { reassembly := h.reassembly.store o inWindow, accepted := h.accepted ++ [o] } := by
      simp [History.step, hoffer, hacc]
    rw [hstep]
    exact
      { buf := by simp [Reassembly.store, hs.buf]
        segments := by simp [Reassembly.store, hs.segments]
        expected := by
          rw [Reassembly.store, hs.expected, uint8_ofNat_succ, List.length_append, List.length_singleton]
        limits := by
          rw [hs.maxSegments] at hmany
          rw [hs.maxOctets] at hlong
          exact .inr ⟨by simpa [Reassembly.store] using hmany, by simpa [Reassembly.store] using hlong⟩
        window := hs.window
        maxSegments := hs.maxSegments
        maxOctets := hs.maxOctets
        inWindow := hin }
  · obtain ⟨hsame, hacc, -⟩ := offer_rejected ht
    have hstep : h.step o = h := by simp [History.step, hsame, hacc]
    rwa [hstep]

lemma sound_run (window : UInt8) (maxSegments maxOctets : Int) (offers : List Offer) :
    (History.run window maxSegments maxOctets offers).Sound window maxSegments maxOctets := by
  unfold History.run
  generalize hstart : ({ reassembly := newReassembly window maxSegments maxOctets } : History) = start
  have hs : start.Sound window maxSegments maxOctets := hstart ▸ sound_start
  clear hstart
  induction offers generalizing start with
  | nil => exact hs
  | cons o offers ih => exact ih (start.step o) (sound_step hs o)

end Run

/-- After any calls of `add`: what is stored, which segment is accepted next, and when its acknowledgment is due. -/
theorem reassembly_collects (window : UInt8) (maxSegments maxOctets : Int) (offers : List Offer) (h : History)
    (hrun : h = History.run window maxSegments maxOctets offers) :
    h.reassembly.buf = h.accepted.flatMap (·.payload) ∧
    h.reassembly.expected.toNat = h.accepted.length % 256 ∧
    (h.accepted = [] ∨ (h.accepted.length : Int) ≤ maxSegments ∧ (h.reassembly.buf.length : Int) ≤ maxOctets) ∧
    ∀ o : Offer,
      ((h.reassembly.offer o).2.isAccepted = true ↔ o.seq.toNat = h.accepted.length % 256 ∧
        (h.accepted.length : Int) + 1 ≤ maxSegments ∧ (h.reassembly.buf.length : Int) + o.payload.length ≤ maxOctets) ∧
      ((h.reassembly.offer o).2.isAccepted = false → (h.reassembly.offer o).1 = h.reassembly) ∧
      ((h.reassembly.offer o).2.isAckDue = true ↔ (h.reassembly.offer o).2.isAccepted = true ∧
        (o.more = false ∨ (if window = 0 then 1 else window.toNat) ∣ distance h.accepted)) := by
  subst hrun
  have hs := sound_run window maxSegments maxOctets offers
  generalize History.run window maxSegments maxOctets offers = h at hs ⊢
  have hwindow : h.reassembly.window.toNat = if window = 0 then 1 else window.toNat := by
    rw [hs.window]
    split_ifs <;> rfl
  have htakes (o : Offer) : h.reassembly.Takes o ↔ o.seq.toNat = h.accepted.length % 256 ∧
      (h.accepted.length : Int) + 1 ≤ maxSegments ∧ (h.reassembly.buf.length : Int) + o.payload.length ≤ maxOctets := by
    rw [Reassembly.Takes, hs.expected, hs.segments, hs.maxSegments, hs.maxOctets, ← UInt8.toNat_inj, UInt8.toNat_ofNat']
  refine ⟨hs.buf, by rw [hs.expected, UInt8.toNat_ofNat'], hs.segments ▸ hs.limits, fun o => ?_⟩
  by_cases ht : h.reassembly.Takes o
  · obtain ⟨inWindow, out, hoffer, hacc, -, hdue⟩ := offer_accepted hs ht
    rw [hoffer, hdue, hwindow, ← Nat.dvd_iff_mod_eq_zero]
    exact ⟨iff_of_true hacc ((htakes o).mp ht), fun hrej => absurd (hacc.symm.trans hrej) (by simp), by simp [hacc]⟩
  · obtain ⟨hsame, hacc, hdue⟩ := offer_rejected ht
    refine ⟨iff_of_false (by simp [hacc]) (mt (htakes o).mpr ht), fun _ => hsame, ?_⟩
    rw [hdue, hacc]
    simp

def segmentOf (seq : UInt8) (more : Bool) : Offer := ⟨seq, more, [seq]⟩

/-- With a window of 2, the third of three segments with more-follows closes the window that the first one opened. -/
theorem reassembly_collects_threeSegments :
    ((History.run 2 10 100 [segmentOf 0 true, segmentOf 1 true]).reassembly.offer (segmentOf 2 true)).2.isAckDue = true := by
  obtain ⟨-, -, -, hnext⟩ := reassembly_collects 2 10 100 [segmentOf 0 true, segmentOf 1 true] _ rfl
  obtain ⟨hacc, -, hdue⟩ := hnext (segmentOf 2 true)
  exact hdue.mpr ⟨hacc.mpr (by decide), .inr (by decide)⟩

/-- The second segment is the last of the message. A third one is two segments after the first, which is a full window
of 2, and no acknowledgment is due after it. -/
theorem windows_restart_after_last :
    (History.run 2 10 100 [segmentOf 0 true, segmentOf 1 false]).accepted.length = 2 ∧
      ((History.run 2 10 100 [segmentOf 0 true, segmentOf 1 false]).reassembly.offer (segmentOf 2 true)).2 = .stored :=
  ⟨rfl, rfl⟩

end GoBacnet.Proofs
