import GoBacnet.Proofs.TrendLogBuffer

/-!
# Ranges by sequence number

The numbers of a log go from 2^32 - 1 to 1. A range by sequence number is taken as an interval of numbers, which is what
was asked for as long as neither the buffer nor the part of the range that meets it goes across the wrap.
-/

namespace GoBacnet.Server.TrendLog

/-- The numbers of a range: as many as `count` from `ref` on, or up to `ref` with a negative count. -/
def InRun (ref : Nat) (count : Int) (seq : Nat) : Prop :=
  (∃ k : Nat, (k : Int) < count ∧ seq = nextSequence^[k] ref) ∨
    ∃ k : Nat, (k : Int) < -count ∧ ref = nextSequence^[k] seq

/-- Where the numbers of the buffer are in order, the part of the range beyond the wrap does not reach them. Where they
wrap, the range lies between the newest and the oldest number, or before all numbers. -/
def Apart (oldest newest ref : Nat) (count : Int) : Prop :=
  if oldest ≤ newest then
    (0 < count → oldest < ref → ref + count < oldest + 2 ^ 32) ∧
      (count < 0 → 0 < ref → ref < newest → newest - count < ref + 2 ^ 32)
  else newest < (bounds ref count).1 ∧ (bounds ref count).2 < oldest ∨ (bounds ref count).2 < 1

end GoBacnet.Server.TrendLog

namespace GoBacnet.Proofs

open GoBacnet.Server GoBacnet.Service TrendLog

/-! ## Numbers -/

lemma iterate_next {a : Nat} (ha : a < 2 ^ 32) (k : Nat) :
    nextSequence^[k] a = if a + k = 0 then 0 else (a + k - 1) % (2 ^ 32 - 1) + 1 := by
  induction k with
  | zero =>
    rw [Function.iterate_zero_apply]
    split_ifs <;> omega
  | succ k ih =>
    rw [Function.iterate_succ_apply', ih, nextSequence]
    split_ifs <;> omega

lemma reaches_iff {a b : Nat} (ha : a < 2 ^ 32) (hb : b < 2 ^ 32) (count : Int) :
    (∃ k : Nat, (k : Int) < count ∧ b = nextSequence^[k] a) ↔
      a ≤ b ∧ (b : Int) < a + count ∨ 1 ≤ b ∧ b < a ∧ (b : Int) + 2 ^ 32 ≤ a + count := by
  constructor
  · rintro ⟨k, hk, hb⟩
    rw [iterate_next ha] at hb
    split_ifs at hb <;> omega
  · rintro (h | h)
    · refine ⟨b - a, by omega, ?_⟩
      rw [iterate_next ha]
      split_ifs <;> omega
    · refine ⟨b + (2 ^ 32 - 1) - a, by omega, ?_⟩
      rw [iterate_next ha, if_neg (by omega)]
      omega

lemma inRun_iff {ref seq : Nat} (href : ref < 2 ^ 32) (hseq : 1 ≤ seq ∧ seq < 2 ^ 32) (count : Int) :
    InRun ref count seq ↔ ref ≤ seq ∧ (seq : Int) < ref + count ∨ seq < ref ∧ (seq : Int) + 2 ^ 32 ≤ ref + count ∨
      seq ≤ ref ∧ (ref : Int) < seq - count ∨ 1 ≤ ref ∧ ref < seq ∧ (ref : Int) + 2 ^ 32 ≤ seq - count := by
  unfold InRun
  rw [reaches_iff href hseq.2, reaches_iff hseq.2 href]
  omega

lemma seq_getElem {records : List LogEntry} (hchain : records.IsChain fun a b => b.seq = nextSequence a.seq)
    {oldest : LogEntry} (hfirst : records.head? = some oldest) (i : Nat) (hi : i < records.length) :
    records[i].seq = nextSequence^[i] oldest.seq := by
  induction i with
  | zero =>
    rw [List.head?_eq_getElem?, List.getElem?_eq_getElem hi, Option.some.injEq] at hfirst
    rw [hfirst]
    rfl
  | succ i ih =>
    rw [Function.iterate_succ_apply', ← ih (by omega)]
    exact List.isChain_iff_getElem.mp hchain i hi

/-! ## Selections -/

/-- A buffer whose numbers follow each other from the oldest on and do not repeat. -/
structure Numbered (tl : TrendLog) (oldest newest : LogEntry) : Prop where
  first : tl.records.head? = some oldest
  last : tl.records.getLast? = some newest
  consecutive : tl.records.IsChain fun a b => b.seq = nextSequence a.seq
  numbers : ∀ e ∈ tl.records, 1 ≤ e.seq ∧ e.seq < 2 ^ 32
  length : tl.records.length < 2 ^ 32

lemma map_filter_eq_iff {α β : Type} {f : α → β} {P Q : α → Bool} {l : List α} (h : ∀ a ∈ l, P a = true → Q a = true) :
    (l.filter P).map f = (l.filter Q).map f ↔ ∀ a ∈ l, Q a = true → P a = true := by
  have hinside : l.filter P = (l.filter Q).filter P := by
    rw [List.filter_filter]
    refine List.filter_congr fun a ha => ?_
    cases hP : P a with
    | false => rfl
    | true => rw [h a ha hP, Bool.and_self]
  constructor
  · intro heq a ha hQ
    have hlen := congrArg List.length heq
    rw [List.length_map, List.length_map, hinside, List.length_filter_eq_length_iff] at hlen
    exact hlen a (List.mem_filter.mpr ⟨ha, hQ⟩)
  · intro hall
    rw [List.filter_congr fun a ha => Bool.eq_iff_iff.mpr ⟨h a ha, hall a ha⟩]

namespace Numbered

variable {tl : TrendLog} {oldest newest : LogEntry}

lemma ne_nil (h : Numbered tl oldest newest) : tl.records ≠ [] := by
  intro hnil
  simpa [hnil] using h.first

lemma oldest_seq (h : Numbered tl oldest newest) : 1 ≤ oldest.seq ∧ oldest.seq < 2 ^ 32 :=
  h.numbers oldest (List.mem_of_mem_head? h.first)

lemma seq (h : Numbered tl oldest newest) (i : Nat) (hi : i < tl.records.length) :
    tl.records[i].seq = if oldest.seq + i < 2 ^ 32 then oldest.seq + i else oldest.seq + i - (2 ^ 32 - 1) := by
  have hseq := h.oldest_seq
  have hlen := h.length
  rw [seq_getElem h.consecutive h.first i hi, iterate_next hseq.2]
  split_ifs <;> omega

lemma newest_seq (h : Numbered tl oldest newest) :
    newest.seq + 1 = (if oldest.seq + tl.records.length ≤ 2 ^ 32 then oldest.seq + tl.records.length
      else oldest.seq + tl.records.length - (2 ^ 32 - 1)) := by
  have hpos := List.length_pos_iff.mpr h.ne_nil
  have hlast := h.last
  rw [List.getLast?_eq_getElem?, List.getElem?_eq_getElem (by omega), Option.some.injEq] at hlast
  rw [← hlast, h.seq _ (by omega)]
  split_ifs <;> omega

lemma select_eq (h : Numbered tl oldest newest) (index : Nat) (time : Int) {count : Int} (hcount : count ≠ 0)
    (first last : LogEntry) (hfirst : tl.records.head? = some first) (hlast : tl.records.getLast? = some last) :
    TrendLog.select tl.records first last { rangeBy := .sequenceNumber, index, time, count } =
      if (bounds index count).2 < oldest.seq ∨ (bounds index count).1 > newest.seq then none
      else some ((max (bounds index count).1 oldest.seq - oldest.seq).toNat,
        min (bounds index count).2 newest.seq - oldest.seq) := by
  obtain rfl := Option.some.inj (h.first.symm.trans hfirst)
  obtain rfl := Option.some.inj (h.last.symm.trans hlast)
  simp [TrendLog.select, TrendLog.bySequenceNumber, hcount]

lemma readRange_interval (h : Numbered tl oldest newest) (horder : oldest.seq ≤ newest.seq) (index : Nat) (time : Int)
    {count : Int} (hcount : count ≠ 0) :
    ∃ res, tl.readRange ⟨propertyLogBuffer, none⟩ { rangeBy := .sequenceNumber, index, time, count } = .ok res ∧
      res.records = (tl.records.filter fun e =>
        decide ((bounds index count).1 ≤ e.seq ∧ (e.seq : Int) ≤ (bounds index count).2)).map LogEntry.record := by
  have hprop : IsLogBuffer ⟨propertyLogBuffer, none⟩ := ⟨rfl, rfl⟩
  have hselect := h.select_eq index time hcount
  have hseq := h.seq
  have hnewest := h.newest_seq
  have hlen := h.length
  have hold := h.oldest_seq
  have hbounds : (bounds index count).1 ≤ (bounds index count).2 := by
    unfold bounds
    split_ifs <;> simp only <;> omega
  by_cases hout : (bounds index count).2 < oldest.seq ∨ (bounds index count).1 > newest.seq
  · refine ⟨_, readRange_none hprop fun _ _ hfirst hlast => (hselect _ _ hfirst hlast).trans (if_pos hout), ?_⟩
    rw [eq_comm, List.map_eq_nil_iff, List.filter_eq_nil_iff]
    intro e he
    obtain ⟨i, hi, rfl⟩ := List.mem_iff_getElem.mp he
    rw [decide_eq_true_iff, hseq i hi]
    split_ifs at hnewest ⊢ <;> omega
  · have hread := readRange_some hprop h.ne_nil fun _ _ hfirst hlast => (hselect _ _ hfirst hlast).trans (if_neg hout)
    rw [if_neg (by omega)] at hread
    refine ⟨_, hread, congrArg (List.map LogEntry.record) (Eq.symm ?_)⟩
    refine filter_eq_slice fun i hi => ?_
    rw [decide_eq_true_iff, hseq i hi]
    split_ifs at hnewest ⊢ <;> omega

lemma readRange_wrapped (h : Numbered tl oldest newest) (horder : newest.seq < oldest.seq) {index : Nat} {time count : Int}
    (hcount : count ≠ 0) {res : RangeResult}
    (hread : tl.readRange ⟨propertyLogBuffer, none⟩ { rangeBy := .sequenceNumber, index, time, count } = .ok res) :
    res.records = [] := by
  have hprop : IsLogBuffer ⟨propertyLogBuffer, none⟩ := ⟨rfl, rfl⟩
  have hselect := h.select_eq index time hcount
  by_cases hout : (bounds index count).2 < oldest.seq ∨ (bounds index count).1 > newest.seq
  · rw [readRange_none hprop fun _ _ hfirst hlast => (hselect _ _ hfirst hlast).trans (if_pos hout)] at hread
    rw [← Except.ok.inj hread]
  · rw [readRange_some hprop h.ne_nil fun _ _ hfirst hlast => (hselect _ _ hfirst hlast).trans (if_neg hout)] at hread
    obtain ⟨-, hread⟩ := Except.check_eq_ok_iff.mp hread
    have hzero : (min (bounds index count).2 newest.seq - oldest.seq + 1).toNat = 0 := by omega
    rw [← Except.ok.inj hread]
    simp [hzero]

lemma exists_seq (h : Numbered tl oldest newest) (horder : newest.seq < oldest.seq) {seq : Nat}
    (hseq : oldest.seq ≤ seq ∧ seq < 2 ^ 32 ∨ 1 ≤ seq ∧ seq ≤ newest.seq) : ∃ e ∈ tl.records, e.seq = seq := by
  have hnewest := h.newest_seq
  have hold := h.oldest_seq
  have hlen := h.length
  have hpos := List.length_pos_iff.mpr h.ne_nil
  have hmem (i : Nat) (hi : i < tl.records.length) (heq : tl.records[i].seq = seq) : ∃ e ∈ tl.records, e.seq = seq :=
    ⟨_, List.getElem_mem hi, heq⟩
  have hspan : tl.records.length + oldest.seq = newest.seq + 2 ^ 32 := by
    split_ifs at hnewest <;> omega
  by_cases hge : oldest.seq ≤ seq
  · refine hmem (seq - oldest.seq) (by omega) ?_
    rw [h.seq, if_pos (by omega)]
    omega
  · refine hmem (seq + (2 ^ 32 - 1) - oldest.seq) (by omega) ?_
    rw [h.seq, if_neg (by omega)]
    omega

open Classical in
/-- In a buffer whose numbers are in order, the interval is the range that was asked for if the range does not reach the
buffer across the wrap. -/
lemma interval_eq_iff (h : Numbered tl oldest newest) (horder : oldest.seq ≤ newest.seq) {ref : Nat} (href : ref < 2 ^ 32)
    {count : Int} (hcount : count ≠ 0) :
    (tl.records.filter fun e => decide ((bounds ref count).1 ≤ e.seq ∧ (e.seq : Int) ≤ (bounds ref count).2)).map
        LogEntry.record = (tl.records.filter fun e => decide (InRun ref count e.seq)).map LogEntry.record ↔
      Apart oldest.seq newest.seq ref count := by
  have hrun (e : LogEntry) (he : e ∈ tl.records) := inRun_iff href (h.numbers e he) count
  have hbetween (e : LogEntry) (he : e ∈ tl.records) : oldest.seq ≤ e.seq ∧ e.seq ≤ newest.seq := by
    have hnewest := h.newest_seq
    have hlen := h.length
    obtain ⟨i, hi, rfl⟩ := List.mem_iff_getElem.mp he
    rw [h.seq i hi]
    split_ifs at hnewest ⊢ <;> omega
  have hold := List.mem_of_mem_head? h.first
  have hnew := List.mem_of_mem_getLast? h.last
  have hbounds : (0 < count ∧ bounds ref count = ((ref : Int), ref + count - 1)) ∨
      (count < 0 ∧ bounds ref count = (ref + count + 1, (ref : Int))) := by
    unfold bounds
    split_ifs <;> simp <;> omega
  unfold Apart
  rw [if_pos horder, map_filter_eq_iff fun e he => ?_]
  · simp only [decide_eq_true_iff]
    constructor
    · intro hall
      have hfirst := hall oldest hold
      have hlast := hall newest hnew
      rw [hrun oldest hold] at hfirst
      rw [hrun newest hnew] at hlast
      rcases hbounds with ⟨hpos, hb⟩ | ⟨hneg, hb⟩ <;> rw [hb] at hfirst hlast <;> simp only at hfirst hlast <;> omega
    · intro hapart e he hin
      have hseq := hbetween e he
      have hnumber := h.numbers e he
      rw [hrun e he] at hin
      rcases hbounds with ⟨hpos, hb⟩ | ⟨hneg, hb⟩ <;> rw [hb] <;> simp only <;> omega
  · simp only [decide_eq_true_iff, hrun e he]
    rcases hbounds with ⟨hpos, hb⟩ | ⟨hneg, hb⟩ <;> rw [hb] <;> simp only <;> omega

lemma wrapped_iff (h : Numbered tl oldest newest) (hwrap : newest.seq < oldest.seq) {ref : Nat} (href : ref < 2 ^ 32)
    {count : Int} (hcount : count ≠ 0) :
    (∀ e ∈ tl.records, ¬InRun ref count e.seq) ↔ Apart oldest.seq newest.seq ref count := by
  have hold := h.oldest_seq
  have hnew := h.numbers newest (List.mem_of_mem_getLast? h.last)
  have hrun {seq : Nat} (hseq : 1 ≤ seq ∧ seq < 2 ^ 32) := inRun_iff href hseq count
  have hbounds : (0 < count ∧ bounds ref count = ((ref : Int), ref + count - 1)) ∨
      (count < 0 ∧ bounds ref count = (ref + count + 1, (ref : Int))) := by
    unfold bounds
    split_ifs <;> simp <;> omega
  unfold Apart
  rw [if_neg (not_le.mpr hwrap)]
  constructor
  · intro hnone
    have hout {seq : Nat} (hseq : oldest.seq ≤ seq ∧ seq < 2 ^ 32 ∨ 1 ≤ seq ∧ seq ≤ newest.seq) :
        ¬InRun ref count seq := by
      obtain ⟨e, he, rfl⟩ := h.exists_seq hwrap hseq
      exact hnone e he
    have hself : ¬(oldest.seq ≤ ref ∨ 1 ≤ ref ∧ ref ≤ newest.seq) := fun hin =>
      @hout ref (by omega) ((hrun (by omega)).mpr (by omega))
    have hone := hout (.inr ⟨le_rfl, hnew.1⟩)
    have holdest := hout (.inl ⟨le_rfl, hold.2⟩)
    have hnewest := hout (.inr ⟨hnew.1, le_rfl⟩)
    rw [hrun (by omega)] at hone holdest hnewest
    rcases hbounds with ⟨hpos, hb⟩ | ⟨hneg, hb⟩ <;> rw [hb] <;> simp only <;> omega
  · intro hapart e he hin
    have hseq : oldest.seq ≤ e.seq ∨ e.seq ≤ newest.seq := by
      have hnewest := h.newest_seq
      obtain ⟨i, hi, rfl⟩ := List.mem_iff_getElem.mp he
      rw [h.seq i hi]
      split_ifs at hnewest ⊢ <;> omega
    have hnumber := h.numbers e he
    rw [hrun hnumber] at hin
    rcases hbounds with ⟨hpos, hb⟩ | ⟨hneg, hb⟩ <;> rw [hb] at hapart <;> simp only at hapart <;> omega

end Numbered

open Classical in
/-- In every log that a run reaches, a range by sequence number returns the buffered records that it names, in their
order, exactly if it can be taken as an interval of numbers. -/
theorem readRange_sequence_iff {cfg : TrendLogConfig} {tl : TrendLog} (h : newTrendLog cfg = .ok tl) (acts : List Action)
    (index : UInt32) (time : Int) {count : Int} (hcount : count ≠ 0) :
    let log := acts.foldl TrendLog.step tl
    (∃ res, log.readRange ⟨propertyLogBuffer, none⟩ { rangeBy := .sequenceNumber, index := index.toNat, time, count } =
        .ok res ∧
      res.records = (log.records.filter fun e => decide (InRun index.toNat count e.seq)).map LogEntry.record) ↔
    ∀ oldest newest, log.records.head? = some oldest → log.records.getLast? = some newest →
      Apart oldest.seq newest.seq index.toNat count := by
  intro log
  have hprop : IsLogBuffer ⟨propertyLogBuffer, none⟩ := ⟨rfl, rfl⟩
  have href : index.toNat < 2 ^ 32 := index.toNat_lt
  obtain ⟨hstart, hsize, -⟩ := logged_new h
  have hlog : Logged log _ := logged_run hstart acts
  have hlen : log.records.length < 2 ^ 32 := by
    have hmin := hlog.length
    have hsizes : log.bufferSize = _ := (run_size acts tl).trans hsize
    have hmax := cfg.bufferSize.toNat_lt
    split_ifs at hsizes <;> omega
  by_cases hempty : log.records = []
  · refine iff_of_true ⟨_, readRange_none hprop fun _ _ hfirst => ?_, by simp [hempty]⟩ fun _ _ hfirst => ?_
    all_goals simp [hempty] at hfirst
  obtain ⟨oldest, hfirst⟩ : ∃ oldest, log.records.head? = some oldest := ⟨_, List.head?_eq_some_head hempty⟩
  obtain ⟨newest, hlast⟩ : ∃ newest, log.records.getLast? = some newest := ⟨_, List.getLast?_eq_some_getLast hempty⟩
  have hnumbered : Numbered log oldest newest := ⟨hfirst, hlast, hlog.consecutive, hlog.numbers, hlen⟩
  have hends : (∀ oldest newest, log.records.head? = some oldest → log.records.getLast? = some newest →
      Apart oldest.seq newest.seq index.toNat count) ↔ Apart oldest.seq newest.seq index.toNat count :=
    ⟨fun h => h _ _ hfirst hlast, fun h _ _ h₁ h₂ =>
      Option.some.inj (hfirst.symm.trans h₁) ▸ Option.some.inj (hlast.symm.trans h₂) ▸ h⟩
  rw [hends]
  rcases le_or_gt oldest.seq newest.seq with horder | hwrap
  · obtain ⟨res, hread, hrecords⟩ := hnumbered.readRange_interval horder index.toNat time hcount
    rw [← hnumbered.interval_eq_iff horder href hcount, ← hrecords]
    constructor
    · rintro ⟨res', hread', heq⟩
      rwa [Except.ok.inj (hread.symm.trans hread')]
    · exact fun heq => ⟨res, hread, heq⟩
  · have hapart := hnumbered.wrapped_iff hwrap href hcount
    constructor
    · rintro ⟨res, hread, heq⟩
      rw [hnumbered.readRange_wrapped hwrap hcount hread, eq_comm, List.map_eq_nil_iff, List.filter_eq_nil_iff] at heq
      exact hapart.mp (by simpa using heq)
    · intro h
      have hnone := hapart.mpr h
      have hold := hnumbered.oldest_seq
      rw [Apart, if_neg (not_le.mpr hwrap)] at h
      refine ⟨_, readRange_none hprop fun _ _ h₁ h₂ => (hnumbered.select_eq _ time hcount _ _ h₁ h₂).trans
        (if_pos (by omega)), ?_⟩
      rw [eq_comm, List.map_eq_nil_iff, List.filter_eq_nil_iff]
      simpa using hnone

def sample : Action := .log 0 ⟨⟨124, 1, 1, 1⟩, ⟨0, 0, 0, 0⟩⟩ (.unsigned 1) none

def sampleConfig : TrendLogConfig := { instanceNumber := 1, name := [0x74], bufferSize := 2, enable := true }

open Classical in
theorem readRange_sequence_sample :
    ∃ tl, newTrendLog sampleConfig = .ok tl ∧
      ∃ res, ([sample, sample, sample].foldl TrendLog.step tl).readRange ⟨propertyLogBuffer, none⟩
          { rangeBy := .sequenceNumber, index := 2, time := 0, count := 1 } = .ok res ∧
        res.records = (([sample, sample, sample].foldl TrendLog.step tl).records.filter fun e =>
          decide (InRun 2 1 e.seq)).map LogEntry.record := by
  obtain ⟨tl, htl⟩ : ∃ tl, newTrendLog sampleConfig = .ok tl := ⟨_, rfl⟩
  refine ⟨tl, htl, (readRange_sequence_iff htl [sample, sample, sample] 2 0 (by decide)).mpr ?_⟩
  cases htl
  intro oldest newest hfirst hlast
  cases hfirst
  cases hlast
  exact (by norm_num [Apart] : Apart 2 3 2 1)

lemma samples {tl : TrendLog} (h : newTrendLog sampleConfig = .ok tl) (k : Nat) :
    ∃ a b, (List.replicate (k + 2) sample).foldl TrendLog.step tl =
        { bufferSize := 2, records := [a, b], total := nextSequence^[k + 2] 0 } ∧
      a.seq = nextSequence^[k + 1] 0 ∧ b.seq = nextSequence^[k + 2] 0 := by
  induction k with
  | zero =>
    cases h
    exact ⟨_, _, rfl, rfl, rfl⟩
  | succ k ih =>
    obtain ⟨a, b, hlog, -, hb⟩ := ih
    have htotal : nextSequence^[k + 2] 0 < 2 ^ 32 := by
      rw [iterate_next (by decide)]
      split_ifs <;> omega
    have hnext := next_total htotal
    rw [← Function.iterate_succ_apply' nextSequence (k + 2)] at hnext
    refine ⟨b, ⟨nextSequence^[k + 3] 0, 0, ⟨⟨⟨124, 1, 1, 1⟩, ⟨0, 0, 0, 0⟩⟩, .unsigned, .value (.unsigned 1), none⟩⟩, ?_, hb,
      rfl⟩
    rw [List.replicate_succ', List.foldl_append, hlog, List.foldl_cons, List.foldl_nil]
    simp only [TrendLog.step, sample, TrendLog.log, datumChoice, hnext]
    rfl

/-- After 2^32 records, the buffer holds the numbers 2^32 - 1 and 1, and the first of them cannot be read. -/
theorem readRange_sequence_wrapped :
    ∃ tl, newTrendLog sampleConfig = .ok tl ∧ ∃ a b,
      ((List.replicate (2 ^ 32) sample).foldl TrendLog.step tl).records = [a, b] ∧ a.seq = 2 ^ 32 - 1 ∧ b.seq = 1 ∧
      InRun (2 ^ 32 - 1) 1 a.seq ∧
      ((List.replicate (2 ^ 32) sample).foldl TrendLog.step tl).readRange ⟨propertyLogBuffer, none⟩
        { rangeBy := .sequenceNumber, index := 2 ^ 32 - 1, time := 0, count := 1 } =
          .ok { total := 2, sequenced := true } := by
  obtain ⟨tl, htl⟩ : ∃ tl, newTrendLog sampleConfig = .ok tl := ⟨_, rfl⟩
  obtain ⟨a, b, hlog, ha, hb⟩ := samples htl (2 ^ 32 - 2)
  rw [iterate_next (by decide)] at ha hb
  have ha : a.seq = 2 ^ 32 - 1 := ha
  have hb : b.seq = 1 := hb
  rw [show 2 ^ 32 - 2 + 2 = 2 ^ 32 from rfl] at hlog
  refine ⟨tl, htl, a, b, by rw [hlog], ha, hb, .inl ⟨0, by decide, ha⟩, ?_⟩
  rw [hlog]
  simp [TrendLog.readRange, TrendLog.select, bySequenceNumber, bounds, ha, hb]

end GoBacnet.Proofs
