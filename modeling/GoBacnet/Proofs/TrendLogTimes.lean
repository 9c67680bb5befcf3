import GoBacnet.Proofs.LocalTime
import GoBacnet.Proofs.TrendLogBuffer

/-!
# Ranges by time

A record is transmitted with the hundredth of a second that it was logged in, and is kept with its full time. A range by
time compares the full time with the reference, so that a record of the reference's own hundredth may count as later.
-/

namespace GoBacnet.Server

open Service

/-- A log whose times do not decrease and are transmitted in a zone with a fixed offset. -/
structure TrendLog.Stamped (offset : Int) (tl : TrendLog) : Prop where
  times : tl.records.Pairwise fun a b => a.time ≤ b.time
  stamps : ∀ e ∈ tl.records, e.record.timestamp = (fixedZone offset).dateTimeOf e.time
  years : ∀ e ∈ tl.records, 1900 ≤ localYear offset e.time ∧ localYear offset e.time ≤ 2154

/-- The first records that are transmitted with a time later than the reference, or, with a negative count, the last
ones that are transmitted with an older time. -/
def TrendLog.timeRange (tl : TrendLog) (ref : DateTime) (count : Int) : List LogRecord :=
  if 0 < count then
    ((tl.records.filter fun e => ref.Before e.record.timestamp).take count.toNat).map LogEntry.record
  else
    let older := tl.records.filter fun e => e.record.timestamp.Before ref
    (older.drop (older.length - (-count).toNat)).map LogEntry.record

end GoBacnet.Server

namespace GoBacnet.Proofs

open GoBacnet.Server GoBacnet.Service TrendLog

lemma filter_eq_drop {α : Type} {P : α → Bool} {l : List α} (h : l.Pairwise fun a b => P a = true → P b = true) :
    l.filter P = l.drop (l.findIdx P) := by
  induction l with
  | nil => rfl
  | cons a l ih =>
    obtain ⟨ha, hl⟩ := List.pairwise_cons.mp h
    rw [List.filter_cons, List.findIdx_cons]
    cases hP : P a with
    | true =>
      rw [if_pos rfl, List.filter_eq_self.mpr fun b hb => ha b hb hP]
      rfl
    | false => simpa using ih hl

variable {offset : Int} {tl : TrendLog} {time count : Int}

lemma readRange_later (hsorted : tl.records.Pairwise fun a b => a.time ≤ b.time) (index : Nat) (hcount : 0 < count) :
    ∃ res, tl.readRange ⟨propertyLogBuffer, none⟩ { rangeBy := .time, index, time, count } = .ok res ∧
      res.records = ((tl.records.filter fun e => decide (e.time > time)).take count.toNat).map LogEntry.record := by
  have hprop : IsLogBuffer ⟨propertyLogBuffer, none⟩ := ⟨rfl, rfl⟩
  cases hfind : tl.records.findIdx? (fun e => decide (e.time > time)) with
  | none =>
    refine ⟨_, readRange_none hprop fun _ _ _ _ => ?_, ?_⟩
    · simp [TrendLog.select, byTime, hcount.ne', hcount, hfind]
    · rw [List.filter_eq_nil_iff.mpr fun e he => by simpa using List.findIdx?_eq_none_iff.mp hfind e he]
      simp
  | some i =>
    obtain ⟨hi, hidx⟩ := List.findIdx?_eq_some_iff_findIdx_eq.mp hfind
    have hslice : tl.records.filter (fun e => decide (e.time > time)) = tl.records.drop i := by
      rw [filter_eq_drop (hsorted.imp fun {a b} hle ha => ?_), hidx]
      simp only [gt_iff_lt, decide_eq_true_iff] at ha ⊢
      omega
    have hread := @readRange_some tl ⟨propertyLogBuffer, none⟩ { rangeBy := .time, index, time, count } hprop
      (List.ne_nil_of_length_pos (by omega)) i (min (tl.records.length - 1) (i + count.toNat - 1) : Nat)
      fun _ _ _ _ => by simp [TrendLog.select, byTime, hcount.ne', hcount, hfind]
    rw [if_neg (by omega)] at hread
    refine ⟨_, hread, congrArg (List.map LogEntry.record) ?_⟩
    rw [hslice, List.drop_take, List.take_eq_take_iff, List.length_drop]
    omega

lemma readRange_older (hsorted : tl.records.Pairwise fun a b => a.time ≤ b.time) (index : Nat) (hcount : count < 0) :
    ∃ res, tl.readRange ⟨propertyLogBuffer, none⟩ { rangeBy := .time, index, time, count } = .ok res ∧
      res.records = ((tl.records.filter fun e => decide (e.time < time)).drop
        ((tl.records.filter fun e => decide (e.time < time)).length - (-count).toNat)).map LogEntry.record := by
  have hprop : IsLogBuffer ⟨propertyLogBuffer, none⟩ := ⟨rfl, rfl⟩
  have hneg : ¬0 < count := by omega
  cases hfind : tl.records.reverse.findIdx? (fun e => decide (e.time < time)) with
  | none =>
    refine ⟨_, readRange_none hprop fun _ _ _ _ => ?_, ?_⟩
    · simp [TrendLog.select, byTime, hcount.ne, hneg, hfind]
    · rw [List.filter_eq_nil_iff.mpr fun e he => by simpa using List.findIdx?_eq_none_iff.mp hfind e (by simpa using he)]
      simp
  | some back =>
    obtain ⟨hback, hidx⟩ := List.findIdx?_eq_some_iff_findIdx_eq.mp hfind
    rw [List.length_reverse] at hback
    have hslice : tl.records.filter (fun e => decide (e.time < time)) =
        tl.records.take (tl.records.length - back) := by
      have hreverse := filter_eq_drop (P := fun e : LogEntry => decide (e.time < time))
        (List.pairwise_reverse.mpr (hsorted.imp fun {a b} hle hb => by
          simp only [decide_eq_true_iff] at hb ⊢
          omega))
      rw [hidx, List.filter_reverse, List.drop_reverse] at hreverse
      exact List.reverse_injective hreverse
    have hread := @readRange_some tl ⟨propertyLogBuffer, none⟩ { rangeBy := .time, index, time, count } hprop
      (List.ne_nil_of_length_pos (by omega)) ((tl.records.length - 1 - back : Nat) + count + 1).toNat
      (tl.records.length - 1 - back : Nat) fun _ _ _ _ => by simp [TrendLog.select, byTime, hcount.ne, hneg, hfind]
    rw [if_neg (by omega)] at hread
    refine ⟨_, hread, congrArg (List.map LogEntry.record) ?_⟩
    rw [hslice, List.length_take]
    congr 2 <;> omega

/-- In a log whose times do not decrease, a range by time has the records whose transmitted time is on the right side
of the reference, exactly if with a positive count no record was logged after the reference in its hundredth. -/
theorem readRange_time_iff (h : tl.Stamped offset) (index : Nat) {ref : DateTime} (href : ref.Valid) (hcount : count ≠ 0) :
    (∃ res, tl.readRange ⟨propertyLogBuffer, none⟩
        { rangeBy := .time, index, time := (fixedZone offset).dateTimeToTime ref, count } = .ok res ∧
      res.records = tl.timeRange ref count) ↔
    (0 < count → ∀ e ∈ tl.records, e.time - e.time % 10000000 = (fixedZone offset).dateTimeToTime ref →
      e.time = (fixedZone offset).dateTimeToTime ref) := by
  have hwhole := dateTimeToTime_whole href offset
  have hlater (e : LogEntry) (he : e ∈ tl.records) : ref.Before e.record.timestamp ↔ _ :=
    h.stamps e he ▸ before_dateTimeOf_iff href (h.years e he)
  have holder (e : LogEntry) (he : e ∈ tl.records) : e.record.timestamp.Before ref ↔ _ :=
    h.stamps e he ▸ dateTimeOf_before_iff href (h.years e he)
  generalize (fixedZone offset).dateTimeToTime ref = time at *
  unfold timeRange
  rcases lt_or_gt_of_ne hcount with hneg | hpos
  · obtain ⟨res, hread, hrecords⟩ := @readRange_older tl time count h.times index hneg
    have heq : (tl.records.filter fun e => decide (e.record.timestamp.Before ref)) =
        tl.records.filter fun e => decide (e.time < time) := by
      refine List.filter_congr fun e he => decide_eq_decide.mpr ((holder e he).trans ?_)
      omega
    refine iff_of_true ⟨res, hread, ?_⟩ fun hpos => absurd hneg hpos.le.not_gt
    rw [if_neg hneg.not_gt, heq, hrecords]
  · obtain ⟨res, hread, hrecords⟩ := @readRange_later tl time count h.times index hpos
    rw [if_pos hpos]
    constructor
    · rintro ⟨res', hread', heq⟩ - e he hsame
      by_contra hne
      -- The first record after the reference is in its hundredth, too.
      have hmem : e ∈ tl.records.filter fun e => decide (e.time > time) := by
        rw [List.mem_filter, decide_eq_true_iff]
        exact ⟨he, by omega⟩
      have hsorted := h.times.filter fun e => decide (e.time > time)
      rw [Except.ok.inj (hread'.symm.trans hread), hrecords] at heq
      obtain ⟨a, rest, hfirst⟩ := List.exists_cons_of_ne_nil (List.ne_nil_of_mem hmem)
      obtain ⟨n, hn⟩ : ∃ n, count.toNat = n + 1 := ⟨count.toNat - 1, by omega⟩
      have ha : a ∈ tl.records ∧ a.time > time := by
        simpa using List.mem_filter.mp (hfirst ▸ List.mem_cons_self : a ∈ tl.records.filter fun e => decide (e.time > time))
      have hle : a.time ≤ e.time := by
        rw [hfirst] at hmem hsorted
        rcases List.mem_cons.mp hmem with rfl | hrest
        · exact le_rfl
        · exact List.rel_of_pairwise_cons hsorted hrest
      have hin : a.record ∈ ((tl.records.filter fun e => decide (ref.Before e.record.timestamp)).take count.toNat).map
          LogEntry.record := by
        rw [← heq, hfirst, hn, List.take_succ_cons, List.map_cons]
        exact List.mem_cons_self
      obtain ⟨b, hb, hrecord⟩ := List.mem_map.mp hin
      have hafter := (List.mem_filter.mp (List.mem_of_mem_take hb)).2
      rw [decide_eq_true_iff, hrecord, hlater a ha.1] at hafter
      omega
    · intro hcond
      have heq : (tl.records.filter fun e => decide (ref.Before e.record.timestamp)) =
          tl.records.filter fun e => decide (e.time > time) := by
        refine List.filter_congr fun e he => decide_eq_decide.mpr ((hlater e he).trans ?_)
        have := hcond hpos e he
        omega
      exact ⟨res, hread, by rw [heq, hrecords]⟩

def loggedAt (time : Int) : TrendLog := TrendLog.log {} time ((fixedZone 0).dateTimeOf time) (.unsigned 1) none

lemma stamped_loggedAt {time : Int} (h : 1900 ≤ localYear 0 time ∧ localYear 0 time ≤ 2154) :
    (loggedAt time).Stamped 0 := by
  refine ⟨List.pairwise_singleton .., fun e he => ?_, fun e he => ?_⟩ <;> obtain rfl := List.mem_singleton.mp he
  · rfl
  · exact h

def newYear2024 : DateTime := ⟨⟨124, 1, 1, 1⟩, ⟨0, 0, 0, 0⟩⟩

lemma valid_newYear2024 : newYear2024.Valid := by constructor <;> decide

def afterNewYear : RangeQuery where
  rangeBy := .time
  index := 0
  time := (fixedZone 0).dateTimeToTime newYear2024
  count := 1

/-- One second later. -/
theorem readRange_time_later :
    ∃ res, (loggedAt 1704067201000000000).readRange ⟨propertyLogBuffer, none⟩ afterNewYear = .ok res ∧
      res.records = (loggedAt 1704067201000000000).timeRange newYear2024 1 :=
  (readRange_time_iff (stamped_loggedAt (by decide +kernel)) 0 valid_newYear2024 (by decide)).mpr (by decide +kernel)

/-- Five milliseconds later, in the same hundredth: the record has the time of the reference and is returned. -/
theorem readRange_time_repeated :
    (loggedAt 1704067200005000000).Stamped 0 ∧ newYear2024.Valid ∧
      (loggedAt 1704067200005000000).records.map (·.record.timestamp) = [newYear2024] ∧
      (loggedAt 1704067200005000000).timeRange newYear2024 1 = [] ∧
      ((loggedAt 1704067200005000000).readRange ⟨propertyLogBuffer, none⟩ afterNewYear).toOption.map
        (fun res => res.records.map (·.timestamp)) = some [newYear2024] := by
  refine ⟨stamped_loggedAt (by decide +kernel), valid_newYear2024, by decide +kernel, ?_, by decide +kernel⟩
  have hnone : (loggedAt 1704067200005000000).records.filter
      (fun e => decide (newYear2024.Before e.record.timestamp)) = [] := by
    rw [List.filter_eq_nil_iff]
    decide +kernel
  rw [timeRange, if_pos (by decide), hnone]
  rfl

end GoBacnet.Proofs
