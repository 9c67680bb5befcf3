import GoBacnet.Lib.Result
import GoBacnet.Server.TrendLog
import Mathlib.Data.List.Chain

/-!
# The buffer of a trend log

What a log has accepted since it was last cleared, without a ring and without sequence numbers. The buffer is the end
of that history, and a range by position reads the buffer by place.
-/

namespace GoBacnet.Server

open Service

namespace TrendLog

/-- What is done to a log: a record is offered, or one of its writable properties is written. -/
inductive Action
  | log (time : Int) (timestamp : DateTime) (v : ApplicationValue) (flags : Option BitString)
  | writeEnable (w : Write)
  | writeRecordCount (w : Write)

def step (tl : TrendLog) : Action → TrendLog
  | .log time timestamp v flags => tl.log time timestamp v flags
  | .writeEnable w => (tl.setEnable w).toOption.getD tl
  | .writeRecordCount w => (tl.setRecordCount w).toOption.getD tl

/-- The records accepted since the last clear, in the order of their logging. -/
structure History where
  enable : Bool
  accepted : List LogRecord := []

/-- A record is accepted while logging is enabled. A log that stops when it is full disables itself at the first
record that it has no room for. -/
def History.step (bufferSize : Nat) (stopWhenFull : Bool) (h : History) : Action → History
  | .log _ timestamp v flags =>
    match datumChoice v with
    | none => h
    | some choice =>
      if !h.enable then h
      else if stopWhenFull && h.accepted.length ≥ bufferSize then { h with enable := false }
      else { h with accepted := h.accepted ++ [{ timestamp, datumChoice := choice, datum := .value v, statusFlags := flags }] }
  | .writeEnable w =>
    match w.property.arrayIndex, w.value with
    | none, .boolean b => { h with enable := b }
    | _, _ => h
  | .writeRecordCount w =>
    match w.value with
    | .unsigned 0 => { h with accepted := [] }
    | _ => h

def nextSequence (seq : Nat) : Nat := if seq + 1 = 2 ^ 32 then 1 else seq + 1

/-- The positions that a range of `count` records from `index` on names; a negative count names those up to it. -/
def Requested (index : Nat) (count : Int) (pos : Nat) : Prop :=
  (index ≤ pos ∧ (pos : Int) < index + count) ∨ (index + count < (pos : Int) ∧ pos ≤ index)

instance (index : Nat) (count : Int) (pos : Nat) : Decidable (Requested index count pos) :=
  inferInstanceAs (Decidable (_ ∨ _))

end TrendLog

def IsLogBuffer (prop : PropertyReference) : Prop := prop.identifier = propertyLogBuffer ∧ prop.arrayIndex = none

end GoBacnet.Server

namespace GoBacnet.Proofs

open GoBacnet.Server GoBacnet.Service TrendLog

/-! ## The records of a run -/

structure Logged (tl : TrendLog) (h : History) : Prop where
  capacity : 1 ≤ tl.bufferSize
  enable : tl.enable = h.enable
  records : tl.records.map LogEntry.record = h.accepted.drop (h.accepted.length - tl.bufferSize)
  stopped : tl.stopWhenFull = true → h.accepted.length ≤ tl.bufferSize
  consecutive : tl.records.IsChain fun a b => b.seq = nextSequence a.seq
  newest : ∀ e ∈ tl.records.getLast?, e.seq = tl.total
  total : tl.total < 2 ^ 32
  numbers : ∀ e ∈ tl.records, 1 ≤ e.seq ∧ e.seq < 2 ^ 32

namespace Logged

variable {tl : TrendLog} {h : History}

lemma length (hl : Logged tl h) : tl.records.length = min h.accepted.length tl.bufferSize := by
  have hlen := congrArg List.length hl.records
  simp only [List.length_map, List.length_drop] at hlen
  omega

end Logged

lemma isChain_append_next {records : List LogEntry} {e : LogEntry} {total : Nat}
    (hchain : records.IsChain fun a b => b.seq = nextSequence a.seq) (hnewest : ∀ a ∈ records.getLast?, a.seq = total)
    (he : e.seq = nextSequence total) : (records ++ [e]).IsChain fun a b => b.seq = nextSequence a.seq := by
  refine List.isChain_append.mpr ⟨hchain, List.isChain_singleton e, ?_⟩
  intro a ha b hb
  obtain rfl : e = b := by simpa using hb
  rw [hnewest a ha, he]

lemma next_total {total : Nat} (h : total < 2 ^ 32) :
    (if (total + 1) % 2 ^ 32 = 0 then 1 else (total + 1) % 2 ^ 32) = nextSequence total := by
  unfold nextSequence
  split_ifs <;> omega

section Step

variable {tl : TrendLog} {h : History}

lemma logged_append (hl : Logged tl h) (time : Int) (r : LogRecord)
    (hroom : tl.stopWhenFull = true → tl.records.length < tl.bufferSize) :
    Logged { tl with
        records := (if tl.records.length ≥ tl.bufferSize then tl.records.drop 1 else tl.records) ++
          [{ seq := nextSequence tl.total, time, record := r }]
        total := nextSequence tl.total }
      { h with accepted := h.accepted ++ [r] } := by
  have hlen := hl.length
  have hcap := hl.capacity
  have htotal := hl.total
  have hnext : 1 ≤ nextSequence tl.total ∧ nextSequence tl.total < 2 ^ 32 := by
    unfold nextSequence
    split_ifs <;> omega
  refine ⟨hl.capacity, hl.enable, ?_, fun hstop => ?_, ?_, by simp, hnext.2, fun e he => ?_⟩
  · have hdrop : (if tl.records.length ≥ tl.bufferSize then tl.records.drop 1 else tl.records).map LogEntry.record =
        h.accepted.drop (h.accepted.length + 1 - tl.bufferSize) := by
      split_ifs with hfull
      · rw [List.map_drop, hl.records, List.drop_drop]
        congr 1
        omega
      · rw [hl.records]
        congr 1
        omega
    rw [List.map_append, hdrop, List.length_append, List.drop_append_of_le_length (by simp; omega)]
    rfl
  · have := hroom hstop
    simp only [List.length_append, List.length_singleton]
    omega
  · refine @isChain_append_next _ _ tl.total ?_ ?_ rfl
    · split_ifs
      · exact hl.consecutive.drop 1
      · exact hl.consecutive
    · intro a ha
      refine hl.newest a ?_
      split_ifs at ha with hfull
      · rw [List.getLast?_drop] at ha
        split_ifs at ha with hshort
        · cases ha
        · exact ha
      · exact ha
  · rcases List.mem_append.mp he with he | he
    · refine hl.numbers e ?_
      split_ifs at he
      · exact List.mem_of_mem_drop he
      · exact he
    · rw [List.mem_singleton.mp he]
      exact hnext

lemma logged_log (hl : Logged tl h) (time : Int) (timestamp : DateTime) (v : ApplicationValue)
    (flags : Option BitString) :
    Logged (tl.log time timestamp v flags)
      (h.step tl.bufferSize tl.stopWhenFull (.log time timestamp v flags)) := by
  have hlen := hl.length
  have henable := hl.enable
  cases hc : datumChoice v with
  | none => simpa only [TrendLog.log, History.step, hc] using hl
  | some choice =>
    cases hoff : tl.enable with
    | false =>
      rw [hoff] at henable
      simpa [TrendLog.log, History.step, hc, hoff, ← henable] using hl
    | true =>
      rw [hoff] at henable
      by_cases hstop : tl.records.length ≥ tl.bufferSize ∧ tl.stopWhenFull = true
      · have hfull : tl.bufferSize ≤ h.accepted.length := by omega
        have hlog : tl.log time timestamp v flags = { tl with enable := false } := by
          simp [TrendLog.log, hc, hoff, hstop]
        have hstep : h.step tl.bufferSize tl.stopWhenFull (.log time timestamp v flags) = { h with enable := false } := by
          simp [History.step, hc, ← henable, hstop, hfull]
        rw [hlog, hstep]
        exact ⟨hl.capacity, rfl, hl.records, hl.stopped, hl.consecutive, hl.newest, hl.total, hl.numbers⟩
      · have hroom : tl.stopWhenFull = true → tl.records.length < tl.bufferSize := fun hs => by
          rcases Nat.lt_or_ge tl.records.length tl.bufferSize with hlt | hge
          · exact hlt
          · exact absurd ⟨hge, hs⟩ hstop
        have hopen : ¬ (tl.stopWhenFull = true ∧ tl.bufferSize ≤ h.accepted.length) := by
          rintro ⟨hs, hge⟩
          have := hroom hs
          omega
        have hstep : h.step tl.bufferSize tl.stopWhenFull (.log time timestamp v flags) = { h with
            accepted := h.accepted ++ [{ timestamp, datumChoice := choice, datum := .value v, statusFlags := flags }] } := by
          simp [History.step, hc, ← henable, hopen]
        rw [hstep]
        simpa only [TrendLog.log, hc, hoff, hstop, Bool.not_true, Bool.false_eq_true, if_false, next_total hl.total]
          using logged_append hl time _ hroom

lemma logged_step (hl : Logged tl h) (a : Action) : Logged (tl.step a) (h.step tl.bufferSize tl.stopWhenFull a) := by
  cases a with
  | log time timestamp v flags => exact logged_log hl time timestamp v flags
  | writeEnable w =>
    obtain ⟨⟨id, index⟩, value, priority⟩ := w
    unfold TrendLog.step TrendLog.setEnable History.step
    cases index with
    | some i => exact hl
    | none =>
      cases value with
      | boolean b => exact ⟨hl.capacity, rfl, hl.records, hl.stopped, hl.consecutive, hl.newest, hl.total, hl.numbers⟩
      | _ => exact hl
  | writeRecordCount w =>
    obtain ⟨⟨id, index⟩, value, priority⟩ := w
    unfold TrendLog.step TrendLog.setRecordCount History.step
    cases value with
    | unsigned u =>
      by_cases hu : u = 0
      · subst hu
        show Logged { tl with records := [] } { h with accepted := [] }
        exact ⟨hl.capacity, hl.enable, by simp, by simp, List.isChain_nil, by simp, hl.total, by simp⟩
      · simp only [ne_eq, hu, not_false_eq_true, if_true]
        split
        · next heq => exact absurd (ApplicationValue.unsigned.inj heq) hu
        · exact hl
    | _ => exact hl

lemma step_size (tl : TrendLog) (a : Action) :
    (tl.step a).bufferSize = tl.bufferSize ∧ (tl.step a).stopWhenFull = tl.stopWhenFull := by
  cases a with
  | log time timestamp v flags =>
    simp only [TrendLog.step, TrendLog.log]
    split
    · exact ⟨rfl, rfl⟩
    · split_ifs <;> exact ⟨rfl, rfl⟩
  | writeEnable w =>
    simp only [TrendLog.step, TrendLog.setEnable]
    split
    · exact ⟨rfl, rfl⟩
    · split <;> exact ⟨rfl, rfl⟩
  | writeRecordCount w =>
    simp only [TrendLog.step, TrendLog.setRecordCount]
    split
    · split_ifs <;> exact ⟨rfl, rfl⟩
    · exact ⟨rfl, rfl⟩

lemma logged_run (hl : Logged tl h) (acts : List Action) :
    Logged (acts.foldl TrendLog.step tl) (acts.foldl (History.step tl.bufferSize tl.stopWhenFull) h) := by
  induction acts generalizing tl h with
  | nil => exact hl
  | cons a acts ih =>
    have hnext := ih (logged_step hl a)
    rwa [(step_size tl a).1, (step_size tl a).2] at hnext

lemma run_size (acts : List Action) (tl : TrendLog) : (acts.foldl TrendLog.step tl).bufferSize = tl.bufferSize := by
  induction acts generalizing tl with
  | nil => rfl
  | cons a acts ih => exact (ih _).trans (step_size tl a).1

end Step

/-! ## Ranges by position -/

section Selection

variable {tl : TrendLog} {prop : PropertyReference} {q : RangeQuery}

lemma readRange_none (hprop : IsLogBuffer prop)
    (hsel : ∀ first last, tl.records.head? = some first → tl.records.getLast? = some last →
      TrendLog.select tl.records first last q = none) :
    tl.readRange prop q = .ok { total := tl.records.length, sequenced := true } := by
  simp only [TrendLog.readRange, hprop.1, hprop.2, ne_eq, not_true_eq_false, if_false, Option.isSome_none]
  cases hfirst : tl.records.head? with
  | none => rfl
  | some first =>
    cases hlast : tl.records.getLast? with
    | none => rfl
    | some last => simp [hsel first last hfirst hlast]

lemma readRange_some (hprop : IsLogBuffer prop) (hne : tl.records ≠ []) {first : Nat} {last : Int}
    (hsel : ∀ oldest newest, tl.records.head? = some oldest → tl.records.getLast? = some newest →
      TrendLog.select tl.records oldest newest q = some (first, last)) :
    tl.readRange prop q = if last + 1 < first then .error .sliceBounds else .ok {
      records := ((tl.records.take (last + 1).toNat).drop first).map LogEntry.record
      position := first + 1
      total := tl.records.length
      firstSequence := (tl.records[first]?.map LogEntry.seq).getD 0
      sequenced := true } := by
  have hfirst := List.head?_eq_some_head hne
  have hlast := List.getLast?_eq_some_getLast hne
  simp [TrendLog.readRange, hprop.1, hprop.2, hfirst, hlast, hsel _ _ hfirst hlast]

end Selection

lemma filter_eq_slice {α : Type} {P : α → Bool} {l : List α} {first stop : Nat}
    (h : ∀ i (hi : i < l.length), P l[i] = true ↔ first ≤ i ∧ i < stop) : l.filter P = (l.take stop).drop first := by
  induction l generalizing first stop with
  | nil => simp
  | cons a l ih =>
    have ha : P a = true ↔ first ≤ 0 ∧ 0 < stop := h 0 (by simp)
    have htail : l.filter P = (l.take (stop - 1)).drop (first - 1) := by
      refine ih fun i hi => (h (i + 1) (by simpa using hi)).trans ?_
      omega
    rw [List.filter_cons, htail]
    cases stop with
    | zero => simp [ha]
    | succ stop => cases first <;> simp [ha]

lemma byPosition_eq_some {n index : Nat} {count : Int} {first last : Nat}
    (h : byPosition n index count = some (first, last)) :
    (1 ≤ index ∧ index ≤ n) ∧ first ≤ last ∧ ∀ pos, 1 ≤ pos → pos ≤ n →
      (Requested index count pos ↔ 1 + first ≤ pos ∧ pos ≤ 1 + last) := by
  unfold Requested
  rcases lt_or_ge count 0 with hneg | hpos
  · have hbounds : bounds index count = (index + count + 1, (index : Int)) := by simp [bounds, hneg]
    simp only [byPosition, hbounds] at h
    split_ifs at h
    simp only [Option.some.injEq, Prod.mk.injEq] at h
    refine ⟨by omega, by omega, fun pos hlo hhi => ?_⟩
    omega
  · have hbounds : bounds index count = ((index : Int), index + count - 1) := by simp [bounds, not_lt.mpr hpos]
    simp only [byPosition, hbounds] at h
    split_ifs at h
    simp only [Option.some.injEq, Prod.mk.injEq] at h
    refine ⟨by omega, by omega, fun pos hlo hhi => ?_⟩
    omega

lemma byPosition_eq_none {n index : Nat} {count : Int} (h : byPosition n index count = none) (pos : Nat) :
    ¬ (1 ≤ index ∧ index ≤ n ∧ Requested index count pos) := by
  unfold Requested
  rcases lt_or_ge count 0 with hneg | hpos
  · have hbounds : bounds index count = (index + count + 1, (index : Int)) := by simp [bounds, hneg]
    simp only [byPosition, hbounds] at h
    split_ifs at h <;> omega
  · have hbounds : bounds index count = ((index : Int), index + count - 1) := by simp [bounds, not_lt.mpr hpos]
    simp only [byPosition, hbounds] at h
    split_ifs at h <;> omega

lemma readRange_position (tl : TrendLog) (index : Nat) (time count : Int) :
    ∃ res, tl.readRange ⟨propertyLogBuffer, none⟩ { rangeBy := .position, index, time, count } = .ok res ∧
      res.records = ((tl.records.zipIdx 1).filter fun e =>
        decide (1 ≤ index ∧ index ≤ tl.records.length ∧ Requested index count e.2)).map fun e => e.1.record := by
  cases hselect : byPosition tl.records.length index count with
  | none =>
    refine ⟨_, readRange_none ⟨rfl, rfl⟩ fun _ _ _ _ => by simp [TrendLog.select, hselect], ?_⟩
    have hnone : (tl.records.zipIdx 1).filter (fun e =>
        decide (1 ≤ index ∧ index ≤ tl.records.length ∧ Requested index count e.2)) = [] := by
      refine List.filter_eq_nil_iff.mpr fun e he => ?_
      simpa using byPosition_eq_none hselect e.2
    rw [hnone]
    rfl
  | some range =>
    obtain ⟨first, last⟩ := range
    obtain ⟨hindex, hle, hrequested⟩ := byPosition_eq_some hselect
    have hne : tl.records ≠ [] := by
      rintro hnil
      simp [hnil] at hindex
      omega
    have hread := @readRange_some tl ⟨propertyLogBuffer, none⟩ { rangeBy := .position, index, time, count } ⟨rfl, rfl⟩ hne
      first last fun _ _ _ _ => by simp [TrendLog.select, hselect]
    rw [if_neg (by omega)] at hread
    refine ⟨_, hread, ?_⟩
    have hslice : (tl.records.zipIdx 1).filter (fun e =>
        decide (1 ≤ index ∧ index ≤ tl.records.length ∧ Requested index count e.2)) =
          ((tl.records.zipIdx 1).take (last + 1)).drop first := by
      refine filter_eq_slice fun i hi => ?_
      rw [List.length_zipIdx] at hi
      simp only [List.getElem_zipIdx, hindex, true_and, decide_eq_true_iff]
      rw [hrequested (1 + i) (by omega) (by omega)]
      omega
    have hmap : (tl.records.zipIdx 1).map (LogEntry.record ∘ Prod.fst) = tl.records.map LogEntry.record := by
      rw [← List.map_map, List.zipIdx_map_fst]
    have hstop : ((last : Int) + 1).toNat = last + 1 := by omega
    rw [hslice]
    simp only [hstop, List.map_drop, List.map_take]
    exact congrArg (fun l => (l.take (last + 1)).drop first) hmap.symm

/-! ## Every run -/

lemma logged_new {cfg : TrendLogConfig} {tl : TrendLog} (h : newTrendLog cfg = .ok tl) :
    Logged tl { enable := cfg.enable } ∧
      tl.bufferSize = (if cfg.bufferSize = 0 then 1000 else cfg.bufferSize.toNat) ∧
      tl.stopWhenFull = cfg.stopWhenFull := by
  unfold newTrendLog at h
  simp only [Except.check_eq_ok_iff, Except.ok.injEq] at h
  obtain ⟨-, -, -, rfl⟩ := h
  refine ⟨⟨?_, rfl, by simp, by simp, List.isChain_nil, by simp, by simp, by simp⟩, rfl, rfl⟩
  by_cases hzero : cfg.bufferSize = 0
  · simp [hzero]
  · have : cfg.bufferSize.toNat ≠ 0 := fun h => hzero (UInt32.toNat_inj.mp h)
    simp only [hzero, if_false]
    omega

/-- In every run of a log, the buffer holds the last `bufferSize` records accepted since the last clear, numbered
consecutively up to the total record count, and a range by position returns the records at the requested positions. -/
theorem trendLog_buffer {cfg : TrendLogConfig} {tl : TrendLog} (h : newTrendLog cfg = .ok tl) (acts : List Action) :
    let size := if cfg.bufferSize = 0 then 1000 else cfg.bufferSize.toNat
    let log := acts.foldl TrendLog.step tl
    let history := acts.foldl (History.step size cfg.stopWhenFull) { enable := cfg.enable }
    log.enable = history.enable ∧ log.records.length ≤ size ∧
      log.records.map LogEntry.record = history.accepted.drop (history.accepted.length - size) ∧
      log.records.IsChain (fun a b => b.seq = nextSequence a.seq) ∧
      (∀ e ∈ log.records.getLast?, e.seq = log.total) ∧
      ∀ (index : Nat) (time count : Int), ∃ res,
        log.readRange ⟨propertyLogBuffer, none⟩ { rangeBy := .position, index, time, count } = .ok res ∧
        res.records = ((log.records.zipIdx 1).filter fun e =>
          decide (1 ≤ index ∧ index ≤ log.records.length ∧ Requested index count e.2)).map fun e => e.1.record := by
  obtain ⟨hstart, hsize, hstop⟩ := logged_new h
  have hrun := logged_run hstart acts
  rw [hsize, hstop] at hrun
  have hlast : (acts.foldl TrendLog.step tl).bufferSize = _ := (run_size acts tl).trans hsize
  refine ⟨hrun.enable, ?_, ?_, hrun.consecutive, hrun.newest, readRange_position _⟩
  · have hlen := hrun.length
    rw [hlast] at hlen
    omega
  · rw [hrun.records, hlast]

/-- A log with room for two records keeps the last two of three. -/
theorem trendLog_buffer_wraps :
    ∃ tl, newTrendLog { instanceNumber := 1, name := [0x74], bufferSize := 2, enable := true } = .ok tl ∧
      let sample (u : UInt64) : Action := .log 0 ⟨⟨0, 0, 0, 0⟩, ⟨0, 0, 0, 0⟩⟩ (.unsigned u) none
      let log := [sample 1, sample 2, sample 3].foldl TrendLog.step tl
      log.records.map LogEntry.seq = [2, 3] ∧ log.records.length ≤ 2 ∧ ∀ e ∈ log.records.getLast?, e.seq = log.total := by
  obtain ⟨tl, htl⟩ : ∃ tl, newTrendLog { instanceNumber := 1, name := [0x74], bufferSize := 2, enable := true } =
    .ok tl := ⟨_, rfl⟩
  have hrun := trendLog_buffer htl [.log 0 ⟨⟨0, 0, 0, 0⟩, ⟨0, 0, 0, 0⟩⟩ (.unsigned 1) none,
    .log 0 ⟨⟨0, 0, 0, 0⟩, ⟨0, 0, 0, 0⟩⟩ (.unsigned 2) none, .log 0 ⟨⟨0, 0, 0, 0⟩, ⟨0, 0, 0, 0⟩⟩ (.unsigned 3) none]
  refine ⟨tl, htl, ?_, hrun.2.1, hrun.2.2.2.2.1⟩
  cases htl
  decide

end GoBacnet.Proofs
