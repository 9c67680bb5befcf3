import GoBacnet.Server.Schedule

/-!
# Evaluation of a Schedule

What the value of a Schedule is meant to be, in terms of the days and times that its entries cover, and that the
search through the lists finds it.
-/

namespace GoBacnet

/-- The fields of a time of day, the hour first. Times are ordered by it. -/
def Time.order (t : Time) : Nat :=
  ((t.hour.toNat * 256 + t.minute.toNat) * 256 + t.second.toNat) * 256 + t.hundredths.toNat

def Time.Specified (t : Time) : Prop := t.hour ≠ 0xFF ∧ t.minute ≠ 0xFF ∧ t.second ≠ 0xFF ∧ t.hundredths ≠ 0xFF

namespace Server

/-- A date of the local calendar in the years 1900 to 2154. -/
structure LocalDate (d : Date) : Prop where
  year : d.year ≠ 0xFF
  month : 1 ≤ d.month.toNat ∧ d.month.toNat ≤ 12
  day : 1 ≤ d.day.toNat ∧ d.day.toNat ≤ daysIn (fullYear d) d.month.toNat
  weekday : 1 ≤ d.weekday.toNat ∧ d.weekday.toNat ≤ 7

/-! ## Days -/

def CoversMonth (pattern : UInt8) (d : Date) : Prop :=
  pattern = 0xFF ∨ pattern = 13 ∧ Odd d.month.toNat ∨ pattern = 14 ∧ Even d.month.toNat ∨ pattern = d.month

def CoversDay (pattern : UInt8) (d : Date) : Prop :=
  pattern = 0xFF ∨ pattern = 32 ∧ d.day.toNat = daysIn (fullYear d) d.month.toNat ∨
    pattern = 33 ∧ Odd d.day.toNat ∨ pattern = 34 ∧ Even d.day.toNat ∨ pattern = d.day

/-- A week of seven days, counted from the first day of the month (1 to 5) or back from the last one (6 to 9). -/
def CoversWeek (week : UInt8) (d : Date) : Prop :=
  week = 0xFF ∨
    (1 ≤ week.toNat ∧ week.toNat ≤ 5 ∧ 7 * (week.toNat - 1) < d.day.toNat ∧ d.day.toNat ≤ 7 * week.toNat) ∨
    (6 ≤ week.toNat ∧ week.toNat ≤ 9 ∧ 7 * (week.toNat - 6) ≤ daysIn (fullYear d) d.month.toNat - d.day.toNat ∧
      daysIn (fullYear d) d.month.toNat - d.day.toNat < 7 * (week.toNat - 5))

def FieldsUpTo : List (UInt8 × UInt8) → Prop
  | [] => True
  | (a, b) :: rest => a ≠ 0xFF ∧ b ≠ 0xFF ∧ a < b ∨ (a = 0xFF ∨ b = 0xFF ∨ a = b) ∧ FieldsUpTo rest

def UpTo (a b : Date) : Prop := FieldsUpTo [(a.year, b.year), (a.month, b.month), (a.day, b.day)]

def InRange (d : Date) (r : DateRange) : Prop := UpTo r.startDate d ∧ UpTo d r.endDate

def Covers (e : CalendarEntry) (d : Date) : Prop :=
  (e.choice = 0 ∧ (e.date.year = 0xFF ∨ e.date.year = d.year) ∧ CoversMonth e.date.month d ∧ CoversDay e.date.day d ∧
    (e.date.weekday = 0xFF ∨ e.date.weekday = d.weekday)) ∨
  (e.choice = 1 ∧ InRange d e.dateRange) ∨
  (e.choice = 2 ∧ CoversMonth e.weekNDay.month d ∧ CoversWeek e.weekNDay.weekOfMonth d ∧
    (e.weekNDay.dayOfWeek = 0xFF ∨ e.weekNDay.dayOfWeek = d.weekday))

/-! ## Values -/

/-- The value of the latest entry not after `t`, the last listed of those with its time. Apart from entries with one
time, the order of the list does not matter. -/
def ValueAt (tvs : List ScheduledTimeValue) (t : Time) (v : ApplicationValue) : Prop :=
  ∃ n ≤ t.order, (∀ tv ∈ tvs, tv.time.order ≤ t.order → tv.time.order ≤ n) ∧
    (tvs.filter (·.time.order = n)).getLast?.map (·.value) = some v

section Evaluation

variable (calendars : ObjectIdentifier → Option Calendar) (d : Date) (t : Time)

/-- A Calendar of the device covers a day if one of its entries does. -/
def CoversToday (e : SpecialEvent) : Prop :=
  match e.periodObject with
  | none => Covers e.calendarEntry d
  | some id => ∃ c, calendars id = some c ∧ ∃ entry ∈ c.state.entries, Covers entry d

def EventGives (e : SpecialEvent) (v : ApplicationValue) : Prop :=
  CoversToday calendars d e ∧ ValueAt e.listOfTimeValues t v ∧ v.kind ≠ .null

/-- The value of the first of the events with the lowest priority among those that give a value. -/
def EventWins (exceptions : List SpecialEvent) (v : ApplicationValue) : Prop :=
  ∃ pre e post, exceptions = pre ++ e :: post ∧ EventGives calendars d t e v ∧
    (∀ e' ∈ pre, (∃ v', EventGives calendars d t e' v') → e.eventPriority < e'.eventPriority) ∧
    ∀ e' ∈ post, (∃ v', EventGives calendars d t e' v') → e.eventPriority ≤ e'.eventPriority

inductive Scheduled (eff : DateRange) (weekly : WeeklySchedule) (exceptions : List SpecialEvent)
    (default : ApplicationValue) : ApplicationValue → Prop
  | outside (h : ¬InRange d eff) : Scheduled eff weekly exceptions default default
  | event {v : ApplicationValue} (h : InRange d eff) (hv : EventWins calendars d t exceptions v) :
      Scheduled eff weekly exceptions default v
  | weekday {day : DailySchedule} {v : ApplicationValue} (h : InRange d eff)
      (hevents : ∀ e ∈ exceptions, ∀ v, ¬EventGives calendars d t e v)
      (hday : weekly.toList[d.weekday.toNat - 1]? = some day) (hv : ValueAt day.daySchedule t v)
      (hnull : v.kind ≠ .null) : Scheduled eff weekly exceptions default v
  | default {day : DailySchedule} (h : InRange d eff) (hevents : ∀ e ∈ exceptions, ∀ v, ¬EventGives calendars d t e v)
      (hday : weekly.toList[d.weekday.toNat - 1]? = some day)
      (hnull : ∀ v, ValueAt day.daySchedule t v → v.kind = .null) : Scheduled eff weekly exceptions default default

end Evaluation

end Server

end GoBacnet

namespace GoBacnet.Proofs

open GoBacnet.Server

variable {d : Date} {t : Time} {tvs : List ScheduledTimeValue}

/-! ## Days -/

lemma monthMatches_iff (hd : LocalDate d) (pattern : UInt8) : monthMatches pattern d = true ↔ CoversMonth pattern d := by
  have hmonth := hd.month
  have hne {k : UInt8} (hk : k.toNat > 12) : k ≠ d.month := by
    rintro rfl
    omega
  have hodd : (d.month % 2 = 1 ↔ Odd d.month.toNat) ∧ (d.month % 2 = 0 ↔ Even d.month.toNat) := by
    simp [← UInt8.toNat_inj, Nat.odd_iff, Nat.even_iff]
  unfold monthMatches CoversMonth dateAny monthOdd monthEven
  split_ifs with h255 h13 h14
  · simp [h255]
  · subst h13
    simp [hodd, hne (k := 13) (by decide)]
  · subst h14
    simp [hodd, hne (k := 14) (by decide)]
  · simp [h255, h13, h14]

lemma dayMatches_iff (hd : LocalDate d) (pattern : UInt8) : dayMatches pattern d = true ↔ CoversDay pattern d := by
  have hday := hd.day
  have hle : d.day.toNat ≤ 31 := by
    have : daysIn (fullYear d) d.month.toNat ≤ 31 := by
      unfold daysIn
      split_ifs <;> omega
    omega
  have hne {k : UInt8} (hk : k.toNat > 31) : k ≠ d.day := by
    rintro rfl
    omega
  have hodd : (d.day % 2 = 1 ↔ Odd d.day.toNat) ∧ (d.day % 2 = 0 ↔ Even d.day.toNat) := by
    simp [← UInt8.toNat_inj, Nat.odd_iff, Nat.even_iff]
  unfold dayMatches CoversDay dateAny dayLast dayOdd dayEven
  split_ifs with h255 h32 h33 h34
  · simp [h255]
  · subst h32
    simp [hne (k := 32) (by decide)]
  · subst h33
    simp [hodd, hne (k := 33) (by decide)]
  · subst h34
    simp [hodd, hne (k := 34) (by decide)]
  · simp [h255, h32, h33, h34]

lemma compareField_le_iff {a b : UInt8} {next : Int} :
    compareField a b next ≤ 0 ↔ a ≠ 0xFF ∧ b ≠ 0xFF ∧ a < b ∨ (a = 0xFF ∨ b = 0xFF ∨ a = b) ∧ next ≤ 0 := by
  unfold compareField dateAny
  rw [UInt8.lt_iff_toNat_lt]
  split_ifs with h
  · have hne : a.toNat ≠ b.toNat := fun heq => h.2.2 (UInt8.toNat_inj.mp heq)
    simp only [h.1, h.2.1, h.2.2, not_false_eq_true, true_and, or_self, false_and, or_false, ne_eq]
    omega
  · have h' : a = 0xFF ∨ b = 0xFF ∨ a = b := by tauto
    rcases h' with rfl | rfl | rfl <;> simp

lemma compareDate_le_iff (a b : Date) : compareDate a b ≤ 0 ↔ UpTo a b := by
  unfold compareDate UpTo
  simp only [compareField_le_iff, FieldsUpTo, and_true, le_refl]

lemma dateInRange_iff (r : DateRange) : dateInRange d r = true ↔ InRange d r := by
  simp [dateInRange, InRange, compareDate_le_iff]

lemma weekNDayMatches_iff (hd : LocalDate d) (w : WeekNDay) : weekNDayMatches w d = true ↔
    CoversMonth w.month d ∧ CoversWeek w.weekOfMonth d ∧ (w.dayOfWeek = 0xFF ∨ w.dayOfWeek = d.weekday) := by
  have hday := hd.day
  unfold weekNDayMatches
  rw [← monthMatches_iff hd]
  by_cases hmonth : monthMatches w.month d = true
  · by_cases hweekday : w.dayOfWeek = 0xFF ∨ w.dayOfWeek = d.weekday
    · have hno : ¬(w.dayOfWeek ≠ dateAny ∧ w.dayOfWeek ≠ d.weekday) := fun h => hweekday.elim h.1 h.2
      simp only [hmonth, hno, hweekday, Bool.not_true, Bool.false_eq_true, if_false, true_and, and_true]
      unfold CoversWeek dateAny weekLastSeven
      simp only [UInt8.le_iff_toNat_le, ge_iff_le]
      generalize daysIn (fullYear d) d.month.toNat = last at hday ⊢
      rw [Int.tdiv_eq_ediv_of_nonneg (by omega), Int.tdiv_eq_ediv_of_nonneg (by omega)]
      by_cases hany : w.weekOfMonth = 0xFF
      · simp [hany]
      · have hne : w.weekOfMonth.toNat ≠ 255 := fun h => hany (UInt8.toNat_inj.mp h)
        simp only [hany, if_false, false_or, show (1 : UInt8).toNat = 1 from rfl, show (5 : UInt8).toNat = 5 from rfl,
          show (6 : UInt8).toNat = 6 from rfl, show (9 : UInt8).toNat = 9 from rfl]
        split_ifs
        · rw [decide_eq_true_iff]
          omega
        · rw [decide_eq_true_iff]
          omega
        · simp only [false_iff]
          omega
    · have hno : w.dayOfWeek ≠ dateAny ∧ w.dayOfWeek ≠ d.weekday := not_or.mp hweekday
      simp only [hmonth, if_pos hno, hweekday, Bool.not_true, Bool.false_eq_true, if_false, and_false]
  · simp [hmonth]

lemma entryMatches_iff (hd : LocalDate d) (e : CalendarEntry) : entryMatches e d = true ↔ Covers e d := by
  unfold Covers
  by_cases h0 : e.choice = 0
  · have heq : entryMatches e d = dateMatches e.date d := by rw [entryMatches, h0]; rfl
    rw [heq]
    unfold dateMatches dateAny
    simp [h0, monthMatches_iff hd, dayMatches_iff hd, and_assoc]
  · by_cases h1 : e.choice = 1
    · have heq : entryMatches e d = dateInRange d e.dateRange := by rw [entryMatches, h1]; rfl
      simp [heq, h1, dateInRange_iff]
    · by_cases h2 : e.choice = 2
      · have heq : entryMatches e d = weekNDayMatches e.weekNDay d := by rw [entryMatches, h2]; rfl
        simp [heq, h2, weekNDayMatches_iff hd]
      · simp only [h0, h1, h2, false_and, or_self, iff_false, entryMatches]
        split
        · exact absurd ‹_› h0
        · exact absurd ‹_› h1
        · exact absurd ‹_› h2
        · simp

/-! ## Times -/

lemma compareTime_lt_iff {a b : Time} (ha : a.Specified) (hb : b.Specified) :
    compareTime a b < 0 ↔ a.order < b.order := by
  have hfield {x y : UInt8} {next : Int} {m n : Nat} (hx : x ≠ 0xFF) (hy : y ≠ 0xFF) (hnext : next < 0 ↔ m < n)
      {k : Nat} (hm : m < k) (hn : n < k) :
      compareField x y next < 0 ↔ x.toNat * k + m < y.toNat * k + n := by
    unfold compareField dateAny
    split_ifs with h
    · have hne : x.toNat ≠ y.toNat := fun heq => h.2.2 (UInt8.toNat_inj.mp heq)
      constructor
      · intro hlt
        have hlt : x.toNat + 1 ≤ y.toNat := by omega
        nlinarith
      · intro hlt
        by_contra hge
        have hge : y.toNat + 1 ≤ x.toNat := by omega
        nlinarith
    · obtain rfl : x = y := by tauto
      rw [hnext]
      omega
  have hlt (x : UInt8) : x.toNat < 256 := x.toNat_lt
  have hlast := @hfield _ _ 0 0 0 ha.2.2.2 hb.2.2.2 (by simp) 1 (by simp) (by simp)
  have hsecond := hfield ha.2.2.1 hb.2.2.1 hlast (k := 256) (by simpa using hlt _) (by simpa using hlt _)
  have hminute := hfield ha.2.1 hb.2.1 hsecond (k := 256 * 256) (by have := hlt a.second; have := hlt a.hundredths; omega)
    (by have := hlt b.second; have := hlt b.hundredths; omega)
  have hhour := hfield ha.1 hb.1 hminute (k := 256 * 256 * 256)
    (by have := hlt a.minute; have := hlt a.second; have := hlt a.hundredths; omega)
    (by have := hlt b.minute; have := hlt b.second; have := hlt b.hundredths; omega)
  unfold compareTime Time.order
  rw [hhour]
  constructor <;> intro h <;> ring_nf at h ⊢ <;> omega

/-- What is found in a list: nothing before its first time, or the entry that is in effect. -/
def Found (t : Time) (tvs : List ScheduledTimeValue) : Option ScheduledTimeValue → Prop
  | none => ∀ tv ∈ tvs, t.order < tv.time.order
  | some b => b.time.Specified ∧ b.time.order ≤ t.order ∧
      (∀ tv ∈ tvs, tv.time.order ≤ t.order → tv.time.order ≤ b.time.order) ∧
      (tvs.filter (·.time.order = b.time.order)).getLast? = some b

lemma found_foldl (ht : t.Specified) (htvs : ∀ tv ∈ tvs, tv.time.Specified) :
    Found t tvs (tvs.foldl (laterEntry t) none) := by
  induction tvs using List.reverseRecOn with
  | nil => simp [Found]
  | append_singleton tvs tv ih =>
    have htv := htvs tv (by simp)
    have ih := ih fun tv' h => htvs tv' (List.mem_append_left _ h)
    rw [List.foldl_append, List.foldl_cons, List.foldl_nil]
    generalize tvs.foldl (laterEntry t) none = best at ih
    unfold laterEntry
    rw [if_congr (compareTime_lt_iff ht htv) rfl rfl]
    split_ifs with hafter hbest
    · -- The entry comes after `t` and is passed over.
      cases best with
      | none => simpa [Found, or_imp, forall_and] using ⟨ih, hafter⟩
      | some b =>
        obtain ⟨hb, hle, hmax, hlast⟩ := ih
        refine ⟨hb, hle, ?_, ?_⟩
        · intro tv' htv' hle'
          rcases List.mem_append.mp htv' with h | h
          · exact hmax tv' h hle'
          · obtain rfl := List.mem_singleton.mp h
            omega
        · have hne : tv.time.order ≠ b.time.order := by omega
          simpa [hne] using hlast
    · -- It is the latest so far.
      refine ⟨htv, not_lt.mp hafter, ?_, by simp⟩
      intro tv' htv' hle'
      rcases List.mem_append.mp htv' with h | h
      · cases best with
        | none => exact absurd hle' (not_le.mpr (ih tv' h))
        | some b =>
          have hge : ¬tv.time.order < b.time.order := by
            rw [← compareTime_lt_iff htv ih.1]
            simpa using hbest
          exact (ih.2.2.1 tv' h hle').trans (not_lt.mp hge)
      · obtain rfl := List.mem_singleton.mp h
        rfl
    · -- An earlier time than the latest so far.
      cases best with
      | none => simp at hbest
      | some b =>
        have hlt : tv.time.order < b.time.order := by
          rw [← compareTime_lt_iff htv ih.1]
          simpa using hbest
        obtain ⟨hb, hle, hmax, hlast⟩ := ih
        refine ⟨hb, hle, ?_, by simpa [hlt.ne] using hlast⟩
        intro tv' htv' hle'
        rcases List.mem_append.mp htv' with h | h
        · exact hmax tv' h hle'
        · obtain rfl := List.mem_singleton.mp h
          exact hlt.le

lemma valueAt_iff (ht : t.Specified) (htvs : ∀ tv ∈ tvs, tv.time.Specified) {v : ApplicationValue} :
    valueAt tvs t = some v ↔ ValueAt tvs t v := by
  have hfound := found_foldl ht htvs
  have hmem {n : Nat} {tv : ScheduledTimeValue} (h : (tvs.filter (·.time.order = n)).getLast? = some tv) :
      tv ∈ tvs ∧ tv.time.order = n := by simpa using List.mem_of_getLast? h
  unfold valueAt
  rw [Option.map_eq_some_iff]
  constructor
  · rintro ⟨b, hb, rfl⟩
    rw [hb] at hfound
    exact ⟨_, hfound.2.1, hfound.2.2.1, by rw [hfound.2.2.2]; rfl⟩
  · rintro ⟨n, hn, hmax, hv⟩
    obtain ⟨tv, hlast, rfl⟩ := Option.map_eq_some_iff.mp hv
    obtain ⟨htv, rfl⟩ := hmem hlast
    cases hbest : tvs.foldl (laterEntry t) none with
    | none =>
      rw [hbest] at hfound
      exact absurd hn (not_le.mpr (hfound tv htv))
    | some b =>
      rw [hbest] at hfound
      obtain ⟨-, hle, hmax', hlast'⟩ := hfound
      have heq : tv.time.order = b.time.order := le_antisymm (hmax' tv htv hn) (hmax b (hmem hlast').1 hle)
      rw [heq, hlast'] at hlast
      exact ⟨b, rfl, congrArg _ (Option.some.inj hlast)⟩

lemma nonNull_valueAt_iff (ht : t.Specified) (htvs : ∀ tv ∈ tvs, tv.time.Specified) {v : ApplicationValue} :
    nonNull (valueAt tvs t) = some v ↔ ValueAt tvs t v ∧ v.kind ≠ .null := by
  rw [nonNull, Option.filter_eq_some_iff, valueAt_iff ht htvs]
  simp

/-! ## Special events -/

def calendarActive (calendars : ObjectIdentifier → Option Calendar) (id : ObjectIdentifier) (d : Date) : Bool :=
  (calendars id).any (·.state.contains d)

section Events

variable {calendars : ObjectIdentifier → Option Calendar} {exceptions : List SpecialEvent}

lemma periodActive_iff (hd : LocalDate d) (e : SpecialEvent) :
    periodActive (calendarActive calendars) e d = true ↔ CoversToday calendars d e := by
  unfold periodActive CoversToday calendarActive CalendarState.contains
  split
  · next h => simp [h, entryMatches_iff hd]
  · next id h => simp [h, Option.any_eq_true, entryMatches_iff hd]

/-- What is found among the events: nothing, or the first one of the lowest priority. -/
def FoundEvent (calendars : ObjectIdentifier → Option Calendar) (d : Date) (t : Time) (exceptions : List SpecialEvent)
    (best : Option ApplicationValue × UInt8) : Prop :=
  match best.1 with
  | none => best.2 = 17 ∧ ∀ e ∈ exceptions, ∀ v, ¬EventGives calendars d t e v
  | some v => ∃ pre e post, exceptions = pre ++ e :: post ∧ EventGives calendars d t e v ∧ e.eventPriority = best.2 ∧
      (∀ e' ∈ pre, (∃ v', EventGives calendars d t e' v') → e.eventPriority < e'.eventPriority) ∧
      ∀ e' ∈ post, (∃ v', EventGives calendars d t e' v') → e.eventPriority ≤ e'.eventPriority

lemma foundEvent_skip {best : Option ApplicationValue × UInt8} {e : SpecialEvent}
    (h : FoundEvent calendars d t exceptions best) (hpriority : e.eventPriority.toNat ≤ 16)
    (hskip : (∃ v, EventGives calendars d t e v) → best.2 ≤ e.eventPriority) :
    FoundEvent calendars d t (exceptions ++ [e]) best := by
  obtain ⟨v, priority⟩ := best
  cases v with
  | none =>
    obtain ⟨rfl, hnone⟩ := h
    have hno : ∀ v, ¬EventGives calendars d t e v := by
      intro v hv
      have hle := UInt8.le_iff_toNat_le.mp (hskip ⟨v, hv⟩)
      exact absurd hle (by simp; omega)
    refine ⟨rfl, fun e' he' => ?_⟩
    rcases List.mem_append.mp he' with h | h
    · exact hnone e' h
    · exact List.mem_singleton.mp h ▸ hno
  | some v =>
    obtain ⟨pre, e₁, post, rfl, hgives, hbest, hpre, hpost⟩ := h
    refine ⟨pre, e₁, post ++ [e], by simp, hgives, hbest, hpre, fun e' he' hv => ?_⟩
    rcases List.mem_append.mp he' with h | h
    · exact hpost e' h hv
    · obtain rfl := List.mem_singleton.mp h
      exact hbest ▸ hskip hv

lemma foundEvent_foldl (hd : LocalDate d) (ht : t.Specified) (hpriority : ∀ e ∈ exceptions, e.eventPriority.toNat ≤ 16)
    (htimes : ∀ e ∈ exceptions, ∀ tv ∈ e.listOfTimeValues, tv.time.Specified) :
    FoundEvent calendars d t exceptions (exceptions.foldl (betterEvent (calendarActive calendars) d t) (none, 17)) := by
  induction exceptions using List.reverseRecOn with
  | nil => exact ⟨rfl, by simp⟩
  | append_singleton exceptions e ih =>
    have ih := ih (fun e' h => hpriority e' (List.mem_append_left _ h)) fun e' h => htimes e' (List.mem_append_left _ h)
    have hvalue {v : ApplicationValue} := @nonNull_valueAt_iff t _ ht (htimes e (by simp)) v
    rw [List.foldl_append, List.foldl_cons, List.foldl_nil]
    generalize exceptions.foldl (betterEvent (calendarActive calendars) d t) (none, 17) = best at ih
    unfold betterEvent
    split_ifs with hskip
    · refine foundEvent_skip ih (hpriority e (by simp)) fun ⟨v, hv⟩ => ?_
      exact hskip.resolve_right (by simp [(periodActive_iff hd e).mpr hv.1])
    · rw [not_or, Bool.not_eq_true', Bool.not_eq_false, periodActive_iff hd] at hskip
      split
      · next v hv =>
        refine ⟨exceptions, e, [], rfl, ⟨hskip.2, hvalue.mp hv⟩, rfl, fun e' he' hgives => ?_, by simp⟩
        have hlt : e.eventPriority < best.2 := UInt8.not_le.mp hskip.1
        obtain ⟨v₁, priority⟩ := best
        cases v₁ with
        | none => exact absurd hgives (by simpa using ih.2 e' he')
        | some v₁ =>
          obtain ⟨pre, e₁, post, rfl, -, hbest, hpre, hpost⟩ := ih
          rcases List.mem_append.mp he' with h | h
          · exact UInt8.lt_trans (hbest.symm ▸ hlt) (hpre e' h hgives)
          · rcases List.mem_cons.mp h with rfl | h
            · exact hbest.symm ▸ hlt
            · exact UInt8.lt_of_lt_of_le (hbest.symm ▸ hlt) (hpost e' h hgives)
      · next hnone =>
        refine foundEvent_skip ih (hpriority e (by simp)) fun ⟨v, hv⟩ => ?_
        rw [hvalue.mpr hv.2] at hnone
        cases hnone

end Events

/-- On every local date and at every time, the value of a Schedule is the one that its entries give. -/
theorem evaluate_scheduled (calendars : ObjectIdentifier → Option Calendar) {d : Date} {t : Time} (hd : LocalDate d)
    (ht : t.Specified) (eff : DateRange) {weekly : WeeklySchedule} {exceptions : List SpecialEvent}
    (default : ApplicationValue) (hpriority : ∀ e ∈ exceptions, 1 ≤ e.eventPriority.toNat ∧ e.eventPriority.toNat ≤ 16)
    (hweekly : ∀ day ∈ weekly.toList, ∀ tv ∈ day.daySchedule, tv.time.Specified)
    (htimes : ∀ e ∈ exceptions, ∀ tv ∈ e.listOfTimeValues, tv.time.Specified) :
    Scheduled calendars d t eff weekly exceptions default
      (evaluate (calendarActive calendars) d t eff weekly exceptions default) := by
  have hfound := @foundEvent_foldl _ _ calendars _ hd ht (fun e he => (hpriority e he).2) htimes
  unfold evaluate
  by_cases hin : dateInRange d eff = true
  · have hrange := (dateInRange_iff eff).mp hin
    rw [if_neg (by simp [hin])]
    generalize exceptions.foldl (betterEvent (calendarActive calendars) d t) (none, 17) = best at hfound
    obtain ⟨v, priority⟩ := best
    cases v with
    | some v =>
      obtain ⟨pre, e, post, heq, hgives, -, hpre, hpost⟩ := hfound
      exact .event hrange ⟨pre, e, post, heq, hgives, hpre, hpost⟩
    | none =>
      have hlt : d.weekday.toNat - 1 < weekly.toList.length := by
        have := hd.weekday
        simp
        omega
      have hday := List.getElem?_eq_getElem hlt
      have hvalue {v : ApplicationValue} := @nonNull_valueAt_iff t _ ht (hweekly _ (List.getElem_mem hlt)) v
      simp only [hday, Option.getD_some]
      cases hnull : nonNull (valueAt weekly.toList[d.weekday.toNat - 1].daySchedule t) with
      | some v => exact .weekday hrange hfound.2 hday (hvalue.mp hnull).1 (hvalue.mp hnull).2
      | none =>
        refine .default hrange hfound.2 hday fun v hv => ?_
        by_contra hne
        rw [hvalue.mpr ⟨hv, hne⟩] at hnull
        cases hnull
  · rw [if_pos (by simpa using hin)]
    exact .outside (mt (dateInRange_iff eff).mpr hin)

def newYearEvent : SpecialEvent where
  calendarEntry := { date := ⟨0xFF, 1, 1, 0xFF⟩ }
  listOfTimeValues := [⟨⟨9, 0, 0, 0⟩, .unsigned 2⟩, ⟨⟨6, 0, 0, 0⟩, .unsigned 1⟩]
  eventPriority := 16

theorem evaluate_scheduled_newYear :
    Scheduled (fun _ => none) ⟨124, 1, 1, 1⟩ ⟨8, 30, 0, 0⟩ ⟨unspecifiedDate, unspecifiedDate⟩
      (.replicate 7 ⟨[⟨⟨0, 0, 0, 0⟩, .unsigned 3⟩]⟩) [newYearEvent] .null (.unsigned 1) :=
  evaluate_scheduled (fun _ => none) ⟨by decide, by decide, by decide, by decide⟩ (by simp [Time.Specified]) _ .null
    (by simp [newYearEvent]) (by simp [Time.Specified]) (by simp [newYearEvent, Time.Specified])

end GoBacnet.Proofs
