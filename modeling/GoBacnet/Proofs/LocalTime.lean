import GoBacnet.Server.LocalTime

/-!
# Local time

In the years 1900 to 2154 the transmitted date and time of an instant is a date of the calendar, tells the hundredth of
a second that the instant is in, and orders like it.
-/

namespace GoBacnet

namespace Service.DateTime

/-- A date of the calendar in the years 1900 to 2154, and a time of the day. -/
structure Valid (dt : DateTime) : Prop where
  year : dt.date.year ≠ 0xFF
  month : 1 ≤ dt.date.month.toNat ∧ dt.date.month.toNat ≤ 12
  day : 1 ≤ dt.date.day.toNat ∧ dt.date.day.toNat ≤ Server.daysIn (Server.fullYear dt.date) dt.date.month.toNat
  hour : dt.time.hour.toNat < 24
  minute : dt.time.minute.toNat < 60
  second : dt.time.second.toNat < 60
  hundredths : dt.time.hundredths.toNat < 100

def fields (dt : DateTime) : List Nat :=
  [dt.date.year.toNat, dt.date.month.toNat, dt.date.day.toNat, dt.time.hour.toNat, dt.time.minute.toNat,
    dt.time.second.toNat, dt.time.hundredths.toNat]

def Before (a b : DateTime) : Prop := a.fields < b.fields

instance (a b : DateTime) : Decidable (a.Before b) := inferInstanceAs (Decidable (a.fields < b.fields))

end Service.DateTime

namespace Server

open Service

def localYear (offset t : Int) : Int := (civil ((t + offset * 1000000000 - epoch1900) / nanosPerDay)).1

def dayOfYear (d : Date) : Nat := daysBeforeMonth (fullYear d) (d.month.toNat - 1) + (d.day.toNat - 1)

def dayNumber (d : Date) : Nat := daysBeforeYear (fullYear d) + dayOfYear d

def hundredthOfDay (t : Time) : Nat :=
  ((t.hour.toNat * 60 + t.minute.toNat) * 60 + t.second.toNat) * 100 + t.hundredths.toNat

def ticks (dt : DateTime) : Nat := dayNumber dt.date * 8640000 + hundredthOfDay dt.time

end Server

end GoBacnet

namespace GoBacnet.Proofs

open GoBacnet.Server GoBacnet.Service

variable {dt : DateTime} {offset t : Int}

lemma daysBeforeMonth_twelve (year : Nat) : daysBeforeMonth year 12 = yearDays year := by
  unfold daysBeforeMonth yearDays
  by_cases h : year % 4 = 0 ∧ (year % 100 ≠ 0 ∨ year % 400 = 0) <;> simp [Blocks.start, daysIn, h]

lemma dayOfYear_lt (h : dt.Valid) : dayOfYear dt.date < yearDays (fullYear dt.date) := by
  have hday := h.day
  have hmonth := h.month
  obtain ⟨m, hm⟩ : ∃ m, dt.date.month.toNat = m + 1 := ⟨_, (Nat.succ_pred_eq_of_pos hmonth.1).symm⟩
  have hle := @Blocks.start_mono (fun m => daysIn (fullYear dt.date) (m + 1)) (m + 1) 12 (by omega)
  rw [show Blocks.start _ 12 = _ from daysBeforeMonth_twelve _, Blocks.start] at hle
  rw [hm] at hday
  rw [dayOfYear, hm, Nat.add_sub_cancel, daysBeforeMonth]
  omega

lemma hundredthOfDay_lt (h : dt.Valid) : hundredthOfDay dt.time < 8640000 := by
  have := h.hour
  have := h.minute
  have := h.second
  have := h.hundredths
  unfold hundredthOfDay
  omega

lemma dateTimeToTime_valid (h : dt.Valid) : Server.dateTimeToTime dt = ticks dt * 10000000 := by
  have hmonth := h.month
  have hday := h.day
  have hdays : daysIn (fullYear dt.date) dt.date.month.toNat ≤ 31 := by
    unfold daysIn
    split_ifs <;> omega
  have hfield {b : UInt8} (hb : b.toNat < 100) : b ≠ 0xFF := by
    rintro rfl
    exact absurd hb (by decide)
  have hm : ¬(dt.date.month = 0xFF ∨ dt.date.month > 12) :=
    not_or.mpr ⟨hfield (by omega), by rw [gt_iff_lt, UInt8.lt_iff_toNat_lt]; simp; omega⟩
  have hd : ¬(dt.date.day = 0xFF ∨ dt.date.day > 31) :=
    not_or.mpr ⟨hfield (by omega), by rw [gt_iff_lt, UInt8.lt_iff_toNat_lt]; simp; omega⟩
  have hhour := hfield (h.hour.trans (by decide))
  have hminute := hfield (h.minute.trans (by decide))
  have hsecond := hfield (h.second.trans (by decide))
  have hhundredths := hfield h.hundredths
  have hzero : dt.date.month.toNat ≠ 0 := by omega
  simp only [Server.dateTimeToTime, if_neg h.year, if_neg hm, if_neg hd, if_neg hhour, if_neg hminute, if_neg hsecond,
    if_neg hhundredths, if_neg hzero, ticks, dayNumber, dayOfYear, hundredthOfDay, nanosPerDay]
  push_cast
  omega

section Order

variable {a b : DateTime}

lemma dayNumber_lt_iff (ha : a.Valid) (hb : b.Valid) :
    dayNumber a.date < dayNumber b.date ↔ a.date.year.toNat < b.date.year.toNat ∨
      a.date.year.toNat = b.date.year.toNat ∧ dayOfYear a.date < dayOfYear b.date := by
  have hyear := @Blocks.start_add_lt_iff (fun y => yearDays (1900 + y)) a.date.year.toNat b.date.year.toNat
    (dayOfYear a.date) (dayOfYear b.date) (by simpa [fullYear, Nat.add_comm] using dayOfYear_lt ha)
    (by simpa [fullYear, Nat.add_comm] using dayOfYear_lt hb)
  simpa [dayNumber, daysBeforeYear, fullYear] using hyear

lemma dayOfYear_lt_iff (ha : a.Valid) (hb : b.Valid) (hyear : a.date.year.toNat = b.date.year.toNat) :
    dayOfYear a.date < dayOfYear b.date ↔ a.date.month.toNat < b.date.month.toNat ∨
      a.date.month.toNat = b.date.month.toNat ∧ a.date.day.toNat < b.date.day.toNat := by
  have hfull : fullYear a.date = fullYear b.date := congrArg (· + 1900) hyear
  have hmonth := ha.month
  have hmonth' := hb.month
  have hday := ha.day
  have hday' := hb.day
  rw [hfull] at hday
  have hiff := @Blocks.start_add_lt_iff (fun m => daysIn (fullYear b.date) (m + 1)) (a.date.month.toNat - 1)
    (b.date.month.toNat - 1) (a.date.day.toNat - 1) (b.date.day.toNat - 1)
    (by rw [Nat.sub_add_cancel hmonth.1]; omega) (by rw [Nat.sub_add_cancel hmonth'.1]; omega)
  rw [dayOfYear, dayOfYear, hfull]
  refine hiff.trans ?_
  omega

lemma digits_lt_iff {n a b c d : Nat} (hb : b < n) (hd : d < n) : a * n + b < c * n + d ↔ a < c ∨ a = c ∧ b < d := by
  rcases lt_trichotomy a c with hlt | rfl | hgt
  · have hstep : (a + 1) * n ≤ c * n := Nat.mul_le_mul_right n hlt
    rw [Nat.succ_mul] at hstep
    omega
  · omega
  · have hstep : (c + 1) * n ≤ a * n := Nat.mul_le_mul_right n hgt
    rw [Nat.succ_mul] at hstep
    omega

lemma hundredthOfDay_lt_iff (ha : a.Valid) (hb : b.Valid) :
    hundredthOfDay a.time < hundredthOfDay b.time ↔ a.time.hour.toNat < b.time.hour.toNat ∨
      a.time.hour.toNat = b.time.hour.toNat ∧ (a.time.minute.toNat < b.time.minute.toNat ∨
        a.time.minute.toNat = b.time.minute.toNat ∧ (a.time.second.toNat < b.time.second.toNat ∨
          a.time.second.toNat = b.time.second.toNat ∧ a.time.hundredths.toNat < b.time.hundredths.toNat)) := by
  have hminute := ha.minute
  have hminute' := hb.minute
  have hsecond := ha.second
  have hsecond' := hb.second
  unfold hundredthOfDay
  rw [digits_lt_iff ha.hundredths hb.hundredths, digits_lt_iff ha.second hb.second, digits_lt_iff ha.minute hb.minute]
  omega

lemma ticks_lt_iff (ha : a.Valid) (hb : b.Valid) : ticks a < ticks b ↔ a.Before b := by
  have hday := dayNumber_lt_iff ha hb
  have hday' := dayNumber_lt_iff hb ha
  have hlt := hundredthOfDay_lt ha
  have hlt' := hundredthOfDay_lt hb
  have htime := hundredthOfDay_lt_iff ha hb
  have hbefore : a.Before b ↔ a.date.year.toNat < b.date.year.toNat ∨ a.date.year.toNat = b.date.year.toNat ∧
      (a.date.month.toNat < b.date.month.toNat ∨ a.date.month.toNat = b.date.month.toNat ∧
        (a.date.day.toNat < b.date.day.toNat ∨ a.date.day.toNat = b.date.day.toNat ∧
          hundredthOfDay a.time < hundredthOfDay b.time)) := by
    rw [htime]
    simp [DateTime.Before, DateTime.fields, List.cons_lt_cons_iff]
  rw [hbefore, ticks, ticks, digits_lt_iff hlt hlt']
  clear hbefore htime hlt hlt'
  rcases lt_trichotomy a.date.year.toNat b.date.year.toNat with hyear | hyear | hyear
  · omega
  · have hof := dayOfYear_lt_iff ha hb hyear
    have hof' := dayOfYear_lt_iff hb ha hyear.symm
    omega
  · omega

end Order

/-! ## Instants -/

lemma civil_eq {days : Int} (h : 1900 ≤ (civil days).1 ∧ (civil days).1 ≤ 2154) :
    ∃ y m d : Nat, civil days = (1900 + (y : Int), m + 1, d + 1) ∧ y < 255 ∧ m < 12 ∧ d < daysIn (1900 + y) (m + 1) ∧
      (daysBeforeYear (1900 + y) + (daysBeforeMonth (1900 + y) m + d) : Nat) = days := by
  have htotal : Blocks.start (fun y => yearDays (1900 + y)) 400 = 146097 := by decide +kernel
  have hmod : (days % 146097).toNat < 146097 := by omega
  have hyear := Blocks.locate_lt (htotal ▸ hmod)
  have hdays := @Blocks.start_locate (fun y => yearDays (1900 + y)) 400 (days % 146097).toNat
  unfold civil at h ⊢
  dsimp only at h ⊢
  generalize Blocks.locate (fun y => yearDays (1900 + y)) 400 (days % 146097).toNat = year at *
  obtain ⟨y, r⟩ := year
  dsimp only at *
  rw [← daysBeforeMonth_twelve] at hyear
  have hmonth := Blocks.locate_lt hyear.2
  have hof := @Blocks.start_locate (fun m => daysIn (1900 + y) (m + 1)) 12 r
  generalize Blocks.locate (fun m => daysIn (1900 + y) (m + 1)) 12 r = month at *
  obtain ⟨m, d⟩ := month
  refine ⟨y, m, d, by congr 1; omega, by omega, hmonth.1, hmonth.2, ?_⟩
  have hstart : daysBeforeYear (1900 + y) = Blocks.start (fun y => yearDays (1900 + y)) y := by simp [daysBeforeYear]
  rw [hstart, daysBeforeMonth, hof, hdays]
  omega

lemma dateTimeOf_spec (hyear : 1900 ≤ localYear offset t ∧ localYear offset t ≤ 2154) :
    ((fixedZone offset).dateTimeOf t).Valid ∧
      ticks ((fixedZone offset).dateTimeOf t) = (t + offset * 1000000000 - epoch1900) / 10000000 := by
  obtain ⟨y, m, d, hcivil, hy, hm, hd, hdays⟩ := civil_eq hyear
  have hd31 : daysIn (1900 + y) (m + 1) ≤ 31 := by
    unfold daysIn
    split_ifs <;> omega
  simp only [fixedZone]
  generalize t + offset * 1000000000 - epoch1900 = ns at *
  have hbyte : UInt8.ofInt (1900 + (y : Int) - 1900) = UInt8.ofNat y := by
    have hmod : ((1900 + (y : Int) - 1900) % 2 ^ 8).toNat = y := by omega
    rw [UInt8.ofInt, hmod]
  have hns : ns = ns / nanosPerDay * nanosPerDay + (ns % nanosPerDay).toNat ∧
      (ns % nanosPerDay).toNat < 86400000000000 := by
    unfold nanosPerDay
    omega
  have hnat {n : Nat} (hn : n < 256) : (UInt8.ofNat n).toNat = n := UInt8.toNat_ofNat_of_lt hn
  simp only [dateOf, hcivil, timeOf, hbyte]
  rw [← hdays] at hns
  generalize (ns % nanosPerDay).toNat = rest at *
  have hyear := hnat (hy.trans (by decide))
  have hmonth := hnat (show m + 1 < 256 by omega)
  have hday := hnat (show d + 1 < 256 by omega)
  have hhour := hnat (show rest / 1000000000 / 3600 < 256 by omega)
  have hminute := hnat (show rest / 1000000000 / 60 % 60 < 256 by omega)
  have hsecond := hnat (show rest / 1000000000 % 60 < 256 by omega)
  have hhundredths := hnat (show rest % 1000000000 / 10000000 < 256 by omega)
  have hfull : y + 1900 = 1900 + y := Nat.add_comm y 1900
  refine ⟨⟨fun heq => ?_, ?_, ?_, ?_, ?_, ?_, ?_⟩, ?_⟩
  · rw [← UInt8.toNat_inj, hyear] at heq
    exact absurd heq hy.ne
  all_goals
    simp only [fullYear, ticks, dayNumber, dayOfYear, hundredthOfDay, hyear, hmonth, hday, hhour, hminute, hsecond,
      hhundredths, hfull, Nat.add_sub_cancel]
    try omega
  rw [hns.1]
  unfold nanosPerDay
  push_cast
  omega

lemma dateTimeToTime_dateTimeOf (hyear : 1900 ≤ localYear offset t ∧ localYear offset t ≤ 2154) :
    (fixedZone offset).dateTimeToTime ((fixedZone offset).dateTimeOf t) = t - t % 10000000 := by
  obtain ⟨hvalid, hticks⟩ := dateTimeOf_spec hyear
  have htime : (fixedZone offset).dateTimeToTime ((fixedZone offset).dateTimeOf t) =
      Server.dateTimeToTime ((fixedZone offset).dateTimeOf t) - offset * 1000000000 + epoch1900 := rfl
  rw [htime, dateTimeToTime_valid hvalid, hticks]
  unfold epoch1900
  omega

lemma before_dateTimeOf_iff (hdt : dt.Valid) (hyear : 1900 ≤ localYear offset t ∧ localYear offset t ≤ 2154) :
    dt.Before ((fixedZone offset).dateTimeOf t) ↔ (fixedZone offset).dateTimeToTime dt < t - t % 10000000 := by
  obtain ⟨hvalid, hticks⟩ := dateTimeOf_spec hyear
  rw [← ticks_lt_iff hdt hvalid, ← Int.ofNat_lt, hticks]
  simp only [fixedZone, dateTimeToTime_valid hdt]
  unfold epoch1900
  omega

lemma dateTimeOf_before_iff (hdt : dt.Valid) (hyear : 1900 ≤ localYear offset t ∧ localYear offset t ≤ 2154) :
    ((fixedZone offset).dateTimeOf t).Before dt ↔ t - t % 10000000 < (fixedZone offset).dateTimeToTime dt := by
  obtain ⟨hvalid, hticks⟩ := dateTimeOf_spec hyear
  rw [← ticks_lt_iff hvalid hdt, ← Int.ofNat_lt, hticks]
  simp only [fixedZone, dateTimeToTime_valid hdt]
  unfold epoch1900
  omega

lemma dateTimeToTime_whole (hdt : dt.Valid) (offset : Int) : (fixedZone offset).dateTimeToTime dt % 10000000 = 0 := by
  simp only [fixedZone, dateTimeToTime_valid hdt]
  unfold epoch1900
  omega

end GoBacnet.Proofs
