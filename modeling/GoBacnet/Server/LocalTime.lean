import GoBacnet.Lib.Blocks
import GoBacnet.Server.Calendar

/-!
# Local time

The calendar of a zone with a fixed offset, and the conversions between an instant and the date and time that are
transmitted for it. Instants count nanoseconds; days count from the first day of 1900.
-/

namespace GoBacnet.Server

open Service

def yearDays (year : Nat) : Nat := if year % 4 = 0 ∧ (year % 100 ≠ 0 ∨ year % 400 = 0) then 366 else 365

def daysBeforeYear (year : Nat) : Nat := Blocks.start (fun y => yearDays (1900 + y)) (year - 1900)

/-- The days before a month, counted from 0. -/
def daysBeforeMonth (year month : Nat) : Nat := Blocks.start (fun m => daysIn year (m + 1)) month

/-- The year, month and day of a day. The calendar repeats after 400 years. -/
def civil (days : Int) : Int × Nat × Nat :=
  let year := Blocks.locate (fun y => yearDays (1900 + y)) 400 (days % 146097).toNat
  let month := Blocks.locate (fun m => daysIn (1900 + year.1) (m + 1)) 12 year.2
  (1900 + 400 * (days / 146097) + year.1, month.1 + 1, month.2 + 1)

def nanosPerDay : Int := 86400000000000

/-- The first day of 1900 was a Monday. -/
def dateOf (ns : Int) : Date :=
  let days := ns / nanosPerDay
  let (year, month, day) := civil days
  ⟨UInt8.ofInt (year - 1900), UInt8.ofNat month, UInt8.ofNat day, UInt8.ofNat (days % 7).toNat + 1⟩

def timeOf (ns : Int) : Time :=
  let second := (ns % nanosPerDay).toNat / 1000000000
  ⟨UInt8.ofNat (second / 3600), UInt8.ofNat (second / 60 % 60), UInt8.ofNat (second % 60),
    UInt8.ofNat ((ns % nanosPerDay).toNat % 1000000000 / 10000000)⟩

/-- A field that is unspecified counts as the first of its values. Month 0 is the December before. -/
def dateTimeToTime (dt : DateTime) : Int :=
  let year := if dt.date.year = 0xFF then 1900 else fullYear dt.date
  let month := if dt.date.month = 0xFF ∨ dt.date.month > 12 then 1 else dt.date.month.toNat
  let day := if dt.date.day = 0xFF ∨ dt.date.day > 31 then 1 else dt.date.day.toNat
  let field (b : UInt8) : Nat := if b = 0xFF then 0 else b.toNat
  let before : Int := if month = 0 then -31 else daysBeforeMonth year (month - 1)
  let days := daysBeforeYear year + before + day - 1
  let seconds := (field dt.time.hour * 60 + field dt.time.minute) * 60 + field dt.time.second
  days * nanosPerDay + (seconds * 1000000000 + field dt.time.hundredths * 10000000 : Nat)

/-- The instant at which the days of 1900 begin in UTC. -/
def epoch1900 : Int := -2208988800 * 1000000000

/-- The zone that is ahead of UTC by as many seconds. -/
def fixedZone (offset : Int) : Zone where
  dateTimeOf t :=
    let ns := t + offset * 1000000000 - epoch1900
    ⟨dateOf ns, timeOf ns⟩
  dateTimeToTime dt := Server.dateTimeToTime dt - offset * 1000000000 + epoch1900

example : (fixedZone 3600).dateTimeOf 1700000000120000000 = ⟨⟨123, 11, 14, 2⟩, ⟨23, 13, 20, 12⟩⟩ := by decide +kernel

end GoBacnet.Server
