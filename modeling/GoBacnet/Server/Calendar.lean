import GoBacnet.Server.ListProperty
import GoBacnet.Server.Point

/-!
# Calendar objects

A Calendar holds a list of dates, ranges of dates and patterns of days. Its present value says whether the current
date is in an entry of the list.
-/

namespace GoBacnet.Server

def objectTypeCalendar : UInt16 := 6

def propertyDateList : UInt32 := 23

/-! ## Dates in calendar entries -/

def dateAny : UInt8 := 0xFF
def monthOdd : UInt8 := 13
def monthEven : UInt8 := 14
def dayLast : UInt8 := 32
def dayOdd : UInt8 := 33
def dayEven : UInt8 := 34
/-- The weeks 6 to 9 count back from the end of the month. -/
def weekLastSeven : UInt8 := 6

def fullYear (d : Date) : Nat := d.year.toNat + 1900

def daysIn (year month : Nat) : Nat :=
  if month = 2 then if year % 4 = 0 ∧ (year % 100 ≠ 0 ∨ year % 400 = 0) then 29 else 28
  else if month = 4 ∨ month = 6 ∨ month = 9 ∨ month = 11 then 30
  else 31

def monthMatches (pattern : UInt8) (d : Date) : Bool :=
  if pattern = dateAny then true
  else if pattern = monthOdd then d.month % 2 = 1
  else if pattern = monthEven then d.month % 2 = 0
  else pattern = d.month

def dayMatches (pattern : UInt8) (d : Date) : Bool :=
  if pattern = dateAny then true
  else if pattern = dayLast then d.day.toNat = daysIn (fullYear d) d.month.toNat
  else if pattern = dayOdd then d.day % 2 = 1
  else if pattern = dayEven then d.day % 2 = 0
  else pattern = d.day

def dateMatches (p d : Date) : Bool :=
  (p.year = dateAny || p.year = d.year) && monthMatches p.month d && dayMatches p.day d &&
    (p.weekday = dateAny || p.weekday = d.weekday)

def compareField (a b : UInt8) (next : Int) : Int :=
  if a ≠ dateAny ∧ b ≠ dateAny ∧ a ≠ b then (a.toNat : Int) - b.toNat else next

/-- Orders two dates by year, month and day. A field that is unspecified in either one is skipped. -/
def compareDate (a b : Date) : Int :=
  compareField a.year b.year (compareField a.month b.month (compareField a.day b.day 0))

def dateInRange (d : Date) (r : DateRange) : Bool :=
  compareDate r.startDate d ≤ 0 && compareDate d r.endDate ≤ 0

def weekNDayMatches (w : WeekNDay) (d : Date) : Bool :=
  if !monthMatches w.month d then false
  else if w.dayOfWeek ≠ dateAny ∧ w.dayOfWeek ≠ d.weekday then false
  else if w.weekOfMonth = dateAny then true
  else if w.weekOfMonth ≥ 1 ∧ w.weekOfMonth ≤ 5 then
    (w.weekOfMonth.toNat : Int) = ((d.day.toNat : Int) - 1).tdiv 7 + 1
  else if w.weekOfMonth ≥ weekLastSeven ∧ w.weekOfMonth ≤ 9 then
    (w.weekOfMonth.toNat : Int) - weekLastSeven.toNat = ((daysIn (fullYear d) d.month.toNat : Int) - d.day.toNat).tdiv 7
  else false

def entryMatches (e : CalendarEntry) (d : Date) : Bool :=
  match e.choice with
  | calendarEntryDate => dateMatches e.date d
  | calendarEntryDateRange => dateInRange d e.dateRange
  | calendarEntryWeekNDay => weekNDayMatches e.weekNDay d
  | _ => false

def calendarEntryElement (e : CalendarEntry) : Except Err Element := do
  let v ← encodeCalendarEntry e
  return v.elements.headD (.app 0 .null)

def parseCalendarEntry (el : Element) : Except ObjectErr CalendarEntry :=
  match decodeCalendarEntry (.constructed [el]) with
  | .ok e => .ok e
  | .error _ => .error .invalidDataType

/-! ## The object -/

structure CalendarState where
  max : Nat
  entries : List CalendarEntry
  today : Date
  pv : Bool

abbrev Calendar := Base CalendarState

namespace CalendarState

def contains (s : CalendarState) (d : Date) : Bool := s.entries.any (entryMatches · d)

def dateList (s : CalendarState) : ApplicationValue :=
  .constructed (s.entries.map fun e => elementOrZero (calendarEntryElement e))

def setEntries (s : CalendarState) (entries : List CalendarEntry) : CalendarState × List UInt32 :=
  let s := { s with entries }
  let pv := s.contains s.today
  if pv ≠ s.pv then ({ s with pv }, [propertyDateList, propertyPresentValue]) else (s, [propertyDateList])

def evaluate (s : CalendarState) (today : Date) : CalendarState × List UInt32 :=
  let s := { s with today }
  let pv := s.contains today
  if pv ≠ s.pv then ({ s with pv }, [propertyPresentValue]) else (s, [])

end CalendarState

/-- Reads the written calendar entries, or finds the first element that is not one. -/
def parseEntries (els : List Element) : Except ListError (List CalendarEntry) :=
  els.zipIdx.mapM fun (el, i) =>
    match parseCalendarEntry el with
    | .ok e => .ok e
    | .error err => .error ⟨err, some (UInt32.ofNat (i + 1))⟩

def CalendarState.writeDateList : Setter CalendarState :=
  scalarSetter fun v s =>
    match parseEntries (listElements v) with
    | .error e => .error e.err
    | .ok entries =>
      if entries.length > s.max then .error .noSpaceToWriteProperty else .ok (s.setEntries entries)

structure CalendarConfig where
  instanceNumber : UInt32
  name : Octets
  description : Octets := []
  dateList : List CalendarEntry := []
  maxEntries : Int := 0

def checkDateList (entries : List CalendarEntry) (max : Nat) : Except ObjectErr Unit :=
  if entries.length > max then
    .error (.plain ("object: date list has " ++ toString entries.length ++ " entries, at most " ++ toString max))
  else
    match entries.findIdx? fun e => !(calendarEntryElement e).isOk with
    | some i =>
      .error (.plain ("object: date list entry " ++ toString i ++ ": bacnet: malformed encoding: CalendarEntry choice"))
    | none => .ok ()

def dateListProperty : Property CalendarState where
  writable := true
  get := .state CalendarState.dateList
  set := some CalendarState.writeDateList

def newCalendar (today : Date) (cfg : CalendarConfig) : Except ObjectErr Calendar :=
  if cfg.instanceNumber ≥ maxObjectInstance then
    .error (.plain ("object: instance " ++ toString cfg.instanceNumber ++ " out of range"))
  else if cfg.name = [] then .error (.plain "object: object name required")
  else
    let max := if cfg.maxEntries ≤ 0 then 64 else cfg.maxEntries.toNat
    (checkDateList cfg.dateList max).map fun _ =>
      let pv := cfg.dateList.any (entryMatches · today)
      let c : Calendar := Base.new ⟨objectTypeCalendar, cfg.instanceNumber⟩ cfg.name
        { max, entries := cfg.dateList, today, pv }
      let c := if cfg.description = [] then c else c.define propertyDescription (textProperty cfg.description)
      let c := c.define propertyPresentValue { get := .state fun s => .boolean s.pv }
      c.define propertyDateList dateListProperty

namespace Calendar

def setDateList (c : Calendar) (entries : List CalendarEntry) : Calendar × Except ObjectErr Unit × List Change :=
  match checkDateList entries c.state.max with
  | .error e => (c, .error e, [])
  | .ok () =>
    let (c', changes) := c.update fun s => s.setEntries entries
    (c', .ok (), changes)

/-- A poll: the present value follows the clock of the server. -/
def evaluate (c : Calendar) (today : Date) : Calendar × List Change := c.update fun s => s.evaluate today

def addListElements (c : Calendar) (prop : PropertyReference) (els : List Element) :
    Calendar × Except ListError Unit × List Change :=
  modifyList c propertyDateList prop els parseEntries fun s add =>
    (addItems (· == ·) s.max add s.entries).map s.setEntries

def removeListElements (c : Calendar) (prop : PropertyReference) (els : List Element) :
    Calendar × Except ListError Unit × List Change :=
  modifyList c propertyDateList prop els parseEntries fun s remove =>
    (removeItems (· == ·) remove s.entries).map s.setEntries

end Calendar

end GoBacnet.Server
