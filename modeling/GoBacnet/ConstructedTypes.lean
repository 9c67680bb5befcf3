import GoBacnet.ContextField
import GoBacnet.Lib.Items

/-!
# Constructed datatypes

Calendar entries, daily and weekly schedules and special events, with their encodings. A value that an application
built may group the elements of an item; what a parser returns is flat. A decoder takes both forms.
-/

namespace GoBacnet

structure DateRange where
  startDate : Date := ⟨0, 0, 0, 0⟩
  endDate : Date := ⟨0, 0, 0, 0⟩
  deriving DecidableEq, Repr

structure WeekNDay where
  month : UInt8 := 0
  weekOfMonth : UInt8 := 0
  dayOfWeek : UInt8 := 0
  deriving DecidableEq, Repr

@[match_pattern] abbrev calendarEntryDate : UInt8 := 0
@[match_pattern] abbrev calendarEntryDateRange : UInt8 := 1
@[match_pattern] abbrev calendarEntryWeekNDay : UInt8 := 2

/-- One of a date, a range of dates and a pattern of days, as `choice` says. -/
structure CalendarEntry where
  choice : UInt8 := calendarEntryDate
  date : Date := ⟨0, 0, 0, 0⟩
  dateRange : DateRange := {}
  weekNDay : WeekNDay := {}
  deriving DecidableEq, Repr

structure ScheduledTimeValue where
  time : Time
  value : ApplicationValue

structure DailySchedule where
  daySchedule : List ScheduledTimeValue := []

/-- Seven days, Monday first. -/
abbrev WeeklySchedule := Vector DailySchedule 7

structure SpecialEvent where
  calendarEntry : CalendarEntry := {}
  periodObject : Option ObjectIdentifier := none
  listOfTimeValues : List ScheduledTimeValue := []
  eventPriority : UInt8 := 0

/-! ## Dates -/

def asDate : ApplicationValue → Except Err Date
  | .date d => .ok d
  | v => .error (unsupported ("value kind " ++ toString v.kind.ctorIdx ++ " is not date"))

def asTime : ApplicationValue → Except Err Time
  | .time t => .ok t
  | v => .error (unsupported ("value kind " ++ toString v.kind.ctorIdx ++ " is not time"))

def encodeDateRange (dr : DateRange) : ApplicationValue :=
  .constructed [.app 0 (.date dr.startDate), .app 0 (.date dr.endDate)]

def decodeDateRange (v : ApplicationValue) : Except Err DateRange :=
  match v.elements with
  | [start, stop] => do return ⟨← asDate start.value, ← asDate stop.value⟩
  | _ => .error (malformed "DateRange needs 2 elements")

/-! ## Calendar entries -/

def encodeCalendarEntry (e : CalendarEntry) : Except Err ApplicationValue :=
  match e.choice with
  | calendarEntryDate => .ok (.constructed [.mk true 0 false false (.date e.date)])
  | calendarEntryDateRange => .ok (.constructed [.mk true 1 false false (encodeDateRange e.dateRange)])
  | calendarEntryWeekNDay =>
    .ok (.constructed [.ctx 2 [e.weekNDay.month, e.weekNDay.weekOfMonth, e.weekNDay.dayOfWeek]])
  | _ => .error (malformed "CalendarEntry choice")

/-- A date and a pattern of days are typed values in an element that an application built, and octets in one that was
parsed. -/
def decodeCalendarEntryElement (el : Element) : Except Err CalendarEntry :=
  if !el.context || el.opening || el.closing then .error (malformed "CalendarEntry CHOICE")
  else
    match el.tagNumber with
    | 0 =>
      match el.value with
      | .date d => .ok { choice := calendarEntryDate, date := d }
      | _ =>
        match contextDate el with
        | .ok d => .ok { choice := calendarEntryDate, date := d }
        | .error _ => .error (malformed "CalendarEntry date")
    | 1 =>
      if !el.value.isConstructed then .error (malformed "CalendarEntry dateRange")
      else
        match decodeDateRange el.value with
        | .ok dr => .ok { choice := calendarEntryDateRange, dateRange := dr }
        | .error _ => .error (malformed "CalendarEntry dateRange")
    | 2 =>
      match el.value.isConstructed, el.value.octets with
      | false, [month, weekOfMonth, dayOfWeek] =>
        .ok { choice := calendarEntryWeekNDay, weekNDay := ⟨month, weekOfMonth, dayOfWeek⟩ }
      | _, _ => .error (malformed "WeekNDay")
    | tag => .error (malformed ("CalendarEntry tag " ++ toString tag))

def decodeCalendarEntry (v : ApplicationValue) : Except Err CalendarEntry :=
  match v.elements with
  | [el] => decodeCalendarEntryElement el
  | _ => .error (malformed "CalendarEntry CHOICE")

/-! ## Schedules -/

def encodeDailySchedule (d : DailySchedule) : ApplicationValue :=
  .constructed [.ctxConstructed 0 (d.daySchedule.map fun tv =>
    .app 0 (.constructed [.app 0 (.time tv.time), .app 0 tv.value]))]

def readTimeValue : List Element → Except Err (ScheduledTimeValue × Nat)
  | [] => .error (malformed "TimeValue time")
  | el :: rest =>
    if !el.context && el.value.isConstructed then
      match el.value.elements with
      | [time, v] =>
        match asTime time.value with
        | .ok t => .ok (⟨t, v.value⟩, 1)
        | .error _ => .error (malformed "TimeValue time")
      | _ => .error (malformed "TimeValue")
    else
      match el.context, el.value with
      | false, .time t =>
        match rest with
        | v :: _ => if v.context then .error (malformed "TimeValue value") else .ok (⟨t, v.value⟩, 2)
        | [] => .error (malformed "TimeValue value")
      | _, _ => .error (malformed "TimeValue time")

def decodeDailySchedule (v : ApplicationValue) : Except Err DailySchedule :=
  match v.elements with
  | [el] =>
    if !isContextConstructed el || el.tagNumber != 0 then .error (malformed "DailySchedule")
    else (Items.read readTimeValue el.value.elements).map .mk
  | _ => .error (malformed "DailySchedule")

def encodeWeeklySchedule (w : WeeklySchedule) : ApplicationValue :=
  .constructed (w.toList.map fun d => .app 0 (encodeDailySchedule d))

def decodeDay (el : Element) : Except Err DailySchedule :=
  decodeDailySchedule (if isContextConstructed el then .constructed [el] else el.value)

def decodeWeeklySchedule (v : ApplicationValue) : Except Err WeeklySchedule :=
  match v.elements with
  | [mon, tue, wed, thu, fri, sat, sun] => do
    return #v[← decodeDay mon, ← decodeDay tue, ← decodeDay wed, ← decodeDay thu, ← decodeDay fri, ← decodeDay sat,
      ← decodeDay sun]
  | _ => .error (malformed "WeeklySchedule needs 7 days")

/-! ## Hosts -/

/-- A host and a port: no host, the one that `name` names if it is not empty, or the one with the address `ip`. -/
structure HostNPort where
  ip : Vector UInt8 4 := .replicate 4 0
  name : Octets := []
  none : Bool := false
  port : UInt16 := 0
  deriving DecidableEq, Repr

def encodeHostNPort (h : HostNPort) : ApplicationValue :=
  let host : Element :=
    if h.none then .ctx 0 []
    else if h.name ≠ [] then .mk true 2 false false (.characterString ⟨0, h.name⟩)
    else .mk true 1 false false (.octetString h.ip.toList)
  .constructed [.ctxConstructed 0 [host], .mk true 1 false false (.unsigned h.port.toUInt64)]

def decodeHost (choice : Element) : Except Err HostNPort :=
  match choice.tagNumber with
  | 0 => if choice.value.octets.length ≠ 0 then .error (malformed "HostNPort none") else .ok { none := true }
  | 1 =>
    match choice.value.octets with
    | [a, b, c, d] => .ok { ip := #v[a, b, c, d] }
    | octets => .error (unsupported ("HostNPort ip-address of " ++ toString octets.length ++ " octets"))
  | 2 =>
    match choice.value with
    | .characterString c => .ok { name := c.value }
    | _ =>
      match contextCharacterString choice with
      | .ok c => .ok { name := c.value }
      | .error _ => .error (malformed "HostNPort name")
  | tag => .error (malformed ("HostNPort host tag " ++ toString tag))

def decodePort (portEl : Element) : Except Err UInt16 := do
  let port ←
    match portEl.value with
    | .unsigned u => .ok u
    | _ =>
      match contextUnsigned portEl with
      | .ok u => .ok u
      | .error _ => .error (malformed "HostNPort port")
  if port > 0xFFFF then .error (malformed ("HostNPort port " ++ toString port)) else .ok port.toUInt16

def decodeHostNPort (v : ApplicationValue) : Except Err HostNPort :=
  match v.elements with
  | [hostEl, portEl] =>
    match hostEl.value.elements with
    | [choice] =>
      if hostEl.tagNumber != 0 || !isContextConstructed hostEl then .error (malformed "HostNPort host")
      else if !choice.context || choice.opening || choice.closing || choice.value.isConstructed then
        .error (malformed "HostNPort host choice")
      else do
        let h ← decodeHost choice
        if !portEl.context || portEl.tagNumber != 1 || portEl.opening || portEl.closing || portEl.value.isConstructed then
          .error (malformed "HostNPort port")
        else return { h with port := ← decodePort portEl }
    | _ => .error (malformed "HostNPort host")
  | _ => .error (malformed "HostNPort needs host and port")

end GoBacnet
