import GoBacnet.Proofs.ContextField
import GoBacnet.Server.NotificationClass
import GoBacnet.Server.Schedule
import GoBacnet.Server.StructuredView

/-!
# The items of list properties on the wire

The elements that are read from the encoding of each kind of item, and what the object reads from them. An item may
hold data that its encoding does not show, such as the fields of another choice; reading it back leaves these out.
-/

namespace GoBacnet

/-! ## Wire forms -/

def CalendarEntry.Valid (e : CalendarEntry) : Prop := e.choice ≤ 2

def CalendarEntry.normal (e : CalendarEntry) : CalendarEntry :=
  match e.choice with
  | calendarEntryDate => { choice := calendarEntryDate, date := e.date }
  | calendarEntryDateRange => { choice := calendarEntryDateRange, dateRange := e.dateRange }
  | _ => { choice := calendarEntryWeekNDay, weekNDay := e.weekNDay }

def CalendarEntry.wireElement (e : CalendarEntry) : Element :=
  match e.choice with
  | calendarEntryDate => .ctx 0 [e.date.year, e.date.month, e.date.day, e.date.weekday]
  | calendarEntryDateRange =>
    .ctxConstructed 1 [.app tagDate (.date e.dateRange.startDate), .app tagDate (.date e.dateRange.endDate)]
  | _ => .ctx 2 [e.weekNDay.month, e.weekNDay.weekOfMonth, e.weekNDay.dayOfWeek]

def ScheduledTimeValue.wireElements (tv : ScheduledTimeValue) : List Element :=
  [.app tagTime (.time tv.time), .app tv.value.tagNumber tv.value]

def DailySchedule.wireElement (d : DailySchedule) : Element :=
  .ctxConstructed 0 (d.daySchedule.flatMap (·.wireElements))

def SpecialEvent.normal (e : SpecialEvent) : SpecialEvent :=
  { e with calendarEntry := if e.periodObject.isNone then e.calendarEntry.normal else {} }

def SpecialEvent.wireElements (e : SpecialEvent) : List Element :=
  [match e.periodObject with
    | some id => .ctx 1 id.octets
    | none => .ctxConstructed 0 [e.calendarEntry.wireElement],
    .ctxConstructed 2 (e.listOfTimeValues.flatMap (·.wireElements)), .ctx 3 (encodeUnsigned e.eventPriority.toUInt64)]

/-- An event that a Schedule holds. -/
structure SpecialEvent.Valid (e : SpecialEvent) : Prop where
  priority : 1 ≤ e.eventPriority ∧ e.eventPriority ≤ 16
  entry : e.periodObject = none → e.calendarEntry.Valid
  values : ∀ tv ∈ e.listOfTimeValues, Server.primitive tv.value = true

namespace Server

def DeviceObjectPropertyReference.wireElements (r : DeviceObjectPropertyReference) : List Element :=
  [.ctx 0 r.object.octets, .ctx 1 (encodeUnsigned r.property.toUInt64)] ++
    (r.arrayIndex.map fun idx => Element.ctx 2 (encodeUnsigned idx.toUInt64)).toList ++
    (r.device.map fun dev => Element.ctx 3 dev.octets).toList

def DeviceObjectPropertyReference.Valid (r : DeviceObjectPropertyReference) : Prop :=
  r.object.Valid ∧ ∀ dev ∈ r.device, dev.Valid

def DeviceObjectPropertyReference.Accepted (r : DeviceObjectPropertyReference) : Prop :=
  r.property ≤ 0x3FFFFF ∧ ∀ dev ∈ r.device, dev.type = objectTypeDevice

def Destination.Accepted (d : Destination) : Prop :=
  match d.device with
  | some id => id.Valid
  | none => d.mac.length ≤ maxMACLength

def Destination.normal (d : Destination) : Destination :=
  { d with
    validDays := d.validDays &&& 0x7F, transitions := d.transitions &&& 7
    network := if d.device.isSome then 0 else d.network, mac := if d.device.isSome then [] else d.mac }

def DeviceObjectReference.wireElements (r : DeviceObjectReference) : List Element :=
  (r.device.map fun dev => Element.ctx 0 dev.octets).toList ++ [.ctx 1 r.object.octets]

def DeviceObjectReference.Valid (r : DeviceObjectReference) : Prop :=
  r.object.Valid ∧ ∀ dev ∈ r.device, dev.Valid

end Server

end GoBacnet

namespace GoBacnet.Proofs

open GoBacnet.Server GoBacnet.Service

/-! ## Encodable elements -/

def Encodable (el : Element) : Prop := ∃ dst bytes, appendTag dst el = .ok bytes

lemma encodable_of_appendTags {els : List Element} {dst bytes : Octets} (h : appendTags dst els = .ok bytes) :
    ∀ el ∈ els, Encodable el := by
  induction els generalizing dst with
  | nil => simp
  | cons el els ih =>
    unfold appendTags at h
    obtain ⟨mid, hel, hels⟩ := Except.bind_eq_ok_iff.mp h
    exact List.forall_mem_cons.mpr ⟨⟨dst, mid, hel⟩, ih hels⟩

lemma encodable_of_group {tag : ApplicationTag} {els : List Element} (h : Encodable (.app tag (.constructed els))) :
    ∀ el ∈ els, Encodable el := by
  obtain ⟨dst, bytes, h⟩ := h
  rw [appendTag_app] at h
  unfold appendApplicationValue at h
  exact encodable_of_appendTags h

lemma valid_of_encodable {tag : UInt8} {id : ObjectIdentifier}
    (h : Encodable (.mk true tag false false (.objectID id))) : id.Valid := by
  obtain ⟨dst, bytes, h⟩ := h
  obtain ⟨enc, henc, -⟩ := Except.bind_eq_ok_iff.mp (appendTag_typed (by simp) h).1
  exact (encodeObjectIdentifier_eq_ok_iff.mp henc).1

/-! ## Primitive values -/

lemma wireUnder_primitive {v : ApplicationValue} (hv : ∀ els, v ≠ .constructed els) (tag : UInt8) :
    v.wireUnder tag = .ctx tag v.contentOctets := by
  cases v with
  | constructed els => exact absurd rfl (hv els)
  | _ =>
    unfold ApplicationValue.wireUnder
    rfl

@[simp] lemma wireUnder_unsigned (tag : UInt8) (u : UInt64) :
    (ApplicationValue.unsigned u).wireUnder tag = .ctx tag (encodeUnsigned u) := wireUnder_primitive (by simp) tag

@[simp] lemma wireUnder_enumerated (tag : UInt8) (e : UInt32) :
    (ApplicationValue.enumerated e).wireUnder tag = .ctx tag (encodeUnsigned e.toUInt64) :=
  wireUnder_primitive (by simp) tag

@[simp] lemma wireUnder_date (tag : UInt8) (d : Date) :
    (ApplicationValue.date d).wireUnder tag = .ctx tag [d.year, d.month, d.day, d.weekday] :=
  wireUnder_primitive (by simp) tag

lemma wireUnder_objectID {id : ObjectIdentifier} (hid : id.Valid) (tag : UInt8) :
    (ApplicationValue.objectID id).wireUnder tag = .ctx tag id.octets := by
  rw [wireUnder_primitive (by simp)]
  simp [ApplicationValue.contentOctets, contextContentOctets, encodeObjectIdentifier_eq_ok_iff.mpr ⟨hid, rfl⟩,
    ObjectIdentifier.octets]

@[simp] lemma wire_constructed (els : List Element) : (ApplicationValue.constructed els).wire = forestWire els := by
  unfold ApplicationValue.wire
  rfl

lemma wire_primitive {v : ApplicationValue} (hv : primitive v = true) : v.wire = [.app v.tagNumber v] := by
  cases v with
  | constructed els => simp [primitive, ApplicationValue.kind] at hv
  | _ =>
    unfold ApplicationValue.wire
    rfl

lemma plain_primitive {v : ApplicationValue} (hv : primitive v = true) : v.Plain := by
  cases v with
  | constructed els => simp [primitive, ApplicationValue.kind] at hv
  | _ => simp [ApplicationValue.Plain]

lemma forestWire_map {ι : Type} {item : ι → Element} {parts : ι → List Element} {xs : List ι}
    (h : ∀ x ∈ xs, (item x).wire = parts x) : forestWire (xs.map item) = xs.flatMap parts := by
  induction xs with
  | nil => rfl
  | cons x xs ih =>
    rw [List.map_cons, forestWire_cons, h x List.mem_cons_self, ih fun y hy => h y (List.mem_cons_of_mem x hy),
      List.flatMap_cons]

lemma forestPlain_map {ι : Type} {item : ι → Element} {xs : List ι} (h : ∀ x ∈ xs, (item x).Plain) :
    forestPlain (xs.map item) :=
  forestPlain_iff.mpr (by simpa using h)

@[simp] lemma ctxObjectID_ctx {id : ObjectIdentifier} (hid : id.Valid) (tag : UInt8) :
    ctxObjectID (.ctx tag id.octets) = some id := by
  simp [ctxObjectID, contextObjectID_ctx hid, Except.toOption]

@[simp] lemma ctxUnsigned_ctx (tag : UInt8) (u : UInt64) : ctxUnsigned (.ctx tag (encodeUnsigned u)) = some u := by
  simp [ctxUnsigned, Except.toOption]

/-! ## Calendar entries -/

section Entry

variable {e : CalendarEntry}

lemma choice_cases (h : e.Valid) :
    e.choice = calendarEntryDate ∨ e.choice = calendarEntryDateRange ∨ e.choice = calendarEntryWeekNDay := by
  have hle : e.choice.toNat ≤ 2 := h
  have hcases : e.choice.toNat = 0 ∨ e.choice.toNat = 1 ∨ e.choice.toNat = 2 := by omega
  simp only [← UInt8.toNat_inj]
  exact hcases

def entryElement (e : CalendarEntry) : Element := elementOrZero (calendarEntryElement e)

lemma entryElement_date (d : Date) (r : DateRange) (w : WeekNDay) :
    entryElement ⟨calendarEntryDate, d, r, w⟩ = .mk true 0 false false (.date d) := rfl

lemma entryElement_dateRange (d : Date) (r : DateRange) (w : WeekNDay) :
    entryElement ⟨calendarEntryDateRange, d, r, w⟩ =
      .ctxConstructed 1 [.app 0 (.date r.startDate), .app 0 (.date r.endDate)] := rfl

lemma entryElement_weekNDay (d : Date) (r : DateRange) (w : WeekNDay) :
    entryElement ⟨calendarEntryWeekNDay, d, r, w⟩ = .ctx 2 [w.month, w.weekOfMonth, w.dayOfWeek] := rfl

lemma entryElement_wire (h : e.Valid) : (entryElement e).wire = [e.wireElement] := by
  obtain ⟨choice, date, range, week⟩ := e
  obtain rfl | rfl | rfl := choice_cases h
  · simp [entryElement_date]
    rfl
  · have hdate (d : Date) : (ApplicationValue.date d).wire = [.app tagDate (.date d)] := wire_primitive rfl
    simp [entryElement_dateRange, hdate]
    rfl
  · simp [entryElement_weekNDay]
    rfl

lemma parseCalendarEntry_wire (h : e.Valid) : parseCalendarEntry e.wireElement = .ok e.normal := by
  obtain ⟨choice, date, range, week⟩ := e
  obtain rfl | rfl | rfl := choice_cases h <;> rfl

lemma entryElement_normal (h : e.Valid) : entryElement e.normal = entryElement e := by
  obtain ⟨choice, date, range, week⟩ := e
  obtain rfl | rfl | rfl := choice_cases h <;> rfl

lemma valid_normal (h : e.Valid) : e.normal.Valid := by
  obtain ⟨choice, date, range, week⟩ := e
  obtain rfl | rfl | rfl := choice_cases h <;> exact h

lemma entryElement_plain (h : e.Valid) : (entryElement e).Plain := by
  obtain ⟨choice, date, range, week⟩ := e
  obtain rfl | rfl | rfl := choice_cases h
  · simp [entryElement_date, Element.Plain, ApplicationValue.Plain]
  · simp [entryElement_dateRange, Element.Plain, ApplicationValue.Plain, forestPlain]
  · simp [entryElement_weekNDay, Element.Plain, ApplicationValue.Plain]

lemma wireElement_context : e.wireElement.context = true := by
  unfold CalendarEntry.wireElement
  split <;> rfl

lemma calendarEntryElement_isOk_iff : (calendarEntryElement e).isOk = true ↔ e.Valid := by
  constructor
  · intro h
    by_contra hnot
    have herr : calendarEntryElement e = .error (malformed "CalendarEntry choice") := by
      unfold calendarEntryElement encodeCalendarEntry
      split
      · next hc => exact (hnot (by rw [CalendarEntry.Valid, hc]; decide)).elim
      · next hc => exact (hnot (by rw [CalendarEntry.Valid, hc]; decide)).elim
      · next hc => exact (hnot (by rw [CalendarEntry.Valid, hc]; decide)).elim
      · rfl
    simp [herr, Except.isOk, Except.toBool] at h
  · intro h
    obtain ⟨choice, date, range, week⟩ := e
    obtain rfl | rfl | rfl := choice_cases h <;> rfl

lemma valid_of_parseCalendarEntry {el : Element} (h : parseCalendarEntry el = .ok e) : e.Valid := by
  unfold parseCalendarEntry at h
  split at h
  · next e' hdec =>
    cases h
    simp only [decodeCalendarEntry, ApplicationValue.elements] at hdec
    unfold decodeCalendarEntryElement at hdec
    obtain ⟨-, hdec⟩ := Except.check_eq_ok_iff.mp hdec
    split at hdec
    · split at hdec
      · cases hdec
        exact (by decide : calendarEntryDate ≤ 2)
      · split at hdec
        · cases hdec
          exact (by decide : calendarEntryDate ≤ 2)
        · cases hdec
    · obtain ⟨-, hdec⟩ := Except.check_eq_ok_iff.mp hdec
      split at hdec
      · cases hdec
        exact (by decide : calendarEntryDateRange ≤ 2)
      · cases hdec
    · split at hdec
      · cases hdec
        exact (by decide : calendarEntryWeekNDay ≤ 2)
      · cases hdec
    · cases hdec
  · cases h

lemma valid_of_parseEntries {els : List Element} {entries : List CalendarEntry} (h : parseEntries els = .ok entries) :
    ∀ e ∈ entries, e.Valid := by
  refine Except.forall_of_mapM (fun (el, i) e he => ?_) h
  dsimp only at he
  split at he
  · next e' hparse =>
    cases he
    exact valid_of_parseCalendarEntry hparse
  · cases he

lemma parseEntries_wire {entries : List CalendarEntry} (h : ∀ e ∈ entries, e.Valid) :
    parseEntries (entries.map (·.wireElement)) = .ok (entries.map (·.normal)) := by
  unfold parseEntries
  generalize 0 = i
  induction entries generalizing i with
  | nil => rfl
  | cons e entries ih =>
    have hrest := ih (fun e he => h e (List.mem_cons_of_mem _ he)) (i + 1)
    refine Except.mapM_cons_eq_ok_iff.mpr ⟨e.normal, _, ?_, hrest, rfl⟩
    dsimp only
    rw [parseCalendarEntry_wire (h e List.mem_cons_self)]

end Entry

/-! ## Schedules -/

section TimeValues

def timeValueElement (tv : ScheduledTimeValue) : Element :=
  .app 0 (.constructed [.app 0 (.time tv.time), .app 0 tv.value])

variable {tvs : List ScheduledTimeValue}

lemma timeValues_wire (h : ∀ tv ∈ tvs, primitive tv.value = true) :
    forestWire (tvs.map timeValueElement) = tvs.flatMap (·.wireElements) := by
  refine forestWire_map fun tv htv => ?_
  have htime : (ApplicationValue.time tv.time).wire = [.app tagTime (.time tv.time)] := wire_primitive rfl
  simp [timeValueElement, htime, wire_primitive (h tv htv), ScheduledTimeValue.wireElements]

lemma timeValues_plain (h : ∀ tv ∈ tvs, primitive tv.value = true) : forestPlain (tvs.map timeValueElement) := by
  refine forestPlain_map fun tv htv => ?_
  simp [timeValueElement, Element.Plain, ApplicationValue.Plain, forestPlain, plain_primitive (h tv htv)]

lemma readTimeValue_wire (tv : ScheduledTimeValue) (rest : List Element) :
    readTimeValue (tv.wireElements ++ rest) = .ok (tv, tv.wireElements.length) := by
  simp [readTimeValue, ScheduledTimeValue.wireElements, ApplicationValue.isConstructed]

lemma read_timeValues (tvs : List ScheduledTimeValue) :
    Items.read readTimeValue (tvs.flatMap (·.wireElements)) = .ok tvs := by
  have hread : Items.read readTimeValue (tvs.flatMap (·.wireElements)) = .ok (tvs.map id) :=
    Items.read_flatMap (fun tv _ => by simp [ScheduledTimeValue.wireElements]) fun tv _ ys => readTimeValue_wire tv _
  rwa [List.map_id] at hread

lemma decodeDailySchedule_wire (d : DailySchedule) : decodeDailySchedule (.constructed [d.wireElement]) = .ok d := by
  simp [decodeDailySchedule, DailySchedule.wireElement, ApplicationValue.elements, read_timeValues]

lemma encodeDailySchedule_eq (d : DailySchedule) :
    encodeDailySchedule d = .constructed [.ctxConstructed 0 (d.daySchedule.map timeValueElement)] := rfl

lemma encodeDailySchedule_wire {d : DailySchedule} (h : ∀ tv ∈ d.daySchedule, primitive tv.value = true) :
    (encodeDailySchedule d).wire = [d.wireElement] := by
  simp [encodeDailySchedule_eq, DailySchedule.wireElement, timeValues_wire h]

lemma encodeDailySchedule_plain {d : DailySchedule} (h : ∀ tv ∈ d.daySchedule, primitive tv.value = true) :
    (encodeDailySchedule d).Plain := by
  simp [encodeDailySchedule_eq, ApplicationValue.Plain, Element.Plain, forestPlain, timeValues_plain h]

lemma days_of_week (w : WeeklySchedule) : ∃ mon tue wed thu fri sat sun, w = #v[mon, tue, wed, thu, fri, sat, sun] := by
  obtain ⟨⟨days⟩, hdays⟩ := w
  match days, hdays with
  | [mon, tue, wed, thu, fri, sat, sun], _ => exact ⟨mon, tue, wed, thu, fri, sat, sun, rfl⟩

lemma decodeDay_wire (d : DailySchedule) : decodeDay d.wireElement = .ok d := decodeDailySchedule_wire d

lemma decodeWeeklySchedule_wire (w : WeeklySchedule) :
    decodeWeeklySchedule (.constructed (w.toList.map (·.wireElement))) = .ok w := by
  obtain ⟨mon, tue, wed, thu, fri, sat, sun, rfl⟩ := days_of_week w
  simp [decodeWeeklySchedule, ApplicationValue.elements, decodeDay_wire]

lemma encodeWeeklySchedule_wire {w : WeeklySchedule}
    (h : ∀ d ∈ w.toList, ∀ tv ∈ d.daySchedule, primitive tv.value = true) :
    (encodeWeeklySchedule w).wire = w.toList.map (·.wireElement) := by
  have hdays : forestWire (w.toList.map fun d => .app 0 (encodeDailySchedule d)) =
      w.toList.flatMap fun d => [d.wireElement] :=
    forestWire_map fun d hd => by rw [wire_app, encodeDailySchedule_wire (h d hd)]
  rw [encodeWeeklySchedule, wire_constructed, hdays, List.map_eq_flatMap]

end TimeValues

/-! ## Special events -/

section Event

variable {e : SpecialEvent}

def eventElements (e : SpecialEvent) : List Element :=
  [match e.periodObject with
    | some id => .mk true 1 false false (.objectID id)
    | none => .ctxConstructed 0 [entryElement e.calendarEntry],
    .ctxConstructed 2 (e.listOfTimeValues.map timeValueElement),
    .mk true 3 false false (.unsigned e.eventPriority.toUInt64)]

lemma specialEventElement_eq (e : SpecialEvent) : specialEventElement e = .app 0 (.constructed (eventElements e)) := rfl

lemma specialEventElement_wire (h : e.Valid) (hid : ∀ id ∈ e.periodObject, id.Valid) :
    (specialEventElement e).wire = e.wireElements := by
  obtain ⟨entry, period, tvs, prio⟩ := e
  have htvs := timeValues_wire h.values
  cases period with
  | none => simp [specialEventElement_eq, eventElements, SpecialEvent.wireElements, htvs, entryElement_wire (h.entry rfl)]
  | some id => simp [specialEventElement_eq, eventElements, SpecialEvent.wireElements, htvs, wireUnder_objectID (hid id rfl)]

lemma specialEventElement_plain (h : e.Valid) : (specialEventElement e).Plain := by
  obtain ⟨entry, period, tvs, prio⟩ := e
  have htvs := timeValues_plain h.values
  cases period with
  | none =>
    simp [specialEventElement_eq, eventElements, Element.Plain, ApplicationValue.Plain, forestPlain, htvs,
      entryElement_plain (h.entry rfl)]
  | some id =>
    simp [specialEventElement_eq, eventElements, Element.Plain, ApplicationValue.Plain, forestPlain, htvs]

lemma valid_of_event (h : Encodable (specialEventElement e)) : ∀ id ∈ e.periodObject, id.Valid := by
  intro id hid
  refine valid_of_encodable (encodable_of_group h (.mk true 1 false false (.objectID id)) ?_)
  simp [Option.mem_def.mp hid]

lemma specialEventElement_normal (h : e.Valid) : specialEventElement e.normal = specialEventElement e := by
  obtain ⟨entry, period, tvs, prio⟩ := e
  cases period with
  | none =>
    simp [specialEventElement_eq, eventElements, SpecialEvent.normal, entryElement_normal (h.entry rfl)]
  | some id => rfl

lemma wireElements_eq (e : SpecialEvent) :
    ∃ period, e.wireElements = [period, .ctxConstructed 2 (e.listOfTimeValues.flatMap (·.wireElements)),
      .ctx 3 (encodeUnsigned e.eventPriority.toUInt64)] ∧ period.context = true := by
  obtain ⟨entry, object, tvs, prio⟩ := e
  cases object <;> exact ⟨_, rfl, rfl⟩

lemma parsePeriod_wire (h : e.Valid) (hid : ∀ id ∈ e.periodObject, id.Valid) {period : Element} {rest : List Element}
    (heq : e.wireElements = period :: rest) :
    parsePeriod period = .ok (e.normal.calendarEntry, e.periodObject) := by
  obtain ⟨entry, object, tvs, prio⟩ := e
  cases object with
  | none =>
    obtain ⟨rfl, -⟩ := List.cons.inj heq
    simp [parsePeriod, ApplicationValue.elements, parseCalendarEntry_wire (h.entry rfl), SpecialEvent.normal]
  | some id =>
    obtain ⟨rfl, -⟩ := List.cons.inj heq
    simp [parsePeriod, ctxObjectID_ctx (hid id rfl), SpecialEvent.normal]

lemma parseSpecialEvent_wire (h : e.Valid) (hid : ∀ id ∈ e.periodObject, id.Valid) :
    parseSpecialEvent e.wireElements = .ok e.normal := by
  obtain ⟨period, heq, -⟩ := wireElements_eq e
  have hperiod := parsePeriod_wire h hid heq
  have hday := decodeDailySchedule_wire ⟨e.listOfTimeValues⟩
  have hprio : ¬ (e.eventPriority.toUInt64 = 0 ∨ 16 < e.eventPriority.toUInt64) := by
    obtain ⟨hlo, hhi⟩ := h.priority
    simp only [UInt8.le_iff_toNat_le, UInt64.lt_iff_toNat_lt, ← UInt64.toNat_inj] at *
    simp at *
    omega
  simp only [DailySchedule.wireElement] at hday
  rw [heq]
  simp [parseSpecialEvent, hperiod, hday, hprio]
  rfl

lemma readSpecialEvent_wire (h : e.Valid) (hid : ∀ id ∈ e.periodObject, id.Valid) (rest : List Element) :
    readSpecialEvent (e.wireElements ++ rest) = .ok (e.normal, e.wireElements.length) := by
  have hparse := parseSpecialEvent_wire h hid
  obtain ⟨period, heq, hperiod⟩ := wireElements_eq e
  rw [heq] at hparse ⊢
  simp [readSpecialEvent, hperiod, hparse]

lemma length_events_ne_one (events : List SpecialEvent) : (events.flatMap (·.wireElements)).length ≠ 1 := by
  cases events with
  | nil => simp
  | cons e events => simp [SpecialEvent.wireElements]

lemma parseSpecialEvents_wire {events : List SpecialEvent} (h : ∀ e ∈ events, e.Valid)
    (hid : ∀ e ∈ events, ∀ id ∈ e.periodObject, id.Valid) :
    parseSpecialEvents (events.flatMap (·.wireElements)) = .ok (events.map (·.normal)) :=
  Items.read_flatMap (fun e _ => by simp [SpecialEvent.wireElements]) fun e he ys => readSpecialEvent_wire (h e he) (hid e he) _

end Event

/-! ## References -/

section Reference

variable {r : DeviceObjectPropertyReference}

lemma referenceElement_wire (h : r.Valid) : (referenceElement r).wire = r.wireElements := by
  obtain ⟨object, property, index, device⟩ := r
  have hobject := wireUnder_objectID h.1 0
  cases index <;> cases device with
  | none => simp [referenceElement, DeviceObjectPropertyReference.wireElements, hobject]
  | some dev =>
    simp [referenceElement, DeviceObjectPropertyReference.wireElements, hobject, wireUnder_objectID (h.2 dev rfl)]

lemma reference_context : ∀ el ∈ r.wireElements, el.context = true := by
  obtain ⟨object, property, index, device⟩ := r
  cases index <;> cases device <;> simp [DeviceObjectPropertyReference.wireElements]

lemma referenceElement_plain (r : DeviceObjectPropertyReference) : (referenceElement r).Plain := by
  obtain ⟨object, property, index, device⟩ := r
  cases index <;> cases device <;>
    simp [referenceElement, Element.Plain, ApplicationValue.Plain, forestPlain]

lemma valid_of_reference (h : Encodable (referenceElement r)) : r.Valid := by
  have hels := encodable_of_group h
  refine ⟨valid_of_encodable (hels (.mk true 0 false false (.objectID r.object)) (by simp)), fun dev hdev => ?_⟩
  refine valid_of_encodable (hels (.mk true 3 false false (.objectID dev)) ?_)
  rw [Option.mem_def.mp hdev]
  simp

def StartsReference (els : List Element) : Prop := ∀ el ∈ els.head?, el.tagNumber = 0

lemma startsReference_flatMap (rs : List DeviceObjectPropertyReference) :
    StartsReference (rs.flatMap (·.wireElements)) := by
  cases rs with
  | nil => simp [StartsReference]
  | cons r rs => simp [StartsReference, DeviceObjectPropertyReference.wireElements]

lemma referenceDevice_wire {dev : Option ObjectIdentifier} (hvalid : ∀ d ∈ dev, d.Valid) {rest : List Element}
    (hrest : StartsReference rest) :
    referenceDevice ((dev.map fun d => Element.ctx 3 d.octets).toList ++ rest) =
      if ∀ d ∈ dev, d.type = objectTypeDevice then .ok dev else .error .invalidDataType := by
  cases dev with
  | none =>
    cases rest with
    | nil => simp [referenceDevice]
    | cons el els =>
      have htag : el.tagNumber = 0 := hrest el rfl
      simp [referenceDevice, htag]
  | some d => simp [referenceDevice, ctxObjectID_ctx (hvalid d rfl)]

lemma referenceIndex_wire (index : Option UInt32) {rest : List Element} (hrest : ∀ el ∈ rest.head?, el.tagNumber ≠ 2) :
    referenceIndex ((index.map fun idx => Element.ctx 2 (encodeUnsigned idx.toUInt64)).toList ++ rest) =
      .ok (index, rest) := by
  cases index with
  | none =>
    cases rest with
    | nil => simp [referenceIndex]
    | cons el els =>
      have htag : el.tagNumber ≠ 2 := hrest el rfl
      simp [referenceIndex, htag]
  | some idx =>
    have hle : ¬ idx.toUInt64 > 0xFFFFFFFF := by
      have hlt := idx.toNat_lt
      simp only [gt_iff_lt, UInt64.lt_iff_toNat_lt]
      simp
      omega
    simp [referenceIndex, hle]

lemma referenceProperty_wire (property : UInt32) :
    referenceProperty (.ctx 1 (encodeUnsigned property.toUInt64)) =
      if property ≤ 0x3FFFFF then .ok property else .error .invalidDataType := by
  have hgt : (0x3FFFFF < property.toUInt64) ↔ ¬ property ≤ 0x3FFFFF := by
    simp only [UInt64.lt_iff_toNat_lt, UInt32.le_iff_toNat_le]
    simp
  by_cases hp : property ≤ 0x3FFFFF <;> simp [referenceProperty, hgt, hp]

lemma parseReference_wire (h : r.Valid) {rest : List Element} (hrest : StartsReference rest) :
    (r.Accepted → parseReference (r.wireElements ++ rest) = .ok (r, r.wireElements.length)) ∧
      (¬ r.Accepted → parseReference (r.wireElements ++ rest) = .error .invalidDataType) := by
  obtain ⟨object, property, index, device⟩ := r
  have hdevice : referenceDevice ((device.map fun d => Element.ctx 3 d.octets).toList ++ rest) =
      if ∀ d ∈ device, d.type = objectTypeDevice then .ok device else .error .invalidDataType :=
    referenceDevice_wire h.2 hrest
  have hnext : ∀ el ∈ ((device.map fun d => Element.ctx 3 d.octets).toList ++ rest).head?, el.tagNumber ≠ 2 := by
    cases device with
    | none =>
      intro el hel
      simp [hrest el (by simpa using hel)]
    | some d => simp
  have hindex := referenceIndex_wire index hnext
  have hread : parseReference (DeviceObjectPropertyReference.wireElements ⟨object, property, index, device⟩ ++ rest) =
      if property ≤ 0x3FFFFF then
        if ∀ d ∈ device, d.type = objectTypeDevice then
          .ok (⟨object, property, index, device⟩,
            2 + (if index.isSome then 1 else 0) + if device.isSome then 1 else 0)
        else .error .invalidDataType
      else .error .invalidDataType := by
    simp only [DeviceObjectPropertyReference.wireElements, List.append_assoc, List.cons_append, List.nil_append,
      parseReference, ctxObjectID_ctx h.1, referenceProperty_wire]
    by_cases hp : property ≤ 0x3FFFFF
    · rw [if_pos hp, if_pos hp]
      simp only [hindex, hdevice, Bind.bind, Except.bind]
      by_cases hd : ∀ d ∈ device, d.type = objectTypeDevice
      · rw [if_pos hd, if_pos hd]
        rfl
      · rw [if_neg hd, if_neg hd]
        rfl
    · rw [if_neg hp, if_neg hp]
      rfl
  have hlength : (DeviceObjectPropertyReference.wireElements ⟨object, property, index, device⟩).length =
      2 + (if index.isSome then 1 else 0) + if device.isSome then 1 else 0 := by
    cases index <;> cases device <;> rfl
  rw [hread, hlength]
  constructor
  · rintro ⟨hp, hd⟩
    rw [if_pos hp, if_pos hd]
  · intro hnot
    by_cases hp : property ≤ 0x3FFFFF
    · rw [if_pos hp, if_neg fun hd => hnot ⟨hp, hd⟩]
    · rw [if_neg hp]

lemma parseReferences_wire {refs : List DeviceObjectPropertyReference} (h : ∀ r ∈ refs, r.Valid)
    {out : List DeviceObjectPropertyReference} :
    parseReferences (refs.flatMap (·.wireElements)) = .ok out ↔ (∀ r ∈ refs, r.Accepted) ∧ out = refs := by
  have hgroup (r : DeviceObjectPropertyReference) (rest : List Element) :
      readGrouped parseReference (r.wireElements ++ rest) = parseReference (r.wireElements ++ rest) := by
    simp [readGrouped, DeviceObjectPropertyReference.wireElements]
  have hiff : parseReferences (refs.flatMap (·.wireElements)) = .ok out ↔ (∀ r ∈ refs, r.Accepted) ∧ out = refs.map id :=
    Items.read_flatMap_eq_ok_iff (fun r _ => by simp [DeviceObjectPropertyReference.wireElements])
      (fun r hr hacc ys => by
        rw [hgroup]
        exact (parseReference_wire (h r hr) (startsReference_flatMap ys)).1 hacc)
      fun r hr hnot ys => ⟨.invalidDataType, by
        rw [hgroup]
        exact (parseReference_wire (h r hr) (startsReference_flatMap ys)).2 hnot⟩
  rwa [List.map_id] at hiff

end Reference

/-! ## Subordinates -/

section Subordinate

variable {r : DeviceObjectReference}

lemma subordinateElement_wire (h : r.Valid) : (subordinateElement r).wire = r.wireElements := by
  obtain ⟨device, object⟩ := r
  have hobject := wireUnder_objectID h.1 1
  cases device with
  | none => simp [subordinateElement, DeviceObjectReference.wireElements, hobject]
  | some dev =>
    simp [subordinateElement, DeviceObjectReference.wireElements, hobject, wireUnder_objectID (h.2 dev rfl)]

lemma subordinate_context : ∀ el ∈ r.wireElements, el.context = true := by
  obtain ⟨device, object⟩ := r
  cases device <;> simp [DeviceObjectReference.wireElements]

lemma subordinateElement_plain (r : DeviceObjectReference) : (subordinateElement r).Plain := by
  obtain ⟨device, object⟩ := r
  cases device <;> simp [subordinateElement, Element.Plain, ApplicationValue.Plain, forestPlain]

lemma valid_of_subordinate (h : Encodable (subordinateElement r)) : r.Valid := by
  have hels := encodable_of_group h
  refine ⟨valid_of_encodable (hels (.mk true 1 false false (.objectID r.object)) (by simp)), fun dev hdev => ?_⟩
  refine valid_of_encodable (hels (.mk true 0 false false (.objectID dev)) ?_)
  rw [Option.mem_def.mp hdev]
  simp

lemma parseSubordinate_wire (h : r.Valid) (htype : ∀ dev ∈ r.device, dev.type = objectTypeDevice) (rest : List Element) :
    parseSubordinate (r.wireElements ++ rest) = .ok (r, r.wireElements.length) := by
  obtain ⟨device, object⟩ := r
  cases device with
  | none => simp [parseSubordinate, subordinateObject, DeviceObjectReference.wireElements, ctxObjectID_ctx h.1]
  | some dev =>
    simp [parseSubordinate, subordinateObject, DeviceObjectReference.wireElements, ctxObjectID_ctx h.1,
      ctxObjectID_ctx (h.2 dev rfl), htype dev rfl]

lemma parseSubordinates_wire {subs : List DeviceObjectReference} (h : ∀ r ∈ subs, r.Valid)
    (htype : ∀ r ∈ subs, ∀ dev ∈ r.device, dev.type = objectTypeDevice) :
    parseSubordinates (subs.flatMap (·.wireElements)) = .ok subs := by
  have hgroup (r : DeviceObjectReference) (rest : List Element) :
      readGrouped parseSubordinate (r.wireElements ++ rest) = parseSubordinate (r.wireElements ++ rest) := by
    obtain ⟨device, object⟩ := r
    cases device <;> simp [readGrouped, DeviceObjectReference.wireElements]
  have hread : parseSubordinates (subs.flatMap (·.wireElements)) = .ok (subs.map id) :=
    Items.read_flatMap (fun r _ => by simp [DeviceObjectReference.wireElements]) fun r hr ys => by
      rw [hgroup]
      exact parseSubordinate_wire (h r hr) (htype r hr) _
  rwa [List.map_id] at hread

lemma device_of_parseSubordinate {els : List Element} {n : Nat} (h : parseSubordinate els = .ok (r, n)) :
    ∀ dev ∈ r.device, dev.type = objectTypeDevice := by
  have hobject {device : Option ObjectIdentifier} {k : Nat} {els : List Element}
      (h : subordinateObject device k els = .ok (r, n)) : r.device = device := by
    cases els with
    | nil => cases h
    | cons el els =>
      obtain ⟨-, h⟩ := Except.check_eq_ok_iff.mp h
      split at h
      · cases h
      · obtain ⟨rfl, -⟩ := Prod.mk.inj (Except.ok.inj h)
        rfl
  cases els with
  | nil => cases h
  | cons el els =>
    simp only [parseSubordinate] at h
    rcases Except.ite_eq_ok_iff.mp h with ⟨-, h⟩ | ⟨-, h⟩
    · split at h
      · cases h
      · next dev hdev =>
        obtain ⟨htype, h⟩ := Except.check_eq_ok_iff.mp h
        rw [hobject h]
        simpa using htype
    · rw [hobject h]
      simp

lemma device_of_parseSubordinates {els : List Element} {subs : List DeviceObjectReference}
    (h : parseSubordinates els = .ok subs) : ∀ r ∈ subs, ∀ dev ∈ r.device, dev.type = objectTypeDevice := by
  refine Items.forall_of_read (fun els r n hr => ?_) h
  cases els with
  | nil => cases hr
  | cons el els =>
    rcases Except.ite_eq_ok_iff.mp hr with ⟨-, hr⟩ | ⟨-, hr⟩
    · split at hr
      · next r' n' hparse =>
        obtain ⟨-, hr⟩ := Except.check_eq_ok_iff.mp hr
        obtain ⟨rfl, -⟩ := Prod.mk.inj (Except.ok.inj hr)
        exact device_of_parseSubordinate hparse
      · cases hr
    · exact device_of_parseSubordinate hr

end Subordinate

/-! ## Destinations -/

section Destination

variable {d : Destination}

def maskOctet (n : Nat) (mask : UInt8) : UInt8 :=
  (List.range n).foldl (fun b i =>
    b ||| if mask &&& (1 <<< UInt8.ofNat i) ≠ 0 then 0x80 >>> UInt8.ofNat i else 0) 0

lemma maskBits_eq (n : Nat) (mask : UInt8) :
    maskBits n mask = .bitString ⟨UInt8.ofNat (8 - n), [maskOctet n mask]⟩ := rfl

lemma maskOctet_seven (mask : UInt8) : maskOctet 7 (mask &&& 0x7F) = maskOctet 7 mask := by
  have h : ∀ i < 256, maskOctet 7 (UInt8.ofNat i &&& 0x7F) = maskOctet 7 (UInt8.ofNat i) := by decide +kernel
  simpa only [UInt8.ofNat_toNat] using h mask.toNat mask.toNat_lt

lemma maskOctet_three (mask : UInt8) : maskOctet 3 (mask &&& 7) = maskOctet 3 mask := by
  have h : ∀ i < 256, maskOctet 3 (UInt8.ofNat i &&& 7) = maskOctet 3 (UInt8.ofNat i) := by decide +kernel
  simpa only [UInt8.ofNat_toNat] using h mask.toNat mask.toNat_lt

lemma bitsOf_seven (mask : UInt8) : bitsOf ⟨UInt8.ofNat (8 - 7), [maskOctet 7 mask]⟩ 7 = mask &&& 0x7F := by
  have h : ∀ i < 256, bitsOf ⟨UInt8.ofNat (8 - 7), [maskOctet 7 (UInt8.ofNat i)]⟩ 7 = UInt8.ofNat i &&& 0x7F := by
    decide +kernel
  simpa only [UInt8.ofNat_toNat] using h mask.toNat mask.toNat_lt

lemma bitsOf_three (mask : UInt8) : bitsOf ⟨UInt8.ofNat (8 - 3), [maskOctet 3 mask]⟩ 3 = mask &&& 7 := by
  have h : ∀ i < 256, bitsOf ⟨UInt8.ofNat (8 - 3), [maskOctet 3 (UInt8.ofNat i)]⟩ 3 = UInt8.ofNat i &&& 7 := by
    decide +kernel
  simpa only [UInt8.ofNat_toNat] using h mask.toNat mask.toNat_lt

lemma recipient_device {id : ObjectIdentifier} (hdevice : d.device = some id) (hid : id.Valid) :
    d.recipient = .ctx 0 id.octets := by
  have hlength : id.octets.length = 4 := BigEndian.length_octets 4 _
  obtain ⟨raw, hraw⟩ : ∃ raw, appendTag [] (.ctx 0 id.octets) = .ok raw :=
    appendTag_ok wireLimits_encodable (.ctx 0 id.octets (by decide) (by rw [hlength]; decide))
  have happ : appendContextObjectID [] 0 id = .ok raw :=
    (Writes.objectID 0 id [] raw).mpr ⟨hid, by rw [appendTags_singleton, hraw]⟩
  have hparse : parseTag (raw ++ []) defaultDecodeLimits = .ok (.ctx 0 id.octets, raw.length) :=
    parseTag_ctx (by decide) (by rw [hlength]; decide) hraw []
  rw [List.append_nil] at hparse
  simp [Destination.recipient, hdevice, happ, hparse, elementOrZero]

lemma recipient_invalid {id : ObjectIdentifier} (hdevice : d.device = some id) (hid : ¬ id.Valid) :
    d.recipient = .app 0 .null := by
  have happ : ∀ raw, appendContextObjectID [] 0 id ≠ .ok raw := fun raw h => hid ((Writes.objectID 0 id [] raw).mp h).1
  cases h : appendContextObjectID [] 0 id with
  | ok raw => exact (happ raw h).elim
  | error e => simp [Destination.recipient, hdevice, h, elementOrZero]

lemma recipient_address (hdevice : d.device = none) :
    d.recipient = .ctxConstructed 1 [.app 0 (.unsigned d.network.toUInt64), .app 0 (.octetString d.mac)] := by
  simp [Destination.recipient, hdevice]

lemma recipient_wire (d : Destination) : d.recipient.Plain ∧ ∃ r, d.recipient.wire = [r] ∧ (d.Accepted →
    parseRecipient r = some (d.device, d.normal.network, d.normal.mac)) ∧ (¬ d.Accepted → parseRecipient r = none) :=
    by
  cases hdevice : d.device with
  | some id =>
    by_cases hid : id.Valid
    · refine ⟨?_, .ctx 0 id.octets, ?_, fun _ => ?_, fun hnot => ?_⟩
      · rw [recipient_device hdevice hid]
        simp [Element.Plain, ApplicationValue.Plain]
      · rw [recipient_device hdevice hid]
        simp
      · simp [parseRecipient, contextObjectID_ctx hid, Except.toOption, Destination.normal, hdevice]
      · exact (hnot (by simpa [Destination.Accepted, hdevice] using hid)).elim
    · refine ⟨?_, .app 0 .null, ?_, fun hacc => ?_, fun _ => ?_⟩
      · rw [recipient_invalid hdevice hid]
        simp [Element.Plain, ApplicationValue.Plain]
      · rw [recipient_invalid hdevice hid, wire_app]
        exact wire_primitive rfl
      · exact (hid (by simpa [Destination.Accepted, hdevice] using hacc)).elim
      · simp [parseRecipient]
  | none =>
    have hwire : d.recipient.wire =
        [.ctxConstructed 1 [.app tagUnsigned (.unsigned d.network.toUInt64), .app tagOctetString (.octetString d.mac)]] := by
      have hnetwork : (ApplicationValue.unsigned d.network.toUInt64).wire =
        [.app tagUnsigned (.unsigned d.network.toUInt64)] := wire_primitive rfl
      have hmac : (ApplicationValue.octetString d.mac).wire = [.app tagOctetString (.octetString d.mac)] :=
        wire_primitive rfl
      rw [recipient_address hdevice]
      simp [hnetwork, hmac]
    have hnetwork : ¬ d.network.toUInt64 > 0xFFFF := by
      have hlt := d.network.toNat_lt
      simp only [gt_iff_lt, UInt64.lt_iff_toNat_lt]
      simp
      omega
    refine ⟨?_, _, hwire, fun hacc => ?_, fun hnot => ?_⟩
    · rw [recipient_address hdevice]
      simp [Element.Plain, ApplicationValue.Plain, forestPlain]
    · have hmac : d.mac.length ≤ maxMACLength := by simpa [Destination.Accepted, hdevice] using hacc
      simp [parseRecipient, ApplicationValue.elements, hnetwork, newMAC, not_lt.mpr hmac, Except.isOk, Except.toBool,
        Destination.normal, hdevice]
    · have hmac : d.mac.length > maxMACLength := by simpa [Destination.Accepted, hdevice] using hnot
      have hpos : 0 < d.mac.length := by omega
      simp [parseRecipient, ApplicationValue.elements, hnetwork, newMAC, hmac, hpos, Except.isOk, Except.toBool]

lemma destination_plain (d : Destination) : forestPlain d.elements := by
  simp [Destination.elements, maskBits_eq, forestPlain, Element.Plain, ApplicationValue.Plain, (recipient_wire d).1]

lemma destination_wire (d : Destination) :
    ∃ e₀ e₁ e₂ e₃ e₄ e₅ e₆, forestWire d.elements = [e₀, e₁, e₂, e₃, e₄, e₅, e₆] ∧
      (d.Accepted → Server.parseDestination [e₀, e₁, e₂, e₃, e₄, e₅, e₆] = some d.normal) ∧
      (¬ d.Accepted → Server.parseDestination [e₀, e₁, e₂, e₃, e₄, e₅, e₆] = none) := by
  obtain ⟨-, r, hr, hyes, hno⟩ := recipient_wire d
  have hbits (b : BitString) : (ApplicationValue.bitString b).wire = [.app tagBitString (.bitString b)] :=
    wire_primitive rfl
  have htime (t : Time) : (ApplicationValue.time t).wire = [.app tagTime (.time t)] := wire_primitive rfl
  have hunsigned (u : UInt64) : (ApplicationValue.unsigned u).wire = [.app tagUnsigned (.unsigned u)] :=
    wire_primitive rfl
  have hbool (b : Bool) : (ApplicationValue.boolean b).wire = [.app tagBoolean (.boolean b)] := wire_primitive rfl
  have hpid : ¬ d.processID.toUInt64 > 0xFFFFFFFF := by
    have hlt := d.processID.toNat_lt
    simp only [gt_iff_lt, UInt64.lt_iff_toNat_lt]
    simp
    omega
  have hwire : forestWire d.elements =
      [.app tagBitString (.bitString ⟨UInt8.ofNat (8 - 7), [maskOctet 7 d.validDays]⟩),
        .app tagTime (.time d.fromTime), .app tagTime (.time d.toTime), r,
        .app tagUnsigned (.unsigned d.processID.toUInt64), .app tagBoolean (.boolean d.confirmed),
        .app tagBitString (.bitString ⟨UInt8.ofNat (8 - 3), [maskOctet 3 d.transitions]⟩)] := by
    simp only [Destination.elements, maskBits_eq, forestWire_cons, forestWire_nil, wire_app, hbits, htime, hunsigned,
      hbool, hr, List.cons_append, List.nil_append]
  refine ⟨_, _, _, _, _, _, _, hwire, fun hacc => ?_, fun hnot => ?_⟩
  · simp only [Server.parseDestination, if_neg hpid, hyes hacc, Option.map_some, bitsOf_seven, bitsOf_three,
      UInt32.toUInt32_toUInt64]
    rfl
  · simp only [Server.parseDestination, if_neg hpid, hno hnot, Option.map_none]

lemma parseDestinationsFrom_wire (ds : List Destination) (i : Nat) (out : List Destination) :
    parseDestinationsFrom i (forestWire (ds.flatMap (·.elements))) = .ok out ↔
      (∀ d ∈ ds, d.Accepted) ∧ out = ds.map (·.normal) := by
  induction ds generalizing i out with
  | nil => simp [parseDestinationsFrom, eq_comm]
  | cons d ds ih =>
    obtain ⟨e₀, e₁, e₂, e₃, e₄, e₅, e₆, hwire, hyes, hno⟩ := destination_wire d
    simp only [List.flatMap_cons, forestWire_append, hwire, List.cons_append, List.nil_append, parseDestinationsFrom]
    by_cases hacc : d.Accepted
    · simp only [hyes hacc, Except.map_eq_ok_iff, ih, List.forall_mem_cons, hacc, true_and, List.map_cons]
      constructor
      · rintro ⟨rest, ⟨hds, rfl⟩, rfl⟩
        exact ⟨hds, rfl⟩
      · rintro ⟨hds, rfl⟩
        exact ⟨_, ⟨hds, rfl⟩, rfl⟩
    · simp [hno hacc, hacc]

lemma length_destinations (ds : List Destination) : (forestWire (ds.flatMap (·.elements))).length = 7 * ds.length := by
  induction ds with
  | nil => rfl
  | cons d ds ih =>
    obtain ⟨e₀, e₁, e₂, e₃, e₄, e₅, e₆, hwire, -⟩ := destination_wire d
    simp [hwire, ih]
    omega

lemma parseDestinations_wire {ds out : List Destination} :
    parseDestinations (forestWire (ds.flatMap (·.elements))) = .ok out ↔
      (∀ d ∈ ds, d.Accepted) ∧ out = ds.map (·.normal) := by
  have hlength : (forestWire (ds.flatMap (·.elements))).length % 7 = 0 := by
    rw [length_destinations]
    omega
  rw [parseDestinations, if_neg (by simp [hlength]), parseDestinationsFrom_wire]

lemma elements_normal (h : d.Accepted) : d.normal.elements = d.elements := by
  have hrecipient : d.normal.recipient = d.recipient := by
    cases hdevice : d.device with
    | some id =>
      have hid : id.Valid := by simpa [Destination.Accepted, hdevice] using h
      rw [recipient_device hdevice hid, recipient_device (d := d.normal) hdevice hid]
    | none => simp [Destination.recipient, Destination.normal, hdevice]
  simp only [Destination.elements, hrecipient]
  simp [Destination.normal, maskBits_eq, maskOctet_seven, maskOctet_three]

end Destination

end GoBacnet.Proofs
