import GoBacnet.Server.Calendar
import GoBacnet.Service.Discovery

/-!
# Schedule objects

A Schedule has a value for each time of a week and special events that take precedence on their days. The values are
all of one datatype or NULL; the first value that is not NULL fixes a datatype that is not determined yet. The value
in effect is evaluated on every poll and written to the referenced properties when it has changed.
-/

namespace GoBacnet.Server

open Service

def objectTypeSchedule : UInt16 := 17

def propertyEffectivePeriod : UInt32 := 32
def propertyExceptionSchedule : UInt32 := 38
def propertyListOfObjectPropertyReferences : UInt32 := 54
def propertyPriorityForWriting : UInt32 := 88
def propertyWeeklySchedule : UInt32 := 123
def propertyScheduleDefault : UInt32 := 174

structure DeviceObjectPropertyReference where
  object : ObjectIdentifier
  property : UInt32
  arrayIndex : Option UInt32 := none
  device : Option ObjectIdentifier := none
  deriving DecidableEq, Repr

structure ScheduleState where
  effective : DateRange
  weekly : WeeklySchedule
  exceptions : List SpecialEvent
  default : ApplicationValue
  /-- The datatype of the values, NULL while it is undetermined. -/
  kind : ValueKind
  refs : List DeviceObjectPropertyReference
  priority : UInt8
  outOfService : Bool := false
  pv : ApplicationValue
  /-- Whether the present value is still to be written to the references. -/
  pending : Bool := true
  maxExceptions : Nat
  maxReferences : Nat

abbrev Schedule := Base ScheduleState

def unspecifiedDate : Date := ⟨dateAny, dateAny, dateAny, dateAny⟩

/-! ## Datatypes

The checks return the datatype, which they may have fixed. -/

def primitive (v : ApplicationValue) : Bool := v.kind ≠ .constructed ∧ v.kind ≠ .context

def checkValue (kind : ValueKind) (v : ApplicationValue) : Except ObjectErr ValueKind :=
  if !primitive v then .error .invalidDataType
  else if v.kind = .null then .ok kind
  else if kind = .null then .ok v.kind
  else if v.kind ≠ kind then .error .invalidDataType
  else .ok kind

def checkTimeValues (kind : ValueKind) (tvs : List ScheduledTimeValue) : Except ObjectErr ValueKind :=
  tvs.foldlM (fun kind tv => checkValue kind tv.value) kind

def checkEvent (kind : ValueKind) (e : SpecialEvent) : Except ObjectErr ValueKind :=
  if e.eventPriority < 1 ∨ e.eventPriority > 16 then .error .valueOutOfRange
  else if e.periodObject.isNone && !(calendarEntryElement e.calendarEntry).isOk then .error .invalidDataType
  else checkTimeValues kind e.listOfTimeValues

def checkWeek (kind : ValueKind) (week : WeeklySchedule) : Except ObjectErr ValueKind :=
  week.toList.foldlM (fun kind day => checkTimeValues kind day.daySchedule) kind

/-! ## Special events and references -/

def specialEventElement (e : SpecialEvent) : Element :=
  let period : Element :=
    match e.periodObject with
    | some id => .mk true 1 false false (.objectID id)
    | none => .ctxConstructed 0 [elementOrZero (calendarEntryElement e.calendarEntry)]
  let day := (encodeDailySchedule ⟨e.listOfTimeValues⟩).elements.headD (.app 0 .null)
  .app 0 (.constructed [period, .mk day.context 2 day.opening day.closing day.value,
    .mk true 3 false false (.unsigned e.eventPriority.toUInt64)])

def parsePeriod (period : Element) : Except ObjectErr (CalendarEntry × Option ObjectIdentifier) :=
  if period.context && period.tagNumber == 0 && isContextConstructed period && period.value.elements.length == 1 then
    (parseCalendarEntry (period.value.elements.headD (.app 0 .null))).map (·, none)
  else if period.context && period.tagNumber == 1 && !isContextConstructed period then
    match ctxObjectID period with
    | some id => .ok ({}, some id)
    | none => .error .invalidDataType
  else .error .invalidDataType

def parseSpecialEvent (els : List Element) : Except ObjectErr SpecialEvent :=
  match els with
  | [period, tvs, prio] => do
    let (calendarEntry, periodObject) ← parsePeriod period
    if tvs.tagNumber ≠ 2 ∨ !isContextConstructed tvs then .error .invalidDataType
    else
      match decodeDailySchedule (.constructed [.mk tvs.context 0 tvs.opening tvs.closing tvs.value]) with
      | .error _ => .error .invalidDataType
      | .ok day =>
        if prio.tagNumber ≠ 3 then .error .invalidDataType
        else
          match ctxUnsigned prio with
          | none => .error .invalidDataType
          | some p =>
            if p < 1 ∨ p > 16 then .error .valueOutOfRange
            else .ok { calendarEntry, periodObject, listOfTimeValues := day.daySchedule, eventPriority := p.toUInt8 }
  | _ => .error .invalidDataType

def readSpecialEvent : List Element → Except ObjectErr (SpecialEvent × Nat)
  | [] => .error .invalidDataType
  | el :: els =>
    if !el.context && el.value.isConstructed then (parseSpecialEvent el.value.elements).map (·, 1)
    else if 3 > (el :: els).length then .error .invalidDataType
    else (parseSpecialEvent ((el :: els).take 3)).map (·, 3)

def parseSpecialEvents (els : List Element) : Except ObjectErr (List SpecialEvent) := Items.read readSpecialEvent els

def referenceElement (r : DeviceObjectPropertyReference) : Element :=
  .app 0 (.constructed ([.mk true 0 false false (.objectID r.object), .mk true 1 false false (.enumerated r.property)] ++
    (r.arrayIndex.map fun idx => Element.mk true 2 false false (.unsigned idx.toUInt64)).toList ++
    (r.device.map fun dev => Element.mk true 3 false false (.objectID dev)).toList))

/-- The property of a reference, typed or in wire form. -/
def referenceProperty (el : Element) : Except ObjectErr UInt32 :=
  let prop := match el.context, el.value with
    | true, .enumerated e => some e.toUInt64
    | _, _ => ctxUnsigned el
  match prop with
  | none => .error .invalidDataType
  | some prop => if prop > 0x3FFFFF then .error .invalidDataType else .ok prop.toUInt32

def referenceIndex : List Element → Except ObjectErr (Option UInt32 × List Element)
  | [] => .ok (none, [])
  | el :: els =>
    if el.context && el.tagNumber == 2 then
      match ctxUnsigned el with
      | none => .error .invalidDataType
      | some idx => if idx > 0xFFFFFFFF then .error .invalidDataType else .ok (some idx.toUInt32, els)
    else .ok (none, el :: els)

def referenceDevice : List Element → Except ObjectErr (Option ObjectIdentifier)
  | [] => .ok none
  | el :: _ =>
    if el.context && el.tagNumber == 3 then
      match ctxObjectID el with
      | none => .error .invalidDataType
      | some dev => if dev.type ≠ objectTypeDevice then .error .invalidDataType else .ok (some dev)
    else .ok none

def parseReference (els : List Element) : Except ObjectErr (DeviceObjectPropertyReference × Nat) :=
  match els with
  | obj :: prop :: rest =>
    if obj.tagNumber ≠ 0 ∨ prop.tagNumber ≠ 1 then .error .invalidDataType
    else
      match ctxObjectID obj with
      | none => .error .invalidDataType
      | some object => do
        let property ← referenceProperty prop
        let (arrayIndex, rest) ← referenceIndex rest
        let device ← referenceDevice rest
        return (⟨object, property, arrayIndex, device⟩,
          2 + (if arrayIndex.isSome then 1 else 0) + if device.isSome then 1 else 0)
  | _ => .error .invalidDataType

def parseReferences (els : List Element) : Except ObjectErr (List DeviceObjectPropertyReference) :=
  Items.read (readGrouped parseReference) els

/-! ## Properties -/

namespace ScheduleState

def exceptionSchedule (s : ScheduleState) : ApplicationValue := .constructed (s.exceptions.map specialEventElement)

def references (s : ScheduleState) : ApplicationValue := .constructed (s.refs.map referenceElement)

def writePresentValue : Setter ScheduleState :=
  scalarSetter fun v s =>
    if !s.outOfService then .error .writeAccessDenied
    else do
      let kind ← checkValue s.kind v
      return if sameValue s.pv v then ({ s with kind }, [])
        else ({ s with kind, pv := v, pending := true }, [propertyPresentValue])

def writeEffectivePeriod : Setter ScheduleState :=
  scalarSetter fun v s =>
    if v.kind ≠ .constructed then .error .invalidDataType
    else
      match decodeDateRange v with
      | .error _ => .error .invalidDataType
      | .ok effective => .ok ({ s with effective }, [propertyEffectivePeriod])

def nextWeek (s : ScheduleState) (w : Write) : Except ObjectErr WeeklySchedule :=
  match w.property.arrayIndex with
  | some idx => do
    arrayIndex idx 7
    match decodeDailySchedule w.value with
    | .error _ => .error .invalidDataType
    | .ok day => .ok (s.weekly.setIfInBounds (idx.toNat - 1) day)
  | none =>
    match decodeWeeklySchedule w.value with
    | .error _ => .error .invalidDataType
    | .ok week => .ok week

def writeWeekly : Setter ScheduleState := fun w s =>
  if w.value.kind ≠ .constructed then .error .invalidDataType
  else do
    let weekly ← s.nextWeek w
    let kind ← checkWeek s.kind weekly
    return ({ s with weekly, kind }, [propertyWeeklySchedule])

def nextExceptions (s : ScheduleState) (w : Write) (events : List SpecialEvent) : Except ObjectErr (List SpecialEvent) :=
  match w.property.arrayIndex with
  | some idx => do
    arrayIndex idx s.exceptions.length
    match events with
    | [e] => .ok (s.exceptions.set (idx.toNat - 1) e)
    | _ => .error .invalidDataType
  | none => if events.length > s.maxExceptions then .error .noSpaceToWriteProperty else .ok events

def writeExceptions : Setter ScheduleState := fun w s =>
  if w.value.kind ≠ .constructed then .error .invalidDataType
  else do
    let events ← parseSpecialEvents w.value.elements
    let exceptions ← s.nextExceptions w events
    let kind ← exceptions.foldlM checkEvent s.kind
    return ({ s with exceptions, kind }, [propertyExceptionSchedule])

def writeReferences : Setter ScheduleState :=
  scalarSetter fun v s => do
    let refs ← parseReferences (listElements v)
    if refs.length > s.maxReferences then .error .noSpaceToWriteProperty
    else .ok ({ s with refs }, [propertyListOfObjectPropertyReferences])

end ScheduleState

def weeklyScheduleProperty : Property ScheduleState where
  array := true
  writable := true
  get := .state fun s => encodeWeeklySchedule s.weekly
  set := some ScheduleState.writeWeekly

def exceptionScheduleProperty : Property ScheduleState where
  array := true
  writable := true
  get := .state ScheduleState.exceptionSchedule
  set := some ScheduleState.writeExceptions

def referencesProperty : Property ScheduleState where
  writable := true
  get := .state ScheduleState.references
  set := some ScheduleState.writeReferences

structure ScheduleConfig where
  instanceNumber : UInt32
  name : Octets
  description : Octets := []
  effectivePeriod : Option DateRange := none
  weekly : WeeklySchedule := .replicate 7 {}
  exceptions : List SpecialEvent := []
  default : ApplicationValue := .null
  references : List DeviceObjectPropertyReference := []
  priorityForWriting : UInt8 := 0
  maxExceptions : Int := 0
  maxReferences : Int := 0

/-- Runs a check on each item, and names the first item that fails, counted from 1. -/
def checkEach {ι : Type} (describe : ObjectErr → String) (what : String) (check : ValueKind → ι → Except ObjectErr ValueKind)
    (items : List ι) (kind : ValueKind) : Except ObjectErr ValueKind :=
  items.zipIdx.foldlM (fun kind (x, i) =>
    match check kind x with
    | .ok kind => .ok kind
    | .error e => .error (.plain ("object: " ++ what ++ toString (i + 1) ++ ": " ++ describe e))) kind

def ScheduleConfig.initialState (cfg : ScheduleConfig) (kind : ValueKind) (maxExceptions maxReferences : Nat) :
    ScheduleState where
  effective := cfg.effectivePeriod.getD ⟨unspecifiedDate, unspecifiedDate⟩
  weekly := cfg.weekly
  exceptions := cfg.exceptions
  default := cfg.default
  kind := kind
  refs := cfg.references
  priority := if cfg.priorityForWriting = 0 then defaultPriority else cfg.priorityForWriting
  pv := cfg.default
  maxExceptions := maxExceptions
  maxReferences := maxReferences

def Schedule.defineProperties (o : Schedule) (cfg : ScheduleConfig) : Schedule :=
  let o := if cfg.description = [] then o else o.define propertyDescription (textProperty cfg.description)
  let o := o.define propertyPresentValue
    { writable := true, get := .state ScheduleState.pv, set := some ScheduleState.writePresentValue }
  let o := o.define propertyEffectivePeriod
    { writable := true, get := .state fun s => encodeDateRange s.effective
      set := some ScheduleState.writeEffectivePeriod }
  let o := o.define propertyWeeklySchedule weeklyScheduleProperty
  let o := o.define propertyExceptionSchedule exceptionScheduleProperty
  let o := o.define propertyScheduleDefault { get := .state ScheduleState.default }
  let o := o.define propertyListOfObjectPropertyReferences referencesProperty
  let o := o.define propertyPriorityForWriting { get := .state fun s => .unsigned s.priority.toUInt64 }
  let o := o.define propertyStatusFlags { get := .state fun s => .bitString (statusFlags false false false s.outOfService) }
  let o := o.define propertyReliability { value := .enumerated reliabilityNoFaultDetected }
  o.define propertyOutOfService (outOfServiceProperty (·.outOfService) fun s b => { s with outOfService := b })

def newSchedule (describe : ObjectErr → String) (cfg : ScheduleConfig) : Except ObjectErr Schedule :=
  let maxExceptions := if cfg.maxExceptions ≤ 0 then 32 else cfg.maxExceptions.toNat
  let maxReferences := if cfg.maxReferences ≤ 0 then 32 else cfg.maxReferences.toNat
  if cfg.instanceNumber ≥ maxObjectInstance then
    .error (.plain ("object: instance " ++ toString cfg.instanceNumber ++ " out of range"))
  else if cfg.name = [] then .error (.plain "object: object name required")
  else if cfg.priorityForWriting > 16 then
    .error (.plain ("object: priority for writing " ++ toString cfg.priorityForWriting ++ " out of range 1..16"))
  else if cfg.exceptions.length > maxExceptions then
    .error (.plain ("object: " ++ toString cfg.exceptions.length ++ " special events, at most " ++ toString maxExceptions))
  else if cfg.references.length > maxReferences then
    .error (.plain ("object: " ++ toString cfg.references.length ++ " references, at most " ++ toString maxReferences))
  else if !primitive cfg.default then .error (.plain "object: schedule default must be a primitive value")
  else do
    let kind ← checkEach describe "weekly schedule day " (fun kind day => checkTimeValues kind day.daySchedule)
      cfg.weekly.toList cfg.default.kind
    let kind ← checkEach describe "special event " checkEvent cfg.exceptions kind
    let o : Schedule := Base.new ⟨objectTypeSchedule, cfg.instanceNumber⟩ cfg.name
      (cfg.initialState kind maxExceptions maxReferences)
    return o.defineProperties cfg

/-! ## Evaluation -/

/-- Orders two times. A field that is unspecified in either one is skipped. -/
def compareTime (a b : Time) : Int :=
  compareField a.hour b.hour (compareField a.minute b.minute (compareField a.second b.second
    (compareField a.hundredths b.hundredths 0)))

def laterEntry (t : Time) (best : Option ScheduledTimeValue) (tv : ScheduledTimeValue) : Option ScheduledTimeValue :=
  if compareTime t tv.time < 0 then best
  else if best.all fun b => compareTime tv.time b.time ≥ 0 then some tv
  else best

def valueAt (tvs : List ScheduledTimeValue) (t : Time) : Option ApplicationValue :=
  (tvs.foldl (laterEntry t) none).map (·.value)

def nonNull (v : Option ApplicationValue) : Option ApplicationValue := v.filter fun v => v.kind ≠ .null

def periodActive (active : ObjectIdentifier → Date → Bool) (e : SpecialEvent) (d : Date) : Bool :=
  match e.periodObject with
  | none => entryMatches e.calendarEntry d
  | some id => active id d

def betterEvent (active : ObjectIdentifier → Date → Bool) (d : Date) (t : Time) (best : Option ApplicationValue × UInt8)
    (e : SpecialEvent) : Option ApplicationValue × UInt8 :=
  if e.eventPriority ≥ best.2 ∨ !periodActive active e d then best
  else
    match nonNull (valueAt e.listOfTimeValues t) with
    | some v => (some v, e.eventPriority)
    | none => best

def evaluate (active : ObjectIdentifier → Date → Bool) (d : Date) (t : Time) (eff : DateRange) (weekly : WeeklySchedule)
    (exceptions : List SpecialEvent) (default : ApplicationValue) : ApplicationValue :=
  if !dateInRange d eff then default
  else
    match (exceptions.foldl (betterEvent active d t) (none, 17)).1 with
    | some v => v
    | none =>
      -- The clock gives a weekday of 1 to 7.
      let day := (weekly.toList[d.weekday.toNat - 1]?).getD {}
      (nonNull (valueAt day.daySchedule t)).getD default

namespace Schedule

def referenceWrites (o : Schedule) (self : ObjectIdentifier) : List (ObjectIdentifier × Write) :=
  (o.state.refs.filter fun r => r.device.all (· = self) && r.object ≠ o.id).map fun r =>
    (r.object, ⟨⟨r.property, r.arrayIndex⟩, o.state.pv, o.state.priority⟩)

def poll (active : ObjectIdentifier → Date → Bool) (self : ObjectIdentifier) (o : Schedule) (d : Date) (t : Time) :
    Schedule × List (ObjectIdentifier × Write) × List Change :=
  let (o, changes) :=
    if o.state.outOfService then (o, [])
    else o.update fun s =>
      let v := evaluate active d t s.effective s.weekly s.exceptions s.default
      if sameValue s.pv v then (s, []) else ({ s with pv := v, pending := true }, [propertyPresentValue])
  let writes := if o.state.pending then referenceWrites o self else []
  ({ o with state := { o.state with pending := false } }, writes, changes)

end Schedule

end GoBacnet.Server
