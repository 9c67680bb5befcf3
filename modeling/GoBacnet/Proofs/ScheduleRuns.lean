import GoBacnet.Proofs.ObjectRuns

/-!
# The datatype of a Schedule

The checks of written values fix an undetermined datatype in place, before it is known whether the whole write is
accepted. The setters put it back when a check fails, and so behave as if a refused write had not been made.
-/

namespace GoBacnet.Server

def ScheduleState.values (s : ScheduleState) : List ApplicationValue :=
  s.weekly.toList.flatMap (fun d => d.daySchedule.map (·.value)) ++
    s.exceptions.flatMap (fun e => e.listOfTimeValues.map (·.value)) ++ [s.default, s.pv]

/-! ## The setters in place

A check gives the datatype that the object has afterwards, also when it fails. -/

abbrev Fix := ValueKind × Except ObjectErr Unit

def fixValue (kind : ValueKind) (v : ApplicationValue) : Fix :=
  if !primitive v then (kind, .error .invalidDataType)
  else if v.kind = .null then (kind, .ok ())
  else if kind = .null then (v.kind, .ok ())
  else if v.kind ≠ kind then (kind, .error .invalidDataType)
  else (kind, .ok ())

def fixEach {ι : Type} (fix : ValueKind → ι → Fix) : ValueKind → List ι → Fix
  | kind, [] => (kind, .ok ())
  | kind, x :: xs =>
    let r := fix kind x
    match r.2 with
    | .ok () => fixEach fix r.1 xs
    | .error e => (r.1, .error e)

def fixTimeValues (kind : ValueKind) (tvs : List ScheduledTimeValue) : Fix := fixEach (fun k tv => fixValue k tv.value) kind tvs

def fixEvent (kind : ValueKind) (e : SpecialEvent) : Fix :=
  if e.eventPriority < 1 ∨ e.eventPriority > 16 then (kind, .error .valueOutOfRange)
  else if e.periodObject.isNone && !(calendarEntryElement e.calendarEntry).isOk then (kind, .error .invalidDataType)
  else fixTimeValues kind e.listOfTimeValues

namespace ScheduleState

def storeFixed (s : ScheduleState) (fix : Fix) (store : ScheduleState → ScheduleState) (changed : List UInt32) :
    ScheduleState × Except ObjectErr (List UInt32) :=
  let s' := { s with kind := fix.1 }
  match fix.2 with
  | .ok () => (store s', .ok changed)
  | .error e => ({ s' with kind := s.kind }, .error e)

def writePresentValueInPlace (w : Write) (s : ScheduleState) : ScheduleState × Except ObjectErr (List UInt32) :=
  if w.property.arrayIndex.isSome then (s, .error .notAnArray)
  else if !s.outOfService then (s, .error .writeAccessDenied)
  else
    let r := fixValue s.kind w.value
    let s := { s with kind := r.1 }
    match r.2 with
    | .error e => (s, .error e)
    | .ok () =>
      if sameValue s.pv w.value then (s, .ok [])
      else ({ s with pv := w.value, pending := true }, .ok [propertyPresentValue])

def writeWeeklyInPlace (w : Write) (s : ScheduleState) : ScheduleState × Except ObjectErr (List UInt32) :=
  if w.value.kind ≠ .constructed then (s, .error .invalidDataType)
  else
    match s.nextWeek w with
    | .error e => (s, .error e)
    | .ok weekly => s.storeFixed (fixEach (fun k day => fixTimeValues k day.daySchedule) s.kind weekly.toList)
        ({ · with weekly }) [propertyWeeklySchedule]

def writeExceptionsInPlace (w : Write) (s : ScheduleState) : ScheduleState × Except ObjectErr (List UInt32) :=
  if w.value.kind ≠ .constructed then (s, .error .invalidDataType)
  else
    match (parseSpecialEvents w.value.elements).bind (s.nextExceptions w) with
    | .error e => (s, .error e)
    | .ok exceptions => s.storeFixed (fixEach fixEvent s.kind exceptions) ({ · with exceptions }) [propertyExceptionSchedule]

end ScheduleState

/-- The setter in place has the result of `set`, and leaves the state as it was if that is an error. -/
def Setter.InPlace (set : Setter ScheduleState)
    (inPlace : Write → ScheduleState → ScheduleState × Except ObjectErr (List UInt32)) : Prop :=
  ∀ w s, match set w s with
    | .ok (s', changed) => inPlace w s = (s', .ok changed)
    | .error e => inPlace w s = (s, .error e)

end GoBacnet.Server

namespace GoBacnet.Proofs

open GoBacnet.Server Transition

/-- A check in place agrees with the one that returns the datatype. -/
def Agrees (check : Except ObjectErr ValueKind) (fix : Fix) : Prop :=
  match check with
  | .ok kind => fix = (kind, .ok ())
  | .error e => fix.2 = .error e

lemma fixValue_agrees (kind : ValueKind) (v : ApplicationValue) : Agrees (checkValue kind v) (fixValue kind v) := by
  unfold checkValue fixValue
  split_ifs <;> rfl

lemma fixValue_failed {kind : ValueKind} {v : ApplicationValue} {e : ObjectErr} (h : (fixValue kind v).2 = .error e) :
    (fixValue kind v).1 = kind := by
  unfold fixValue at h ⊢
  split_ifs at h ⊢ <;> rfl

lemma fixEach_agrees {ι : Type} (check : ValueKind → ι → Except ObjectErr ValueKind) (fix : ValueKind → ι → Fix)
    (h : ∀ kind x, Agrees (check kind x) (fix kind x)) (kind : ValueKind) (xs : List ι) :
    Agrees (xs.foldlM check kind) (fixEach fix kind xs) := by
  induction xs generalizing kind with
  | nil => rfl
  | cons x xs ih =>
    have hx := h kind x
    rw [List.foldlM_cons, fixEach]
    cases hcheck : check kind x with
    | ok kind' =>
      rw [hcheck] at hx
      rw [show fix kind x = (kind', .ok ()) from hx]
      exact ih kind'
    | error e =>
      rw [hcheck] at hx
      rw [show (fix kind x).2 = .error e from hx]
      rfl

lemma fixTimeValues_agrees (kind : ValueKind) (tvs : List ScheduledTimeValue) :
    Agrees (checkTimeValues kind tvs) (fixTimeValues kind tvs) :=
  fixEach_agrees (fun kind (tv : ScheduledTimeValue) => checkValue kind tv.value) _
    (fun kind tv => fixValue_agrees kind tv.value) kind tvs

lemma fixEvent_agrees (kind : ValueKind) (e : SpecialEvent) : Agrees (checkEvent kind e) (fixEvent kind e) := by
  unfold checkEvent fixEvent
  split_ifs
  · rfl
  · rfl
  · exact fixTimeValues_agrees kind e.listOfTimeValues

lemma storeFixed_failed {s : ScheduleState} {fix : Fix} {e : ObjectErr} (h : fix.2 = .error e)
    (store : ScheduleState → ScheduleState) (changed : List UInt32) :
    s.storeFixed fix store changed = (s, .error e) := by
  unfold ScheduleState.storeFixed
  rw [h]

lemma writePresentValue_inPlace :
    Setter.InPlace ScheduleState.writePresentValue ScheduleState.writePresentValueInPlace := by
  intro w s
  unfold ScheduleState.writePresentValue ScheduleState.writePresentValueInPlace scalarSetter
  dsimp only
  split_ifs
  · rfl
  · rfl
  all_goals
    have hagrees := fixValue_agrees s.kind w.value
    cases hcheck : checkValue s.kind w.value with
    | error e =>
      rw [hcheck] at hagrees
      rw [show (fixValue s.kind w.value).2 = .error e from hagrees, fixValue_failed hagrees]
      rfl
    | ok kind =>
      rw [hcheck] at hagrees
      rw [show fixValue s.kind w.value = (kind, .ok ()) from hagrees]
      rfl

lemma writeWeekly_inPlace : Setter.InPlace ScheduleState.writeWeekly ScheduleState.writeWeeklyInPlace := by
  intro w s
  unfold ScheduleState.writeWeekly ScheduleState.writeWeeklyInPlace
  split_ifs
  · rfl
  · cases hnext : s.nextWeek w with
    | error e => rfl
    | ok weekly =>
      have hagrees : Agrees (checkWeek s.kind weekly)
          (fixEach (fun k day => fixTimeValues k day.daySchedule) s.kind weekly.toList) :=
        fixEach_agrees (fun kind (day : DailySchedule) => checkTimeValues kind day.daySchedule) _
          (fun kind day => fixTimeValues_agrees kind day.daySchedule) s.kind weekly.toList
      cases hcheck : checkWeek s.kind weekly with
      | ok kind =>
        rw [hcheck] at hagrees
        simp only [Bind.bind, Except.bind, hcheck, show fixEach _ _ _ = (kind, .ok ()) from hagrees]
        rfl
      | error e =>
        rw [hcheck] at hagrees
        simp only [Bind.bind, Except.bind, hcheck, storeFixed_failed hagrees]

lemma writeExceptions_inPlace : Setter.InPlace ScheduleState.writeExceptions ScheduleState.writeExceptionsInPlace := by
  intro w s
  unfold ScheduleState.writeExceptions ScheduleState.writeExceptionsInPlace
  split_ifs
  · rfl
  · cases hparse : parseSpecialEvents w.value.elements with
    | error e => rfl
    | ok events =>
      simp only [Bind.bind, Except.bind]
      cases hnext : s.nextExceptions w events with
      | error e => rfl
      | ok exceptions =>
        have hagrees := fixEach_agrees _ _ fixEvent_agrees s.kind exceptions
        cases hcheck : exceptions.foldlM checkEvent s.kind with
        | ok kind =>
          rw [hcheck] at hagrees
          simp only [hcheck, show fixEach _ _ _ = (kind, .ok ()) from hagrees]
          rfl
        | error e =>
          rw [hcheck] at hagrees
          simp only [hcheck, storeFixed_failed hagrees]

lemma kind_of_mem_values {s : ScheduleState} (hs : s.Valid) {v : ApplicationValue} (hv : v ∈ s.values) :
    v.kind = .null ∨ v.kind = s.kind := by
  simp only [ScheduleState.values, List.mem_append, List.mem_flatMap, List.mem_map, List.mem_cons, List.not_mem_nil,
    or_false] at hv
  rcases hv with (⟨d, hd, tv, htv, rfl⟩ | ⟨e, he, tv, htv, rfl⟩) | rfl | rfl
  · exact (hs.weekly d hd tv htv).2
  · exact ((hs.exceptions e he).2 tv htv).2
  · exact hs.default.2
  · exact hs.present.2

lemma writeProperty_refused {σ : Type} {b : Base σ} {w : Write} {e : ObjectErr}
    (h : (b.writeProperty w).2.1 = .error e) : (b.writeProperty w).1 = b := by
  unfold Base.writeProperty at h ⊢
  cases hw : b.writeLocked w with
  | error e => rfl
  | ok r => simp [hw] at h

/-- In every run of a Schedule all its values are NULL or of its datatype. A refused write leaves the object as it was,
and so do the setters that fix the datatype in place. -/
theorem schedule_datatype :
    (∀ describe cfg o₀, newSchedule describe cfg = .ok o₀ → ∀ notify o, Reachable { o₀ with notify } Schedule.step o →
      (∀ v ∈ o.state.values, v.kind = .null ∨ v.kind = o.state.kind) ∧
        ∀ w e, (Base.writeProperty o w).2.1 = .error e → (Base.writeProperty o w).1 = o) ∧
    Setter.InPlace ScheduleState.writePresentValue ScheduleState.writePresentValueInPlace ∧
    Setter.InPlace ScheduleState.writeWeekly ScheduleState.writeWeeklyInPlace ∧
    Setter.InPlace ScheduleState.writeExceptions ScheduleState.writeExceptionsInPlace := by
  refine ⟨fun describe cfg o₀ ho₀ notify o ho => ⟨fun v hv => ?_, fun w e => writeProperty_refused⟩,
    writePresentValue_inPlace, writeWeekly_inPlace, writeExceptions_inPlace⟩
  exact kind_of_mem_values (schedule_reachable ho₀ ho).keeping.state hv

def mixedDay : Write :=
  ⟨⟨propertyWeeklySchedule, some 1⟩,
    encodeDailySchedule ⟨[⟨⟨8, 0, 0, 0⟩, .real 0⟩, ⟨⟨9, 0, 0, 0⟩, .boolean true⟩]⟩, 0⟩

/-- A Schedule whose datatype is undetermined refuses a day with values of two datatypes. -/
theorem schedule_datatype_mixedDay : ∃ o₀ : Schedule,
    newSchedule (fun _ => "") { instanceNumber := 1, name := [77] } = .ok o₀ ∧
      (Base.writeProperty o₀ mixedDay).2.1 = .error .invalidDataType ∧
      ∀ v ∈ (Base.writeProperty o₀ mixedDay).1.state.values,
        v.kind = .null ∨ v.kind = (Base.writeProperty o₀ mixedDay).1.state.kind := by
  obtain ⟨o₀, ho₀⟩ := Except.exists_of_isOk
    (by decide +kernel : (newSchedule (fun _ => "") { instanceNumber := 1, name := [77] }).isOk = true)
  refine ⟨o₀, ho₀, ?_,
    (schedule_datatype.1 _ _ _ ho₀ o₀.notify _ (.step (.writeProperty mixedDay) .init trivial rfl)).1⟩
  cases ho₀
  rfl

end GoBacnet.Proofs
