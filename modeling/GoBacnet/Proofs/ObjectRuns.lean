import GoBacnet.Lib.Transition
import GoBacnet.Proofs.ListServices
import GoBacnet.Proofs.ListValues
import GoBacnet.Proofs.ObjectProperties

/-!
# Runs of the objects that hold lists

The operations on a Calendar, a Schedule, a Notification Class and a Structured View, and what holds of such an object
in every state that it reaches.
-/

namespace GoBacnet.Server

inductive CalendarOp where
  | writeProperty (w : Write)
  | setDateList (entries : List CalendarEntry)
  | evaluate (today : Date)
  | addListElements (prop : PropertyReference) (els : List Element)
  | removeListElements (prop : PropertyReference) (els : List Element)

def Calendar.step (c : Calendar) : CalendarOp → Option Calendar
  | .writeProperty w => some (Base.writeProperty c w).1
  | .setDateList entries => some (Calendar.setDateList c entries).1
  | .evaluate today => some (Calendar.evaluate c today).1
  | .addListElements prop els => some (Calendar.addListElements c prop els).1
  | .removeListElements prop els => some (Calendar.removeListElements c prop els).1

/-- The operations on a Schedule. A poll is given what it asks of the device and of the clock. -/
inductive ScheduleOp where
  | writeProperty (w : Write)
  | poll (active : ObjectIdentifier → Date → Bool) (self : ObjectIdentifier) (d : Date) (t : Time)

def Schedule.step (o : Schedule) : ScheduleOp → Option Schedule
  | .writeProperty w => some (Base.writeProperty o w).1
  | .poll active self d t => some (Schedule.poll active self o d t).1

inductive NotificationClassOp where
  | writeProperty (w : Write)
  | addListElements (prop : PropertyReference) (els : List Element)
  | removeListElements (prop : PropertyReference) (els : List Element)

def NotificationClass.step (nc : NotificationClass) : NotificationClassOp → Option NotificationClass
  | .writeProperty w => some (Base.writeProperty nc w).1
  | .addListElements prop els => some (NotificationClass.addListElements nc prop els).1
  | .removeListElements prop els => some (NotificationClass.removeListElements nc prop els).1

def StructuredView.step (o : StructuredView) (w : Write) : Option StructuredView := some (Base.writeProperty o w).1

/-! ## Invariants -/

variable {σ : Type}

def Setter.Keeps (inv : σ → Prop) (set : Setter σ) : Prop :=
  ∀ w s s' changed, inv s → set w s = .ok (s', changed) → inv s'

structure Base.Keeping (inv : σ → Prop) (b : Base σ) : Prop where
  state : inv b.state
  setters : ∀ id p, b.props.lookup id = some p → ∀ set ∈ p.set, set.Keeps inv

structure CalendarState.Valid (s : CalendarState) : Prop where
  entries : ∀ e ∈ s.entries, e.Valid
  length : s.entries.length ≤ s.max
  current : s.pv = s.contains s.today

def ValueOf (kind : ValueKind) (v : ApplicationValue) : Prop := primitive v = true ∧ (v.kind = .null ∨ v.kind = kind)

structure ScheduleState.Valid (s : ScheduleState) : Prop where
  weekly : ∀ d ∈ s.weekly.toList, ∀ tv ∈ d.daySchedule, ValueOf s.kind tv.value
  exceptions : ∀ e ∈ s.exceptions, e.Valid ∧ ∀ tv ∈ e.listOfTimeValues, ValueOf s.kind tv.value
  default : ValueOf s.kind s.default
  present : ValueOf s.kind s.pv
  length : s.exceptions.length ≤ s.maxExceptions
  references : s.refs.length ≤ s.maxReferences

def NotificationClassState.Valid (s : NotificationClassState) : Prop := s.recipients.length ≤ s.maxRecipients

structure StructuredViewState.Valid (s : StructuredViewState) : Prop where
  devices : ∀ r ∈ s.subs, ∀ dev ∈ r.device, dev.type = objectTypeDevice
  length : s.subs.length ≤ s.max
  annotations : ∀ texts ∈ s.annotations, texts.length = s.subs.length

end GoBacnet.Server

namespace GoBacnet.Proofs

open GoBacnet.Server Transition

/-! ## Objects that keep an invariant -/

section Keeping

variable {σ : Type} {inv : σ → Prop} {b : Base σ}

lemma keeping_define (hb : b.Keeping inv) (id : UInt32) {p : Property σ} (hp : ∀ set ∈ p.set, set.Keeps inv) :
    (b.define id p).Keeping inv := by
  refine ⟨hb.state, fun id' q hq => ?_⟩
  rw [lookup_define] at hq
  split_ifs at hq
  · cases hq
    exact hp
  · exact hb.setters id' q hq

lemma keeping_stored (hb : b.Keeping inv) (id : UInt32) {p : Property σ} (hp : p.set = none) :
    (b.define id p).Keeping inv :=
  keeping_define hb id (by simp [hp])

lemma keeping_setter (hb : b.Keeping inv) (id : UInt32) {p : Property σ} {set : Setter σ} (hp : p.set = some set)
    (hset : set.Keeps inv) : (b.define id p).Keeping inv :=
  keeping_define hb id (by simpa [hp] using hset)

lemma keeping_new (id : ObjectIdentifier) (name : Octets) {s : σ} (hs : inv s) : (Base.new id name s).Keeping inv := by
  have hempty : Base.Keeping inv { id, name, order := [], props := ∅, state := s } := ⟨hs, by simp⟩
  exact keeping_stored (keeping_stored (keeping_stored (keeping_stored hempty _ rfl) _ rfl) _ rfl) _ rfl

lemma keeping_text (hb : b.Keeping inv) (id : UInt32) (text : Octets) :
    (if text = [] then b else b.define id (textProperty text)).Keeping inv := by
  split_ifs
  · exact hb
  · exact keeping_stored hb id rfl

lemma keeping_state (hb : b.Keeping inv) {s : σ} (hs : inv s) : Base.Keeping inv { b with state := s } :=
  ⟨hs, hb.setters⟩

lemma keeping_notify (hb : b.Keeping inv) (notify : Bool) : Base.Keeping inv { b with notify } := ⟨hb.state, hb.setters⟩

lemma keeping_writeProperty (hb : b.Keeping inv) (w : Write) : (b.writeProperty w).1.Keeping inv := by
  unfold Base.writeProperty
  cases hw : b.writeLocked w with
  | error e => exact hb
  | ok r =>
    obtain ⟨b', changed⟩ := r
    obtain ⟨p, hp, -, ⟨set, hset, s, hs, rfl⟩ | ⟨-, p', hp', rfl, -⟩⟩ := writeLocked_cases hw
    · exact keeping_state hb (hb.setters _ p hp set hset w b.state s changed hb.state hs)
    · refine ⟨hb.state, fun id q hq => ?_⟩
      rw [show (b.props.insert w.property.identifier p').lookup id =
        if id = w.property.identifier then some p' else b.props.lookup id from Table.lookup_insert_eq ..] at hq
      split_ifs at hq
      · cases hq
        rw [(store_eq hp').1]
        exact hb.setters _ p hp
      · exact hb.setters id q hq

section Modify

variable {α : Type} {list : UInt32} {prop : PropertyReference} {els : List Element}
variable {parse : List Element → Except ListError (List α)} {change : σ → List α → Except ListError (σ × List UInt32)}

lemma modifyList_cases (b : Base σ) (list : UInt32) (prop : PropertyReference) (els : List Element)
    (parse : List Element → Except ListError (List α)) (change : σ → List α → Except ListError (σ × List UInt32)) :
    (∃ e, modifyList b list prop els parse change = (b, .error e, []) ∧
      ∀ items, prop = ⟨list, none⟩ → parse els = .ok items → change b.state items = .error e) ∨
    ∃ items s changed, prop = ⟨list, none⟩ ∧ parse els = .ok items ∧ change b.state items = .ok (s, changed) ∧
      modifyList b list prop els parse change = ({ b with state := s }, .ok (), b.report changed) := by
  unfold modifyList
  cases h : (do
    listProperty b list prop
    let items ← parse els
    change b.state items : Except ListError (σ × List UInt32)) with
  | error e =>
    refine .inl ⟨e, rfl, fun items hprop hparse => ?_⟩
    simpa [hprop, listProperty, hparse] using h
  | ok r =>
    obtain ⟨s, changed⟩ := r
    obtain ⟨_, hprop, h⟩ := Except.bind_eq_ok_iff.mp h
    obtain ⟨items, hitems, h⟩ := Except.bind_eq_ok_iff.mp h
    refine .inr ⟨items, s, changed, ?_, hitems, h, rfl⟩
    unfold listProperty at hprop
    rcases Except.ite_eq_ok_iff.mp hprop with ⟨-, hprop⟩ | ⟨hid, hprop⟩
    · split at hprop <;> cases hprop
    · obtain ⟨hidx, -⟩ := Except.check_eq_ok_iff.mp hprop
      obtain ⟨id, idx⟩ := prop
      simp_all

lemma modifyList_keeping (hb : b.Keeping inv) {id : UInt32} {q : Property σ} (hq : b.props.lookup id = some q)
    (hchange : ∀ items s changed, parse els = .ok items → change b.state items = .ok (s, changed) → inv s) :
    (modifyList b list prop els parse change).1.Keeping inv ∧
      (modifyList b list prop els parse change).1.props.lookup id = some q := by
  rcases modifyList_cases b list prop els parse change with ⟨e, heq, -⟩ | ⟨items, s, ch, -, hitems, hs, heq⟩
  · rw [heq]
    exact ⟨hb, hq⟩
  · rw [heq]
    exact ⟨keeping_state hb (hchange items s ch hitems hs), hq⟩

end Modify

end Keeping

/-! ## Calendars -/

section Calendar

variable {s : CalendarState} {c : Calendar}

lemma setEntries_fst (s : CalendarState) (entries : List CalendarEntry) :
    (s.setEntries entries).1 = { s with entries, pv := entries.any (entryMatches · s.today) } := by
  unfold CalendarState.setEntries CalendarState.contains
  dsimp only
  split_ifs with h
  · rfl
  · rw [not_not.mp h]

lemma evaluate_fst (s : CalendarState) (today : Date) :
    (s.evaluate today).1 = { s with today, pv := s.entries.any (entryMatches · today) } := by
  unfold CalendarState.evaluate CalendarState.contains
  dsimp only
  split_ifs with h
  · rfl
  · rw [not_not.mp h]

lemma setEntries_valid {entries : List CalendarEntry} (hentries : ∀ e ∈ entries, e.Valid)
    (hlength : entries.length ≤ s.max) : (s.setEntries entries).1.Valid := by
  rw [setEntries_fst]
  exact ⟨hentries, hlength, rfl⟩

lemma checkDateList_eq_ok_iff {entries : List CalendarEntry} {max : Nat} :
    checkDateList entries max = .ok () ↔ entries.length ≤ max ∧ ∀ e ∈ entries, e.Valid := by
  unfold checkDateList
  rw [Except.check_eq_ok_iff, not_lt]
  refine and_congr_right fun _ => ?_
  cases hfind : entries.findIdx? fun e => !(calendarEntryElement e).isOk with
  | none =>
    rw [List.findIdx?_eq_none_iff] at hfind
    simpa [calendarEntryElement_isOk_iff] using hfind
  | some i =>
    obtain ⟨hi, hnot, -⟩ := List.findIdx?_eq_some_iff_getElem.mp hfind
    simp only [reduceCtorEq, false_iff, not_forall]
    refine ⟨entries[i], List.getElem_mem hi, fun hvalid => ?_⟩
    simp [calendarEntryElement_isOk_iff.mpr hvalid] at hnot

lemma writeDateList_keeps : Setter.Keeps CalendarState.Valid CalendarState.writeDateList := by
  intro w s s' changed hs h
  obtain ⟨-, h⟩ := scalarSetter_eq_ok_iff.mp h
  split at h
  · cases h
  · next entries hparse =>
    obtain ⟨hlength, h⟩ := Except.check_eq_ok_iff.mp h
    have heq : s' = (s.setEntries entries).1 := congrArg Prod.fst (Except.ok.inj h).symm
    rw [heq]
    exact setEntries_valid (valid_of_parseEntries hparse) (not_lt.mp hlength)

lemma newCalendar_keeping {today : Date} {cfg : CalendarConfig} (h : newCalendar today cfg = .ok c) :
    c.Keeping CalendarState.Valid ∧ c.props.lookup propertyDateList = some dateListProperty := by
  unfold newCalendar at h
  obtain ⟨-, h⟩ := Except.check_eq_ok_iff.mp h
  obtain ⟨-, h⟩ := Except.check_eq_ok_iff.mp h
  obtain ⟨_, hcheck, rfl⟩ := Except.map_eq_ok_iff.mp h
  obtain ⟨hlength, hentries⟩ := checkDateList_eq_ok_iff.mp hcheck
  refine ⟨?_, by simp⟩
  have hnew := keeping_text (keeping_new ⟨objectTypeCalendar, cfg.instanceNumber⟩ cfg.name
    (⟨hentries, hlength, rfl⟩ : CalendarState.Valid ⟨_, cfg.dateList, today, cfg.dateList.any (entryMatches · today)⟩))
    propertyDescription cfg.description
  exact keeping_setter (keeping_stored hnew _ rfl) _ rfl writeDateList_keeps

lemma calendar_step {c' : Calendar} {op : CalendarOp}
    (hc : c.Keeping CalendarState.Valid ∧ c.props.lookup propertyDateList = some dateListProperty)
    (h : Calendar.step c op = some c') :
    c'.Keeping CalendarState.Valid ∧ c'.props.lookup propertyDateList = some dateListProperty := by
  obtain ⟨hkeep, hlookup⟩ := hc
  cases op with
  | writeProperty w =>
    cases h
    exact ⟨keeping_writeProperty hkeep w, lookup_writeProperty hlookup rfl w⟩
  | setDateList entries =>
    cases h
    unfold Calendar.setDateList
    cases hcheck : checkDateList entries c.state.max with
    | error e => exact ⟨hkeep, hlookup⟩
    | ok _ =>
      obtain ⟨hlength, hentries⟩ := checkDateList_eq_ok_iff.mp hcheck
      exact ⟨keeping_state hkeep (setEntries_valid hentries hlength), hlookup⟩
  | evaluate today =>
    cases h
    have hvalid : (c.state.evaluate today).1.Valid := by
      rw [evaluate_fst]
      exact ⟨hkeep.state.entries, hkeep.state.length, rfl⟩
    exact ⟨keeping_state hkeep hvalid, hlookup⟩
  | addListElements prop els =>
    cases h
    refine modifyList_keeping hkeep hlookup fun add s ch hparse hadd => ?_
    obtain ⟨entries, hentries, hs⟩ := Except.map_eq_ok_iff.mp hadd
    obtain rfl : (c.state.setEntries entries).1 = s := congrArg Prod.fst hs
    rcases addItems_cases (fun a b => beq_iff_eq) c.state.max add c.state.entries with ⟨heq, hfits⟩ | ⟨e, heq, -⟩
    · obtain rfl := Except.ok.inj (heq.symm.trans hentries)
      refine setEntries_valid (fun e he => ?_) (length_added_le hkeep.state.length hfits)
      exact (mem_added.mp he).elim (hkeep.state.entries e) (valid_of_parseEntries hparse e)
    · cases heq.symm.trans hentries
  | removeListElements prop els =>
    cases h
    refine modifyList_keeping hkeep hlookup fun rm s ch hparse hrm => ?_
    obtain ⟨entries, hentries, hs⟩ := Except.map_eq_ok_iff.mp hrm
    obtain rfl : (c.state.setEntries entries).1 = s := congrArg Prod.fst hs
    rcases removeItems_cases (fun a b => beq_iff_eq) rm c.state.entries with ⟨heq, -⟩ | ⟨e, heq, -⟩
    · obtain rfl := Except.ok.inj (heq.symm.trans hentries)
      have hsub := List.diff_sublist c.state.entries rm
      exact setEntries_valid (fun e he => hkeep.state.entries e (hsub.subset he)) (hsub.length_le.trans hkeep.state.length)
    · cases heq.symm.trans hentries

lemma calendar_reachable {today : Date} {cfg : CalendarConfig} {c₀ : Calendar} (h : newCalendar today cfg = .ok c₀)
    {notify : Bool} (hc : Reachable { c₀ with notify } Calendar.step c) :
    c.Keeping CalendarState.Valid ∧ c.props.lookup propertyDateList = some dateListProperty := by
  obtain ⟨hkeep, hlookup⟩ := newCalendar_keeping h
  exact hc.invariant (fun c => c.Keeping CalendarState.Valid ∧ c.props.lookup propertyDateList = some dateListProperty)
    ⟨keeping_notify hkeep notify, hlookup⟩ fun _ _ _ hs _ hstep => calendar_step hs hstep

end Calendar

/-! ## Schedules -/

section Schedule

variable {kind kind' : ValueKind} {v : ApplicationValue}

variable {tvs : List ScheduledTimeValue} {e : SpecialEvent}

def Fixes (kind kind' : ValueKind) : Prop := kind' = kind ∨ kind = .null

lemma Fixes.refl (kind : ValueKind) : Fixes kind kind := .inl rfl

lemma Fixes.trans {kind'' : ValueKind} (h : Fixes kind kind') (h' : Fixes kind' kind'') : Fixes kind kind'' := by
  rcases h with rfl | rfl
  · exact h'
  · exact .inr rfl

lemma valueOf_fixes (hv : ValueOf kind v) (h : Fixes kind kind') : ValueOf kind' v := by
  rcases h with rfl | rfl
  · exact hv
  · exact ⟨hv.1, .inl (or_self_iff.mp hv.2)⟩

lemma checkValue_eq_ok_iff :
    checkValue kind v = .ok kind' ↔ primitive v = true ∧ kind' = (if v.kind = .null then kind else v.kind) ∧
      (v.kind = .null ∨ kind = .null ∨ v.kind = kind) := by
  unfold checkValue
  rw [Except.check_eq_ok_iff]
  by_cases hprim : primitive v = true
  · by_cases hv : v.kind = .null
    · simp [hprim, hv, eq_comm]
    · by_cases hk : kind = .null
      · simp [hprim, hv, hk, eq_comm]
      · by_cases heq : v.kind = kind
        · simp [hprim, hk, heq, eq_comm]
        · simp [hprim, hv, hk, heq]
  · simp [hprim]

lemma valueOf_of_checkValue (h : checkValue kind v = .ok kind') : Fixes kind kind' ∧ ValueOf kind' v := by
  obtain ⟨hprim, rfl, hcases⟩ := checkValue_eq_ok_iff.mp h
  split_ifs with hv
  · exact ⟨.inl rfl, hprim, .inl hv⟩
  · refine ⟨?_, hprim, .inr rfl⟩
    rcases hcases with h | h | h
    · exact (hv h).elim
    · exact .inr h
    · exact .inl h

lemma checkValue_of_valueOf (h : ValueOf kind v) : checkValue kind v = .ok kind := by
  refine checkValue_eq_ok_iff.mpr ⟨h.1, ?_, ?_⟩
  · split_ifs with hv
    · rfl
    · exact (h.2.resolve_left hv).symm
  · rcases h.2 with hv | hv
    · exact .inl hv
    · exact .inr (.inr hv)

lemma foldlM_check {ι : Type} {check : ValueKind → ι → Except ObjectErr ValueKind} (good : ValueKind → ι → Prop)
    {xs : List ι} (h : xs.foldlM check kind = .ok kind')
    (hcheck : ∀ kind x kind', check kind x = .ok kind' → Fixes kind kind' ∧ good kind' x)
    (hgood : ∀ kind kind' x, Fixes kind kind' → good kind x → good kind' x) :
    Fixes kind kind' ∧ ∀ x ∈ xs, good kind' x := by
  induction xs generalizing kind with
  | nil =>
    cases h
    exact ⟨.refl _, by simp⟩
  | cons x xs ih =>
    obtain ⟨mid, hx, hxs⟩ := Except.foldlM_cons_eq_ok_iff.mp h
    obtain ⟨hfix, hgx⟩ := hcheck kind x mid hx
    obtain ⟨hfix', hgxs⟩ := ih hxs
    exact ⟨hfix.trans hfix', List.forall_mem_cons.mpr ⟨hgood _ _ _ hfix' hgx, hgxs⟩⟩

lemma foldlM_unchanged {ι : Type} {check : ValueKind → ι → Except ObjectErr ValueKind} {xs : List ι}
    (h : ∀ x ∈ xs, check kind x = .ok kind) : xs.foldlM check kind = .ok kind := by
  induction xs with
  | nil => rfl
  | cons x xs ih =>
    exact Except.foldlM_cons_eq_ok_iff.mpr
      ⟨kind, h x List.mem_cons_self, ih fun y hy => h y (List.mem_cons_of_mem x hy)⟩

def ValuesOf (kind : ValueKind) (tvs : List ScheduledTimeValue) : Prop := ∀ tv ∈ tvs, ValueOf kind tv.value

lemma valuesOf_fixes (h : ValuesOf kind tvs) (hfix : Fixes kind kind') :
    ValuesOf kind' tvs := fun tv htv => valueOf_fixes (h tv htv) hfix

lemma valuesOf_of_checkTimeValues (h : checkTimeValues kind tvs = .ok kind') :
    Fixes kind kind' ∧ ValuesOf kind' tvs :=
  foldlM_check (fun kind (tv : ScheduledTimeValue) => ValueOf kind tv.value) h (fun _ _ _ h => valueOf_of_checkValue h)
    fun _ _ _ hfix hv => valueOf_fixes hv hfix

lemma checkTimeValues_of_valuesOf (h : ValuesOf kind tvs) :
    checkTimeValues kind tvs = .ok kind :=
  foldlM_unchanged fun tv htv => checkValue_of_valueOf (h tv htv)

def EventOf (kind : ValueKind) (e : SpecialEvent) : Prop := e.Valid ∧ ValuesOf kind e.listOfTimeValues

lemma eventOf_fixes (hfix : Fixes kind kind') (h : EventOf kind e) : EventOf kind' e :=
  ⟨h.1, valuesOf_fixes h.2 hfix⟩

lemma checkEvent_eq_ok_iff : checkEvent kind e = .ok kind' ↔ (1 ≤ e.eventPriority ∧ e.eventPriority
    ≤ 16) ∧ (e.periodObject = none → e.calendarEntry.Valid) ∧ checkTimeValues kind e.listOfTimeValues = .ok kind' :=
    by
  unfold checkEvent
  rw [Except.check_eq_ok_iff, Except.check_eq_ok_iff, not_or, UInt8.not_lt, gt_iff_lt, UInt8.not_lt]
  refine and_congr_right fun _ => and_congr_left fun _ => ?_
  simp [← calendarEntryElement_isOk_iff]

lemma eventOf_of_checkEvent (h : checkEvent kind e = .ok kind') :
    Fixes kind kind' ∧ EventOf kind' e := by
  obtain ⟨hprio, hentry, htvs⟩ := checkEvent_eq_ok_iff.mp h
  obtain ⟨hfix, hvalues⟩ := valuesOf_of_checkTimeValues htvs
  exact ⟨hfix, ⟨hprio, hentry, fun tv htv => (hvalues tv htv).1⟩, hvalues⟩

lemma eventOf_normal (h : EventOf kind e) : EventOf kind e.normal := by
  refine ⟨⟨h.1.priority, fun hnone => ?_, h.1.values⟩, h.2⟩
  have hobject : e.periodObject = none := hnone
  simpa [SpecialEvent.normal, hobject] using valid_normal (h.1.entry hobject)

lemma checkEvent_of_eventOf (h : EventOf kind e) : checkEvent kind e = .ok kind :=
  checkEvent_eq_ok_iff.mpr ⟨h.1.priority, h.1.entry, checkTimeValues_of_valuesOf h.2⟩

variable {s : ScheduleState} {o : Schedule}

lemma valid_fixes (hs : s.Valid) (hfix : Fixes s.kind kind) : ScheduleState.Valid { s with kind } where
  weekly d hd := valuesOf_fixes (hs.weekly d hd) hfix
  exceptions e he := eventOf_fixes hfix (hs.exceptions e he)
  default := valueOf_fixes hs.default hfix
  present := valueOf_fixes hs.present hfix
  length := hs.length
  references := hs.references

lemma writePresentValue_keeps : Setter.Keeps ScheduleState.Valid ScheduleState.writePresentValue := by
  intro w s s' changed hs h
  obtain ⟨-, h⟩ := scalarSetter_eq_ok_iff.mp h
  obtain ⟨-, h⟩ := Except.check_eq_ok_iff.mp h
  obtain ⟨kind, hkind, h⟩ := Except.bind_eq_ok_iff.mp h
  obtain ⟨hfix, hv⟩ := valueOf_of_checkValue hkind
  have hvalid := valid_fixes hs hfix
  split_ifs at h
  · obtain ⟨rfl, -⟩ := Prod.mk.inj (Except.ok.inj h)
    exact hvalid
  · obtain ⟨rfl, -⟩ := Prod.mk.inj (Except.ok.inj h)
    exact { hvalid with present := hv }

lemma writeEffectivePeriod_keeps : Setter.Keeps ScheduleState.Valid ScheduleState.writeEffectivePeriod := by
  intro w s s' changed hs h
  obtain ⟨-, h⟩ := scalarSetter_eq_ok_iff.mp h
  obtain ⟨-, h⟩ := Except.check_eq_ok_iff.mp h
  split at h
  · cases h
  · obtain ⟨rfl, -⟩ := Prod.mk.inj (Except.ok.inj h)
    exact { hs with }

lemma writeWeekly_keeps : Setter.Keeps ScheduleState.Valid ScheduleState.writeWeekly := by
  intro w s s' changed hs h
  obtain ⟨-, h⟩ := Except.check_eq_ok_iff.mp h
  obtain ⟨weekly, -, h⟩ := Except.bind_eq_ok_iff.mp h
  obtain ⟨kind, hkind, h⟩ := Except.bind_eq_ok_iff.mp h
  obtain ⟨rfl, -⟩ := Prod.mk.inj (Except.ok.inj h)
  obtain ⟨hfix, hdays⟩ := foldlM_check (fun kind d => ValuesOf kind d.daySchedule) hkind
    (fun _ _ _ h => valuesOf_of_checkTimeValues h) fun _ _ _ hfix hv => valuesOf_fixes hv hfix
  exact { valid_fixes hs hfix with weekly := hdays }

lemma writeExceptions_keeps : Setter.Keeps ScheduleState.Valid ScheduleState.writeExceptions := by
  intro w s s' changed hs h
  obtain ⟨-, h⟩ := Except.check_eq_ok_iff.mp h
  obtain ⟨events, -, h⟩ := Except.bind_eq_ok_iff.mp h
  obtain ⟨exceptions, hnext, h⟩ := Except.bind_eq_ok_iff.mp h
  obtain ⟨kind, hkind, h⟩ := Except.bind_eq_ok_iff.mp h
  obtain ⟨rfl, -⟩ := Prod.mk.inj (Except.ok.inj h)
  obtain ⟨hfix, hevents⟩ := foldlM_check EventOf hkind (fun _ _ _ h => eventOf_of_checkEvent h)
    fun _ _ _ => eventOf_fixes
  have hlength : exceptions.length ≤ s.maxExceptions := by
    unfold ScheduleState.nextExceptions at hnext
    split at hnext
    · obtain ⟨_, -, hnext⟩ := Except.bind_eq_ok_iff.mp hnext
      split at hnext
      · cases hnext
        simpa using hs.length
      · cases hnext
    · obtain ⟨hle, hnext⟩ := Except.check_eq_ok_iff.mp hnext
      cases hnext
      exact not_lt.mp hle
  exact { valid_fixes hs hfix with exceptions := hevents, length := hlength }

lemma writeReferences_keeps : Setter.Keeps ScheduleState.Valid ScheduleState.writeReferences := by
  intro w s s' changed hs h
  obtain ⟨-, h⟩ := scalarSetter_eq_ok_iff.mp h
  obtain ⟨refs, -, h⟩ := Except.bind_eq_ok_iff.mp h
  obtain ⟨hle, h⟩ := Except.check_eq_ok_iff.mp h
  obtain ⟨rfl, -⟩ := Prod.mk.inj (Except.ok.inj h)
  exact { hs with references := not_lt.mp hle }

lemma outOfService_keeps {σ : Type} {inv : σ → Prop} {get : σ → Bool} {put : σ → Bool → σ}
    (hput : ∀ s b, inv s → inv (put s b)) : ∀ set ∈ (outOfServiceProperty get put).set, Setter.Keeps inv set := by
  intro set hset w s s' changed hs h
  cases hset
  obtain ⟨-, h⟩ := scalarSetter_eq_ok_iff.mp h
  split at h
  · split_ifs at h
    · obtain ⟨rfl, -⟩ := Prod.mk.inj (Except.ok.inj h)
      exact hs
    · obtain ⟨rfl, -⟩ := Prod.mk.inj (Except.ok.inj h)
      exact hput s _ hs
  · cases h

structure ScheduleTable (o : Schedule) : Prop where
  keeping : o.Keeping ScheduleState.Valid
  weekly : o.props.lookup propertyWeeklySchedule = some weeklyScheduleProperty
  exceptions : o.props.lookup propertyExceptionSchedule = some exceptionScheduleProperty
  references : o.props.lookup propertyListOfObjectPropertyReferences = some referencesProperty

lemma defineProperties_table (hnew : o.Keeping ScheduleState.Valid) (cfg : ScheduleConfig) :
    ScheduleTable (o.defineProperties cfg) := by
  refine ⟨?_, by simp [Schedule.defineProperties, propertyWeeklySchedule, propertyExceptionSchedule,
      propertyScheduleDefault, propertyListOfObjectPropertyReferences, propertyPriorityForWriting, propertyStatusFlags,
      propertyReliability, propertyOutOfService], by simp [Schedule.defineProperties, propertyExceptionSchedule,
      propertyScheduleDefault, propertyListOfObjectPropertyReferences, propertyPriorityForWriting, propertyStatusFlags,
      propertyReliability, propertyOutOfService], by simp [Schedule.defineProperties,
      propertyListOfObjectPropertyReferences, propertyPriorityForWriting, propertyStatusFlags, propertyReliability,
      propertyOutOfService]⟩
  have htext := keeping_text hnew propertyDescription cfg.description
  exact keeping_define
    (keeping_stored (keeping_stored (keeping_stored
      (keeping_setter (keeping_stored
        (keeping_setter (keeping_setter (keeping_setter (keeping_setter htext _ rfl writePresentValue_keeps) _ rfl
          writeEffectivePeriod_keeps) _ rfl writeWeekly_keeps) _ rfl writeExceptions_keeps) _ rfl)
        _ rfl writeReferences_keeps) _ rfl) _ rfl) _ rfl)
    _ (outOfService_keeps fun s b hs => { hs with })

lemma foldlM_of_checkEach {ι : Type} {describe : ObjectErr → String} {what : String}
    {check : ValueKind → ι → Except ObjectErr ValueKind} {items : List ι}
    (h : checkEach describe what check items kind = .ok kind') : items.foldlM check kind = .ok kind' := by
  unfold checkEach at h
  revert h
  generalize 0 = i
  intro h
  induction items generalizing i kind with
  | nil => exact h
  | cons x items ih =>
    obtain ⟨mid, hx, hrest⟩ := Except.foldlM_cons_eq_ok_iff.mp h
    dsimp only at hx
    split at hx
    · next mid' hcheck =>
      obtain rfl := Except.ok.inj hx
      exact Except.foldlM_cons_eq_ok_iff.mpr ⟨mid', hcheck, ih (i + 1) hrest⟩
    · cases hx

lemma newSchedule_table {describe : ObjectErr → String} {cfg : ScheduleConfig} (h : newSchedule describe cfg = .ok o) :
    ScheduleTable o := by
  unfold newSchedule at h
  obtain ⟨-, h⟩ := Except.check_eq_ok_iff.mp h
  obtain ⟨-, h⟩ := Except.check_eq_ok_iff.mp h
  obtain ⟨-, h⟩ := Except.check_eq_ok_iff.mp h
  obtain ⟨hexceptions, h⟩ := Except.check_eq_ok_iff.mp h
  obtain ⟨hreferences, h⟩ := Except.check_eq_ok_iff.mp h
  obtain ⟨hprim, h⟩ := Except.check_eq_ok_iff.mp h
  obtain ⟨mid, hweek, h⟩ := Except.bind_eq_ok_iff.mp h
  obtain ⟨kind, hevents, h⟩ := Except.bind_eq_ok_iff.mp h
  cases h
  obtain ⟨hfix, hdays⟩ := foldlM_check (fun kind d => ValuesOf kind d.daySchedule) (foldlM_of_checkEach hweek)
    (fun _ _ _ h => valuesOf_of_checkTimeValues h) fun _ _ _ hfix hv => valuesOf_fixes hv hfix
  obtain ⟨hfix', hevents⟩ := foldlM_check EventOf (foldlM_of_checkEach hevents)
    (fun _ _ _ h => eventOf_of_checkEvent h) fun _ _ _ => eventOf_fixes
  have hdefault : ValueOf kind cfg.default :=
    valueOf_fixes ⟨by simpa using hprim, .inr rfl⟩ (hfix.trans hfix')
  refine defineProperties_table (keeping_new _ _ ?_) cfg
  exact ⟨fun d hd => valuesOf_fixes (hdays d hd) hfix', hevents, hdefault, hdefault, not_lt.mp hexceptions,
    not_lt.mp hreferences⟩

lemma valueAt_mem {t : Time} (h : valueAt tvs t = some v) : ∃ tv ∈ tvs, tv.value = v := by
  obtain ⟨tv, hbest, rfl⟩ := Option.map_eq_some_iff.mp h
  have hmem : ∀ b ∈ tvs.foldl (laterEntry t) none, b ∈ tvs := by
    refine List.foldlRecOn (motive := fun best => ∀ b ∈ best, b ∈ tvs) tvs (laterEntry t) (by simp) fun best hb x hx => ?_
    unfold laterEntry
    split_ifs
    · exact hb
    · simpa using hx
    · exact hb
  exact ⟨tv, hmem tv hbest, rfl⟩

lemma nonNull_valueOf (h : ValuesOf kind tvs) {t : Time}
    (hv : nonNull (valueAt tvs t) = some v) : ValueOf kind v := by
  obtain ⟨tv, htv, rfl⟩ := valueAt_mem (Option.filter_eq_some_iff.mp hv).1
  exact h tv htv

lemma evaluate_valueOf (hs : s.Valid) (active : ObjectIdentifier → Date → Bool) (d : Date) (t : Time) :
    ValueOf s.kind (evaluate active d t s.effective s.weekly s.exceptions s.default) := by
  have hbest : ∀ v ∈ (s.exceptions.foldl (betterEvent active d t) (none, 17)).1, ValueOf s.kind v := by
    refine List.foldlRecOn (motive := fun best => ∀ v ∈ best.1, ValueOf s.kind v) s.exceptions (betterEvent active d t)
      (nofun : ∀ v ∈ (none, 17).1, ValueOf s.kind v) fun best hb e he => ?_
    unfold betterEvent
    split_ifs
    · exact hb
    · split
      · next v hv =>
        have hvalue := nonNull_valueOf (hs.exceptions e he).2 hv
        simpa using hvalue
      · exact hb
  unfold evaluate
  split_ifs
  · exact hs.default
  · split
    · next v hv => exact hbest v hv
    · dsimp only
      have hday : ValuesOf s.kind ((s.weekly.toList[d.weekday.toNat - 1]?).getD {}).daySchedule := by
        cases hget : s.weekly.toList[d.weekday.toNat - 1]? with
        | none => simp [ValuesOf]
        | some day => exact hs.weekly day (List.mem_of_getElem? hget)
      cases hv : nonNull (valueAt ((s.weekly.toList[d.weekday.toNat - 1]?).getD {}).daySchedule t) with
      | none => exact hs.default
      | some v => exact nonNull_valueOf hday hv

lemma schedule_step {o' : Schedule} {op : ScheduleOp} (ho : ScheduleTable o) (h : Schedule.step o op = some o') :
    ScheduleTable o' := by
  cases op with
  | writeProperty w =>
    cases h
    exact ⟨keeping_writeProperty ho.keeping w, lookup_writeProperty ho.weekly rfl w,
      lookup_writeProperty ho.exceptions rfl w, lookup_writeProperty ho.references rfl w⟩
  | poll active self d t =>
    cases h
    have hs := ho.keeping.state
    have hstate : (Schedule.poll active self o d t).1 = { o with state := (Schedule.poll active self o d t).1.state } := by
      unfold Schedule.poll
      split_ifs <;> rfl
    have hvalid : (Schedule.poll active self o d t).1.state.Valid := by
      unfold Schedule.poll
      by_cases hoos : o.state.outOfService
      · simp only [hoos, if_true]
        exact { hs with }
      · simp only [hoos, Bool.false_eq_true, if_false, Base.update]
        split_ifs
        · exact { hs with }
        · exact { hs with present := evaluate_valueOf hs active d t }
    rw [hstate]
    exact ⟨keeping_state ho.keeping hvalid, ho.weekly, ho.exceptions, ho.references⟩

lemma schedule_reachable {describe : ObjectErr → String} {cfg : ScheduleConfig} {o₀ : Schedule}
    (h : newSchedule describe cfg = .ok o₀) {notify : Bool} (ho : Reachable { o₀ with notify } Schedule.step o) :
    ScheduleTable o := by
  have h₀ := newSchedule_table h
  have hinit : ScheduleTable { o₀ with notify } :=
    ⟨keeping_notify h₀.keeping notify, h₀.weekly, h₀.exceptions, h₀.references⟩
  exact ho.invariant ScheduleTable hinit fun _ _ _ hs _ hstep => schedule_step hs hstep

end Schedule

/-! ## Notification Classes -/

section NotificationClass

variable {nc : NotificationClass}

lemma writePriority_keeps : Setter.Keeps NotificationClassState.Valid NotificationClassState.writePriority := by
  intro w s s' changed hs h
  unfold NotificationClassState.writePriority at h
  split at h
  · obtain ⟨-, h⟩ := Except.check_eq_ok_iff.mp h
    obtain ⟨p, -, h⟩ := Except.bind_eq_ok_iff.mp h
    obtain ⟨rfl, -⟩ := Prod.mk.inj (Except.ok.inj h)
    exact hs
  · split at h
    · obtain ⟨-, h⟩ := Except.check_eq_ok_iff.mp h
      obtain ⟨p₁, -, h⟩ := Except.bind_eq_ok_iff.mp h
      obtain ⟨p₂, -, h⟩ := Except.bind_eq_ok_iff.mp h
      obtain ⟨p₃, -, h⟩ := Except.bind_eq_ok_iff.mp h
      obtain ⟨rfl, -⟩ := Prod.mk.inj (Except.ok.inj h)
      exact hs
    · cases h

lemma writeAckRequired_keeps : Setter.Keeps NotificationClassState.Valid NotificationClassState.writeAckRequired := by
  intro w s s' changed hs h
  obtain ⟨-, h⟩ := scalarSetter_eq_ok_iff.mp h
  split at h
  · obtain ⟨rfl, -⟩ := Prod.mk.inj (Except.ok.inj h)
    exact hs
  · cases h

lemma writeRecipientList_keeps : Setter.Keeps NotificationClassState.Valid NotificationClassState.writeRecipientList := by
  intro w s s' changed hs h
  obtain ⟨-, h⟩ := scalarSetter_eq_ok_iff.mp h
  obtain ⟨-, h⟩ := Except.check_eq_ok_iff.mp h
  split at h
  · cases h
  · obtain ⟨hlength, h⟩ := Except.check_eq_ok_iff.mp h
    obtain ⟨rfl, -⟩ := Prod.mk.inj (Except.ok.inj h)
    exact not_lt.mp hlength

def NotificationClassTable (nc : NotificationClass) : Prop :=
  nc.Keeping NotificationClassState.Valid ∧ nc.props.lookup propertyRecipientList = some recipientListProperty

lemma newNotificationClass_table {cfg : NotificationClassConfig} (h : newNotificationClass cfg = .ok nc) :
    NotificationClassTable nc := by
  unfold newNotificationClass at h
  obtain ⟨-, h⟩ := Except.check_eq_ok_iff.mp h
  obtain ⟨-, h⟩ := Except.check_eq_ok_iff.mp h
  obtain ⟨hlength, h⟩ := Except.check_eq_ok_iff.mp h
  cases h
  refine ⟨?_, by simp⟩
  have hvalid : NotificationClassState.Valid ⟨_, cfg.priority.getD #v[255, 255, 255], cfg.ackRequired &&& 7,
      cfg.recipients⟩ := not_lt.mp hlength
  have hbase : Base.Keeping NotificationClassState.Valid (Base.new _ cfg.name _) :=
    keeping_new ⟨objectTypeNotificationClass, cfg.instanceNumber⟩ cfg.name hvalid
  have hnew := keeping_text hbase propertyDescription cfg.description
  exact keeping_setter (keeping_setter (keeping_setter (keeping_stored hnew _ rfl) _ rfl writePriority_keeps) _ rfl
    writeAckRequired_keeps) _ rfl writeRecipientList_keeps

lemma equal_iff (d o : Destination) : d.equal o = true ↔ d = o := by simp [Destination.equal]

lemma notificationClass_step {nc' : NotificationClass} {op : NotificationClassOp} (hnc : NotificationClassTable nc)
    (h : NotificationClass.step nc op = some nc') : NotificationClassTable nc' := by
  obtain ⟨hkeep, hlookup⟩ := hnc
  cases op with
  | writeProperty w =>
    cases h
    exact ⟨keeping_writeProperty hkeep w, lookup_writeProperty hlookup rfl w⟩
  | addListElements prop els =>
    cases h
    refine modifyList_keeping hkeep hlookup fun add s ch _ hadd => ?_
    obtain ⟨recipients, hrecipients, hs⟩ := Except.map_eq_ok_iff.mp hadd
    obtain ⟨rfl, -⟩ := Prod.mk.inj hs
    rcases addItems_cases equal_iff nc.state.maxRecipients add nc.state.recipients with ⟨heq, hfits⟩ | ⟨e, heq, -⟩
    · obtain rfl := Except.ok.inj (heq.symm.trans hrecipients)
      exact length_added_le hkeep.state hfits
    · cases heq.symm.trans hrecipients
  | removeListElements prop els =>
    cases h
    refine modifyList_keeping hkeep hlookup fun rm s ch _ hrm => ?_
    obtain ⟨recipients, hrecipients, hs⟩ := Except.map_eq_ok_iff.mp hrm
    obtain ⟨rfl, -⟩ := Prod.mk.inj hs
    rcases removeItems_cases equal_iff rm nc.state.recipients with ⟨heq, -⟩ | ⟨e, heq, -⟩
    · obtain rfl := Except.ok.inj (heq.symm.trans hrecipients)
      exact (List.diff_sublist nc.state.recipients rm).length_le.trans hkeep.state
    · cases heq.symm.trans hrecipients

lemma notificationClass_reachable {cfg : NotificationClassConfig} {nc₀ : NotificationClass}
    (h : newNotificationClass cfg = .ok nc₀) {notify : Bool}
    (hnc : Reachable { nc₀ with notify } NotificationClass.step nc) : NotificationClassTable nc := by
  obtain ⟨hkeep, hlookup⟩ := newNotificationClass_table h
  have hinit : NotificationClassTable { nc₀ with notify } := ⟨keeping_notify hkeep notify, hlookup⟩
  exact hnc.invariant NotificationClassTable hinit fun _ _ _ hs _ hstep => notificationClass_step hs hstep

end NotificationClass

/-! ## Structured Views -/

section StructuredView

variable {s : StructuredViewState} {o : StructuredView}

variable {cfg : StructuredViewConfig}

lemma writeNodeType_keeps : Setter.Keeps StructuredViewState.Valid StructuredViewState.writeNodeType := by
  intro w s s' changed hs h
  obtain ⟨-, h⟩ := scalarSetter_eq_ok_iff.mp h
  split at h
  · obtain ⟨-, h⟩ := Except.check_eq_ok_iff.mp h
    obtain ⟨rfl, -⟩ := Prod.mk.inj (Except.ok.inj h)
    exact { hs with }
  · cases h

lemma setSubordinates_valid {subs : List DeviceObjectReference}
    (hdevices : ∀ r ∈ subs, ∀ dev ∈ r.device, dev.type = objectTypeDevice) (hlength : subs.length ≤ s.max) :
    (s.setSubordinates subs).1.Valid := by
  unfold StructuredViewState.setSubordinates
  split
  · next texts htexts =>
    split_ifs with hne
    · refine ⟨hdevices, hlength, ?_⟩
      simp
      omega
    · exact ⟨hdevices, hlength, by simpa [htexts] using not_not.mp hne⟩
  · next hnone => exact ⟨hdevices, hlength, by simp [hnone]⟩

lemma writeSubordinates_keeps : Setter.Keeps StructuredViewState.Valid StructuredViewState.writeSubordinates := by
  intro w s s' changed hs h
  obtain ⟨-, h⟩ := Except.check_eq_ok_iff.mp h
  obtain ⟨subs, hsubs, h⟩ := Except.bind_eq_ok_iff.mp h
  have hdevices := device_of_parseSubordinates hsubs
  split at h
  · obtain ⟨_, -, h⟩ := Except.bind_eq_ok_iff.mp h
    split at h
    · next sub =>
      obtain ⟨rfl, -⟩ := Prod.mk.inj (Except.ok.inj h)
      refine ⟨fun r hr => ?_, by simpa using hs.length, by simpa using hs.annotations⟩
      rcases List.mem_or_eq_of_mem_set hr with hr | rfl
      · exact hs.devices r hr
      · exact hdevices _ (by simp)
    · cases h
  · obtain ⟨hlength, h⟩ := Except.check_eq_ok_iff.mp h
    have heq : s' = (s.setSubordinates subs).1 := congrArg Prod.fst (Except.ok.inj h).symm
    rw [heq]
    exact setSubordinates_valid hdevices (not_lt.mp hlength)

lemma arrayIndex_zero (idx : UInt32) : arrayIndex idx 0 ≠ .ok () := by
  unfold arrayIndex
  split_ifs with hzero hlt
  · nofun
  · nofun
  · exact absurd (UInt32.le_zero_iff.mp (UInt32.not_lt.mp hlt)) hzero

lemma writeAnnotations_keeps : Setter.Keeps StructuredViewState.Valid StructuredViewState.writeAnnotations := by
  intro w s s' changed hs h
  unfold StructuredViewState.writeAnnotations at h
  dsimp only at h
  split at h
  · obtain ⟨_, hidx, h⟩ := Except.bind_eq_ok_iff.mp h
    obtain ⟨text, -, h⟩ := Except.bind_eq_ok_iff.mp h
    obtain ⟨rfl, -⟩ := Prod.mk.inj (Except.ok.inj h)
    refine ⟨hs.devices, hs.length, fun texts htexts => ?_⟩
    cases htexts
    cases hann : s.annotations with
    | none => exact absurd hidx (by simpa [hann] using arrayIndex_zero _)
    | some texts => simpa using hs.annotations texts hann
  · obtain ⟨next, -, h⟩ := Except.bind_eq_ok_iff.mp h
    obtain ⟨hlength, h⟩ := Except.check_eq_ok_iff.mp h
    obtain ⟨rfl, -⟩ := Prod.mk.inj (Except.ok.inj h)
    refine ⟨hs.devices, hs.length, fun texts htexts => ?_⟩
    cases htexts
    exact not_not.mp hlength

def Annotated (s : StructuredViewState) : Prop := s.annotations.isSome

lemma writeNodeType_annotated : Setter.Keeps Annotated StructuredViewState.writeNodeType := by
  intro w s s' changed hs h
  obtain ⟨-, h⟩ := scalarSetter_eq_ok_iff.mp h
  split at h
  · obtain ⟨-, h⟩ := Except.check_eq_ok_iff.mp h
    obtain ⟨rfl, -⟩ := Prod.mk.inj (Except.ok.inj h)
    exact hs
  · cases h

lemma writeSubordinates_annotated : Setter.Keeps Annotated StructuredViewState.writeSubordinates := by
  intro w s s' changed hs h
  obtain ⟨-, h⟩ := Except.check_eq_ok_iff.mp h
  obtain ⟨subs, -, h⟩ := Except.bind_eq_ok_iff.mp h
  split at h
  · obtain ⟨_, -, h⟩ := Except.bind_eq_ok_iff.mp h
    split at h
    · obtain ⟨rfl, -⟩ := Prod.mk.inj (Except.ok.inj h)
      exact hs
    · cases h
  · obtain ⟨-, h⟩ := Except.check_eq_ok_iff.mp h
    have heq : s' = (s.setSubordinates subs).1 := congrArg Prod.fst (Except.ok.inj h).symm
    rw [heq]
    unfold StructuredViewState.setSubordinates
    split
    · split_ifs
      · rfl
      · exact hs
    · exact hs

lemma writeAnnotations_annotated : Setter.Keeps Annotated StructuredViewState.writeAnnotations := by
  intro w s s' changed hs h
  unfold StructuredViewState.writeAnnotations at h
  dsimp only at h
  split at h
  · obtain ⟨_, -, h⟩ := Except.bind_eq_ok_iff.mp h
    obtain ⟨text, -, h⟩ := Except.bind_eq_ok_iff.mp h
    obtain ⟨rfl, -⟩ := Prod.mk.inj (Except.ok.inj h)
    rfl
  · obtain ⟨next, -, h⟩ := Except.bind_eq_ok_iff.mp h
    obtain ⟨-, h⟩ := Except.check_eq_ok_iff.mp h
    obtain ⟨rfl, -⟩ := Prod.mk.inj (Except.ok.inj h)
    rfl

lemma keeping_optional {σ : Type} {inv : σ → Prop} {b : Base σ} (hb : b.Keeping inv) {absent : Prop} [Decidable absent]
    (id : UInt32) {p : Property σ} {set : Setter σ} (hp : p.set = some set) (hset : set.Keeps inv) :
    (if absent then b else b.define id p).Keeping inv := by
  split_ifs
  · exact hb
  · exact keeping_setter hb id hp hset

/-- A valid Structured View whose lists are written by their own setters. -/
structure StructuredViewTable (o : StructuredView) : Prop where
  keeping : o.Keeping StructuredViewState.Valid
  subordinates : o.props.lookup propertySubordinateList = some subordinateListProperty
  annotations : o.props.lookup propertySubordinateAnnotations = none ∨
    o.props.lookup propertySubordinateAnnotations = some annotationsProperty ∧ o.Keeping Annotated

lemma viewProperties_keeping {inv : StructuredViewState → Prop} (hnew : o.Keeping inv)
    (hnodeType : Setter.Keeps inv StructuredViewState.writeNodeType)
    (hsubordinates : Setter.Keeps inv StructuredViewState.writeSubordinates)
    (hannotations : Setter.Keeps inv StructuredViewState.writeAnnotations) (cfg : StructuredViewConfig) :
    (o.defineProperties cfg).Keeping inv := by
  have htext := keeping_text hnew propertyDescription cfg.description
  exact keeping_optional
    (keeping_setter (keeping_text (keeping_setter htext _ rfl hnodeType) _ _) _ rfl hsubordinates) _ rfl hannotations

lemma viewProperties_table (hnew : ∀ inv : StructuredViewState → Prop, inv o.state → o.Keeping inv)
    (hfresh : o.props.lookup propertySubordinateAnnotations = none) (hvalid : o.state.Valid)
    (hstate : o.state.annotations = cfg.annotations) : StructuredViewTable (o.defineProperties cfg) := by
  refine ⟨viewProperties_keeping (hnew _ hvalid) writeNodeType_keeps writeSubordinates_keeps writeAnnotations_keeps cfg,
    ?_, ?_⟩
  · unfold StructuredView.defineProperties
    dsimp only
    split_ifs <;> simp [propertySubordinateList, propertySubordinateAnnotations]
  · cases hannotations : cfg.annotations with
    | none =>
      left
      unfold StructuredView.defineProperties
      rw [propertySubordinateAnnotations] at hfresh ⊢
      simp only [hannotations]
      split_ifs <;> simp_all [propertySubordinateList, propertyNodeSubtype, propertyNodeType, propertyDescription]
    | some texts =>
      right
      have hannotated : Annotated o.state := by simp [Annotated, hstate, hannotations]
      refine ⟨?_, viewProperties_keeping (hnew _ hannotated) writeNodeType_annotated writeSubordinates_annotated
        writeAnnotations_annotated cfg⟩
      unfold StructuredView.defineProperties
      simp [hannotations]

lemma newStructuredView_table {typeText : UInt16 → String}
    (h : newStructuredView typeText cfg = .ok o) : StructuredViewTable o := by
  unfold newStructuredView at h
  obtain ⟨-, h⟩ := Except.check_eq_ok_iff.mp h
  obtain ⟨-, h⟩ := Except.check_eq_ok_iff.mp h
  obtain ⟨-, h⟩ := Except.check_eq_ok_iff.mp h
  obtain ⟨hlength, h⟩ := Except.check_eq_ok_iff.mp h
  obtain ⟨hannotations, h⟩ := Except.check_eq_ok_iff.mp h
  split at h
  · cases h
  · next hdevices =>
    cases h
    refine viewProperties_table (fun inv => keeping_new _ _) (by rfl) ?_ rfl
    refine ⟨fun r hr dev hdev => ?_, not_lt.mp hlength, fun texts htexts => ?_⟩
    · obtain ⟨i, hi, rfl⟩ := List.mem_iff_getElem.mp hr
      have hnone := List.find?_eq_none.mp hdevices _ (List.mk_mem_zipIdx_iff_getElem?.mpr (List.getElem?_eq_getElem hi))
      rw [Option.mem_def] at hdev
      simpa [hdev] using hnone
    · have hsome : cfg.annotations = some texts := htexts
      have hlength : texts.length = cfg.subordinates.length := by simpa [hsome] using hannotations
      exact hlength

lemma structuredView_step {o' : StructuredView} {w : Write} (ho : StructuredViewTable o)
    (h : StructuredView.step o w = some o') : StructuredViewTable o' := by
  cases h
  refine ⟨keeping_writeProperty ho.keeping w, lookup_writeProperty ho.subordinates rfl w, ?_⟩
  exact ho.annotations.imp (fun hnone => lookup_none_writeProperty hnone w) fun ⟨hsome, hkeep⟩ =>
    ⟨lookup_writeProperty hsome rfl w, keeping_writeProperty hkeep w⟩

lemma structuredView_reachable {typeText : UInt16 → String} {o₀ : StructuredView}
    (h : newStructuredView typeText cfg = .ok o₀) {notify : Bool}
    (ho : Reachable { o₀ with notify } StructuredView.step o) : StructuredViewTable o := by
  have h₀ := newStructuredView_table h
  have hinit : StructuredViewTable { o₀ with notify } :=
    ⟨keeping_notify h₀.keeping notify, h₀.subordinates, h₀.annotations.imp_right (.imp_right (keeping_notify · notify))⟩
  exact ho.invariant StructuredViewTable hinit fun _ _ _ hs _ hstep => structuredView_step hs hstep

/-- The bound on the subordinates; a bound that is not positive stands for 256. -/
def maxSubordinates (cfg : StructuredViewConfig) : Nat :=
  if cfg.maxSubordinates ≤ 0 then 256 else cfg.maxSubordinates.toNat

def BoundedBy (n : Nat) (s : StructuredViewState) : Prop := s.max = n

lemma writeNodeType_bounded (n : Nat) : Setter.Keeps (BoundedBy n) StructuredViewState.writeNodeType := by
  intro w s s' changed hs h
  obtain ⟨-, h⟩ := scalarSetter_eq_ok_iff.mp h
  split at h
  · obtain ⟨-, h⟩ := Except.check_eq_ok_iff.mp h
    cases h
    exact hs
  · cases h

lemma writeSubordinates_bounded (n : Nat) : Setter.Keeps (BoundedBy n) StructuredViewState.writeSubordinates := by
  intro w s s' changed hs h
  obtain ⟨-, h⟩ := Except.check_eq_ok_iff.mp h
  obtain ⟨subs, -, h⟩ := Except.bind_eq_ok_iff.mp h
  split at h
  · obtain ⟨_, -, h⟩ := Except.bind_eq_ok_iff.mp h
    split at h <;> cases h
    exact hs
  · obtain ⟨-, h⟩ := Except.check_eq_ok_iff.mp h
    have heq : s' = (s.setSubordinates subs).1 := congrArg Prod.fst (Except.ok.inj h).symm
    rw [heq]
    unfold StructuredViewState.setSubordinates
    split
    · split_ifs <;> exact hs
    · exact hs

lemma writeAnnotations_bounded (n : Nat) : Setter.Keeps (BoundedBy n) StructuredViewState.writeAnnotations := by
  intro w s s' changed hs h
  unfold StructuredViewState.writeAnnotations at h
  dsimp only at h
  split at h
  · obtain ⟨_, -, h⟩ := Except.bind_eq_ok_iff.mp h
    obtain ⟨text, -, h⟩ := Except.bind_eq_ok_iff.mp h
    cases h
    exact hs
  · obtain ⟨next, -, h⟩ := Except.bind_eq_ok_iff.mp h
    obtain ⟨-, h⟩ := Except.check_eq_ok_iff.mp h
    cases h
    exact hs

lemma newStructuredView_bounded {typeText : UInt16 → String}
    (h : newStructuredView typeText cfg = .ok o) : o.Keeping (BoundedBy (maxSubordinates cfg)) := by
  unfold newStructuredView at h
  iterate 5 obtain ⟨-, h⟩ := Except.check_eq_ok_iff.mp h
  split at h
  · cases h
  · cases h
    have hnew : BoundedBy (maxSubordinates cfg) ⟨cfg.nodeType, cfg.subordinates, cfg.annotations, _⟩ := rfl
    exact viewProperties_keeping (keeping_new _ _ hnew) (writeNodeType_bounded _) (writeSubordinates_bounded _)
      (writeAnnotations_bounded _) cfg

/-- Whatever was written, the two arrays that can be read agree in length, neither is longer than the configured
maximum, and a write that is refused leaves the object as it was. -/
theorem structuredView_consistent {typeText : UInt16 → String} {cfg : StructuredViewConfig} {o₀ : StructuredView}
    (h : newStructuredView typeText cfg = .ok o₀) {notify : Bool}
    (ho : Reachable { o₀ with notify } StructuredView.step o) :
    ∃ subs : List Element, o.readProperty ⟨propertySubordinateList, none⟩ = .ok (.constructed subs) ∧
      subs.length ≤ maxSubordinates cfg ∧
      (∀ v, o.readProperty ⟨propertySubordinateAnnotations, none⟩ = .ok v →
        ∃ texts : List Element, v = .constructed texts ∧ texts.length = subs.length ∧
          texts.length ≤ maxSubordinates cfg) ∧
      ∀ w e, (Base.writeProperty o w).2.1 = .error e → (Base.writeProperty o w).1 = o := by
  have htable := structuredView_reachable h ho
  have hbound : o.Keeping (BoundedBy (maxSubordinates cfg)) :=
    ho.invariant (Base.Keeping _) (keeping_notify (newStructuredView_bounded h) notify) fun s w s' hs _ hstep => by
      cases hstep
      exact keeping_writeProperty hs w
  have hlength : o.state.subs.length ≤ maxSubordinates cfg := hbound.state ▸ htable.keeping.state.length
  refine ⟨_, readProperty_state htable.subordinates rfl, by simpa using hlength, fun v hv => ?_, fun w e hw => ?_⟩
  · rcases htable.annotations with hnone | ⟨hsome, hannotated⟩
    · simp [Base.readProperty, hnone] at hv
    · obtain ⟨texts, htexts⟩ := Option.isSome_iff_exists.mp hannotated.state
      have hread := (readProperty_state hsome rfl).symm.trans hv
      have heq := htable.keeping.state.annotations texts htexts
      refine ⟨_, (Except.ok.inj hread).symm, ?_, ?_⟩ <;> simp [htexts, heq, hlength]
  · unfold Base.writeProperty at hw ⊢
    split at hw
    · rfl
    · cases hw

/-- A view of one object with its text. -/
def oneSubordinate : StructuredViewConfig where
  instanceNumber := 1
  name := [86]
  subordinates := [⟨none, ⟨0, 1⟩⟩]
  annotations := some [[65]]
  maxSubordinates := 2

/-- Two objects are written as the whole list. -/
def twoSubordinates : Write :=
  ⟨⟨propertySubordinateList, none⟩, .constructed [subordinateElement ⟨none, ⟨0, 2⟩⟩, subordinateElement ⟨none, ⟨0, 3⟩⟩], 0⟩

theorem structuredView_consistent_grown : ∃ o₀ subs texts, newStructuredView (fun _ => "") oneSubordinate = .ok o₀ ∧
    (Base.writeProperty o₀ twoSubordinates).1.readProperty ⟨propertySubordinateList, none⟩ = .ok (.constructed subs) ∧
    (Base.writeProperty o₀ twoSubordinates).1.readProperty ⟨propertySubordinateAnnotations, none⟩ =
      .ok (.constructed texts) ∧ texts.length = subs.length := by
  obtain ⟨o₀, h₀⟩ := Except.exists_of_isOk (by decide +kernel :
    (newStructuredView (fun _ => "") oneSubordinate).isOk = true)
  have hnotify : { o₀ with notify := false } = o₀ := by
    have heq : (newStructuredView (fun _ => "") oneSubordinate).toOption.map (·.notify) = some false := by
      decide +kernel
    rw [h₀] at heq
    obtain ⟨header, props, notify, state⟩ := o₀
    cases heq
    rfl
  have ho : Reachable { o₀ with notify := false } StructuredView.step (Base.writeProperty o₀ twoSubordinates).1 :=
    .step twoSubordinates .init trivial (by rw [hnotify]; rfl)
  obtain ⟨subs, hsubs, -, htexts, -⟩ := structuredView_consistent h₀ ho
  obtain ⟨v, hv⟩ := Except.exists_of_isOk (by
    have hok : (newStructuredView (fun _ => "") oneSubordinate).toOption.map (fun o =>
        ((Base.writeProperty o twoSubordinates).1.readProperty ⟨propertySubordinateAnnotations, none⟩).isOk) =
          some true := by decide +kernel
    rw [h₀] at hok
    exact Option.some.inj hok)
  obtain ⟨texts, rfl, hlength, -⟩ := htexts v hv
  exact ⟨o₀, subs, texts, h₀, hsubs, hv, hlength⟩

end StructuredView

end GoBacnet.Proofs
