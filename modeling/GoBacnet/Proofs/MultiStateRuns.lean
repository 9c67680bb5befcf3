import GoBacnet.Proofs.StateTexts

/-!
# The states of a multi-state object

Every value that a multi-state object holds is one of its states, since each property is checked when it is written.
State_Text is not: a write of the whole array may bring another number of texts than the object has states.
-/

namespace GoBacnet.Server

def IsState (n : UInt32) (v : ApplicationValue) : Prop := ∃ u : UInt64, v = .unsigned u ∧ 1 ≤ u ∧ u ≤ n.toUInt64

/-- The properties of a multi-state object with `n` states, as they are read. -/
structure Point.Consistent (p : Point) (n : UInt32) : Prop where
  number : p.readProperty ⟨propertyNumberOfStates, none⟩ = .ok (.unsigned n.toUInt64)
  present : ∃ v, p.readProperty ⟨propertyPresentValue, none⟩ = .ok v ∧ IsState n v
  slots : ∀ v, p.readProperty ⟨propertyPriorityArray, none⟩ = .ok v → ∀ el ∈ v.elements,
    el.value = .null ∨ IsState n el.value
  relinquishDefault : ∀ v, p.readProperty ⟨propertyRelinquishDefault, none⟩ = .ok v → IsState n v
  alarmValues : ∀ v, p.readProperty ⟨propertyAlarmValues, none⟩ = .ok v → ∀ el ∈ v.elements, IsState n el.value
  faultValues : ∀ v, p.readProperty ⟨propertyFaultValues, none⟩ = .ok v → ∀ el ∈ v.elements, IsState n el.value
  stateText : ∀ v, p.readProperty ⟨propertyStateText, none⟩ = .ok v →
    v.elements.length = n.toNat ∧ ∀ el ∈ v.elements, el.value.kind = .characterString

def multiStateConstructors (zone : Zone) : List (PointConfig → Except ObjectErr Point) :=
  [newMultiStateInput zone, newMultiStateOutput zone, newMultiStateValue zone]

def PointOp.KeepsLength (n : UInt32) : PointOp → Prop
  | .writeProperty w => ∀ els, w.property = ⟨propertyStateText, none⟩ → w.value = .constructed els →
      (∀ el ∈ els, Element.IsText el) → els.length = n.toNat
  | _ => True

/-- Everything that a multi-state object with `n` states holds is one of its states. -/
structure PointState.InRange (n : UInt32) (s : PointState) : Prop where
  kind : s.kind = .multiState
  states : s.states = n
  present : s.checkValue s.pv = .ok ()
  slots : ∀ v, some v ∈ s.pa.slots.toList → s.checkValue v = .ok ()
  relinquish : s.checkValue s.pa.relinquish = .ok ()
  alarm : ∀ x ∈ s.intrinsic.cfg.alarmValues, s.InStates x
  fault : ∀ x ∈ s.intrinsic.cfg.faultValues, s.InStates x

/-- The property is computed, and what it reads as has the property `P` in every state that meets `inv`. -/
def Base.Shows {σ : Type} (inv : σ → Prop) (P : ApplicationValue → Prop) (id : UInt32) (b : Base σ) : Prop :=
  ∃ f, b.Computes id f ∧ ∀ s, inv s → P (f s)

end GoBacnet.Server

namespace GoBacnet.Proofs

open GoBacnet.Server Transition

variable {σ : Type} {inv : σ → Prop} {P : ApplicationValue → Prop} {id : UInt32} {b : Base σ}
variable {n : UInt32} {s : PointState} {p : Point} {zone : Zone}

/-! ## What is read -/

lemma readProperty_of_computes {f : σ → ApplicationValue} (h : b.Computes id f) :
    b.readProperty ⟨id, none⟩ = .ok (f b.state) := by
  obtain ⟨q, hq, hget⟩ := h
  simp [Base.readProperty, hq, Base.valueOf, hget]

lemma exists_read_of_shows (h : b.Shows inv P id) (hb : inv b.state) : ∃ v, b.readProperty ⟨id, none⟩ = .ok v ∧ P v := by
  obtain ⟨f, hf, hP⟩ := h
  exact ⟨_, readProperty_of_computes hf, hP _ hb⟩

lemma read_of_shows (h : b.props.lookup id = none ∨ b.Shows inv P id) (hb : inv b.state) {v : ApplicationValue}
    (hv : b.readProperty ⟨id, none⟩ = .ok v) : P v := by
  rcases h with hnone | hshows
  · simp [Base.readProperty, hnone] at hv
  · obtain ⟨v', hv', hP⟩ := exists_read_of_shows hshows hb
    obtain rfl := Except.ok.inj (hv'.symm.trans hv)
    exact hP

lemma shows_writeProperty (h : b.Shows inv P id) (w : Write) : (b.writeProperty w).1.Shows inv P id := by
  obtain ⟨f, hf, hP⟩ := h
  exact ⟨f, computes_writeProperty hf w, hP⟩

/-! ## The state -/

lemma checkValue_multiState (hkind : s.kind = .multiState) {v : ApplicationValue} :
    s.checkValue v = .ok () ↔ IsState s.states v := by
  unfold PointState.checkValue IsState
  rw [hkind]
  cases v with
  | unsigned u =>
    dsimp only
    rw [Except.check_eq_ok_iff, not_or, UInt64.not_lt, UInt64.not_lt]
    simp
  | _ => simp

lemma isState_of_inStates {x : UInt32} (h : s.InStates x) : IsState s.states (.unsigned x.toUInt64) := by
  refine ⟨_, rfl, ?_⟩
  obtain ⟨hone, hle⟩ := h
  rw [UInt32.le_iff_toNat_le] at hone hle
  simpa [UInt64.le_iff_toNat_le] using ⟨hone, hle⟩

lemma inRange_written {s' : PointState} (hs : s.InRange n) (h : s.Written s') : s'.InRange n := by
  obtain ⟨hkind, hstates, hpresent, hslots, hrelinquish, halarm, hfault⟩ := hs
  cases h with
  | command h =>
    cases h with
    | @slot i slot hslot =>
      refine ⟨hkind, hstates, hpresent, fun v hv => ?_, hrelinquish, halarm, hfault⟩
      have hv' : some v ∈ s.pa.slots.toList.set i slot := by simpa [PointState.commanded] using hv
      rcases List.mem_or_eq_of_mem_set hv' with hold | rfl
      · exact hslots v hold
      · exact (hslot v rfl).2
    | relinquish hv => exact ⟨hkind, hstates, hpresent, hslots, hv, halarm, hfault⟩
  | value hv => exact ⟨hkind, hstates, hv, hslots, hrelinquish, halarm, hfault⟩
  | settings _ _ _ cfg halarm' hfault' =>
    exact ⟨hkind, hstates, hpresent, hslots, hrelinquish, fun x hx => (halarm' x hx).elim (halarm x) id,
      fun x hx => (hfault' x hx).elim (hfault x) id⟩

lemma detect_cfg (now : Int) : (s.detect now).1.cfg = s.intrinsic.cfg := by
  obtain ⟨pending, since, h⟩ := detect_blind s now
  exact congrArg (·.intrinsic.cfg) h

lemma effect_eq (object : ObjectIdentifier) (s : PointState) (op : PointOp) : s.Written (effect zone object s op).1 ∨
    ∃ (eventState reliability : UInt32) (i : Intrinsic), i.cfg = s.intrinsic.cfg ∧
      (effect zone object s op).1 = { s with eventState, reliability, intrinsic := i } := by
  have hself : s.Written s := written_self s
  cases op with
  | writeProperty w => exact .inl hself
  | setPresentValue v =>
    left
    simp only [effect]
    cases hcheck : s.checkValue v with
    | error e => exact hself
    | ok u =>
      cases hc : s.commandable with
      | true =>
        rw [setPresentValue_commandable hc]
        exact .command (.relinquish hcheck)
      | false =>
        by_cases hin : s.input ∧ s.outOfService
        · rw [setPresentValue_ignored hc hin]
          exact hself
        · rw [setPresentValue_plain hc hin]
          exact .value hcheck
  | setReliability r =>
    simp only [effect, PointState.setReliability]
    split_ifs
    · exact .inl hself
    · exact .inr ⟨_, r, s.intrinsic, rfl, rfl⟩
  | evaluateEvents now ackRequired =>
    simp only [effect, PointState.evaluateEvents]
    split_ifs
    · exact .inl hself
    · exact .inr ⟨s.eventState, s.reliability, { s.intrinsic with pending := _, since := _ }, rfl, rfl⟩
    · exact .inr ⟨s.eventState, s.reliability, (s.detect (Point.truncate now)).1, detect_cfg _, rfl⟩
    · refine .inr ⟨_, s.reliability, _, ?_, rfl⟩
      exact detect_cfg (Point.truncate now)
  | acknowledgeAlarm state stamp =>
    simp only [effect]
    split_ifs
    · exact .inl hself
    · exact .inl hself
    · split
      · exact .inl hself
      · next s' ev hack =>
        obtain rfl | ⟨t, rfl⟩ := acknowledgeAlarm_eq hack
        · exact .inl hself
        · refine .inr ⟨s.eventState, s.reliability, _, ?_, rfl⟩
          rfl

lemma inRange_effect (hs : s.InRange n) (object : ObjectIdentifier) (op : PointOp) :
    (effect zone object s op).1.InRange n := by
  rcases effect_eq object s op with hwritten | ⟨eventState, reliability, i, hcfg, h⟩
  · exact inRange_written hs hwritten
  · obtain ⟨hkind, hstates, hpresent, hslots, hrelinquish, halarm, hfault⟩ := hs
    rw [h]
    refine ⟨hkind, hstates, hpresent, hslots, hrelinquish, ?_, ?_⟩
    · rw [hcfg]
      exact halarm
    · rw [hcfg]
      exact hfault

/-! ## The table -/

structure StateTable (n : UInt32) (p : Point) : Prop where
  sound : p.Sound PointState.Written PointBlind
  state : p.state.InRange n
  number : p.props.lookup propertyNumberOfStates = some { value := .unsigned n.toUInt64 }
  present : p.Shows (PointState.InRange n) (IsState n) propertyPresentValue
  slots : p.props.lookup propertyPriorityArray = none ∨
    p.Shows (PointState.InRange n) (fun v => ∀ el ∈ v.elements, el.value = .null ∨ IsState n el.value)
      propertyPriorityArray
  relinquishDefault : p.props.lookup propertyRelinquishDefault = none ∨
    p.Shows (PointState.InRange n) (IsState n) propertyRelinquishDefault
  lists : ∀ id ∈ [propertyAlarmValues, propertyFaultValues], p.props.lookup id = none ∨
    p.Shows (PointState.InRange n) (fun v => ∀ el ∈ v.elements, IsState n el.value) id
  texts : p.Texts fun els => els.length = n.toNat ∧ ∀ el ∈ els, Element.IsText el

lemma PointState.InRange.isState (hs : s.InRange n) {v : ApplicationValue} (hv : s.checkValue v = .ok ()) :
    IsState n v := by
  have hstate := (checkValue_multiState hs.kind).mp hv
  rwa [hs.states] at hstate

lemma consistent_of_table (h : StateTable n p) : p.Consistent n := by
  refine ⟨?_, exists_read_of_shows h.present h.state, fun v => read_of_shows h.slots h.state,
    fun v => read_of_shows h.relinquishDefault h.state, fun v => read_of_shows (h.lists _ (by simp)) h.state,
    fun v => read_of_shows (h.lists _ (by simp)) h.state, fun v hv => ?_⟩
  · simp [Base.readProperty, h.number, Base.valueOf]
  · cases hq : p.props.lookup propertyStateText with
    | none => simp [Base.readProperty, hq] at hv
    | some q =>
      obtain ⟨els, rfl, hlength, htexts⟩ := h.texts q hq
      obtain rfl : .constructed els = v := by simpa [Base.readProperty, hq, Base.valueOf, stateTexts] using hv
      exact ⟨hlength, fun el hel => (htexts el hel).2⟩

lemma shows_or_writeProperty (h : b.props.lookup id = none ∨ b.Shows inv P id) (w : Write) :
    (b.writeProperty w).1.props.lookup id = none ∨ (b.writeProperty w).1.Shows inv P id :=
  h.imp (lookup_none_writeProperty · w) (shows_writeProperty · w)

lemma stateTable_perform (h : StateTable n p) {op : PointOp} (hop : op.KeepsLength n) :
    StateTable n (Point.perform zone p op).1 := by
  have htexts : (Point.perform zone p op).1.Texts fun els => els.length = n.toNat ∧ ∀ el ∈ els, Element.IsText el := by
    refine texts_perform h.texts fun w els els' hw hid hels hreplaces => ?_
    subst hw
    cases hreplaces with
    | whole hindex hvalue htexts => exact ⟨hop els' (by rw [← hid, ← hindex]) hvalue htexts, htexts⟩
    | item i hkind =>
      refine ⟨by simpa using hels.1, fun el hel => ?_⟩
      rcases List.mem_or_eq_of_mem_set hel with hold | rfl
      · exact hels.2 el hold
      · exact ⟨rfl, hkind⟩
  by_cases hwrite : ∃ w, op = .writeProperty w
  · obtain ⟨w, rfl⟩ := hwrite
    have hkept := writeProperty_kept h.sound (written_self _) w
    exact ⟨hkept.sound, inRange_written h.state hkept.state, lookup_readOnly_writeProperty h.number rfl w,
      shows_writeProperty h.present w, shows_or_writeProperty h.slots w, shows_or_writeProperty h.relinquishDefault w,
      fun id hid => shows_or_writeProperty (h.lists id hid) w, htexts⟩
  · rw [perform_eq_effect fun w hw => hwrite ⟨w, hw⟩] at htexts ⊢
    exact ⟨h.sound, inRange_effect h.state p.id op, h.number, h.present, h.slots, h.relinquishDefault, h.lists, htexts⟩

/-! ## Construction -/

section Construction

variable {t : UInt16} {kind : PointKind} {input commandable : Bool} {cfg : PointConfig} {initial : ApplicationValue}

def valuePoint (t : UInt16) (kind : PointKind) (input commandable : Bool) (cfg : PointConfig)
    (initial : ApplicationValue) : Point :=
  Point.definePresentValue
    (Base.new ⟨t, cfg.instanceNumber⟩ cfg.name (cfg.initialState kind input commandable initial))

lemma lookup_basicPoint {id : UInt32}
    (hstatus : id ∉ [propertyDescription, propertyStatusFlags, propertyEventState, propertyReliability,
      propertyOutOfService])
    (hkind : id ∉ [propertyUnits, propertyCOVIncrement, propertyPolarity, propertyInactiveText, propertyActiveText,
      propertyNumberOfStates, propertyStateText]) :
    (basicPoint t kind input commandable cfg initial).props.lookup id =
      (valuePoint t kind input commandable cfg initial).props.lookup id :=
  (lookup_defineKind t cfg hkind).trans (lookup_defineStatus cfg hstatus)

@[simp] lemma defineKind_state : (Point.defineKind p t cfg).state = p.state := by
  unfold Point.defineKind
  split
  · rfl
  · dsimp only
    split_ifs <;> rfl
  · dsimp only
    split <;> rfl

@[simp] lemma basicPoint_state : (basicPoint t kind input commandable cfg initial).state =
    cfg.initialState kind input commandable initial := by
  simp [basicPoint]

@[simp] lemma defineReporting_state : (Point.defineReporting zone p).state = p.state := rfl

@[simp] lemma defineEvents_state : (Point.defineEvents zone p).state = p.state := by
  unfold Point.defineEvents Point.defineAlgorithm
  split <;> simp only [define_state, defineReporting_state]

lemma lookup_newPoint (h : newPoint zone t kind input commandable cfg = .ok p) :
    ∃ initial, cfg.initial kind = .ok initial ∧ p.state = cfg.initialState kind input commandable initial ∧
      ∀ id ∈ [propertyPresentValue, propertyPriorityArray, propertyRelinquishDefault],
        p.props.lookup id = (valuePoint t kind input commandable cfg initial).props.lookup id := by
  obtain ⟨initial, hinitial, hp⟩ := newPoint_cases h
  have hstate : p.state = cfg.initialState kind input commandable initial := by
    rcases hp with ⟨-, rfl⟩ | ⟨ev, -, -, rfl⟩ <;> simp
  refine ⟨initial, hinitial, hstate, fun id hid => ?_⟩
  have hbasic : (basicPoint t kind input commandable cfg initial).props.lookup id =
      (valuePoint t kind input commandable cfg initial).props.lookup id := by
    simp only [List.mem_cons, List.not_mem_nil, or_false] at hid
    rcases hid with rfl | rfl | rfl <;> exact lookup_basicPoint (by decide) (by decide)
  rcases hp with ⟨-, rfl⟩ | ⟨ev, -, -, rfl⟩
  · exact hbasic
  · rw [← hbasic]
    simp only [List.mem_cons, List.not_mem_nil, or_false] at hid
    rcases hid with rfl | rfl | rfl <;> exact lookup_defineEvents (by decide) (by decide)

lemma initial_multiState (h : cfg.initial .multiState = .ok initial) :
    (∀ texts, cfg.stateText = some texts → UInt32.ofNat texts.length = cfg.numberOfStates) ∧
      IsState cfg.numberOfStates initial := by
  unfold PointConfig.initial at h
  obtain ⟨hn, h⟩ := Except.check_eq_ok_iff.mp h
  obtain ⟨htexts, h⟩ := Except.check_eq_ok_iff.mp h
  obtain ⟨hle, h⟩ := Except.check_eq_ok_iff.mp h
  cases h
  refine ⟨fun texts hsome => by simpa [hsome] using htexts, _, rfl, ?_⟩
  rw [← UInt32.toNat_inj] at hn
  simp only [gt_iff_lt, UInt32.not_lt, UInt32.le_iff_toNat_le] at hle
  simp only [UInt64.le_iff_toNat_le, UInt32.toNat_toUInt64]
  refine ⟨?_, hle⟩
  split_ifs with hst
  · decide
  · rw [← UInt32.toNat_inj] at hst
    simp at hst ⊢
    omega

lemma inRange_newPoint (h : newPoint zone t .multiState input commandable cfg = .ok p) :
    p.state.InRange cfg.numberOfStates := by
  obtain ⟨initial, hinitial, hp⟩ := newPoint_cases h
  have hstate : IsState cfg.numberOfStates initial := (initial_multiState hinitial).2
  have hcheck : (cfg.initialState .multiState input commandable initial).checkValue initial = .ok () :=
    (checkValue_multiState rfl).mpr hstate
  have hp' : p.state = cfg.initialState .multiState input commandable initial := by
    rcases hp with ⟨-, rfl⟩ | ⟨ev, -, -, rfl⟩ <;> simp
  have hlists : ∀ x ∈ (cfg.events.getD {}).alarmValues ++ (cfg.events.getD {}).faultValues,
      (cfg.initialState .multiState input commandable initial).InStates x := by
    rcases hp with ⟨hnone, -⟩ | ⟨ev, hev, hevents, -⟩
    · simp [hnone]
    · rw [hev]
      unfold PointConfig.checkEvents at hevents
      obtain ⟨-, hevents⟩ := Except.check_eq_ok_iff.mp hevents
      rw [if_pos rfl] at hevents
      split at hevents
      · cases hevents
      · next hfind =>
        intro x hx
        have hx' := List.find?_eq_none.mp hfind x hx
        rw [decide_eq_true_iff, not_or, UInt32.not_lt, gt_iff_lt, UInt32.not_lt] at hx'
        exact hx'
  rw [hp']
  exact ⟨rfl, rfl, hcheck, by simp [PointConfig.initialState], hcheck,
    fun x hx => hlists x (List.mem_append_left _ hx), fun x hx => hlists x (List.mem_append_right _ hx)⟩

lemma present_mem (pa : PriorityArray) : some pa.present ∈ pa.slots.toList ∨ pa.present = pa.relinquish := by
  unfold PriorityArray.present
  cases h : pa.slots.toList.findSome? id with
  | none => exact .inr rfl
  | some v =>
    obtain ⟨slot, hslot, hv⟩ := List.exists_of_findSome?_eq_some h
    obtain rfl : slot = some v := hv
    exact .inl hslot

lemma shows_present (hp : p = valuePoint t kind input commandable cfg initial) :
    p.Shows (PointState.InRange n) (IsState n) propertyPresentValue := by
  subst hp
  unfold valuePoint Point.definePresentValue
  split
  · refine ⟨_, ⟨_, by rw [Base.defineCommandable, lookup_define, if_pos rfl], rfl⟩, fun s hs => ?_⟩
    rcases present_mem s.pa with hmem | heq
    · exact PointState.InRange.isState hs (hs.slots _ hmem)
    · exact PointState.InRange.isState hs (heq ▸ hs.relinquish)
  · exact ⟨_, ⟨_, by rw [lookup_define, if_pos rfl], rfl⟩, fun s hs => PointState.InRange.isState hs hs.present⟩

lemma shows_slots (hp : p = valuePoint t kind input commandable cfg initial) :
    p.props.lookup propertyPriorityArray = none ∨ p.Shows (PointState.InRange n)
      (fun v => ∀ el ∈ v.elements, el.value = .null ∨ IsState n el.value) propertyPriorityArray := by
  subst hp
  unfold valuePoint Point.definePresentValue
  split
  · refine .inr ⟨fun s => s.pa.value, ⟨_, by simp +decide [Base.defineCommandable]; rfl, rfl⟩, fun s hs el hel => ?_⟩
    obtain ⟨slot, hslot, rfl⟩ := List.mem_map.mp hel
    cases slot with
    | none => exact .inl rfl
    | some v => exact .inr (PointState.InRange.isState hs (hs.slots v hslot))
  · exact .inl (by simp +decide [Base.new])

lemma shows_relinquishDefault (hp : p = valuePoint t kind input commandable cfg initial) :
    p.props.lookup propertyRelinquishDefault = none ∨
      p.Shows (PointState.InRange n) (IsState n) propertyRelinquishDefault := by
  subst hp
  unfold valuePoint Point.definePresentValue
  split
  · exact .inr ⟨_, computes_defineCommandable _ _, fun s hs => PointState.InRange.isState hs hs.relinquish⟩
  · exact .inl (by simp +decide [Base.new])

lemma lookup_eq_of_shows {q : Base σ} (hlookup : b.props.lookup id = q.props.lookup id) (h : q.Shows inv P id) :
    b.Shows inv P id := by
  obtain ⟨f, ⟨r, hr, hget⟩, hP⟩ := h
  exact ⟨f, ⟨r, hlookup.trans hr, hget⟩, hP⟩

lemma shows_states (get : EventConfig → List UInt32) (set : EventConfig → List UInt32 → EventConfig)
    (hget : ∀ s : PointState, s.InRange n → ∀ x ∈ get s.intrinsic.cfg, s.InStates x)
    (hlookup : p.props.lookup id = some (ConfigField.states ⟨get, set⟩ id)) :
    p.Shows (PointState.InRange n) (fun v => ∀ el ∈ v.elements, IsState n el.value) id := by
  refine ⟨_, ⟨_, hlookup, rfl⟩, fun s hs el hel => ?_⟩
  obtain ⟨x, hx, rfl⟩ := List.mem_map.mp hel
  exact hs.states ▸ isState_of_inStates (hget s hs x hx)

lemma shows_lists (h : newPoint zone t .multiState input commandable cfg = .ok p) {id : UInt32}
    (hid : id ∈ [propertyAlarmValues, propertyFaultValues]) : p.props.lookup id = none ∨
      p.Shows (PointState.InRange n) (fun v => ∀ el ∈ v.elements, IsState n el.value) id := by
  simp only [List.mem_cons, List.not_mem_nil, or_false] at hid
  obtain ⟨initial, -, ⟨-, rfl⟩ | ⟨ev, -, -, rfl⟩⟩ := newPoint_cases h
  · left
    rcases hid with rfl | rfl
    all_goals
      rw [lookup_basicPoint (by decide) (by decide)]
      unfold valuePoint Point.definePresentValue
      split <;> simp +decide [Base.defineCommandable, Base.new]
  · right
    have hkind : (Point.defineReporting zone (basicPoint t .multiState input commandable cfg initial)).state.kind =
        .multiState := by simp [PointConfig.initialState]
    rcases hid with rfl | rfl
    · refine shows_states (·.alarmValues) (fun c v => { c with alarmValues := v }) (fun s hs => hs.alarm) ?_
      unfold Point.defineEvents Point.defineAlgorithm
      rw [hkind]
      simp +decide
    · refine shows_states (·.faultValues) (fun c v => { c with faultValues := v }) (fun s hs => hs.fault) ?_
      unfold Point.defineEvents Point.defineAlgorithm
      rw [hkind]
      simp +decide

lemma lookup_numberOfStates (h : newPoint zone t .multiState input commandable cfg = .ok p) :
    p.props.lookup propertyNumberOfStates = some { value := .unsigned cfg.numberOfStates.toUInt64 } := by
  obtain ⟨initial, -, hp⟩ := newPoint_cases h
  have hbasic : (basicPoint t .multiState input commandable cfg initial).props.lookup propertyNumberOfStates =
      some { value := .unsigned cfg.numberOfStates.toUInt64 } := by
    have hkind : (Point.defineStatus (Point.definePresentValue (Base.new ⟨t, cfg.instanceNumber⟩ cfg.name
        (cfg.initialState .multiState input commandable initial))) cfg).state.kind = .multiState := by
      simp [PointConfig.initialState]
    unfold basicPoint Point.defineKind
    rw [hkind]
    dsimp only
    split <;> simp +decide
  rcases hp with ⟨-, rfl⟩ | ⟨ev, -, -, rfl⟩
  · exact hbasic
  · exact (lookup_defineEvents (by decide) (by decide)).trans hbasic

lemma stateTable_newPoint (h : newPoint zone t .multiState input commandable cfg = .ok p)
    (hlength : ∀ texts ∈ cfg.stateText, texts.length = cfg.numberOfStates.toNat) :
    StateTable cfg.numberOfStates p := by
  obtain ⟨initial, hinitial, hstate, hlookup⟩ := lookup_newPoint h
  refine ⟨(table_newPoint h).sound, inRange_newPoint h, lookup_numberOfStates h,
    lookup_eq_of_shows (hlookup _ (by simp)) (shows_present rfl), ?_, ?_, fun id hid => shows_lists h hid,
    texts_newPoint h fun _ texts htexts => ⟨by simpa using hlength texts htexts, fun el hel => ?_⟩⟩
  · exact (shows_slots rfl).imp (hlookup _ (by simp)).trans (lookup_eq_of_shows (hlookup _ (by simp)))
  · exact (shows_relinquishDefault rfl).imp (hlookup _ (by simp)).trans (lookup_eq_of_shows (hlookup _ (by simp)))
  · obtain ⟨text, -, rfl⟩ := List.mem_map.mp hel
    exact ⟨rfl, rfl⟩

end Construction

/-- In every run of a multi-state object that was given a text for each state, and to which no array of texts of
another length is written, the properties agree with the number of states. -/
theorem multiState_consistent (zone : Zone) {new : PointConfig → Except ObjectErr Point}
    (hnew : new ∈ multiStateConstructors zone) {cfg : PointConfig}
    (hlength : ∀ texts ∈ cfg.stateText, texts.length = cfg.numberOfStates.toNat) {p₀ : Point} (hp₀ : new cfg = .ok p₀)
    {notify : Bool} {p : Point} (hp : ReachableWhere { p₀ with notify } (Point.step zone)
      (fun _ op => op.KeepsLength cfg.numberOfStates) p) : p.Consistent cfg.numberOfStates := by
  have htable : StateTable cfg.numberOfStates p₀ := by
    simp only [multiStateConstructors, List.mem_cons, List.not_mem_nil, or_false] at hnew
    rcases hnew with rfl | rfl | rfl <;> exact stateTable_newPoint hp₀ hlength
  have hinit : StateTable cfg.numberOfStates { p₀ with notify } :=
    ⟨htable.sound, htable.state, htable.number, htable.present, htable.slots, htable.relinquishDefault, htable.lists,
      htable.texts⟩
  refine consistent_of_table (hp.invariant (StateTable cfg.numberOfStates) hinit fun p op p' hp hop hstep => ?_)
  cases hstep
  exact stateTable_perform hp hop

def textsConfig : PointConfig :=
  { instanceNumber := 1, name := [77], numberOfStates := 2, stateText := some [[65], [66]] }

def oneText : Write := ⟨⟨propertyStateText, none⟩, .constructed [.app 0 (charString [65])], 0⟩

/-- The write of one text to a Multi-state Value with two states is accepted. -/
theorem oneText_accepted : ∃ p : Point, newMultiStateValue noZone textsConfig = .ok p ∧
    (Base.writeProperty p oneText).2.1 = .ok () ∧
      (Base.writeProperty p oneText).1.readProperty ⟨propertyStateText, none⟩ =
        .ok (.constructed [.app 0 (charString [65])]) ∧
      (Base.writeProperty p oneText).1.readProperty ⟨propertyNumberOfStates, none⟩ = .ok (.unsigned 2) :=
  ⟨_, rfl, rfl, rfl, rfl⟩

/-- A text is replaced, and state 3 is refused. -/
theorem multiState_consistent_run : ∃ p₀ p : Point, newMultiStateValue noZone textsConfig = .ok p₀ ∧
    run (Point.step noZone) p₀ [.writeProperty ⟨⟨propertyStateText, some 2⟩, charString [67], 0⟩,
      .writeProperty ⟨⟨propertyPresentValue, none⟩, .unsigned 3, 0⟩] = some p ∧ p.Consistent 2 := by
  obtain ⟨p₀, hp₀⟩ := Except.exists_of_isOk (by decide +kernel : (newMultiStateValue noZone textsConfig).isOk = true)
  have hlength : ∀ texts ∈ textsConfig.stateText, texts.length = textsConfig.numberOfStates.toNat := by decide
  refine ⟨p₀, _, hp₀, rfl, multiState_consistent noZone (by simp [multiStateConstructors]) hlength hp₀
    (.step (.writeProperty ⟨⟨propertyPresentValue, none⟩, .unsigned 3, 0⟩)
      (.step (.writeProperty ⟨⟨propertyStateText, some 2⟩, charString [67], 0⟩) .init ?_ rfl) ?_ rfl)⟩
  · exact fun els h => by simp at h
  · exact fun els h => by simp +decide at h

end GoBacnet.Proofs
