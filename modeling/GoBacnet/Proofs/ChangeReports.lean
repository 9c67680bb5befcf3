import GoBacnet.Lib.Transition
import GoBacnet.Proofs.ObjectProperties
import GoBacnet.Server.Intrinsic
import GoBacnet.Server.ValueObject

/-!
# Reported changes

An operation on a point or a value object that changes what some property reads as tells the notifier about it. An
update by the application is reported by the present value only: one that changes the relinquish default behind an
active command is not.
-/

namespace GoBacnet.Server

inductive PointOp where
  | writeProperty (w : Write)
  | setPresentValue (v : ApplicationValue)
  | setReliability (r : UInt32)
  | evaluateEvents (now : Int) (ackRequired : UInt32 → Fin 3 → Bool)
  | acknowledgeAlarm (state : UInt32) (stamp : Service.TimeStamp)

def Point.perform (zone : Zone) (p : Point) : PointOp → Point × List Change
  | .writeProperty w => ((Base.writeProperty p w).1, (Base.writeProperty p w).2.2)
  | .setPresentValue v => ((Point.setPresentValue p v).1, (Point.setPresentValue p v).2.2)
  | .setReliability r => Point.setReliability p r
  | .evaluateEvents now ackRequired =>
    ((Point.evaluateEvents p now ackRequired).1, (Point.evaluateEvents p now ackRequired).2.2)
  | .acknowledgeAlarm state stamp =>
    ((Point.acknowledgeAlarm zone p state stamp).1, (Point.acknowledgeAlarm zone p state stamp).2.2)

def Point.step (zone : Zone) (p : Point) (op : PointOp) : Option Point := some (Point.perform zone p op).1

inductive ValueOp where
  | writeProperty (w : Write)
  | setPresentValue (v : ApplicationValue)

def ValueObject.perform (o : ValueObject) : ValueOp → ValueObject × List Change
  | .writeProperty w => ((Base.writeProperty o w).1, (Base.writeProperty o w).2.2)
  | .setPresentValue v => ((ValueObject.setPresentValue o v).1, (ValueObject.setPresentValue o v).2.2)

def ValueObject.step (o : ValueObject) (op : ValueOp) : Option ValueObject := some (ValueObject.perform o op).1

def PointState.Hides (s : PointState) : PointOp → Prop
  | .setPresentValue v =>
    s.checkValue v = .ok () ∧
      if s.commandable then v ≠ s.pa.relinquish ∧ sameValue s.pa.present { s.pa with relinquish := v }.present
      else ¬(s.input ∧ s.outOfService) ∧ v ≠ s.pv ∧ sameValue s.pv v
  | _ => False

def ValueState.Hides (s : ValueState) : ValueOp → Prop
  | .setPresentValue v =>
    s.checkValue v = .ok () ∧
      if s.commandable then v ≠ s.pa.relinquish ∧ sameValue s.pa.present { s.pa with relinquish := v }.present
      else v ≠ s.pv ∧ sameValue s.pv v
  | .writeProperty _ => False

def PointState.InStates (s : PointState) (x : UInt32) : Prop := 1 ≤ x ∧ x ≤ s.states

/-- A field other than the lists of states. -/
structure ConfigField.Apart {α : Type} (f : ConfigField α) : Prop where
  alarm : ∀ c x, (f.set c x).alarmValues = c.alarmValues
  fault : ∀ c x, (f.set c x).faultValues = c.faultValues

/-- What a write can do to the state of a point. -/
inductive PointState.Written (s : PointState) : PointState → Prop
  | command {s' : PointState} (h : PointState.commanded.Written s s') : s.Written s'
  | value {v : ApplicationValue} (h : s.checkValue v = .ok ()) : s.Written { s with pv := v }
  | settings (outOfService : Bool) (covIncrement : UInt32) (enabled : Bool) (cfg : EventConfig)
      (halarm : ∀ x ∈ cfg.alarmValues, x ∈ s.intrinsic.cfg.alarmValues ∨ s.InStates x)
      (hfault : ∀ x ∈ cfg.faultValues, x ∈ s.intrinsic.cfg.faultValues ∨ s.InStates x) :
      s.Written { s with outOfService, covIncrement, intrinsic := { s.intrinsic with enabled, cfg } }

/-- What a write can do to the state of a value object. -/
inductive ValueState.Written (s : ValueState) : ValueState → Prop
  | command {s' : ValueState} (h : ValueState.commanded.Written s s') : s.Written s'
  | value {v : ApplicationValue} (h : s.checkValue v = .ok ()) : s.Written { s with pv := v }
  | outOfService (b : Bool) : s.Written { s with outOfService := b }

def pointConstructors (zone : Zone) : List (PointConfig → Except ObjectErr Point) :=
  [newAnalogInput zone, newAnalogOutput zone, newAnalogValue zone, newBinaryInput zone, newBinaryOutput zone,
    newBinaryValue zone, newMultiStateInput zone, newMultiStateOutput zone, newMultiStateValue zone]

def valueConstructors : List (ValueConfig → Except ObjectErr ValueObject) :=
  [newCharacterStringValue, newIntegerValue, newPositiveIntegerValue]

end GoBacnet.Server

namespace GoBacnet.Proofs

open GoBacnet.Server Transition

variable {v : ApplicationValue} {p : Point} {s : PointState} {o : ValueObject} {zone : Zone}

/-! ## Points -/

def pointShown : Shown PointState := ⟨(·.commandable), (·.pa), (·.pv)⟩

def PointBlind (s s' : PointState) : Prop :=
  ∃ pending since, s' = { s with intrinsic := { s.intrinsic with pending, since } }

lemma written_config (s : PointState) {f : EventConfig → EventConfig}
    (halarm : ∀ x ∈ (f s.intrinsic.cfg).alarmValues, x ∈ s.intrinsic.cfg.alarmValues ∨ s.InStates x)
    (hfault : ∀ x ∈ (f s.intrinsic.cfg).faultValues, x ∈ s.intrinsic.cfg.faultValues ∨ s.InStates x) :
    s.Written (s.modifyConfig f) :=
  .settings s.outOfService s.covIncrement s.intrinsic.enabled _ halarm hfault

lemma written_self (s : PointState) : s.Written s :=
  .settings s.outOfService s.covIncrement s.intrinsic.enabled s.intrinsic.cfg (fun _ => .inl) fun _ => .inl

lemma sound_configField {α : Type} (f : ConfigField α) (wrap : α → ApplicationValue)
    {set : ApplicationValue → PointState → Except ObjectErr (PointState × List UInt32)}
    (hset : ∀ v s s' changed, set v s = .ok (s', changed) →
      changed ≠ [] ∧ s.Written s') :
    Property.Sound PointState.Written PointBlind
      { writable := true, get := .state fun s => wrap (f.get s.intrinsic.cfg), set := some (scalarSetter set) } := by
  refine sound_scalar (fun v s s' changed h => ?_) ?_
  · obtain ⟨hne, hwritten⟩ := hset v s s' changed h
    exact ⟨hwritten, fun h => (hne h).elim⟩
  · rintro s _ ⟨pending, since, rfl⟩
    rfl

lemma written_apart {α : Type} {f : ConfigField α} (hf : f.Apart) (s : PointState) (x : α) :
    s.Written (s.modifyConfig (f.set · x)) :=
  written_config s (by simp [hf.alarm]; tauto) (by simp [hf.fault]; tauto)

lemma sound_unsigned {f : ConfigField UInt32} (hf : f.Apart) (id : UInt32) :
    (f.unsigned id).Sound PointState.Written PointBlind := by
  refine sound_configField f (fun u => .unsigned u.toUInt64) fun v s s' changed h => ?_
  cases v with
  | unsigned u =>
    obtain ⟨-, h⟩ := Except.check_eq_ok_iff.mp h
    cases h
    exact ⟨by simp, written_apart hf s _⟩
  | _ => cases h

lemma sound_bits {f : ConfigField UInt8} (hf : f.Apart) (id : UInt32) (n : Nat) :
    (f.bits id n).Sound PointState.Written PointBlind := by
  refine sound_configField f (maskBits n) fun v s s' changed h => ?_
  cases v with
  | bitString bs =>
    cases h
    exact ⟨by simp, written_apart hf s _⟩
  | _ => cases h

lemma sound_real {f : ConfigField UInt32} (hf : f.Apart) (id : UInt32) (nonNegative : Bool) :
    (f.real id nonNegative).Sound PointState.Written PointBlind := by
  refine sound_configField f .real fun v s s' changed h => ?_
  cases v with
  | real r =>
    obtain ⟨-, h⟩ := Except.check_eq_ok_iff.mp h
    cases h
    exact ⟨by simp, written_apart hf s _⟩
  | _ => cases h

lemma sound_enumerated {f : ConfigField UInt32} (hf : f.Apart) (id : UInt32) :
    (f.enumerated id).Sound PointState.Written PointBlind := by
  refine sound_configField f .enumerated fun v s s' changed h => ?_
  cases v with
  | enumerated e =>
    obtain ⟨-, h⟩ := Except.check_eq_ok_iff.mp h
    cases h
    exact ⟨by simp, written_apart hf s _⟩
  | _ => cases h

lemma inStates_of_stateValue {x : UInt32}
    (h : ConfigField.stateValue s.states v = .ok x) : s.InStates x := by
  cases v with
  | unsigned u =>
    obtain ⟨hu, h⟩ := Except.check_eq_ok_iff.mp h
    cases h
    have hlt := s.states.toNat_lt
    simp only [not_or, UInt64.not_lt, gt_iff_lt, UInt64.le_iff_toNat_le, UInt32.toNat_toUInt64] at hu
    have heq : u.toUInt32.toNat = u.toNat := by
      simp
      omega
    simp only [PointState.InStates, UInt32.le_iff_toNat_le, heq]
    exact hu
  | _ => cases h

lemma sound_states {f : ConfigField (List UInt32)} (id : UInt32)
    (hf : ∀ (s : PointState) next, (∀ x ∈ next, s.InStates x) → s.Written (s.modifyConfig (f.set · next))) :
    (f.states id).Sound PointState.Written PointBlind := by
  refine sound_configField f (fun vs => .constructed (vs.map fun v => .app 0 (.unsigned v.toUInt64)))
    fun v s s' changed h => ?_
  obtain ⟨vs, -, h⟩ := Except.bind_eq_ok_iff.mp h
  obtain ⟨next, hnext, h⟩ := Except.bind_eq_ok_iff.mp h
  cases h
  exact ⟨by simp, hf s next (Except.forall_of_mapM (fun v x hx => inStates_of_stateValue hx) hnext)⟩

abbrev PointTable : Point → Prop := ShownTable pointShown PointState.Written PointBlind

lemma sound_pointState {f : PointState → ApplicationValue}
    (h : ∀ s pending since, f s = f { s with intrinsic := { s.intrinsic with pending, since } }) (array : Bool) :
    Property.Sound PointState.Written PointBlind { get := .state f, array } := by
  refine sound_state ?_ array
  rintro s _ ⟨pending, since, rfl⟩
  exact h s pending since

lemma table_definePresentValue (hp : p.Sound PointState.Written PointBlind) :
    PointTable (Point.definePresentValue p) := by
  unfold Point.definePresentValue
  split
  · next hc =>
    refine ⟨sound_defineCommandable hp (fun s s' => .command) ?_, ?_⟩
    · rintro s _ ⟨pending, since, rfl⟩
      rfl
    · exact (if_pos hc).mpr (computes_defineCommandable p PointState.commanded)
  · next hc =>
    refine ⟨sound_define hp _ (sound_scalar (fun v s s' changed h => ?_) ?_), ?_⟩
    · obtain ⟨-, h⟩ := Except.check_eq_ok_iff.mp h
      obtain ⟨_, hcheck, h⟩ := Except.bind_eq_ok_iff.mp h
      replace h := Except.ok.inj h
      split at h
      · obtain ⟨rfl, rfl⟩ := Prod.mk.inj h
        exact ⟨written_self s, fun _ => rfl⟩
      · obtain ⟨rfl, rfl⟩ := Prod.mk.inj h
        exact ⟨.value hcheck, by simp⟩
    · rintro s _ ⟨pending, since, rfl⟩
      rfl
    · exact (if_neg hc).mpr ⟨_, by rw [lookup_define, if_pos rfl], rfl⟩

lemma table_defineStatus (hp : PointTable p) (cfg : PointConfig) : PointTable (Point.defineStatus p cfg) := by
  have hdescription : PointTable
      (if cfg.description = [] then p else p.define propertyDescription (textProperty cfg.description)) := by
    split
    · exact hp
    · exact table_define hp (by decide) (sound_stored _ _ _ _)
  refine table_define (table_define (table_define (table_define hdescription (by decide)
    (sound_pointState (fun _ _ _ => rfl) false)) (by decide) (sound_pointState (fun _ _ _ => rfl) false)) (by decide)
    (sound_pointState (fun _ _ _ => rfl) false)) (by decide)
    (sound_outOfService written_self (fun s b => ?_) ?_)
  · exact .settings b s.covIncrement s.intrinsic.enabled s.intrinsic.cfg (fun _ => .inl) fun _ => .inl
  · rintro s _ ⟨pending, since, rfl⟩
    rfl

lemma table_defineKind (hp : PointTable p) (t : UInt16) (cfg : PointConfig) :
    PointTable (Point.defineKind p t cfg) := by
  unfold Point.defineKind
  split
  · refine table_define (table_define hp (by decide) (sound_stored _ _ _ _)) (by decide)
      (sound_scalar (fun v s s' changed h => ?_) ?_)
    · cases v with
      | real bits =>
        obtain ⟨-, h⟩ := Except.check_eq_ok_iff.mp h
        cases h
        exact ⟨.settings s.outOfService bits s.intrinsic.enabled s.intrinsic.cfg (fun _ => .inl) fun _ => .inl, by simp⟩
      | _ => cases h
    · rintro s _ ⟨pending, since, rfl⟩
      rfl
  · have hpolarity : PointTable (if t = objectTypeBinaryValue then p
        else p.define propertyPolarity { value := .enumerated cfg.polarity }) := by
      split
      · exact hp
      · exact table_define hp (by decide) (sound_stored _ _ _ _)
    dsimp only
    split
    · exact hpolarity
    · exact table_define (table_define hpolarity (by decide) (sound_stored _ _ _ _)) (by decide) (sound_stored _ _ _ _)
  · have hstates : PointTable
        (p.define propertyNumberOfStates { value := .unsigned cfg.numberOfStates.toUInt64 }) :=
      table_define hp (by decide) (sound_stored _ _ _ _)
    dsimp only
    split
    · exact hstates
    · exact table_define hstates (by decide) (sound_stored _ _ _ _)

lemma table_defineReporting (zone : Zone) (hp : PointTable p) :
    PointTable (Point.defineReporting zone p) := by
  have henable : Property.Sound PointState.Written PointBlind
      { writable := true, get := .state fun s => .boolean s.intrinsic.enabled
        set := some writeEventDetectionEnable } := by
    refine sound_scalar (fun v s s' changed h => ?_) ?_
    · cases v with
      | boolean b =>
        cases h
        exact ⟨.settings s.outOfService s.covIncrement b s.intrinsic.cfg (fun _ => .inl) fun _ => .inl, by simp⟩
      | _ => cases h
    · rintro s _ ⟨pending, since, rfl⟩
      rfl
  exact table_define (table_define (table_define (table_define (table_define (table_define (table_define hp
    (by decide) (sound_unsigned ⟨fun _ _ => rfl, fun _ _ => rfl⟩ _)) (by decide)
    (sound_unsigned ⟨fun _ _ => rfl, fun _ _ => rfl⟩ _)) (by decide)
    (sound_bits ⟨fun _ _ => rfl, fun _ _ => rfl⟩ _ _)) (by decide)
    (sound_enumerated ⟨fun _ _ => rfl, fun _ _ => rfl⟩ _)) (by decide) henable) (by decide)
    (sound_pointState (fun _ _ _ => rfl) false)) (by decide) (sound_pointState (fun _ _ _ => rfl) true)

lemma table_defineAlgorithm (hp : PointTable p) : PointTable (Point.defineAlgorithm p) := by
  unfold Point.defineAlgorithm
  split
  · exact table_define (table_define (table_define (table_define hp (by decide)
      (sound_real ⟨fun _ _ => rfl, fun _ _ => rfl⟩ _ _)) (by decide)
      (sound_real ⟨fun _ _ => rfl, fun _ _ => rfl⟩ _ _)) (by decide)
      (sound_real ⟨fun _ _ => rfl, fun _ _ => rfl⟩ _ _)) (by decide)
      (sound_bits ⟨fun _ _ => rfl, fun _ _ => rfl⟩ _ _)
  · exact table_define hp (by decide) (sound_enumerated ⟨fun _ _ => rfl, fun _ _ => rfl⟩ _)
  · exact table_define (table_define hp (by decide)
      (sound_states _ fun s next hnext => written_config s (fun x hx => .inr (hnext x hx)) fun _ => .inl)) (by decide)
      (sound_states _ fun s next hnext => written_config s (fun _ => .inl) fun x hx => .inr (hnext x hx))

lemma table_newPoint {t : UInt16} {kind : PointKind} {input commandable : Bool} {cfg : PointConfig} (h : newPoint zone t kind input commandable cfg = .ok p) : PointTable p := by
  unfold newPoint at h
  obtain ⟨-, h⟩ := Except.check_eq_ok_iff.mp h
  obtain ⟨-, h⟩ := Except.check_eq_ok_iff.mp h
  obtain ⟨initial, -, h⟩ := Except.bind_eq_ok_iff.mp h
  have hsound : Base.Sound PointState.Written PointBlind (Base.new ⟨t, cfg.instanceNumber⟩ cfg.name
    (cfg.initialState kind input commandable initial)) := sound_new _ _ _
  have hkind := table_defineKind (table_defineStatus (table_definePresentValue hsound) cfg) t cfg
  dsimp only at h
  split at h
  · cases h
    exact hkind
  · obtain ⟨-, -, rfl⟩ := Except.map_eq_ok_iff.mp h
    exact table_defineAlgorithm (table_defineReporting zone hkind)

lemma written_commandable {s' : PointState} (h : s.Written s') : s'.commandable = s.commandable := by
  cases h with
  | command h => cases h <;> rfl
  | _ => rfl

/-! ## Operations on a point -/

lemma detect_blind (s : PointState) (now : Int) : PointBlind s { s with intrinsic := (s.detect now).1 } := by
  unfold PointState.detect
  dsimp only
  split_ifs <;> exact ⟨_, _, rfl⟩

lemma evaluateEvents_cases (s : PointState) (id : ObjectIdentifier) (now : Int) (ackRequired : UInt32 → Fin 3 → Bool) :
    (s.evaluateEvents id now ackRequired).1.commandable = s.commandable ∧
      ((s.evaluateEvents id now ackRequired).2.1 = [] → PointBlind s (s.evaluateEvents id now ackRequired).1) := by
  unfold PointState.evaluateEvents
  dsimp only
  split_ifs
  · exact ⟨rfl, fun _ => ⟨_, _, rfl⟩⟩
  · exact ⟨rfl, fun _ => detect_blind s now⟩
  · exact ⟨rfl, by simp⟩

lemma acknowledgeAlarm_eq {s' : PointState} {id : ObjectIdentifier} {state : UInt32}
    {stamp : Service.TimeStamp} {ev : EventTransition} (h : s.acknowledgeAlarm zone id state stamp = .ok (s', ev)) :
    s' = s ∨ ∃ t, s' = { s with intrinsic := { s.intrinsic with acked := s.intrinsic.acked ||| transitionBit t } } := by
  unfold PointState.acknowledgeAlarm at h
  rcases Except.ite_eq_ok_iff.mp h with ⟨-, h⟩ | ⟨-, h⟩
  · split at h
    · obtain ⟨-, h⟩ := Except.check_eq_ok_iff.mp h
      exact .inr ⟨_, (Prod.mk.inj (Except.ok.inj h)).1.symm⟩
    · cases h
  · obtain ⟨-, h⟩ := Except.check_eq_ok_iff.mp h
    exact .inl (Prod.mk.inj (Except.ok.inj h)).1.symm

def effect (zone : Zone) (id : ObjectIdentifier) (s : PointState) : PointOp → PointState × List UInt32
  | .writeProperty _ => (s, [])
  | .setPresentValue v =>
    match s.checkValue v with
    | .ok () => s.setPresentValue v
    | .error _ => (s, [])
  | .setReliability r => s.setReliability r
  | .evaluateEvents now ackRequired =>
    if !s.reports then (s, [])
    else ((s.evaluateEvents id (Point.truncate now) ackRequired).1,
      (s.evaluateEvents id (Point.truncate now) ackRequired).2.1)
  | .acknowledgeAlarm state stamp =>
    if !s.reports then (s, [])
    else if state > EventState.lowLimit then (s, [])
    else
      match s.acknowledgeAlarm zone id state stamp with
      | .error _ => (s, [])
      | .ok (s', _) => (s', [propertyAckedTransitions])

lemma perform_eq_effect {op : PointOp} (hop : ∀ w, op ≠ .writeProperty w) :
    Point.perform zone p op =
      ({ p with state := (effect zone p.id p.state op).1 }, p.report (effect zone p.id p.state op).2) := by
  cases op with
  | writeProperty w => exact (hop w rfl).elim
  | setPresentValue v =>
    cases hcheck : p.state.checkValue v <;>
      simp [Point.perform, Point.setPresentValue, effect, hcheck, Base.update]
  | setReliability r => rfl
  | evaluateEvents now ackRequired =>
    simp only [Point.perform, Point.evaluateEvents, effect]
    split_ifs <;> rfl
  | acknowledgeAlarm state stamp =>
    simp only [Point.perform, Point.acknowledgeAlarm, effect]
    split_ifs
    · rfl
    · rfl
    · cases p.state.acknowledgeAlarm zone p.id state stamp <;> rfl

lemma setPresentValue_commandable (hc : s.commandable = true) (v : ApplicationValue) :
    s.setPresentValue v = ({ s with pa := { s.pa with relinquish := v } },
      if sameValue s.pa.present { s.pa with relinquish := v }.present then [] else [propertyPresentValue]) := by
  simp [PointState.setPresentValue, PointState.present, hc]

lemma setPresentValue_ignored (hc : s.commandable = false) (hin : s.input ∧ s.outOfService)
    (v : ApplicationValue) : s.setPresentValue v = (s, []) := by
  simp [PointState.setPresentValue, hc, hin]

lemma setPresentValue_plain (hc : s.commandable = false) (hin : ¬(s.input ∧ s.outOfService))
    (v : ApplicationValue) :
    s.setPresentValue v = ({ s with pv := v }, if sameValue s.pv v then [] else [propertyPresentValue]) := by
  simp only [PointState.setPresentValue, PointState.present, hc, hin, Bool.false_eq_true, if_false]

lemma setPresentValue_cases (hcheck : s.checkValue v = .ok ()) :
    (s.setPresentValue v).1.commandable = s.commandable ∧
      ((s.setPresentValue v).2 = [] → s.Hides (.setPresentValue v) ∨ (s.setPresentValue v).1 = s) := by
  cases hc : s.commandable with
  | true =>
    rw [setPresentValue_commandable hc]
    refine ⟨hc, fun hquiet => ?_⟩
    by_cases hv : v = s.pa.relinquish
    · exact .inr (by rw [hv])
    · exact .inl ⟨hcheck, by simpa [hc] using ⟨hv, by simpa using hquiet⟩⟩
  | false =>
    by_cases hin : s.input ∧ s.outOfService
    · rw [setPresentValue_ignored hc hin]
      exact ⟨hc, fun _ => .inr rfl⟩
    · rw [setPresentValue_plain hc hin]
      refine ⟨hc, fun hquiet => ?_⟩
      by_cases hv : v = s.pv
      · exact .inr (by rw [hv])
      · refine .inl ⟨hcheck, ?_⟩
        rw [if_neg (by simp [hc])]
        exact ⟨hin, hv, by simpa using hquiet⟩

lemma setPresentValue_hidden (h : s.Hides (.setPresentValue v)) :
    (s.setPresentValue v).2 = [] ∧
      if s.commandable then s.pa.relinquish ≠ (s.setPresentValue v).1.pa.relinquish
      else s.pv ≠ (s.setPresentValue v).1.pv := by
  obtain ⟨-, h⟩ := h
  split_ifs at h ⊢ with hc
  · rw [setPresentValue_commandable hc]
    exact ⟨if_pos h.2, h.1.symm⟩
  · rw [setPresentValue_plain (Bool.eq_false_iff.mpr hc) h.1]
    exact ⟨if_pos h.2.2, h.2.1.symm⟩

lemma effect_cases (zone : Zone) (id : ObjectIdentifier) (s : PointState) (op : PointOp) :
    (effect zone id s op).1.commandable = s.commandable ∧
      ((effect zone id s op).2 = [] → s.Hides op ∨ PointBlind s (effect zone id s op).1) := by
  have hsame : s.commandable = s.commandable ∧ PointBlind s s := ⟨rfl, _, _, rfl⟩
  cases op with
  | writeProperty w => exact ⟨hsame.1, fun _ => .inr hsame.2⟩
  | setPresentValue v =>
    simp only [effect]
    split
    · next hcheck =>
      obtain ⟨hkeeps, hquiet⟩ := setPresentValue_cases hcheck
      refine ⟨hkeeps, fun h => (hquiet h).imp_right fun heq => ?_⟩
      rw [heq]
      exact hsame.2
    · exact ⟨hsame.1, fun _ => .inr hsame.2⟩
  | setReliability r =>
    simp only [effect, PointState.setReliability]
    split_ifs
    · exact ⟨hsame.1, fun _ => .inr hsame.2⟩
    · exact ⟨rfl, by simp⟩
  | evaluateEvents now ackRequired =>
    simp only [effect]
    split_ifs
    · exact ⟨hsame.1, fun _ => .inr hsame.2⟩
    · obtain ⟨hkeeps, hquiet⟩ := evaluateEvents_cases s id (Point.truncate now) ackRequired
      exact ⟨hkeeps, fun h => .inr (hquiet h)⟩
  | acknowledgeAlarm state stamp =>
    simp only [effect]
    split_ifs
    · exact ⟨hsame.1, fun _ => .inr hsame.2⟩
    · exact ⟨hsame.1, fun _ => .inr hsame.2⟩
    · split
      · exact ⟨hsame.1, fun _ => .inr hsame.2⟩
      · next hack =>
        obtain rfl | ⟨t, rfl⟩ := acknowledgeAlarm_eq hack <;> exact ⟨rfl, by simp⟩

lemma perform_table (hp : PointTable p) (op : PointOp) :
    PointTable (Point.perform zone p op).1 ∧ (Point.perform zone p op).1.notify = p.notify := by
  by_cases hop : ∃ w, op = .writeProperty w
  · obtain ⟨w, rfl⟩ := hop
    have hkept := writeProperty_kept hp.sound (written_self _) w
    exact ⟨table_of_kept hp hkept (written_commandable hkept.state), hkept.notify⟩
  · rw [perform_eq_effect fun w h => hop ⟨w, h⟩]
    exact ⟨table_state hp (effect_cases zone p.id p.state op).1, rfl⟩

lemma point_reported_iff (hp : PointTable p) (hnotify : p.notify = true) (op : PointOp) :
    p.Reported (Point.perform zone p op).1 (Point.perform zone p op).2 ↔ ¬p.state.Hides op := by
  constructor
  · intro hreported hhides
    cases op with
    | setPresentValue v =>
      obtain ⟨hquiet, hchanged⟩ := setPresentValue_hidden hhides
      rw [perform_eq_effect (by simp)] at hreported
      simp only [effect, hhides.1, hquiet, report_nil] at hreported
      obtain ⟨c, hc, -⟩ := hreported (shown_differs hp hchanged)
      cases hc
    | _ => exact hhides
  · intro hhides
    by_cases hop : ∃ w, op = .writeProperty w
    · obtain ⟨w, rfl⟩ := hop
      exact reported_writeProperty hp.sound hnotify w
    · rw [perform_eq_effect fun w h => hop ⟨w, h⟩]
      refine reported_of_quiet hnotify fun hquiet ref => ?_
      have hblind := ((effect_cases zone p.id p.state op).2 hquiet).resolve_left hhides
      exact readProperty_blind hp.sound hblind ref

/-! ## Value objects -/

def valueShown : Shown ValueState := ⟨(·.commandable), (·.pa), (·.pv)⟩

abbrev ValueTable : ValueObject → Prop := ShownTable valueShown ValueState.Written Eq

lemma value_definePresentValue (ho : o.Sound ValueState.Written Eq) :
    ValueTable (ValueObject.definePresentValue o) := by
  unfold ValueObject.definePresentValue
  split
  · next hc =>
    refine ⟨sound_defineCommandable ho (fun s s' => .command) (by rintro s _ rfl; rfl), ?_⟩
    exact (if_pos hc).mpr (computes_defineCommandable o ValueState.commanded)
  · next hc =>
    refine ⟨sound_define ho _ (sound_scalar (fun v s s' changed h => ?_) (by rintro s _ rfl; rfl)), ?_⟩
    · obtain ⟨_, hcheck, h⟩ := Except.bind_eq_ok_iff.mp h
      replace h := Except.ok.inj h
      split at h
      · obtain ⟨rfl, rfl⟩ := Prod.mk.inj h
        exact ⟨.outOfService s.outOfService, fun _ => rfl⟩
      · obtain ⟨rfl, rfl⟩ := Prod.mk.inj h
        exact ⟨.value hcheck, by simp⟩
    · exact (if_neg hc).mpr ⟨_, by rw [lookup_define, if_pos rfl], rfl⟩

lemma value_defineStatus (ho : ValueTable o) (cfg : ValueConfig) :
    ValueTable (ValueObject.defineStatus o cfg) := by
  have hdescription : ValueTable
      (if cfg.description = [] then o else o.define propertyDescription (textProperty cfg.description)) := by
    split
    · exact ho
    · exact table_define ho (by decide) (sound_stored _ _ _ _)
  exact table_define (table_define (table_define (table_define hdescription (by decide)
    (sound_state (by rintro s _ rfl; rfl) false)) (by decide) (sound_stored _ _ _ _)) (by decide)
    (sound_stored _ _ _ _)) (by decide) (sound_outOfService (fun s => .outOfService s.outOfService)
    (fun _ b => .outOfService b) (by rintro s _ rfl; rfl))

lemma value_defineUnits (ho : ValueTable o) (cfg : ValueConfig) :
    ValueTable (ValueObject.defineUnits o cfg) := by
  unfold ValueObject.defineUnits
  split
  · exact ho
  · exact table_define ho (by decide) (sound_stored _ _ _ _)

lemma table_newValue {t : UInt16} {kind : ValueKind} {initial : ApplicationValue} {cfg : ValueConfig} (h : newValue t kind initial cfg = .ok o) : ValueTable o := by
  unfold newValue at h
  obtain ⟨-, h⟩ := Except.check_eq_ok_iff.mp h
  obtain ⟨-, h⟩ := Except.check_eq_ok_iff.mp h
  cases h
  exact value_defineUnits (value_defineStatus (value_definePresentValue (sound_new _ _ _)) cfg) cfg

lemma value_setPresentValue_cases {s : ValueState} (hcheck : s.checkValue v = .ok ()) :
    (s.setPresentValue v).1.commandable = s.commandable ∧
      ((s.setPresentValue v).2 = [] → s.Hides (.setPresentValue v) ∨ (s.setPresentValue v).1 = s) := by
  unfold ValueState.setPresentValue ValueState.Hides ValueState.present
  cases hc : s.commandable with
  | true =>
    simp only [if_true]
    refine ⟨trivial, fun hquiet => ?_⟩
    by_cases hv : v = s.pa.relinquish
    · exact .inr (by rw [hv, ← hc])
    · exact .inl ⟨hcheck, hv, by simpa using hquiet⟩
  | false =>
    simp only [Bool.false_eq_true, if_false]
    refine ⟨trivial, fun hquiet => ?_⟩
    by_cases hv : v = s.pv
    · exact .inr (by rw [hv, ← hc])
    · exact .inl ⟨hcheck, hv, by simpa using hquiet⟩

lemma value_setPresentValue_hidden {s : ValueState} (h : s.Hides (.setPresentValue v)) :
    (s.setPresentValue v).2 = [] ∧
      if s.commandable then s.pa.relinquish ≠ (s.setPresentValue v).1.pa.relinquish
      else s.pv ≠ (s.setPresentValue v).1.pv := by
  obtain ⟨-, h⟩ := h
  unfold ValueState.setPresentValue ValueState.present
  cases hc : s.commandable with
  | true =>
    simp only [hc, if_true] at h ⊢
    exact ⟨if_pos h.2, h.1.symm⟩
  | false =>
    simp only [hc, Bool.false_eq_true, if_false] at h ⊢
    exact ⟨if_pos h.2, h.1.symm⟩

lemma perform_setPresentValue (o : ValueObject) (v : ApplicationValue) :
    (o.state.checkValue v = .ok () ∧ ValueObject.perform o (.setPresentValue v) =
      ({ o with state := (o.state.setPresentValue v).1 }, o.report (o.state.setPresentValue v).2)) ∨
    (o.state.checkValue v ≠ .ok () ∧ ValueObject.perform o (.setPresentValue v) = (o, [])) := by
  cases hcheck : o.state.checkValue v with
  | error e => exact .inr ⟨by simp, by simp [ValueObject.perform, ValueObject.setPresentValue, hcheck]⟩
  | ok u => exact .inl ⟨rfl, by simp [ValueObject.perform, ValueObject.setPresentValue, hcheck, Base.update]⟩

lemma value_written_commandable {s s' : ValueState} (h : s.Written s') : s'.commandable = s.commandable := by
  cases h with
  | command h => cases h <;> rfl
  | _ => rfl

lemma value_perform_table (ho : ValueTable o) (op : ValueOp) :
    ValueTable (ValueObject.perform o op).1 ∧ (ValueObject.perform o op).1.notify = o.notify := by
  cases op with
  | writeProperty w =>
    have hkept := writeProperty_kept ho.sound (.outOfService o.state.outOfService) w
    exact ⟨table_of_kept ho hkept (value_written_commandable hkept.state), hkept.notify⟩
  | setPresentValue v =>
    obtain ⟨hcheck, h⟩ | ⟨-, h⟩ := perform_setPresentValue o v
    · rw [h]
      exact ⟨table_state ho (value_setPresentValue_cases hcheck).1, rfl⟩
    · rw [h]
      exact ⟨ho, rfl⟩

lemma value_reported_iff (ho : ValueTable o) (hnotify : o.notify = true) (op : ValueOp) :
    o.Reported (ValueObject.perform o op).1 (ValueObject.perform o op).2 ↔ ¬o.state.Hides op := by
  cases op with
  | writeProperty w => exact ⟨fun _ => id, fun _ => reported_writeProperty ho.sound hnotify w⟩
  | setPresentValue v =>
    obtain ⟨hcheck, h⟩ | ⟨hcheck, h⟩ := perform_setPresentValue o v
    · rw [h]
      constructor
      · intro hreported hhides
        obtain ⟨hquiet, hchanged⟩ := value_setPresentValue_hidden hhides
        rw [hquiet] at hreported
        obtain ⟨c, hc, -⟩ := hreported (shown_differs ho hchanged)
        cases hc
      · intro hhides
        refine reported_of_quiet hnotify fun hquiet ref => ?_
        rw [((value_setPresentValue_cases hcheck).2 hquiet).resolve_left hhides]
    · rw [h]
      exact ⟨fun _ hhides => hcheck hhides.1, fun _ => reported_self⟩

/-- Whatever was done to a point or a value object before, an operation that changes what some property reads as is
reported to the notifier, unless it is a new reading that is hidden: it changes the relinquish default and not the
present value, or replaces a value by another one that is the same for `sameValue`. -/
theorem change_reported_iff (zone : Zone) :
    (∀ new ∈ pointConstructors zone, ∀ cfg p₀, new cfg = .ok p₀ →
      ∀ p, Reachable p₀.setNotifier (Point.step zone) p → ∀ op,
        p.Reported (Point.perform zone p op).1 (Point.perform zone p op).2 ↔ ¬p.state.Hides op) ∧
    ∀ new ∈ valueConstructors, ∀ cfg o₀, new cfg = .ok o₀ →
      ∀ o, Reachable o₀.setNotifier ValueObject.step o → ∀ op,
        o.Reported (ValueObject.perform o op).1 (ValueObject.perform o op).2 ↔ ¬o.state.Hides op := by
  constructor
  · intro new hnew cfg p₀ hp₀ p hp op
    have hinit : PointTable p₀ := by
      simp only [pointConstructors, List.mem_cons, List.not_mem_nil, or_false] at hnew
      rcases hnew with rfl | rfl | rfl | rfl | rfl | rfl | rfl | rfl | rfl <;> exact table_newPoint hp₀
    have hstart : PointTable p₀.setNotifier ∧ p₀.setNotifier.notify = true := ⟨⟨hinit.sound, hinit.reading⟩, rfl⟩
    obtain ⟨htable, hnotify⟩ := hp.invariant (fun p => PointTable p ∧ p.notify = true) hstart (by
      rintro p op p' ⟨htable, hnotify⟩ - hstep
      cases hstep
      obtain ⟨htable', hnotify'⟩ := @perform_table p zone htable op
      exact ⟨htable', hnotify'.trans hnotify⟩)
    exact point_reported_iff htable hnotify op
  · intro new hnew cfg o₀ ho₀ o ho op
    have hinit : ValueTable o₀ := by
      simp only [valueConstructors, List.mem_cons, List.not_mem_nil, or_false] at hnew
      rcases hnew with rfl | rfl | rfl <;> exact table_newValue ho₀
    have hstart : ValueTable o₀.setNotifier ∧ o₀.setNotifier.notify = true := ⟨⟨hinit.sound, hinit.reading⟩, rfl⟩
    obtain ⟨htable, hnotify⟩ := ho.invariant (fun o => ValueTable o ∧ o.notify = true) hstart (by
      rintro o op o' ⟨htable, hnotify⟩ - hstep
      cases hstep
      obtain ⟨htable', hnotify'⟩ := value_perform_table htable op
      exact ⟨htable', hnotify'.trans hnotify⟩)
    exact value_reported_iff htable hnotify op

def outputConfig : PointConfig := { instanceNumber := 1, name := [77], numberOfStates := 3 }

def noZone : Zone := ⟨fun _ => ⟨⟨0, 0, 0, 0⟩, ⟨0, 0, 0, 0⟩⟩, fun _ => 0⟩

def commandTwo : Write := ⟨⟨propertyPresentValue, none⟩, .unsigned 2, 8⟩

/-- A Multi-state Output is commanded to state 2, and the application then sets state 3: the relinquish default is
another one, and nobody is told. -/
theorem relinquishDefault_unreported : ∃ p₀ p : Point, newMultiStateOutput noZone outputConfig = .ok p₀ ∧
    Point.step noZone p₀.setNotifier (.writeProperty commandTwo) = some p ∧
      p.readProperty ⟨propertyRelinquishDefault, none⟩ = .ok (.unsigned 1) ∧
        (Point.perform noZone p (.setPresentValue (.unsigned 3))).1.readProperty ⟨propertyRelinquishDefault, none⟩ =
          .ok (.unsigned 3) ∧ (Point.perform noZone p (.setPresentValue (.unsigned 3))).2 = [] :=
  ⟨_, _, rfl, rfl, rfl, rfl, rfl⟩

def valueConfig : ValueConfig := { instanceNumber := 1, name := [77] }

/-- The same change as a write is reported, and so is a new value of an Integer Value. -/
theorem change_reported_iff_write :
    (∃ p₀ p : Point, newMultiStateOutput noZone outputConfig = .ok p₀ ∧
      Reachable p₀.setNotifier (Point.step noZone) p ∧
        p.Reported (Point.perform noZone p (.writeProperty ⟨⟨propertyRelinquishDefault, none⟩, .unsigned 3, 0⟩)).1
          (Point.perform noZone p (.writeProperty ⟨⟨propertyRelinquishDefault, none⟩, .unsigned 3, 0⟩)).2) ∧
    ∃ o₀ : ValueObject, newIntegerValue valueConfig = .ok o₀ ∧
      o₀.setNotifier.Reported (ValueObject.perform o₀.setNotifier (.setPresentValue (.signed 5))).1
        (ValueObject.perform o₀.setNotifier (.setPresentValue (.signed 5))).2 := by
  constructor
  · refine ⟨_, _, rfl, .step (.writeProperty commandTwo) .init trivial rfl, ?_⟩
    exact ((change_reported_iff noZone).1 (newMultiStateOutput noZone) (by simp [pointConstructors]) outputConfig _ rfl _
      (.step (.writeProperty commandTwo) .init trivial rfl) _).mpr id
  · refine ⟨_, rfl, ((change_reported_iff noZone).2 newIntegerValue (by simp [valueConstructors]) valueConfig _ rfl _
      .init _).mpr fun h => ?_⟩
    have hsame : sameValue (.signed 0) (.signed 5) = true := h.2.2
    exact absurd hsame (by decide +kernel)

end GoBacnet.Proofs
