import GoBacnet.Proofs.ChangeReports
import GoBacnet.Proofs.ObjectRuns

/-!
# The texts of a multi-state object

State_Text is the one array that points keep in their table without a setter of its own: a write replaces one text or
the whole array.
-/

namespace GoBacnet.Server

def stateTexts {σ : Type} (els : List Element) : Property σ where
  array := true
  writable := true
  kinds := [.characterString]
  value := .constructed els

def Element.IsText (el : Element) : Prop := el.context = false ∧ el.value.kind = .characterString

inductive ReplacesTexts (w : Write) (els : List Element) : List Element → Prop
  | whole {els' : List Element} (hindex : w.property.arrayIndex = none) (hvalue : w.value = .constructed els')
      (htexts : ∀ el ∈ els', Element.IsText el) : ReplacesTexts w els els'
  | item (i : Nat) (hkind : w.value.kind = .characterString) : ReplacesTexts w els (els.set i (.app 0 w.value))

def Point.Texts (inv : List Element → Prop) (p : Point) : Prop :=
  ∀ q, p.props.lookup propertyStateText = some q → ∃ els, q = stateTexts els ∧ inv els

end GoBacnet.Server

namespace GoBacnet.Proofs

open GoBacnet.Server

variable {inv : List Element → Prop} {p : Point} {zone : Zone}

lemma store_stateTexts {σ : Type} {els : List Element} {w : Write} {q : Property σ}
    (h : (stateTexts els).store w = .ok q) : ∃ els', q = stateTexts els' ∧ ReplacesTexts w els els' := by
  unfold Property.store stateTexts at h
  dsimp only at h
  split at h
  · obtain ⟨-, h⟩ := Except.check_eq_ok_iff.mp h
    obtain ⟨-, h⟩ := Except.check_eq_ok_iff.mp h
    obtain ⟨hkind, h⟩ := Except.check_eq_ok_iff.mp h
    cases h
    exact ⟨_, rfl, .item _ (by simpa [kindAllowed] using hkind)⟩
  · next hindex =>
    rw [if_pos rfl] at h
    split at h
    · next els' hvalue =>
      obtain ⟨htexts, h⟩ := Except.check_eq_ok_iff.mp h
      cases h
      refine ⟨els', rfl, .whole hindex hvalue fun el hel => ?_⟩
      have hel' : ¬ (el.context || !kindAllowed [.characterString] el.value.kind) = true :=
        fun hbad => htexts (List.any_eq_true.mpr ⟨el, hel, hbad⟩)
      simpa [kindAllowed, Element.IsText] using hel'
    · cases h

/-! ## Construction -/

/-- A point before the properties of intrinsic reporting are added. -/
def basicPoint (t : UInt16) (kind : PointKind) (input commandable : Bool) (cfg : PointConfig)
    (initial : ApplicationValue) : Point :=
  Point.defineKind (Point.defineStatus (Point.definePresentValue
    (Base.new ⟨t, cfg.instanceNumber⟩ cfg.name (cfg.initialState kind input commandable initial))) cfg) t cfg

lemma newPoint_of_constructor {new : PointConfig → Except ObjectErr Point} (hnew : new ∈ pointConstructors zone)
    (cfg : PointConfig) : ∃ t kind input commandable, new cfg = newPoint zone t kind input commandable cfg := by
  simp only [pointConstructors, List.mem_cons, List.not_mem_nil, or_false] at hnew
  rcases hnew with rfl | rfl | rfl | rfl | rfl | rfl | rfl | rfl | rfl <;> exact ⟨_, _, _, _, rfl⟩

lemma newPoint_cases {t : UInt16} {kind : PointKind} {input commandable : Bool} {cfg : PointConfig}
    (h : newPoint zone t kind input commandable cfg = .ok p) :
    ∃ initial, cfg.initial kind = .ok initial ∧
      ((cfg.events = none ∧ p = basicPoint t kind input commandable cfg initial) ∨
        ∃ ev, cfg.events = some ev ∧ cfg.checkEvents t kind ev = .ok () ∧
          p = (basicPoint t kind input commandable cfg initial).defineEvents zone) := by
  unfold newPoint at h
  obtain ⟨-, h⟩ := Except.check_eq_ok_iff.mp h
  obtain ⟨-, h⟩ := Except.check_eq_ok_iff.mp h
  obtain ⟨initial, hinitial, h⟩ := Except.bind_eq_ok_iff.mp h
  refine ⟨initial, hinitial, ?_⟩
  dsimp only at h
  split at h
  · next hnone => exact .inl ⟨hnone, (Except.ok.inj h).symm⟩
  · next ev hev =>
    obtain ⟨_, hcheck, heq⟩ := Except.map_eq_ok_iff.mp h
    exact .inr ⟨ev, hev, hcheck, heq.symm⟩

@[simp] lemma new_state {σ : Type} (id : ObjectIdentifier) (name : Octets) (s : σ) : (Base.new id name s).state = s := rfl

@[simp] lemma definePresentValue_state : (Point.definePresentValue p).state = p.state := by
  unfold Point.definePresentValue
  split <;> rfl

@[simp] lemma defineStatus_state (cfg : PointConfig) : (Point.defineStatus p cfg).state = p.state := by
  unfold Point.defineStatus
  dsimp only
  split_ifs <;> rfl

lemma lookup_defineStatus (cfg : PointConfig) {id : UInt32}
    (hid : id ∉ [propertyDescription, propertyStatusFlags, propertyEventState, propertyReliability, propertyOutOfService]) :
    (Point.defineStatus p cfg).props.lookup id = p.props.lookup id := by
  simp only [List.mem_cons, List.not_mem_nil, or_false, not_or] at hid
  unfold Point.defineStatus
  dsimp only
  split_ifs <;> simp [hid]

lemma lookup_defineKind (t : UInt16) (cfg : PointConfig) {id : UInt32}
    (hid : id ∉ [propertyUnits, propertyCOVIncrement, propertyPolarity, propertyInactiveText, propertyActiveText,
      propertyNumberOfStates, propertyStateText]) : (Point.defineKind p t cfg).props.lookup id = p.props.lookup id := by
  simp only [List.mem_cons, List.not_mem_nil, or_false, not_or] at hid
  unfold Point.defineKind
  split
  · simp [hid]
  · dsimp only
    split_ifs <;> simp [hid]
  · dsimp only
    split <;> simp [hid]

lemma lookup_defineReporting {id : UInt32}
    (hid : id ∉ [propertyNotificationClass, propertyTimeDelay, propertyEventEnable, propertyNotifyType,
      propertyEventDetectionEnable, propertyAckedTransitions, propertyEventTimeStamps]) :
    (Point.defineReporting zone p).props.lookup id = p.props.lookup id := by
  simp only [List.mem_cons, List.not_mem_nil, or_false, not_or] at hid
  simp [Point.defineReporting, hid]

lemma lookup_defineEvents {id : UInt32}
    (hreporting : id ∉ [propertyNotificationClass, propertyTimeDelay, propertyEventEnable, propertyNotifyType,
      propertyEventDetectionEnable, propertyAckedTransitions, propertyEventTimeStamps])
    (hid : id ∉ [propertyHighLimit, propertyLowLimit, propertyDeadband, propertyLimitEnable, propertyAlarmValue,
      propertyAlarmValues, propertyFaultValues]) : (Point.defineEvents zone p).props.lookup id = p.props.lookup id := by
  rw [← @lookup_defineReporting p zone id hreporting]
  simp only [List.mem_cons, List.not_mem_nil, or_false, not_or] at hid
  unfold Point.defineEvents Point.defineAlgorithm
  split <;> simp [hid]

lemma texts_defineKind (t : UInt16) {cfg : PointConfig} (hfresh : p.props.lookup propertyStateText = none)
    (hcfg : p.state.kind = .multiState → ∀ texts, cfg.stateText = some texts →
      inv (texts.map fun text => .app 0 (charString text))) : (Point.defineKind p t cfg).Texts inv := by
  intro q hq
  unfold Point.defineKind at hq
  split at hq
  · simp +decide [hfresh] at hq
  · dsimp only at hq
    split_ifs at hq <;> simp +decide [hfresh] at hq
  · next hkind =>
    dsimp only at hq
    split at hq
    · simp +decide [hfresh] at hq
    · next texts htexts =>
      rw [lookup_define, if_pos rfl] at hq
      exact ⟨_, (Option.some.inj hq).symm, hcfg hkind texts htexts⟩

lemma texts_newPoint {t : UInt16} {kind : PointKind} {input commandable : Bool} {cfg : PointConfig}
    (h : newPoint zone t kind input commandable cfg = .ok p)
    (hcfg : kind = .multiState → ∀ texts, cfg.stateText = some texts →
      inv (texts.map fun text => .app 0 (charString text))) : p.Texts inv := by
  obtain ⟨initial, -, hp⟩ := newPoint_cases h
  have hbasic : (basicPoint t kind input commandable cfg initial).Texts inv := by
    refine texts_defineKind t ?_ fun hkind => hcfg (by simpa [PointConfig.initialState] using hkind)
    rw [lookup_defineStatus cfg (by decide)]
    unfold Point.definePresentValue
    split <;> rfl
  rcases hp with ⟨-, rfl⟩ | ⟨ev, -, -, rfl⟩
  · exact hbasic
  · intro q hq
    exact hbasic q ((lookup_defineEvents (by decide) (by decide)).symm.trans hq)

/-! ## Operations -/

lemma texts_perform (hp : p.Texts inv) {op : PointOp}
    (hwrite : ∀ w els els', op = .writeProperty w → w.property.identifier = propertyStateText → inv els →
      ReplacesTexts w els els' → inv els') : (Point.perform zone p op).1.Texts inv := by
  intro q hq
  by_cases hop : ∃ w, op = .writeProperty w
  · obtain ⟨w, rfl⟩ := hop
    rcases lookup_writeProperty_cases p w propertyStateText with heq | ⟨q₀, q', hid, hq₀, -, hstore, hq'⟩
    · exact hp q (heq.symm.trans hq)
    · obtain rfl := Option.some.inj (hq'.symm.trans hq)
      obtain ⟨els, rfl, hels⟩ := hp q₀ hq₀
      obtain ⟨els', rfl, hreplaces⟩ := store_stateTexts hstore
      exact ⟨els', rfl, hwrite w els els' rfl hid.symm hels hreplaces⟩
  · rw [perform_eq_effect fun w h => hop ⟨w, h⟩] at hq
    exact hp q hq

end GoBacnet.Proofs
