import GoBacnet.Lib.Result
import GoBacnet.Server.Point

/-!
# Tables of properties

What a table of properties is good for does not depend on the object: a property whose setter names no changed property
changes nothing, so every write is reported, and a getter that does not look at a part of the state reads the same
whatever that part is.
-/

namespace GoBacnet.Server

variable {σ : Type}

/-- What is asked of a property: a setter keeps the states related by `keeps`, and changes nothing when it names no
property; a getter does not see the difference between states related by `blind`. -/
structure Property.Sound (keeps blind : σ → σ → Prop) (p : Property σ) : Prop where
  set : ∀ set ∈ p.set, ∀ w s s' changed, set w s = .ok (s', changed) → keeps s s' ∧ (changed = [] → s' = s)
  get : ∀ f, p.get = .state f → ∀ s s', blind s s' → f s = f s'

def Base.Sound (keeps blind : σ → σ → Prop) (b : Base σ) : Prop :=
  ∀ id p, b.props.lookup id = some p → p.Sound keeps blind

def Base.Computes (b : Base σ) (id : UInt32) (f : σ → ApplicationValue) : Prop :=
  ∃ p, b.props.lookup id = some p ∧ p.get = .state f

def Base.Reported (b b' : Base σ) (changes : List Change) : Prop :=
  (∃ ref, b.readProperty ref ≠ b'.readProperty ref) → ∃ c ∈ changes, c.object = b.id

/-- What a command does: it puts a checked value or none in a slot, or replaces the relinquish default. -/
inductive Commanded.Written (c : Commanded σ) (s : σ) : σ → Prop
  | slot (i : Nat) {slot : Option ApplicationValue} (h : ∀ v ∈ slot, v ≠ .null ∧ c.check s v = .ok ()) :
      c.Written s (c.withPA s { c.pa s with slots := (c.pa s).slots.setIfInBounds i slot })
  | relinquish {v : ApplicationValue} (h : c.check s v = .ok ()) :
      c.Written s (c.withPA s { c.pa s with relinquish := v })

def Base.setNotifier (b : Base σ) : Base σ := { b with notify := true }

end GoBacnet.Server

namespace GoBacnet.Proofs

open GoBacnet.Server

variable {σ : Type} {keeps blind : σ → σ → Prop} {b b' : Base σ}

variable {changed : List UInt32} {id : UInt32} {w : Write}

/-! ## Tables of properties -/

@[simp] lemma lookup_define (id id' : UInt32) (p : Property σ) :
    (b.define id p).props.lookup id' = if id' = id then some p else b.props.lookup id' :=
  Table.lookup_insert_eq id p b.props id'

@[simp] lemma define_state (id : UInt32) (p : Property σ) : (b.define id p).state = b.state := rfl

lemma sound_define (hb : b.Sound keeps blind) (id : UInt32) {p : Property σ} (hp : p.Sound keeps blind) :
    (b.define id p).Sound keeps blind := by
  intro id' q hq
  rw [lookup_define] at hq
  split_ifs at hq
  · cases hq
    exact hp
  · exact hb id' q hq

lemma sound_readOnly {p : Property σ} (hset : p.set = none)
    (hget : ∀ f, p.get = .state f → ∀ s s', blind s s' → f s = f s') : p.Sound keeps blind :=
  ⟨by simp [hset], hget⟩

lemma sound_new (id : ObjectIdentifier) (name : Octets) (s : σ) : (Base.new id name s).Sound keeps blind := by
  have hheader (f : Header → ApplicationValue) (array : Bool) :
      Property.Sound keeps blind { get := .header f, array } := sound_readOnly rfl nofun
  have hempty : Base.Sound keeps blind { id, name, order := [], props := ∅, state := s } := by
    intro id p hp
    simp at hp
  exact sound_define (sound_define (sound_define (sound_define hempty _ (hheader _ _)) _ (hheader _ _)) _
    (hheader _ _)) _ (hheader _ _)

lemma computes_define {id' : UInt32} {f : σ → ApplicationValue} (h : b.Computes id f) (hne : id ≠ id')
    (p : Property σ) : (b.define id' p).Computes id f := by
  obtain ⟨q, hq, hget⟩ := h
  exact ⟨q, by rw [lookup_define, if_neg hne, hq], hget⟩

lemma store_eq {p p' : Property σ} (h : p.store w = .ok p') : p'.set = p.set ∧ p'.get = p.get := by
  unfold Property.store at h
  split at h
  · obtain ⟨-, h⟩ := Except.check_eq_ok_iff.mp h
    obtain ⟨-, h⟩ := Except.check_eq_ok_iff.mp h
    obtain ⟨-, h⟩ := Except.check_eq_ok_iff.mp h
    cases h
    exact ⟨rfl, rfl⟩
  · rcases Except.ite_eq_ok_iff.mp h with ⟨-, h⟩ | ⟨-, h⟩
    · split at h
      · obtain ⟨-, h⟩ := Except.check_eq_ok_iff.mp h
        cases h
        exact ⟨rfl, rfl⟩
      · cases h
    · obtain ⟨-, h⟩ := Except.check_eq_ok_iff.mp h
      cases h
      exact ⟨rfl, rfl⟩

lemma writeLocked_cases (h : b.writeLocked w = .ok (b', changed)) :
    ∃ p, b.props.lookup w.property.identifier = some p ∧ p.writable = true ∧
      ((∃ set ∈ p.set, ∃ s, set w b.state = .ok (s, changed) ∧ b' = { b with state := s }) ∨
        p.set = none ∧ ∃ p', p.store w = .ok p' ∧
          b' = { b with props := b.props.insert w.property.identifier p' } ∧ changed = [w.property.identifier]) := by
  unfold Base.writeLocked at h
  split at h
  · cases h
  · next p hp =>
    obtain ⟨hwritable, h⟩ := Except.check_eq_ok_iff.mp h
    refine ⟨p, hp, by simpa using hwritable, ?_⟩
    split at h
    · next set hset =>
      obtain ⟨⟨s, changed'⟩, hs, heq⟩ := Except.map_eq_ok_iff.mp h
      obtain ⟨rfl, rfl⟩ := Prod.mk.inj heq
      exact .inl ⟨set, hset, s, hs, rfl⟩
    · next hnone =>
      obtain ⟨p', hp', heq⟩ := Except.map_eq_ok_iff.mp h
      obtain ⟨rfl, rfl⟩ := Prod.mk.inj heq
      exact .inr ⟨hnone, p', hp', rfl, rfl⟩

lemma writeLocked_quiet (hb : b.Sound keeps blind) (h : b.writeLocked w = .ok (b', [])) : b' = b := by
  obtain ⟨p, hp, -, ⟨set, hset, s, hs, rfl⟩ | ⟨-, p', -, -, hchanged⟩⟩ := writeLocked_cases h
  · obtain rfl := ((hb _ p hp).set set hset w b.state s [] hs).2 rfl
    rfl
  · cases hchanged

/-- A write stores its value in the property that it names, if that has no setter of its own, and replaces no other
property of the table. -/
lemma lookup_writeProperty_cases (b : Base σ) (w : Write) (id : UInt32) :
    (b.writeProperty w).1.props.lookup id = b.props.lookup id ∨
      ∃ p p', id = w.property.identifier ∧ b.props.lookup id = some p ∧ (p.writable = true ∧ p.set = none) ∧
        p.store w = .ok p' ∧ (b.writeProperty w).1.props.lookup id = some p' := by
  unfold Base.writeProperty
  cases hw : b.writeLocked w with
  | error e => exact .inl rfl
  | ok r =>
    obtain ⟨b', changed⟩ := r
    obtain ⟨p, hp, hwritable, ⟨set, -, s, -, rfl⟩ | ⟨hnone, p', hstore, rfl, -⟩⟩ := writeLocked_cases hw
    · exact .inl rfl
    · have hlookup := Table.lookup_insert_eq w.property.identifier p' b.props id
      by_cases hid : id = w.property.identifier
      · exact .inr ⟨p, p', hid, hid ▸ hp, ⟨hwritable, hnone⟩, hstore, hlookup.trans (if_pos hid)⟩
      · exact .inl (hlookup.trans (if_neg hid))

lemma lookup_writeProperty {p : Property σ} (hp : b.props.lookup id = some p) {set : Setter σ}
    (hset : p.set = some set) (w : Write) : (b.writeProperty w).1.props.lookup id = some p := by
  rcases lookup_writeProperty_cases b w id with heq | ⟨q, -, -, hq, ⟨-, hnone⟩, -⟩
  · exact heq.trans hp
  · obtain rfl := Option.some.inj (hp.symm.trans hq)
    simp [hset] at hnone

lemma lookup_none_writeProperty (hp : b.props.lookup id = none) (w : Write) :
    (b.writeProperty w).1.props.lookup id = none := by
  rcases lookup_writeProperty_cases b w id with heq | ⟨q, -, -, hq, -⟩
  · exact heq.trans hp
  · simp [hp] at hq

lemma lookup_readOnly_writeProperty {p : Property σ} (hp : b.props.lookup id = some p)
    (hwritable : p.writable = false) (w : Write) : (b.writeProperty w).1.props.lookup id = some p := by
  rcases lookup_writeProperty_cases b w id with heq | ⟨q, -, -, hq, ⟨hq', -⟩, -⟩
  · exact heq.trans hp
  · obtain rfl := Option.some.inj (hp.symm.trans hq)
    simp [hwritable] at hq'

lemma computes_writeProperty {f : σ → ApplicationValue} (h : b.Computes id f) (w : Write) :
    (b.writeProperty w).1.Computes id f := by
  obtain ⟨p, hp, hf⟩ := h
  rcases lookup_writeProperty_cases b w id with heq | ⟨q, q', -, hq, -, hstore, hq'⟩
  · exact ⟨p, heq.trans hp, hf⟩
  · obtain rfl := Option.some.inj (hp.symm.trans hq)
    exact ⟨q', hq', (store_eq hstore).2.trans hf⟩

lemma sound_writeProperty (hb : b.Sound keeps blind) (w : Write) : (b.writeProperty w).1.Sound keeps blind := by
  intro id p hp
  rcases lookup_writeProperty_cases b w id with heq | ⟨q, q', -, hq, -, hstore, hq'⟩
  · exact hb id p (heq.symm.trans hp)
  · obtain rfl := Option.some.inj (hq'.symm.trans hp)
    obtain ⟨hset, hget⟩ := store_eq hstore
    exact ⟨by simpa only [hset] using (hb id q hq).set, by simpa only [hget] using (hb id q hq).get⟩

/-- What is kept by a write: the table is as good as before, the getters are the same and the states are related. -/
structure Kept (keeps blind : σ → σ → Prop) (b b' : Base σ) : Prop where
  sound : b'.Sound keeps blind
  computes : ∀ id f, b.Computes id f → b'.Computes id f
  state : keeps b.state b'.state
  notify : b'.notify = b.notify

lemma writeProperty_kept (hb : b.Sound keeps blind) (hrefl : keeps b.state b.state) (w : Write) :
    Kept keeps blind b (b.writeProperty w).1 := by
  have hstate : keeps b.state (b.writeProperty w).1.state ∧ (b.writeProperty w).1.notify = b.notify := by
    unfold Base.writeProperty
    cases hw : b.writeLocked w with
    | error e => exact ⟨hrefl, rfl⟩
    | ok r =>
      obtain ⟨b', changed⟩ := r
      obtain ⟨p, hp, -, ⟨set, hset, s, hs, rfl⟩ | ⟨-, p', -, rfl, -⟩⟩ := writeLocked_cases hw
      · exact ⟨((hb _ p hp).set set hset w b.state s changed hs).1, rfl⟩
      · exact ⟨hrefl, rfl⟩
  exact ⟨sound_writeProperty hb w, fun _ _ h => computes_writeProperty h w, hstate.1, hstate.2⟩

/-! ## Reports -/

@[simp] lemma report_nil : b.report [] = [] := rfl

lemma report_eq_nil_iff (hnotify : b.notify = true) : b.report changed = [] ↔ changed = [] := by
  cases changed <;> simp [Base.report, hnotify]

lemma object_of_mem_report {c : Change} (h : c ∈ b.report changed) : c.object = b.id := by
  unfold Base.report at h
  split_ifs at h <;> simp_all

lemma reported_of_quiet (hnotify : b.notify = true)
    (h : changed = [] → ∀ ref, b.readProperty ref = b'.readProperty ref) : b.Reported b' (b.report changed) := by
  rintro ⟨ref, hne⟩
  have hchanged : b.report changed ≠ [] := fun hnil => hne (h ((report_eq_nil_iff hnotify).mp hnil) ref)
  obtain ⟨c, hc⟩ := List.exists_mem_of_ne_nil _ hchanged
  exact ⟨c, hc, object_of_mem_report hc⟩

lemma reported_self {changes : List Change} : b.Reported b changes := fun ⟨_, hne⟩ => (hne rfl).elim

lemma reported_writeProperty (hb : b.Sound keeps blind) (hnotify : b.notify = true) (w : Write) :
    b.Reported (b.writeProperty w).1 (b.writeProperty w).2.2 := by
  unfold Base.writeProperty
  cases hw : b.writeLocked w with
  | error e => exact reported_self
  | ok r =>
    obtain ⟨b', changed⟩ := r
    refine reported_of_quiet hnotify ?_
    rintro rfl ref
    rw [writeLocked_quiet hb hw]

lemma readProperty_blind (hb : b.Sound keeps blind) {s : σ} (h : blind b.state s) (ref : PropertyReference) :
    b.readProperty ref = ({ b with state := s } : Base σ).readProperty ref := by
  unfold Base.readProperty
  cases hp : b.props.lookup ref.identifier with
  | none => rfl
  | some p =>
    have hvalue : b.valueOf p = ({ b with state := s } : Base σ).valueOf p := by
      unfold Base.valueOf
      cases hget : p.get with
      | stored => rfl
      | header f => rfl
      | state f => exact (hb _ p hp).get f hget b.state s h
    simp only [hvalue]

lemma readProperty_state {p : Property σ} {f : σ → ApplicationValue}
    (hlookup : b.props.lookup id = some p) (hget : p.get = .state f) : b.readProperty ⟨id, none⟩ = .ok (f b.state) := by
  simp [Base.readProperty, hlookup, Base.valueOf, hget]

lemma readProperty_ne {f : σ → ApplicationValue} (h : b.Computes id f) {s : σ} (hne : f b.state ≠ f s) :
    b.readProperty ⟨id, none⟩ ≠ ({ b with state := s } : Base σ).readProperty ⟨id, none⟩ := by
  obtain ⟨p, hp, hget⟩ := h
  simpa [Base.readProperty, hp, Base.valueOf, hget] using hne

/-! ## Setters -/

lemma scalarSetter_eq_ok_iff {set : ApplicationValue → σ → Except ObjectErr (σ × List UInt32)} {s : σ}
    {r : σ × List UInt32} :
    scalarSetter set w s = .ok r ↔ w.property.arrayIndex = none ∧ set w.value s = .ok r := by
  unfold scalarSetter
  rw [Except.check_eq_ok_iff]
  simp

lemma sound_scalar {f : σ → ApplicationValue} {set : ApplicationValue → σ → Except ObjectErr (σ × List UInt32)}
    (hset : ∀ v s s' changed, set v s = .ok (s', changed) → keeps s s' ∧ (changed = [] → s' = s))
    (hget : ∀ s s', blind s s' → f s = f s') :
    Property.Sound keeps blind { writable := true, get := .state f, set := some (scalarSetter set) } := by
  refine ⟨?_, ?_⟩
  · rintro _ ⟨⟩ w s s' changed h
    exact hset _ s s' changed (scalarSetter_eq_ok_iff.mp h).2
  · rintro _ ⟨⟩
    exact hget

lemma sound_state {f : σ → ApplicationValue} (hget : ∀ s s', blind s s' → f s = f s') (array : Bool) :
    Property.Sound keeps blind { get := .state f, array } := by
  refine sound_readOnly rfl ?_
  rintro _ ⟨⟩
  exact hget

lemma sound_stored (v : ApplicationValue) (writable array : Bool) (kinds : List ValueKind) :
    Property.Sound keeps blind { value := v, writable, kinds, array } := sound_readOnly rfl nofun

lemma sound_outOfService {get : σ → Bool} {set : σ → Bool → σ} (hkeeps : ∀ s, keeps s s)
    (hset : ∀ s b, keeps s (set s b)) (hblind : ∀ s s', blind s s' → get s = get s') :
    (outOfServiceProperty get set).Sound keeps blind := by
  refine sound_scalar (fun v s s' changed h => ?_) fun s s' h => by rw [hblind s s' h]
  cases v with
  | boolean b =>
    rcases Except.ite_eq_ok_iff.mp h with ⟨-, h⟩ | ⟨-, h⟩
    · cases h
      exact ⟨hkeeps s, fun _ => rfl⟩
    · cases h
      exact ⟨hset s b, by simp⟩
  | _ => cases h

lemma written_of_write {c : Commanded σ} {s : σ} {v : ApplicationValue} {priority : UInt8} {pa : PriorityArray}
    (hcheck : c.checkCommand s v = .ok ()) (h : (c.pa s).write v priority = .ok pa) : c.Written s (c.withPA s pa) := by
  obtain ⟨-, h⟩ := Except.check_eq_ok_iff.mp h
  cases h
  refine .slot _ fun x hx => ?_
  cases v with
  | null => cases hx
  | _ =>
    cases hx
    exact ⟨nofun, hcheck⟩

lemma sound_defineCommandable (hb : b.Sound keeps blind) {c : Commanded σ} (hkeeps : ∀ s s', c.Written s s' → keeps s s')
    (hblind : ∀ s s', blind s s' → c.pa s = c.pa s') : (b.defineCommandable c).Sound keeps blind := by
  have hget (g : PriorityArray → ApplicationValue) (s s' : σ) (h : blind s s') : g (c.pa s) = g (c.pa s') := by
    rw [hblind s s' h]
  refine sound_define (sound_define (sound_define (sound_define hb _ ?_) _ ?_) _ ?_) _ ?_
  · exact sound_state (hget PriorityArray.value) true
  · refine sound_scalar (fun v s s' changed h => ?_) (hget PriorityArray.relinquish)
    obtain ⟨_, hcheck, h⟩ := Except.bind_eq_ok_iff.mp h
    cases h
    exact ⟨hkeeps _ _ (.relinquish hcheck), by simp⟩
  · exact sound_state (hget PriorityArray.currentPriority) false
  · refine ⟨?_, by rintro _ ⟨⟩; exact hget PriorityArray.present⟩
    rintro _ ⟨⟩ w s s' changed h
    obtain ⟨-, h⟩ := Except.check_eq_ok_iff.mp h
    obtain ⟨_, hcheck, h⟩ := Except.bind_eq_ok_iff.mp h
    obtain ⟨pa, hpa, h⟩ := Except.bind_eq_ok_iff.mp h
    cases h
    exact ⟨hkeeps _ _ (written_of_write hcheck hpa), by simp⟩

lemma computes_defineCommandable (b : Base σ) (c : Commanded σ) :
    (b.defineCommandable c).Computes propertyRelinquishDefault fun s => (c.pa s).relinquish :=
  computes_define (computes_define ⟨_, by rw [lookup_define, if_pos rfl], rfl⟩ (by decide) _) (by decide) _

/-! ## Objects with a present value -/

structure Shown (σ : Type) where
  commandable : σ → Bool
  pa : σ → PriorityArray
  pv : σ → ApplicationValue

structure ShownTable (a : Shown σ) (keeps blind : σ → σ → Prop) (b : Base σ) : Prop where
  sound : b.Sound keeps blind
  reading : if a.commandable b.state then b.Computes propertyRelinquishDefault fun s => (a.pa s).relinquish
    else b.Computes propertyPresentValue a.pv

section Shown

variable {a : Shown σ}

lemma table_define (h : ShownTable a keeps blind b) {id : UInt32} {q : Property σ}
    (hid : id ≠ propertyRelinquishDefault ∧ id ≠ propertyPresentValue) (hq : q.Sound keeps blind) :
    ShownTable a keeps blind (b.define id q) := by
  refine ⟨sound_define h.sound id hq, ?_⟩
  have hreading := h.reading
  rw [define_state]
  split_ifs at hreading ⊢
  · exact computes_define hreading hid.1.symm q
  · exact computes_define hreading hid.2.symm q

lemma table_of_kept (hb : ShownTable a keeps blind b) (h : Kept keeps blind b b')
    (hcommandable : a.commandable b'.state = a.commandable b.state) : ShownTable a keeps blind b' := by
  refine ⟨h.sound, ?_⟩
  have hreading := hb.reading
  rw [hcommandable]
  split_ifs at hreading ⊢
  · exact h.computes _ _ hreading
  · exact h.computes _ _ hreading

lemma table_state (hb : ShownTable a keeps blind b) {s : σ} (hs : a.commandable s = a.commandable b.state) :
    ShownTable a keeps blind { b with state := s } := by
  refine ⟨hb.sound, ?_⟩
  rw [hs]
  exact hb.reading

lemma shown_differs (hb : ShownTable a keeps blind b) {s : σ}
    (h : if a.commandable b.state then (a.pa b.state).relinquish ≠ (a.pa s).relinquish else a.pv b.state ≠ a.pv s) :
    ∃ ref, b.readProperty ref ≠ ({ b with state := s } : Base σ).readProperty ref := by
  have hreading := hb.reading
  split_ifs at hreading h
  · exact ⟨_, readProperty_ne hreading h⟩
  · exact ⟨_, readProperty_ne hreading h⟩

end Shown

end GoBacnet.Proofs
