import GoBacnet.Client.Machine

/-!
# The invoke IDs of the transaction manager

The manager on its own: allocations, registrations of the IDs that were handed out, and completions with any
quarantine, at any times. The deadlines of all completions are kept beside the state.
-/

namespace GoBacnet.Client

structure Managed where
  state : State
  deadlines : List (UInt8 × Nat)

inductive TxOp
  | tick (d : Nat)
  | alloc (r : Rid)
  | register (r : Rid) (id : UInt8)
  | complete (f : Fin)

namespace Managed

def init : Managed := ⟨State.init, []⟩

def step (cfg : Config) (m : Managed) : TxOp → Option Managed
  | .tick d => some { m with state := { m.state with now := m.state.now + d } }
  | .alloc r =>
    match m.state.tryAlloc cfg with
    | some id => some { m with state := m.state.reserve r id }
    | none => some m
  | .register r id => if m.state.reserved id then some { m with state := m.state.register r id } else none
  | .complete f =>
    match m.state.inUse f.id with
    | some r => some ⟨m.state.complete f r, (f.id, m.state.now + f.quarantine) :: m.deadlines⟩
    | none => some m

/-- The three maps are consistent, and a quarantine that is not over is still in the map. -/
structure Consistent (cfg : Config) (m : Managed) : Prop where
  disjoint : ∀ id, m.state.inUse id ≠ none → m.state.reserved id = false
  load : m.state.load ≤ State.capacity cfg
  kept : ∀ id deadline, (id, deadline) ∈ m.deadlines →
    deadline ≤ m.state.now ∨ m.state.quarantine id = some deadline
  recorded : ∀ id deadline, m.state.quarantine id = some deadline → (id, deadline) ∈ m.deadlines
  resting : ∀ id, m.state.inUse id ≠ none ∨ m.state.reserved id = true → m.state.quarantine id = none

end Managed

namespace State

variable {s : State}

/-! ## Counting -/

lemma countP_update {p : UInt8 → Bool} {l : List UInt8} (hl : l.Nodup) {a : UInt8} (ha : a ∈ l) (b : Bool) :
    l.countP (Function.update p a b) + (if p a then 1 else 0) = l.countP p + if b then 1 else 0 := by
  induction l with
  | nil => cases ha
  | cons x l ih =>
    obtain ⟨hx, hl⟩ := List.nodup_cons.mp hl
    rw [List.countP_cons, List.countP_cons]
    rcases eq_or_ne x a with rfl | hne
    · have hrest : l.countP (Function.update p x b) = l.countP p :=
        List.countP_congr fun y hy => by rw [Function.update_of_ne (ne_of_mem_of_not_mem hy hx)]
      rw [hrest, Function.update_self]
      omega
    · have hmem : a ∈ l := (List.mem_cons.mp ha).resolve_left hne.symm
      rw [Function.update_of_ne hne]
      have := ih hl hmem
      omega

lemma nodup_allIDs : allIDs.Nodup := by
  refine (List.nodup_map_iff_inj_on List.nodup_range).mpr fun a ha b hb h => ?_
  have htoNat := congrArg UInt8.toNat h
  simpa [Nat.mod_eq_of_lt (List.mem_range.mp ha), Nat.mod_eq_of_lt (List.mem_range.mp hb)] using htoNat

lemma mem_allIDs (id : UInt8) : id ∈ allIDs :=
  List.mem_map.mpr ⟨id.toNat, List.mem_range.mpr id.toNat_lt, by simp⟩

lemma isSome_update (f : UInt8 → Option Rid) (a : UInt8) (v : Option Rid) :
    (fun id => (Function.update f a v id).isSome) = Function.update (fun id => (f id).isSome) a v.isSome := by
  funext id
  simp only [Function.update_apply]
  split_ifs <;> rfl

lemma load_reserve (r : Rid) (id : UInt8) : (s.reserve r id).load ≤ s.load + 1 := by
  have hcount := countP_update (p := s.reserved) nodup_allIDs (mem_allIDs id) true
  simp only [State.load, State.reserve]
  simp at hcount
  omega

lemma load_register {id : UInt8} (hid : s.reserved id = true) (r : Rid) : (s.register r id).load ≤ s.load := by
  have hreserved := countP_update (p := s.reserved) nodup_allIDs (mem_allIDs id) false
  have hinUse := countP_update (p := fun id => (s.inUse id).isSome) nodup_allIDs (mem_allIDs id) true
  simp only [State.load, State.register, isSome_update]
  simp [hid] at hreserved hinUse ⊢
  omega

lemma load_complete (f : Fin) (r : Rid) : (s.complete f r).load ≤ s.load := by
  have hinUse := countP_update (p := fun id => (s.inUse id).isSome) nodup_allIDs (mem_allIDs f.id) false
  simp only [State.load, State.complete, State.publish, State.updReq, isSome_update]
  simp at hinUse ⊢
  omega

/-! ## The search -/

lemma findFree_free {fuel : Nat} {start id : UInt8} (h : s.findFree fuel start = some id) : s.free id = true := by
  induction fuel generalizing start with
  | zero => cases h
  | succ fuel ih =>
    unfold State.findFree at h
    split_ifs at h with hfree
    · cases h
      exact hfree
    · exact ih h

lemma tryAlloc_free {cfg : Config} {id : UInt8} (h : s.tryAlloc cfg = some id) : s.free id = true := by
  unfold State.tryAlloc at h
  split_ifs at h
  exact findFree_free h

/-- A search that fails has seen every ID it went past. -/
lemma not_free_of_findFree {fuel : Nat} {start : UInt8} (h : s.findFree fuel start = none) {k : Nat} (hk : k < fuel) :
    s.free (start + UInt8.ofNat k) = false := by
  induction fuel generalizing start k with
  | zero => omega
  | succ fuel ih =>
    unfold State.findFree at h
    split_ifs at h with hfree
    cases k with
    | zero => simpa using hfree
    | succ k =>
      have hstart : start + UInt8.ofNat (k + 1) = start + 1 + UInt8.ofNat k := by
        rw [Nat.add_comm, UInt8.ofNat_add, ← UInt8.add_assoc]
        rfl
      rw [hstart]
      exact ih h (by omega)

lemma not_free_of_round {start : UInt8} (h : s.findFree 256 start = none) (id : UInt8) : s.free id = false := by
  have hid := not_free_of_findFree h (id - start).toNat_lt
  rwa [UInt8.ofNat_toNat, UInt8.add_comm, UInt8.sub_add_cancel] at hid

lemma free_iff {id : UInt8} : s.free id = true ↔
    s.inUse id = none ∧ s.reserved id = false ∧ ∀ until_, s.quarantine id = some until_ → until_ ≤ s.now := by
  unfold State.free
  cases s.quarantine id <;> simp [and_assoc]

end State

namespace Managed

variable {cfg : Config} {m m' : Managed}

lemma consistent_init : init.Consistent cfg where
  disjoint _ h := (h rfl).elim
  load := by simp [init, State.init, State.load]
  kept _ _ h := by cases h
  recorded _ _ h := by cases h
  resting _ _ := rfl

lemma Consistent.alloc (h : m.Consistent cfg) {id : UInt8} (hid : m.state.tryAlloc cfg = some id) (r : Rid) :
    Consistent cfg { m with state := m.state.reserve r id } := by
  obtain ⟨hinUse, -, hover⟩ := State.free_iff.mp (State.tryAlloc_free hid)
  unfold State.tryAlloc at hid
  split_ifs at hid with hload
  refine ⟨fun i hi => ?_, (State.load_reserve r id).trans (by omega), fun i d hd => ?_, fun i d hd => ?_, fun i hi => ?_⟩
  · have hne : i ≠ id := fun heq => hi (heq ▸ hinUse)
    exact (Function.update_of_ne hne _ _).trans (h.disjoint i hi)
  · rcases h.kept i d hd with hle | hq
    · exact .inl hle
    · rcases eq_or_ne i id with rfl | hne
      · exact .inl (hover d hq)
      · exact .inr ((Function.update_of_ne hne _ _).trans hq)
  · simp only [State.reserve, Function.update_apply] at hd
    split_ifs at hd
    exact h.recorded i d hd
  · simp only [State.reserve, Function.update_apply] at hi ⊢
    split_ifs at hi ⊢
    · rfl
    · exact h.resting i hi

lemma Consistent.register (h : m.Consistent cfg) {id : UInt8} (hid : m.state.reserved id = true) (r : Rid) :
    Consistent cfg { m with state := m.state.register r id } := by
  refine ⟨fun i hi => ?_, (State.load_register hid r).trans h.load, h.kept, h.recorded, fun i hi => ?_⟩
  · simp only [State.register, Function.update_apply] at hi ⊢
    split_ifs at hi ⊢
    · rfl
    · exact h.disjoint i hi
  · simp only [State.register, Function.update_apply] at hi
    split_ifs at hi with heq
    · exact h.resting i (.inr (heq ▸ hid))
    · exact h.resting i hi

lemma Consistent.complete (h : m.Consistent cfg) {f : Fin} {r : Rid} (hr : m.state.inUse f.id = some r) :
    Consistent cfg ⟨m.state.complete f r, (f.id, m.state.now + f.quarantine) :: m.deadlines⟩ := by
  have hused : m.state.inUse f.id ≠ none := by simp [hr]
  have hquarantine (i : UInt8) : (m.state.complete f r).quarantine i =
      if i = f.id ∧ f.quarantine > 0 then some (m.state.now + f.quarantine) else m.state.quarantine i := by
    simp only [State.complete, State.publish, State.updReq]
    split_ifs <;> simp_all
  have hinUse (i : UInt8) : (m.state.complete f r).inUse i = if i = f.id then none else m.state.inUse i := by
    simp [State.complete, State.publish, State.updReq, Function.update_apply]
  refine ⟨fun i hi => ?_, (State.load_complete f r).trans h.load, fun i d hd => ?_, fun i d hd => ?_, fun i hi => ?_⟩
  · rw [hinUse] at hi
    split_ifs at hi
    · exact absurd rfl hi
    · exact h.disjoint i hi
  · rw [hquarantine]
    rcases List.mem_cons.mp hd with heq | hd
    · obtain ⟨rfl, rfl⟩ := Prod.mk.inj heq
      by_cases hq : f.quarantine > 0
      · exact .inr (if_pos ⟨rfl, hq⟩)
      · exact .inl (show m.state.now + f.quarantine ≤ m.state.now by omega)
    · rcases h.kept i d hd with hle | hq
      · exact .inl hle
      · -- The ID was in use, so its own quarantine was over.
        have hne : i ≠ f.id := fun heq => by
          rw [heq, h.resting f.id (.inl hused)] at hq
          cases hq
        exact .inr (by rw [if_neg (fun hc => hne hc.1), hq])
  · rw [hquarantine] at hd
    split_ifs at hd with hc
    · cases hd
      rw [hc.1]
      exact List.mem_cons_self
    · exact List.mem_cons_of_mem _ (h.recorded i d hd)
  · rw [hquarantine]
    have hne : i ≠ f.id := by
      rintro rfl
      rcases hi with hi | hi
      · exact hi (by rw [hinUse, if_pos rfl])
      · exact absurd (h.disjoint _ hused) (by rw [show m.state.reserved f.id = true from hi]; decide)
    rw [if_neg fun hc => hne hc.1]
    rw [hinUse, if_neg hne] at hi
    exact h.resting i hi

lemma Consistent.step (h : m.Consistent cfg) {op : TxOp} (hstep : m.step cfg op = some m') : m'.Consistent cfg := by
  cases op with
  | tick d =>
    cases hstep
    exact { h with kept := fun id d hd => (h.kept id d hd).imp_left fun hle => hle.trans (Nat.le_add_right _ _) }
  | alloc r =>
    simp only [Managed.step] at hstep
    split at hstep <;> cases hstep
    exacts [h.alloc ‹_› r, h]
  | register r id =>
    simp only [Managed.step] at hstep
    split_ifs at hstep with hid
    cases hstep
    exact h.register hid r
  | complete f =>
    simp only [Managed.step] at hstep
    split at hstep <;> cases hstep
    exacts [h.complete ‹_›, h]

/-- After every sequence of operations: no ID is in use and reserved, the IDs that are taken are within the capacity,
an ID that is handed out is not taken and past the deadline of each of its completions, and an allocation fails only
at capacity or while every ID that is not taken rests. -/
theorem invokeIDs_managed (h : Transition.Reachable init (step cfg) m) :
    (∀ id, m.state.inUse id ≠ none → m.state.reserved id = false) ∧
    m.state.load ≤ State.capacity cfg ∧ State.capacity cfg ≤ 255 ∧
    (∀ id, m.state.tryAlloc cfg = some id → m.state.inUse id = none ∧ m.state.reserved id = false ∧
      ∀ deadline, (id, deadline) ∈ m.deadlines → deadline ≤ m.state.now) ∧
    (m.state.tryAlloc cfg = none → m.state.load = State.capacity cfg ∨
      ∀ id, m.state.inUse id = none → m.state.reserved id = false →
        ∃ deadline, (id, deadline) ∈ m.deadlines ∧ m.state.now < deadline) := by
  have hm : m.Consistent cfg := h.invariant (Consistent cfg) consistent_init fun _ _ _ hs _ hstep => hs.step hstep
  refine ⟨hm.disjoint, hm.load, ?_, fun id hid => ?_, fun hnone => ?_⟩
  · unfold State.capacity
    split_ifs <;> omega
  · obtain ⟨hinUse, hreserved, hover⟩ := State.free_iff.mp (State.tryAlloc_free hid)
    refine ⟨hinUse, hreserved, fun d hd => ?_⟩
    rcases hm.kept id d hd with hle | hq
    exacts [hle, hover d hq]
  · unfold State.tryAlloc at hnone
    split_ifs at hnone with hload
    · exact .inl (le_antisymm hm.load hload)
    · refine .inr fun id hinUse hreserved => ?_
      have hnot := State.not_free_of_round hnone id
      cases hq : m.state.quarantine id with
      | none => simp [State.free, hinUse, hreserved, hq] at hnot
      | some d =>
        refine ⟨d, hm.recorded id d hq, ?_⟩
        simpa [State.free, hinUse, hreserved, hq] using hnot

theorem invokeIDs_managed_reused : ∃ m : Managed, ∃ id deadline,
    Transition.run (step {}) init [.alloc 1, .register 1 0, .complete ⟨0, 1, .failed .timeout, 3000, .complete, false⟩,
      .tick 3000] = some m ∧ (id, deadline) ∈ m.deadlines ∧ m.state.inUse id = none ∧ m.state.load ≤ 255 := by
  obtain ⟨m, hm⟩ := Option.isSome_iff_exists.mp (by decide +kernel : (Transition.run (step {}) init
    [.alloc 1, .register 1 0, .complete ⟨0, 1, .failed .timeout, 3000, .complete, false⟩, .tick 3000]).isSome = true)
  have hr : Transition.Reachable init (step {}) m := Transition.Reachable.run .init hm
  have hdeadline : (Transition.run (step {}) init [.alloc 1, .register 1 0,
      .complete ⟨0, 1, .failed .timeout, 3000, .complete, false⟩, .tick 3000]).map
        (fun m => (m.deadlines, m.state.inUse 0)) = some ([(0, 3000)], none) := by decide +kernel
  rw [hm] at hdeadline
  obtain ⟨hd, hu⟩ := Prod.mk.inj (Option.some.inj hdeadline)
  exact ⟨m, 0, 3000, hm, by simp [hd], hu, (invokeIDs_managed hr).2.1⟩

end Managed

end GoBacnet.Client
