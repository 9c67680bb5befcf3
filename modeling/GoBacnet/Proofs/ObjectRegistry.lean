import GoBacnet.Client.ObjectRegistry
import GoBacnet.Lib.Transition

/-!
# What the registry of objects keeps

The observations never exceed their bound. The one just stored is kept in every order of the iteration exactly if
nothing has to make room for it or an observation from before the same clock reading is there to do so.
-/

namespace GoBacnet.Client

structure ObjectUpsert where
  order : ObjectOrder
  observation : ObjectObservation
  now : Int

namespace ObjectRegistry

def step (r : ObjectRegistry) (a : ObjectUpsert) : Option ObjectRegistry := some (r.upsert a.order a.observation a.now)

/-- The registry between the store of an upsert and its evictions. -/
def store (r : ObjectRegistry) (o : ObjectObservation) (now : Int) : ObjectRegistry :=
  { r.expireLocked now with
    byKey := (r.expireLocked now).byKey.insert (objectKeyOf o) { o with lastSeen := now } }

/-- Something older can make room for the observation, or nothing has to. -/
def HasRoom (r : ObjectRegistry) (o : ObjectObservation) (now : Int) : Prop :=
  ((r.store o now).byKey.size : Int) ≤ r.opts.maxObservations ∨
    ∃ k seen, (r.store o now).byKey.lookup k = some seen ∧ seen.lastSeen < now

structure Sound (bound : Int) (r : ObjectRegistry) : Prop where
  limit : r.opts.maxObservations = bound
  size : (r.byKey.size : Int) ≤ bound

variable {r : ObjectRegistry} {o : ObjectObservation} {order : ObjectOrder} {bound now : Int} {k : ObjectKey}

lemma size_expireLocked : (r.expireLocked now).byKey.size ≤ r.byKey.size := by
  unfold expireLocked
  split_ifs
  · rfl
  · exact Table.size_retain_le _ _

lemma opts_expireLocked : (r.expireLocked now).opts = r.opts := by
  unfold expireLocked
  split_ifs <;> rfl

lemma size_store (h : r.Sound bound) : ((r.store o now).byKey.size : Int) ≤ bound + 1 := by
  have hexpired : (r.expireLocked now).byKey.size ≤ r.byKey.size := size_expireLocked
  have hsize := (Nat.cast_le (α := Int)).mpr hexpired
  have hbound := h.size
  unfold store
  by_cases hmem : objectKeyOf o ∈ (r.expireLocked now).byKey
  · rw [Table.size_insert_of_mem hmem]
    omega
  · rw [Table.size_insert_of_not_mem hmem]
    push_cast
    omega

/-- The one to go is in the table, and no other was seen earlier. -/
lemma oldest_spec (h : r.oldest order = some k) : ∃ o, r.byKey.lookup k = some o ∧
    ∀ k' o', r.byKey.lookup k' = some o' → o.lastSeen ≤ o'.lastSeen := by
  obtain ⟨e, he, rfl⟩ := Option.map_eq_some_iff.mp h
  have hmem : e ∈ r.byKey.entries := (order.mem_arrange _ _).mp (List.minOn?_mem he)
  refine ⟨e.2, Table.mem_entries_iff.mp hmem, fun k' o' hk' => ?_⟩
  exact List.le_of_minOn?_eq_some (f := fun e : Σ _ : ObjectKey, ObjectObservation => e.2.lastSeen) he
    ((order.mem_arrange _ _).mpr (Table.mem_entries_iff.mpr hk'))

/-- At most one observation makes room. -/
lemma upsert_cases (h : r.Sound bound) (hpos : 0 < bound) (order : ObjectOrder) (o : ObjectObservation)
    (now : Int) :
    (((r.store o now).byKey.size : Int) ≤ bound ∧ r.upsert order o now = r.store o now) ∨
    (bound < (r.store o now).byKey.size ∧ ∃ victim, (r.store o now).oldest order = some victim ∧
      r.upsert order o now = { r.store o now with byKey := (r.store o now).byKey.erase victim } ∧
      ((r.upsert order o now).byKey.size : Int) = bound) := by
  have hopts : (r.store o now).opts.maxObservations = bound := by
    rw [store, opts_expireLocked, h.limit]
  have hupsert : r.upsert order o now = (r.store o now).evict order (r.store o now).byKey.size := by
    change (r.store o now).enforceCapacityLocked order = _
    rw [enforceCapacityLocked, if_neg (by omega)]
  have hsize : ((r.store o now).byKey.size : Int) ≤ bound + 1 := size_store h
  rw [hupsert]
  generalize r.store o now = stored at hopts hsize
  rcases le_or_gt (stored.byKey.size : Int) bound with hle | hgt
  · refine .inl ⟨hle, ?_⟩
    cases stored.byKey.size with
    | zero => rfl
    | succ n =>
      rw [evict, if_neg (by omega)]
  · refine .inr ⟨hgt, ?_⟩
    obtain ⟨n, hn⟩ : ∃ n, stored.byKey.size = n + 1 := ⟨stored.byKey.size - 1, by omega⟩
    cases hold : stored.oldest order with
    | none =>
      have hlen := (order.perm stored.byKey.entries).length_eq
      cases harranged : order.arrange stored.byKey.entries with
      | nil =>
        simp only [Table.size, ← hlen, harranged] at hn
        cases hn
      | cons e rest => simp [oldest, harranged, List.minOn?_cons] at hold
    | some victim =>
      obtain ⟨seen, hseen, -⟩ := oldest_spec hold
      have herase := Table.size_erase_of_mem (Table.mem_iff_lookup.mpr ⟨seen, hseen⟩)
      have hevict : stored.evict order stored.byKey.size =
          { stored with byKey := stored.byKey.erase victim } := by
        rw [hn, evict, if_pos (by omega), hold]
        cases n with
        | zero => rfl
        | succ n =>
          simp only
          rw [evict, if_neg]
          simp only
          omega
      refine ⟨victim, rfl, hevict, ?_⟩
      rw [hevict]
      simp only
      omega

lemma Sound.upsert (h : r.Sound bound) (hpos : 0 < bound) :
    (r.upsert order o now).Sound bound := by
  have hopts : (r.store o now).opts.maxObservations = bound := by
    rw [store, opts_expireLocked, h.limit]
  rcases upsert_cases h hpos order o now with ⟨hle, heq⟩ | ⟨-, victim, -, heq, hsize⟩
  · rw [heq]
    exact ⟨hopts, hle⟩
  · refine ⟨?_, hsize.le⟩
    rw [heq]
    exact hopts

/-- The iteration that comes to one key first. -/
def keyFirst (k : ObjectKey) : ObjectOrder where
  arrange l := l.filter (fun e => e.1 = k) ++ l.filter fun e => !decide (e.1 = k)
  perm l := List.filter_append_perm _ l

lemma oldest_keyFirst (ho : r.byKey.lookup k = some o) (hmin : ∀ k' o', r.byKey.lookup k' = some o' →
    o.lastSeen ≤ o'.lastSeen) : r.oldest (keyFirst k) = some k := by
  have hmem : (⟨k, o⟩ : Σ _ : ObjectKey, ObjectObservation) ∈ r.byKey.entries.filter fun e => e.1 = k :=
    List.mem_filter.mpr ⟨Table.mem_entries_iff.mpr ho, by simp⟩
  change ((r.byKey.entries.filter (fun e => e.1 = k) ++ r.byKey.entries.filter fun e => !decide (e.1 = k)).minOn?
    fun e => e.2.lastSeen).map (·.1) = some k
  cases hfilter : r.byKey.entries.filter fun e => e.1 = k with
  | nil => simp [hfilter] at hmem
  | cons e rest =>
    obtain ⟨he, hk⟩ := List.mem_filter.mp (hfilter ▸ List.mem_cons_self : e ∈ r.byKey.entries.filter fun e => e.1 = k)
    obtain ⟨k', seen⟩ := e
    obtain rfl : k' = k := by simpa using hk
    obtain rfl : seen = o := Option.some.inj ((Table.mem_entries_iff.mp he).symm.trans ho)
    simp only [List.cons_append, List.minOn?_cons, Option.map_some, Option.some.injEq]
    cases hrest : (rest ++ r.byKey.entries.filter fun e => !decide (e.1 = k')).minOn? fun e => e.2.lastSeen with
    | none => rfl
    | some e' =>
      have he' : e' ∈ r.byKey.entries := by
        rcases List.mem_append.mp (List.minOn?_mem hrest) with hin | hin
        · exact (List.mem_filter.mp (hfilter ▸ List.mem_cons_of_mem _ hin)).1
        · exact (List.mem_filter.mp hin).1
      simp [minOn, hmin _ _ (Table.mem_entries_iff.mp he')]

/-- The observation just stored is there, whatever the order of the iteration, exactly if it has room. -/
lemma stored_iff (h : r.Sound bound) (hpos : 0 < bound) :
    (∀ order, (r.upsert order o now).byKey.lookup (objectKeyOf o) = some { o with lastSeen := now }) ↔
      r.HasRoom o now := by
  have hself : (r.store o now).byKey.lookup (objectKeyOf o) = some { o with lastSeen := now } := by
    rw [store, Table.lookup_insert_eq, if_pos rfl]
  rw [HasRoom, h.limit]
  constructor
  · intro hall
    by_contra hno
    obtain ⟨hfull, hold⟩ := not_or.mp hno
    -- No observation is older, so the iteration that begins with this one removes it.
    have hmin : ∀ k' o', (r.store o now).byKey.lookup k' = some o' → now ≤ o'.lastSeen := fun k' o' hk' =>
      not_lt.mp fun hlt => hold ⟨k', o', hk', hlt⟩
    rcases upsert_cases h hpos (keyFirst (objectKeyOf o)) o now with ⟨hle, -⟩ | ⟨-, victim, hvictim, heq, -⟩
    · exact hfull hle
    · rw [oldest_keyFirst hself hmin] at hvictim
      cases hvictim
      have := hall (keyFirst (objectKeyOf o))
      rw [heq, Table.lookup_erase_eq, if_pos rfl] at this
      cases this
  · rintro hroom order
    rcases upsert_cases h hpos order o now with ⟨-, heq⟩ | ⟨hgt, victim, hvictim, heq, -⟩
    · rw [heq, hself]
    · obtain ⟨k', seen, hk', hlt⟩ := hroom.resolve_left (not_le.mpr hgt)
      obtain ⟨gone, hgone, hmin⟩ := oldest_spec hvictim
      have hne : objectKeyOf o ≠ victim := by
        rintro rfl
        cases hgone.symm.trans hself
        exact absurd (hmin k' seen hk') (not_le.mpr hlt)
      rw [heq, Table.lookup_erase_eq, if_neg hne, hself]

end ObjectRegistry

open ObjectRegistry

/-- Over every sequence of upserts, whatever the clock reads: the bound is kept, and the observation just stored is
kept in every order of the iteration exactly if it has room. -/
theorem objectRegistry_keeps_newest {opts : RegistryOptions} (hpos : 0 < opts.maxObservations) {r : ObjectRegistry}
    (hr : Transition.Reachable (newObjectRegistry opts) ObjectRegistry.step r) (o : ObjectObservation) (now : Int) :
    (∀ order, ((r.upsert order o now).byKey.size : Int) ≤ opts.maxObservations) ∧
    ((∀ order, (r.upsert order o now).byKey.lookup (objectKeyOf o) = some { o with lastSeen := now }) ↔
      r.HasRoom o now) := by
  have hsound : r.Sound opts.maxObservations := by
    refine hr.invariant (Sound opts.maxObservations) ⟨?_, ?_⟩ fun s a s' hs _ hstep => ?_
    · simp [newObjectRegistry, RegistryOptions.withDefaults, hpos.ne']
    · exact hpos.le
    · cases hstep
      exact hs.upsert hpos
  exact ⟨fun order => (hsound.upsert hpos).size, stored_iff hsound hpos⟩

/-- An object of device 1 that was announced on the local network. -/
def announced (instanceNumber : UInt32) : ObjectObservation where
  deviceInstance := 1
  object := ⟨0, instanceNumber⟩
  name := ⟨0, []⟩
  address := {}
  origin := {}
  immediatePeer := {}

def oneObject : RegistryOptions := { maxObservations := 1 }

/-- The one observation that the registry has room for, made when the clock reads 0. -/
def oneObserved : ObjectRegistry := (newObjectRegistry oneObject).upsert .stored (announced 1) 0

theorem objectRegistry_keeps_newest_later : oneObserved.HasRoom (announced 2) 1 ∧
    ∀ order, (oneObserved.upsert order (announced 2) 1).byKey.lookup (objectKeyOf (announced 2)) =
      some { announced 2 with lastSeen := 1 } := by
  have hroom : oneObserved.HasRoom (announced 2) 1 :=
    .inr ⟨objectKeyOf (announced 1), announced 1, by decide +kernel, by decide⟩
  have hr : Transition.Reachable (newObjectRegistry oneObject) ObjectRegistry.step oneObserved :=
    .step ⟨.stored, announced 1, 0⟩ .init trivial rfl
  exact ⟨hroom, (objectRegistry_keeps_newest (by decide) hr (announced 2) 1).2.mpr hroom⟩

/-- At the same reading the iteration may come to the new observation first and remove it. -/
theorem objectRegistry_evicts_newest : ∃ order,
    (oneObserved.upsert order (announced 2) 0).byKey.lookup (objectKeyOf (announced 2)) = none :=
  ⟨keyFirst (objectKeyOf (announced 2)), by decide +kernel⟩

end GoBacnet.Client
