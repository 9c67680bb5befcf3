import GoBacnet.Client.Registry
import GoBacnet.Lib.Transition

/-!
# The registry keeps its index and its limits

After every sequence of upserts the index by instance is exact, the limits hold, and what a limit removed was seen
least recently among the candidates.
-/

namespace GoBacnet.Client.Registry

open Transition

variable {r r' : Registry} {order : ObservationOrder} {o : DeviceObservation} {k : ObservationKey} {now : Int}

variable {keys : Option (List ObservationKey)} {opts : RegistryOptions}

structure Consistent (r : Registry) : Prop where
  exact : Index.Exact ObservationKey.instanceNumber r.byKey r.byInstance
  keyed : ∀ k o, r.byKey.lookup k = some o → keyOf o = k

lemma Consistent.mem_keys (h : Consistent r) {instanceNumber : UInt32} :
    k ∈ r.keys instanceNumber ↔ ∃ o, r.byKey.lookup k = some o ∧ o.instanceNumber = instanceNumber := by
  unfold keys
  rw [h.exact.mem, Table.mem_iff_lookup]
  constructor
  · rintro ⟨⟨o, ho⟩, rfl⟩
    exact ⟨o, ho, by rw [← h.keyed k o ho]; rfl⟩
  · rintro ⟨o, ho, rfl⟩
    exact ⟨⟨o, ho⟩, by rw [← h.keyed k o ho]; rfl⟩

lemma consistent_newRegistry (opts : RegistryOptions) : Consistent (newRegistry opts) where
  exact := Index.exact_empty _
  keyed k o h := by simp [newRegistry] at h

/-! ## Removing and storing -/

/-- An operation that only removes observations. -/
structure Removes (r r' : Registry) : Prop where
  opts : r'.opts = r.opts
  consistent : Consistent r → Consistent r'
  lookup : ∀ k o, r'.byKey.lookup k = some o → r.byKey.lookup k = some o

lemma Removes.refl (r : Registry) : Removes r r := ⟨rfl, id, fun _ _ => id⟩

lemma Removes.trans {r₁ r₂ r₃ : Registry} (h : Removes r₁ r₂) (h' : Removes r₂ r₃) : Removes r₁ r₃ where
  opts := h'.opts.trans h.opts
  consistent := h'.consistent ∘ h.consistent
  lookup k o := h.lookup k o ∘ h'.lookup k o

lemma Removes.size_le (h : Removes r r') : Table.size r'.byKey ≤ Table.size r.byKey := by
  rw [Table.size_eq_keys, Table.size_eq_keys]
  apply List.Subperm.length_le
  apply r'.byKey.keys_nodup.subperm
  intro k hk
  obtain ⟨o, ho⟩ := Table.mem_iff_lookup.mp hk
  exact AList.mem_keys.mp (Table.mem_iff_lookup.mpr ⟨o, h.lookup k o ho⟩)

lemma Removes.length_keys_le (h : Removes r r') (hr : Consistent r) (instanceNumber : UInt32) :
    (r'.keys instanceNumber).length ≤ (r.keys instanceNumber).length := by
  apply List.Subperm.length_le
  apply ((h.consistent hr).exact.nodup _).subperm
  intro k hk
  obtain ⟨o, ho, hinst⟩ := (h.consistent hr).mem_keys.mp hk
  exact hr.mem_keys.mpr ⟨o, h.lookup k o ho, hinst⟩

lemma removes_removeKeyLocked (r : Registry) (k : ObservationKey) : Removes r (r.removeKeyLocked k) where
  opts := rfl
  consistent h := by
    refine ⟨h.exact.erase k, fun k' o ho => ?_⟩
    rw [removeKeyLocked, Table.lookup_erase_eq] at ho
    split at ho
    · exact absurd ho (by simp)
    · exact h.keyed k' o ho
  lookup k' o ho := by
    rw [removeKeyLocked, Table.lookup_erase_eq] at ho
    split at ho
    · exact absurd ho (by simp)
    · exact ho

lemma consistent_store (h : Consistent r) (o : DeviceObservation) : Consistent (r.store o) where
  exact := h.exact.insert (keyOf o) o
  keyed k o' ho := by
    rw [store, Table.lookup_insert_eq] at ho
    split at ho
    · next hk => rw [← Option.some.inj ho, hk]
    · exact h.keyed k o' ho

/-! ## Expiry -/

lemma removes_foldl (es : List (Σ _ : ObservationKey, DeviceObservation)) :
    Removes r (es.foldl (fun r e => r.removeKeyLocked e.1) r) := by
  induction es generalizing r with
  | nil => exact .refl r
  | cons e es ih => exact (removes_removeKeyLocked r e.1).trans ih

lemma removes_expireLocked (r : Registry) (now : Int) : Removes r (r.expireLocked now) := removes_foldl _

lemma lookup_foldl_of_not_mem {es : List (Σ _ : ObservationKey, DeviceObservation)} (hk : ∀ e ∈ es, e.1 ≠ k) :
    (es.foldl (fun r e => r.removeKeyLocked e.1) r).byKey.lookup k = r.byKey.lookup k := by
  induction es generalizing r with
  | nil => rfl
  | cons e es ih =>
    rw [List.foldl_cons, ih fun e' he' => hk e' (by simp [he'])]
    exact AList.lookup_erase_ne (hk e (by simp)).symm

lemma lookup_expireLocked (h : r.byKey.lookup k = some o) (hfresh : r.expired now o = false) :
    (r.expireLocked now).byKey.lookup k = some o := by
  rw [← h]
  apply lookup_foldl_of_not_mem
  rintro ⟨k', o'⟩ he rfl
  obtain ⟨hmem, hexpired⟩ := List.mem_filter.mp he
  rw [Table.mem_entries_iff.mp hmem] at h
  rw [← Option.some.inj h] at hfresh
  exact Bool.noConfusion (hfresh.symm.trans hexpired)

/-! ## Eviction -/

def Candidate (keys : Option (List ObservationKey)) (k : ObservationKey) : Prop := ∀ ks, keys = some ks → k ∈ ks

lemma mem_considered {t : Int} :
    (k, t) ∈ r.considered order keys ↔ Candidate keys k ∧ ∃ o, r.byKey.lookup k = some o ∧ o.lastSeen = t := by
  simp only [considered, List.mem_filterMap, Option.map_eq_some_iff, Prod.mk.injEq]
  constructor
  · rintro ⟨_, hk, o, ho, rfl, rfl⟩
    refine ⟨?_, o, ho, rfl⟩
    rintro ks rfl
    exact hk
  · rintro ⟨hk, o, ho, rfl⟩
    refine ⟨k, ?_, o, ho, rfl, rfl⟩
    cases keys with
    | none => exact List.mem_map.mpr ⟨⟨k, o⟩, (RangeOrder.mem_arrange ..).mpr (Table.mem_entries_iff.mpr ho), rfl⟩
    | some ks => exact hk ks rfl

lemma leastRecentlySeenLocked_spec {victim : ObservationKey}
    (h : r.leastRecentlySeenLocked order keys = some victim) :
    ∃ o, r.byKey.lookup victim = some o ∧ Candidate keys victim ∧
      ∀ k o', Candidate keys k → r.byKey.lookup k = some o' → o.lastSeen ≤ o'.lastSeen := by
  obtain ⟨⟨_, seen⟩, hmin, rfl⟩ := Option.map_eq_some_iff.mp h
  obtain ⟨hcandidate, o, ho, rfl⟩ := mem_considered.mp (List.minOn?_mem hmin)
  refine ⟨o, ho, hcandidate, fun k o' hk ho' => ?_⟩
  have hmem : (k, o'.lastSeen) ∈ r.considered order keys := mem_considered.mpr ⟨hk, o', ho', rfl⟩
  exact List.le_of_minOn?_eq_some (f := fun c : ObservationKey × Int => c.2) hmin hmem

lemma exists_leastRecentlySeenLocked (hk : Candidate keys k)
    (ho : r.byKey.lookup k = some o) : ∃ victim, r.leastRecentlySeenLocked order keys = some victim := by
  have hne : r.considered order keys ≠ [] := List.ne_nil_of_mem (mem_considered.mpr ⟨hk, o, ho, rfl⟩)
  have hsome := (List.isSome_minOn?_iff (f := fun c : ObservationKey × Int => c.2)).mpr hne
  obtain ⟨c, hc⟩ := Option.isSome_iff_exists.mp hsome
  exact ⟨c.1, Option.map_eq_some_iff.mpr ⟨c, hc, rfl⟩⟩

section Evict

variable {full : Registry → Bool} {candidates : Registry → Option (List ObservationKey)}
  {report : ObservationKey → EvictionReason × UInt32}

lemma removes_evictWhile (rounds : Nat) (r : Registry) :
    Removes r (r.evictWhile order full candidates report rounds).1 := by
  induction rounds generalizing r with
  | zero => exact .refl r
  | succ rounds ih =>
    unfold evictWhile
    split
    · split
      · exact .refl r
      · next victim _ => exact (removes_removeKeyLocked r victim).trans (ih _)
    · exact .refl r

/-- With as many rounds as observations, and a candidate wherever there are too many, there are not too many in
the end. -/
lemma not_full_evictWhile {rounds : Nat} (hr : Consistent r) (hrounds : Table.size r.byKey ≤ rounds)
    (hfull : ∀ r', Removes r r' → Consistent r' → full r' = true →
      ∃ k o, Candidate (candidates r') k ∧ r'.byKey.lookup k = some o) :
    full (r.evictWhile order full candidates report rounds).1 = false := by
  induction rounds generalizing r with
  | zero =>
    by_contra hne
    obtain ⟨k, o, -, ho⟩ := hfull r (.refl r) hr (Bool.eq_true_of_not_eq_false hne)
    have hpos := List.length_pos_of_mem (Table.mem_entries_iff.mpr ho)
    exact absurd hrounds (Nat.not_le.mpr hpos)
  | succ rounds ih =>
    unfold evictWhile
    split
    · next h =>
      obtain ⟨k, o, hk, ho⟩ := hfull r (.refl r) hr h
      obtain ⟨victim, hvictim⟩ := @exists_leastRecentlySeenLocked r order o k _ hk ho
      obtain ⟨old, hold, -⟩ := leastRecentlySeenLocked_spec hvictim
      rw [hvictim]
      have hremoves := removes_removeKeyLocked r victim
      apply ih (hremoves.consistent hr)
      · have hsize := Table.size_erase_of_mem (Table.mem_iff_lookup.mpr ⟨old, hold⟩)
        have hremoved : (r.removeKeyLocked victim).byKey = r.byKey.erase victim := rfl
        rw [hremoved]
        omega
      · exact fun r' h' => hfull r' (hremoves.trans h')
    · next h => exact Bool.eq_false_of_not_eq_true h

lemma mem_evictWhile {rounds : Nat} {e : Eviction} (he : e ∈ (r.evictWhile order full candidates report rounds).2) :
    (e.reason, e.instanceNumber) = report e.victim ∧ Removes r e.before ∧
      e.before.leastRecentlySeenLocked order (candidates e.before) = some e.victim := by
  induction rounds generalizing r with
  | zero => exact absurd he List.not_mem_nil
  | succ rounds ih =>
    unfold evictWhile at he
    split at he
    · split at he
      · exact absurd he List.not_mem_nil
      · next victim hvictim =>
        rcases List.mem_cons.mp he with rfl | hrest
        · exact ⟨rfl, .refl r, hvictim⟩
        · obtain ⟨hreport, hremoves, hleast⟩ := ih hrest
          exact ⟨hreport, (removes_removeKeyLocked r victim).trans hremoves, hleast⟩
    · exact absurd he List.not_mem_nil

lemma lookup_evictWhile (rounds : Nat) (ho : r.byKey.lookup k = some o) :
    (r.evictWhile order full candidates report rounds).1.byKey.lookup k = some o ∨
      ∃ e ∈ (r.evictWhile order full candidates report rounds).2, e.victim = k := by
  induction rounds generalizing r with
  | zero => exact .inl ho
  | succ rounds ih =>
    unfold evictWhile
    split
    · split
      · exact .inl ho
      · next victim _ =>
        by_cases hk : k = victim
        · exact .inr ⟨_, List.mem_cons_self, hk.symm⟩
        · have hkept : (r.removeKeyLocked victim).byKey.lookup k = some o := by
            rw [← ho]
            exact AList.lookup_erase_ne hk
          rcases ih hkept with hl | ⟨e, he, hv⟩
          · exact .inl hl
          · exact .inr ⟨e, List.mem_cons_of_mem _ he, hv⟩
    · exact .inl ho

end Evict

def Eviction.Concerns (e : Eviction) (k : ObservationKey) : Prop :=
  e.reason = .maxObservations ∨ k.instanceNumber = e.instanceNumber

structure Eviction.LeastRecent (e : Eviction) (o : DeviceObservation) : Prop where
  stored : e.before.byKey.lookup e.victim = some o
  concerned : Eviction.Concerns e e.victim
  least : ∀ k o', Eviction.Concerns e k → e.before.byKey.lookup k = some o' → ¬ o'.lastSeen < o.lastSeen

lemma Eviction.leastRecent_of_victim {e : Eviction}
    (hvictim : e.before.leastRecentlySeenLocked order keys = some e.victim)
    (hconcerns : ∀ k o, e.before.byKey.lookup k = some o → (Candidate keys k ↔ Eviction.Concerns e k)) :
    ∃ o, Eviction.LeastRecent e o := by
  obtain ⟨o, ho, hcandidate, hleast⟩ := leastRecentlySeenLocked_spec hvictim
  refine ⟨o, ho, (hconcerns _ o ho).mp hcandidate, fun k o' hk ho' => ?_⟩
  exact Int.not_lt.mpr (hleast k o' ((hconcerns k o' ho').mpr hk) ho')

section Enforce

variable {instanceNumber : UInt32}

lemma removes_enforcePaths : Removes r (r.enforcePaths order instanceNumber).1 := by
  unfold enforcePaths
  split
  · exact removes_evictWhile _ _
  · exact .refl r

lemma removes_enforceObservations : Removes r (r.enforceObservations order).1 := by
  unfold enforceObservations
  split
  · exact removes_evictWhile _ _
  · exact .refl r

lemma removes_enforceCapacityLocked : Removes r (r.enforceCapacityLocked order instanceNumber).1 :=
  removes_enforcePaths.trans removes_enforceObservations

lemma pathsFull_enforcePaths (hr : Consistent r) (hpos : 0 < r.opts.maxPathsPerInstance) :
    pathsFull instanceNumber (r.enforcePaths order instanceNumber).1 = false := by
  unfold enforcePaths
  rw [if_pos hpos]
  apply not_full_evictWhile hr le_rfl
  intro r' hremoves hr' hfull
  -- A full instance has a listed key, and a listed key is stored.
  rw [← hremoves.opts] at hpos
  have hlen : 0 < (r'.keys instanceNumber).length := by
    have := of_decide_eq_true hfull
    omega
  obtain ⟨k, hk⟩ := List.exists_mem_of_length_pos hlen
  obtain ⟨o, ho, -⟩ := hr'.mem_keys.mp hk
  refine ⟨k, o, ?_, ho⟩
  rintro ks ⟨⟩
  exact hk

lemma observationsFull_enforceObservations (hr : Consistent r) (hpos : 0 < r.opts.maxObservations) :
    observationsFull (r.enforceObservations order).1 = false := by
  unfold enforceObservations
  rw [if_pos hpos]
  apply not_full_evictWhile hr le_rfl
  intro r' hremoves hr' hfull
  rw [← hremoves.opts] at hpos
  have hlen : 0 < r'.byKey.entries.length := by
    have : r'.opts.maxObservations ≤ r'.byKey.entries.length := of_decide_eq_true hfull
    omega
  obtain ⟨⟨k, o⟩, he⟩ := List.exists_mem_of_length_pos hlen
  exact ⟨k, o, fun _ h => absurd h (by simp), Table.mem_entries_iff.mp he⟩

lemma room_enforceCapacityLocked (hr : Consistent r) :
    (0 < r.opts.maxPathsPerInstance →
      ((r.enforceCapacityLocked order instanceNumber).1.keys instanceNumber).length < r.opts.maxPathsPerInstance) ∧
    (0 < r.opts.maxObservations →
      Table.size (r.enforceCapacityLocked order instanceNumber).1.byKey < r.opts.maxObservations) := by
  have hpaths := @removes_enforcePaths r order instanceNumber
  have hall := @removes_enforceObservations (r.enforcePaths order instanceNumber).1 order
  constructor
  · intro hpos
    have hroom := of_decide_eq_false (@pathsFull_enforcePaths r order instanceNumber hr hpos)
    have hle := hall.length_keys_le (hpaths.consistent hr) instanceNumber
    rw [hpaths.opts] at hroom
    simp only [enforceCapacityLocked]
    omega
  · intro hpos
    rw [← hpaths.opts] at hpos
    have hroom := of_decide_eq_false (@observationsFull_enforceObservations _ order (hpaths.consistent hr) hpos)
    rw [hall.opts, hpaths.opts] at hroom
    simp only [enforceCapacityLocked]
    omega

lemma leastRecent_enforceCapacityLocked (hr : Consistent r) {e : Eviction}
    (he : e ∈ (r.enforceCapacityLocked order instanceNumber).2) : ∃ o, Eviction.LeastRecent e o := by
  rcases List.mem_append.mp he with hpaths | hall
  · unfold enforcePaths at hpaths
    split at hpaths
    · obtain ⟨hreport, hremoves, hvictim⟩ := mem_evictWhile hpaths
      obtain ⟨hreason, hinst⟩ := Prod.mk.inj hreport
      apply Eviction.leastRecent_of_victim hvictim
      intro k o ho
      have hkey := (hremoves.consistent hr).keyed k o ho
      constructor
      · intro hk
        obtain ⟨o', ho', hinst'⟩ := (hremoves.consistent hr).mem_keys.mp (hk _ rfl)
        obtain rfl := Option.some.inj (ho.symm.trans ho')
        exact .inr (by rw [hinst, ← hinst', ← hkey]; rfl)
      · rintro (hglobal | hk)
        · exact absurd (hreason.symm.trans hglobal) (by decide)
        · rintro _ ⟨⟩
          exact (hremoves.consistent hr).mem_keys.mpr ⟨o, ho, by rw [← hinst, ← hk, ← hkey]; rfl⟩
    · exact absurd hpaths List.not_mem_nil
  · unfold enforceObservations at hall
    split at hall
    · obtain ⟨hreport, -, hvictim⟩ := mem_evictWhile hall
      apply Eviction.leastRecent_of_victim hvictim
      intro k o ho
      exact ⟨fun _ => .inl (Prod.mk.inj hreport).1, fun _ _ h => absurd h (by simp)⟩
    · exact absurd hall List.not_mem_nil

lemma lookup_enforceCapacityLocked (ho : r.byKey.lookup k = some o) :
    (r.enforceCapacityLocked order instanceNumber).1.byKey.lookup k = some o ∨
      ∃ e ∈ (r.enforceCapacityLocked order instanceNumber).2, e.victim = k := by
  have hpaths : (r.enforcePaths order instanceNumber).1.byKey.lookup k = some o ∨
      ∃ e ∈ (r.enforcePaths order instanceNumber).2, e.victim = k := by
    unfold enforcePaths
    split
    · exact lookup_evictWhile _ ho
    · exact .inl ho
  rcases hpaths with hkept | ⟨e, he, hv⟩
  · have hall : ((r.enforcePaths order instanceNumber).1.enforceObservations order).1.byKey.lookup k = some o ∨
        ∃ e ∈ ((r.enforcePaths order instanceNumber).1.enforceObservations order).2, e.victim = k := by
      unfold enforceObservations
      split
      · exact lookup_evictWhile _ hkept
      · exact .inl hkept
    rcases hall with hl | ⟨e, he, hv⟩
    · exact .inl hl
    · exact .inr ⟨e, List.mem_append_right _ he, hv⟩
  · exact .inr ⟨e, List.mem_append_left _ he, hv⟩

end Enforce

/-! ## Upserts -/

def observationsOf (r : Registry) (instanceNumber : UInt32) : List DeviceObservation :=
  (r.byKey.entries.map fun e => e.2).filter fun o => o.instanceNumber = instanceNumber

lemma Consistent.length_keys (h : Consistent r) (instanceNumber : UInt32) :
    (r.keys instanceNumber).length = (r.observationsOf instanceNumber).length := by
  have hkeyed : ∀ e ∈ r.byKey.entries, e.1.instanceNumber = e.2.instanceNumber := by
    rintro ⟨k, o⟩ he
    rw [← h.keyed k o (Table.mem_entries_iff.mp he)]
    rfl
  unfold keys observationsOf
  rw [h.exact.length_keys, AList.keys, List.keys, List.filter_map, List.filter_map, List.length_map, List.length_map]
  apply congrArg
  apply List.filter_congr
  intro e he
  simp only [Function.comp_apply, hkeyed e he]

/-- What every upsert keeps. -/
structure Within (opts : RegistryOptions) (r : Registry) : Prop where
  opts_eq : r.opts = opts
  consistent : Consistent r
  size_le : 0 < opts.maxObservations → Table.size r.byKey ≤ opts.maxObservations
  paths_le : 0 < opts.maxPathsPerInstance → ∀ instanceNumber, (r.keys instanceNumber).length ≤ opts.maxPathsPerInstance

lemma Within.of_removes (h : Within opts r) (hremoves : Removes r r') : Within opts r' where
  opts_eq := hremoves.opts.trans h.opts_eq
  consistent := hremoves.consistent h.consistent
  size_le hpos := by
    have hold := h.size_le hpos
    have hle := hremoves.size_le
    omega
  paths_le hpos instanceNumber := by
    have hold := h.paths_le hpos instanceNumber
    have hle := hremoves.length_keys_le h.consistent instanceNumber
    omega

lemma keys_store (instanceNumber : UInt32) :
    (r.store o).keys instanceNumber =
      if instanceNumber = o.instanceNumber ∧ keyOf o ∉ r.keys o.instanceNumber then r.keys o.instanceNumber ++ [keyOf o]
      else r.keys instanceNumber := Index.keys_add instanceNumber

lemma within_store_of_mem (h : Within opts r) (hmem : keyOf o ∈ r.byKey) :
    Within opts (r.store o) where
  opts_eq := h.opts_eq
  consistent := consistent_store h.consistent o
  size_le hpos := by
    have hsize : Table.size (r.store o).byKey = Table.size r.byKey := Table.size_insert_of_mem hmem
    rw [hsize]
    exact h.size_le hpos
  paths_le hpos instanceNumber := by
    have hlisted : keyOf o ∈ r.keys o.instanceNumber := (h.consistent.exact.mem _ _).mpr ⟨hmem, rfl⟩
    rw [keys_store, if_neg fun hnew => hnew.2 hlisted]
    exact h.paths_le hpos instanceNumber

lemma within_store_of_room (h : Within opts r) (hnew : keyOf o ∉ r.byKey)
    (hsize : 0 < opts.maxObservations → Table.size r.byKey < opts.maxObservations)
    (hpaths : 0 < opts.maxPathsPerInstance → (r.keys o.instanceNumber).length < opts.maxPathsPerInstance) :
    Within opts (r.store o) where
  opts_eq := h.opts_eq
  consistent := consistent_store h.consistent o
  size_le hpos := by
    have hroom := hsize hpos
    have hstored : Table.size (r.store o).byKey = Table.size r.byKey + 1 := Table.size_insert_of_not_mem hnew
    rw [hstored]
    omega
  paths_le hpos instanceNumber := by
    have hroom := hpaths hpos
    rw [keys_store]
    split
    · rw [List.length_append, List.length_singleton]
      omega
    · exact h.paths_le hpos instanceNumber

lemma within_upsert (h : Within opts r) : Within opts (r.upsert order o now).1 := by
  have hexpire := h.of_removes (removes_expireLocked r now)
  unfold upsert
  simp only
  split
  · next old hold => exact within_store_of_mem hexpire (Table.mem_iff_lookup.mpr ⟨old, hold⟩)
  · next hnone =>
    have hremoves := @removes_enforceCapacityLocked (r.expireLocked now) order o.instanceNumber
    obtain ⟨hpaths, hsize⟩ := @room_enforceCapacityLocked (r.expireLocked now) order o.instanceNumber hexpire.consistent
    rw [hexpire.opts_eq] at hpaths hsize
    refine within_store_of_room (hexpire.of_removes hremoves) ?_ hsize hpaths
    intro hmem
    obtain ⟨old, hold⟩ := Table.mem_iff_lookup.mp hmem
    rw [hremoves.lookup _ _ hold] at hnone
    exact Option.some_ne_none _ hnone

lemma lookup_upsert : ∃ capabilities,
    (r.upsert order o now).1.byKey.lookup (keyOf o) = some { o with lastSeen := now, capabilities } := by
  unfold upsert
  simp only
  split
  · exact ⟨_, AList.lookup_insert _⟩
  · exact ⟨_, AList.lookup_insert _⟩

lemma leastRecent_upsert (h : Consistent r) {e : Eviction} (he : e ∈ (r.upsert order o now).2) :
    ∃ o, Eviction.LeastRecent e o := by
  unfold upsert at he
  simp only at he
  split at he
  · exact absurd he List.not_mem_nil
  · exact leastRecent_enforceCapacityLocked ((removes_expireLocked r now).consistent h) he

lemma removed_upsert {old : DeviceObservation} (hold : r.byKey.lookup k = some old)
    (hgone : (r.upsert order o now).1.byKey.lookup k = none) :
    r.expired now old = true ∨ ∃ e ∈ (r.upsert order o now).2, e.victim = k := by
  by_cases hexpired : r.expired now old = true
  · exact .inl hexpired
  · have hkept := lookup_expireLocked hold (Bool.eq_false_of_not_eq_true hexpired)
    right
    unfold upsert at hgone ⊢
    simp only at hgone ⊢
    split at hgone
    · rw [store, Table.lookup_insert_eq] at hgone
      split at hgone
      · exact absurd hgone (by simp)
      · exact absurd (hkept.symm.trans hgone) (by simp)
    · rw [store, Table.lookup_insert_eq] at hgone
      split at hgone
      · exact absurd hgone (by simp)
      · rcases @lookup_enforceCapacityLocked _ order _ _ o.instanceNumber hkept with hl | hevicted
        · exact absurd (hl.symm.trans hgone) (by simp)
        · exact hevicted

lemma within_newRegistry (opts : RegistryOptions) : Within opts.withDefaults (newRegistry opts) where
  opts_eq := rfl
  consistent := consistent_newRegistry opts
  size_le hpos := hpos.le
  paths_le hpos _ := hpos.le

lemma within_of_reachable (hr : Reachable (newRegistry opts) step r) :
    Within opts.withDefaults r :=
  hr.invariant _ (within_newRegistry opts) fun _ _ _ h _ hs => Option.some.inj hs ▸ within_upsert h

/-- In every state that upserts lead to, whatever the clock: the index lists exactly the keys of the observations,
once each and without empty lists, and both limits hold. The next upsert stores its observation, and each observation
that it removes is expired or one that no candidate was seen before. -/
theorem registry_indexed_and_bounded (opts : RegistryOptions) (r : Registry)
    (hr : Reachable (newRegistry opts) step r) :
    (∀ instanceNumber k, k ∈ r.keys instanceNumber ↔
      ∃ o, r.byKey.lookup k = some o ∧ keyOf o = k ∧ o.instanceNumber = instanceNumber) ∧
    (∀ instanceNumber, (r.keys instanceNumber).Nodup ∧ r.byInstance.lookup instanceNumber ≠ some []) ∧
    (0 < opts.withDefaults.maxObservations → Table.size r.byKey ≤ opts.withDefaults.maxObservations) ∧
    (0 < opts.withDefaults.maxPathsPerInstance →
      ∀ instanceNumber, (r.observationsOf instanceNumber).length ≤ opts.withDefaults.maxPathsPerInstance) ∧
    ∀ (order : ObservationOrder) (o : DeviceObservation) (now : Int),
      (∃ capabilities, (r.upsert order o now).1.byKey.lookup (keyOf o) =
        some { o with lastSeen := now, capabilities }) ∧
      (∀ e ∈ (r.upsert order o now).2, ∃ victim, Eviction.LeastRecent e victim) ∧
      ∀ k old, r.byKey.lookup k = some old → (r.upsert order o now).1.byKey.lookup k = none →
        r.expired now old = true ∨ ∃ e ∈ (r.upsert order o now).2, e.victim = k := by
  have hwithin := within_of_reachable hr
  refine ⟨fun instanceNumber k => ?_, fun instanceNumber => ?_, hwithin.size_le, fun hpos instanceNumber => ?_,
    fun order o now => ⟨lookup_upsert, fun e he => leastRecent_upsert hwithin.consistent he,
      fun k old hold hgone => removed_upsert hold hgone⟩⟩
  · rw [hwithin.consistent.mem_keys]
    exact ⟨fun ⟨o, ho, hinst⟩ => ⟨o, ho, hwithin.consistent.keyed k o ho, hinst⟩, fun ⟨o, ho, _, hinst⟩ => ⟨o, ho, hinst⟩⟩
  · exact ⟨hwithin.consistent.exact.nodup _, hwithin.consistent.exact.nonempty _⟩
  · rw [← hwithin.consistent.length_keys]
    exact hwithin.paths_le hpos instanceNumber

def announcement (node : UInt8) : DeviceObservation where
  instanceNumber := 7
  address := .ofLocalStation ⟨[10, 0, 0, node, 0xBA, 0xC0], by simp [maxMACLength]⟩
  origin := ⟨.v4 10 0 0 node, 47808⟩
  immediatePeer := ⟨.v4 10 0 0 node, 47808⟩
  lastSeen := 0

/-- With room for one path to each device, a second path makes the first go. -/
theorem registry_one_path :
    ∃ r, Reachable (newRegistry { maxPathsPerInstance := 1 }) step r ∧ (r.observationsOf 7).length = 1 ∧
      (r.upsert .stored (announcement 2) 1).2.map Eviction.victim = [keyOf (announcement 1)] ∧
      ∀ e ∈ (r.upsert .stored (announcement 2) 1).2, ∃ victim, Eviction.LeastRecent e victim := by
  have hr : Reachable (newRegistry { maxPathsPerInstance := 1 }) step _ :=
    .step ⟨.stored, announcement 1, 0⟩ .init trivial rfl
  exact ⟨_, hr, by decide +kernel, by decide +kernel,
    ((registry_indexed_and_bounded _ _ hr).2.2.2.2 .stored (announcement 2) 1).2.1⟩

end GoBacnet.Client.Registry
