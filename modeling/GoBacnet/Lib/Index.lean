import GoBacnet.Lib.Table

/-!
# Tables with an index

An index lists the keys of a table by a projection of the key. It is exact if each list holds the keys with that
projection, once each, and no list is empty. Adding a key and removing one keep it exact. Where the projection is a
name that only one key has, the index is a table that inverts it.
-/

universe u v w

namespace Index

variable {κ : Type u} {ν : Type v} {ι : Type w} [DecidableEq ι] {proj : κ → ι} {t : Table κ ν}
  {idx : Table ι (List κ)} {k k' : κ} {i : ι} {x : ν}

def keys (idx : Table ι (List κ)) (i : ι) : List κ := (idx.lookup i).getD []

lemma keys_insert (i i' : ι) (ks : List κ) : keys (idx.insert i ks) i' = if i' = i then ks else keys idx i' := by
  simp only [keys, Table.lookup_insert_eq]
  split <;> rfl

lemma keys_erase (i i' : ι) : keys (idx.erase i) i' = if i' = i then [] else keys idx i' := by
  simp only [keys, Table.lookup_erase_eq]
  split <;> rfl

/-- The index lists exactly the keys of the table, once each, without empty lists. -/
structure Exact (proj : κ → ι) (t : Table κ ν) (idx : Table ι (List κ)) : Prop where
  mem : ∀ i k, k ∈ keys idx i ↔ k ∈ t ∧ proj k = i
  nodup : ∀ i, (keys idx i).Nodup
  nonempty : ∀ i, idx.lookup i ≠ some []

lemma exact_empty (proj : κ → ι) : Exact proj (∅ : Table κ ν) ∅ where
  mem i k := by simp [keys]
  nodup i := List.nodup_nil
  nonempty i := by simp

lemma Exact.length_keys (h : Exact proj t idx) (i : ι) :
    (keys idx i).length = (t.keys.filter (proj · = i)).length := by
  apply List.Perm.length_eq
  rw [List.perm_ext_iff_of_nodup (h.nodup i) (t.keys_nodup.filter _)]
  intro k
  rw [h.mem, List.mem_filter, AList.mem_keys, decide_eq_true_iff]

variable [DecidableEq κ]

/-- Lists a key, if it is not listed. -/
def add (proj : κ → ι) (idx : Table ι (List κ)) (k : κ) : Table ι (List κ) :=
  if k ∈ keys idx (proj k) then idx else idx.insert (proj k) (keys idx (proj k) ++ [k])

/-- Takes a key off its list, and the list away with its last key. -/
def remove (proj : κ → ι) (idx : Table ι (List κ)) (k : κ) : Table ι (List κ) :=
  if (keys idx (proj k)).length = 0 then idx
  else
    let out := (keys idx (proj k)).filter (· ≠ k)
    if out.length = 0 then idx.erase (proj k) else idx.insert (proj k) out

lemma keys_add (i : ι) :
    keys (add proj idx k) i =
      if i = proj k ∧ k ∉ keys idx (proj k) then keys idx (proj k) ++ [k] else keys idx i := by
  unfold add
  by_cases hk : k ∈ keys idx (proj k)
  · rw [if_pos hk, if_neg fun h => h.2 hk]
  · rw [if_neg hk, keys_insert]
    simp only [hk, not_false_eq_true, and_true]

lemma keys_remove (i : ι) :
    keys (remove proj idx k) i = if i = proj k then (keys idx (proj k)).filter (· ≠ k) else keys idx i := by
  unfold remove
  by_cases hnil : (keys idx (proj k)).length = 0
  · rw [if_pos hnil, List.length_eq_zero_iff.mp hnil]
    split
    · next h => rw [h, List.length_eq_zero_iff.mp hnil, List.filter_nil]
    · rfl
  · rw [if_neg hnil]
    simp only
    by_cases hout : ((keys idx (proj k)).filter (· ≠ k)).length = 0
    · rw [if_pos hout, keys_erase, List.length_eq_zero_iff.mp hout]
    · rw [if_neg hout, keys_insert]

lemma Exact.insert (h : Exact proj t idx) (k : κ) (x : ν) : Exact proj (t.insert k x) (add proj idx k) where
  mem i k' := by
    rw [keys_add, AList.mem_insert]
    split
    · next hnew =>
      rw [List.mem_append, List.mem_singleton, h.mem, hnew.1]
      constructor
      · rintro (⟨hmem, hproj⟩ | rfl)
        · exact ⟨.inr hmem, hproj⟩
        · exact ⟨.inl rfl, rfl⟩
      · rintro ⟨rfl | hmem, hproj⟩
        · exact .inr rfl
        · exact .inl ⟨hmem, hproj⟩
    · next hold =>
      rw [h.mem]
      constructor
      · exact fun hmem => ⟨.inr hmem.1, hmem.2⟩
      · rintro ⟨rfl | hmem, hproj⟩
        · exact ⟨((h.mem _ _).mp (by_contra fun hnot => hold ⟨hproj.symm, hnot⟩)).1, hproj⟩
        · exact ⟨hmem, hproj⟩
  nodup i := by
    rw [keys_add]
    split
    · next hnew => exact (List.nodup_append_comm.mp (List.nodup_cons.mpr ⟨hnew.2, h.nodup _⟩))
    · exact h.nodup i
  nonempty i := by
    unfold add
    split
    · exact h.nonempty i
    · rw [Table.lookup_insert_eq]
      split
      · simp
      · exact h.nonempty i

lemma Exact.erase (h : Exact proj t idx) (k : κ) : Exact proj (t.erase k) (remove proj idx k) where
  mem i k' := by
    rw [keys_remove, AList.mem_erase]
    split
    · next hi =>
      rw [List.mem_filter, h.mem, hi, decide_eq_true_iff]
      tauto
    · next hi =>
      rw [h.mem]
      constructor
      · rintro ⟨hmem, rfl⟩
        exact ⟨⟨fun hk => hi (by rw [hk]), hmem⟩, rfl⟩
      · exact fun hmem => ⟨hmem.1.2, hmem.2⟩
  nodup i := by
    rw [keys_remove]
    split
    · exact (h.nodup _).filter _
    · exact h.nodup i
  nonempty i := by
    unfold remove
    split
    · exact h.nonempty i
    · simp only
      split
      · rw [Table.lookup_erase_eq]
        split
        · simp
        · exact h.nonempty i
      · next hout =>
        rw [Table.lookup_insert_eq]
        split
        · exact fun hnil => hout (by rw [Option.some.inj hnil]; rfl)
        · exact h.nonempty i

end Index

/-! ## A table that inverts a function -/

namespace Table

variable {κ : Type u} {ν : Type v} [DecidableEq κ] [DecidableEq ν] {t : Table ν κ} {g : κ → Option ν} {k : κ} {n : ν}

def InverseOf (t : Table ν κ) (g : κ → Option ν) : Prop := ∀ n k, t.lookup n = some k ↔ g k = some n

lemma InverseOf.insert (h : InverseOf t g) (hk : g k = none) (hn : n ∉ t) :
    InverseOf (t.insert n k) (Function.update g k (some n)) := by
  intro n' k'
  rw [lookup_insert_eq, Function.update_apply]
  by_cases hk' : k' = k
  · subst hk'
    rw [if_pos rfl]
    by_cases hn' : n' = n
    · simp [hn']
    · rw [if_neg hn', h n' k', hk]
      exact ⟨fun hnone => absurd hnone (by simp), fun hsome => absurd (Option.some.inj hsome).symm hn'⟩
  · rw [if_neg hk']
    by_cases hn' : n' = n
    · subst hn'
      rw [if_pos rfl, ← h n' k', AList.lookup_eq_none.mpr hn]
      exact ⟨fun hsome => absurd (Option.some.inj hsome).symm hk', fun hnone => absurd hnone (by simp)⟩
    · rw [if_neg hn', h n' k']

lemma InverseOf.erase (h : InverseOf t g) (hk : g k = some n) : InverseOf (t.erase n) (Function.update g k none) := by
  intro n' k'
  rw [lookup_erase_eq, Function.update_apply]
  have hnk : t.lookup n = some k := (h n k).mpr hk
  by_cases hk' : k' = k
  · subst hk'
    rw [if_pos rfl]
    by_cases hn' : n' = n
    · simp [hn']
    · rw [if_neg hn', h n' k', hk]
      exact ⟨fun hsome => absurd (Option.some.inj hsome).symm hn', fun hnone => absurd hnone (by simp)⟩
  · rw [if_neg hk']
    by_cases hn' : n' = n
    · subst hn'
      rw [if_pos rfl, ← h n' k', hnk]
      exact ⟨fun hnone => absurd hnone (by simp), fun hsome => absurd (Option.some.inj hsome).symm hk'⟩
    · rw [if_neg hn', h n' k']

end Table
