import Mathlib.Data.List.AList
import Mathlib.Tactic

/-!
# Tables

Finite maps as lists of entries with distinct keys, on top of `AList`: their size, the entries that a test retains,
and what each operation does to both.
-/

universe u v

/-- A finite map from `κ` to `ν`. -/
abbrev Table (κ : Type u) (ν : Type v) := AList fun _ : κ => ν

namespace Table

variable {κ : Type u} {ν : Type v} {t : Table κ ν} {a a' : κ} {b b' : ν} {p : κ → ν → Bool}

def size (t : Table κ ν) : Nat := t.entries.length

lemma size_eq_keys (t : Table κ ν) : size t = t.keys.length := by
  simp [size, AList.keys, List.keys]

@[simp] lemma size_empty : size (∅ : Table κ ν) = 0 := rfl

/-- The entries that pass a test. -/
def retain (p : κ → ν → Bool) (t : Table κ ν) : Table κ ν where
  entries := t.entries.filter fun e => p e.1 e.2
  nodupKeys := t.nodupKeys.sublist List.filter_sublist

lemma size_retain_le (p : κ → ν → Bool) (t : Table κ ν) : size (retain p t) ≤ size t :=
  List.length_filter_le ..

def weight (w : ν → Nat) (t : Table κ ν) : Nat := (t.entries.map fun e => w e.2).sum

@[simp] lemma weight_empty (w : ν → Nat) : weight w (∅ : Table κ ν) = 0 := rfl

variable [DecidableEq κ]

lemma mem_entries_iff : ⟨a, b⟩ ∈ t.entries ↔ t.lookup a = some b := AList.mem_lookup_iff.symm

lemma lookup_retain (p : κ → ν → Bool) (t : Table κ ν) (a : κ) :
    (retain p t).lookup a = (t.lookup a).filter (p a) := by
  apply Option.ext
  intro b
  rw [← mem_entries_iff, Option.filter_eq_some_iff, ← mem_entries_iff]
  exact List.mem_filter

lemma lookup_retain_eq_some : (retain p t).lookup a = some b ↔ t.lookup a = some b ∧ p a b = true := by
  rw [lookup_retain, Option.filter_eq_some_iff]

lemma mem_iff_lookup : a ∈ t ↔ ∃ b, t.lookup a = some b := by
  rw [← AList.lookup_isSome, Option.isSome_iff_exists]

lemma lookup_insert_eq (a : κ) (b : ν) (t : Table κ ν) (a' : κ) :
    (t.insert a b).lookup a' = if a' = a then some b else t.lookup a' := by
  by_cases h : a' = a
  · subst h
    rw [if_pos rfl, AList.lookup_insert]
  · rw [if_neg h, AList.lookup_insert_ne h]

lemma lookup_erase_eq (a : κ) (t : Table κ ν) (a' : κ) :
    (t.erase a).lookup a' = if a' = a then none else t.lookup a' := by
  by_cases h : a' = a
  · subst h
    rw [if_pos rfl, AList.lookup_erase]
  · rw [if_neg h, AList.lookup_erase_ne h]

lemma size_erase_of_mem (h : a ∈ t) : size (t.erase a) + 1 = size t := by
  rw [AList.mem_keys] at h
  rw [size_eq_keys, size_eq_keys, AList.keys_erase, List.length_erase_of_mem h,
    Nat.sub_add_cancel (List.length_pos_of_mem h)]

lemma size_insert_of_mem (h : a ∈ t) : size (t.insert a b) = size t := by
  rw [AList.mem_keys] at h
  rw [size_eq_keys, size_eq_keys, AList.keys_insert, List.length_cons, List.length_erase_of_mem h,
    Nat.sub_add_cancel (List.length_pos_of_mem h)]

lemma size_insert_of_not_mem (h : a ∉ t) : size (t.insert a b) = size t + 1 := by
  rw [AList.mem_keys] at h
  rw [size_eq_keys, size_eq_keys, AList.keys_insert, List.length_cons, List.erase_of_not_mem h]

lemma erase_of_not_mem (h : a ∉ t) : t.erase a = t := AList.ext (List.kerase_of_notMem_keys h)

@[simp] lemma erase_insert (a : κ) (b : ν) (t : Table κ ν) : (t.insert a b).erase a = t.erase a := by
  apply AList.ext
  show List.kerase a ((⟨a, b⟩ : Σ _ : κ, ν) :: List.kerase a t.entries) = List.kerase a t.entries
  exact List.kerase_cons_eq rfl

lemma weight_erase (w : ν → Nat) (h : t.lookup a = some b) : weight w (t.erase a) + w b = weight w t := by
  obtain ⟨b', l₁, l₂, hnot, hentries, herase⟩ := List.exists_of_kerase (AList.mem_keys.mp (mem_iff_lookup.mpr ⟨b, h⟩))
  have hb : t.lookup a = some b' := mem_entries_iff.mp (by rw [hentries]; simp)
  obtain rfl := Option.some.inj (h.symm.trans hb)
  have hkept : (t.erase a).entries = l₁ ++ l₂ := herase
  simp only [weight, hkept, hentries, List.map_append, List.map_cons, List.sum_append, List.sum_cons]
  omega

lemma weight_insert (w : ν → Nat) (a : κ) (b : ν) (t : Table κ ν) :
    weight w (t.insert a b) = weight w (t.erase a) + w b := by
  simp only [weight, AList.entries_insert, List.map_cons, List.sum_cons]
  exact Nat.add_comm ..

lemma weight_replace (w : ν → Nat) (h : t.lookup a = some b) (b' : ν) :
    weight w (t.insert a b') + w b = weight w t + w b' := by
  have herase := weight_erase w h
  rw [weight_insert]
  omega

lemma weight_insert_new (w : ν → Nat) (h : a ∉ t) (b : ν) : weight w (t.insert a b) = weight w t + w b := by
  rw [weight_insert, erase_of_not_mem h]

end Table

structure RangeOrder (α : Type u) where
  arrange : List α → List α
  perm : ∀ l, (arrange l).Perm l

namespace RangeOrder

variable {α : Type u}

@[simp] lemma mem_arrange (order : RangeOrder α) (l : List α) (x : α) : x ∈ order.arrange l ↔ x ∈ l :=
  (order.perm l).mem_iff

def stored : RangeOrder α := ⟨id, fun _ => .refl _⟩

end RangeOrder

lemma List.le_of_minOn?_eq_some {α : Type u} {β : Type v} [LinearOrder β] {f : α → β} {l : List α} {a x : α}
    (h : l.minOn? f = some a) (hx : x ∈ l) : f a ≤ f x := by
  have hle := List.apply_get_minOn?_le_of_mem (f := f) hx
  simpa only [h, Option.get_some] using hle
