import Mathlib.Data.List.Nodup
import Mathlib.Data.List.Perm.Basic

/-!
# Lists of workers with distinct keys

A list of workers of which no two share a key, and the changes that a step of one worker makes to it: the worker is
replaced by one with its key, or it leaves.
-/

namespace Workers

variable {ω κ : Type*} {key : ω → κ} {l : List ω} {i : Nat} {a b w : ω}

lemma map_set_key (ha : l[i]? = some a) (hkey : key b = key a) : (l.set i b).map key = l.map key := by
  obtain ⟨hlt, rfl⟩ := List.getElem?_eq_some_iff.mp ha
  have hlt' : i < (l.map key).length := by simpa using hlt
  have hget : (l.map key)[i] = key l[i] := List.getElem_map _
  rw [List.map_set, hkey, ← hget, List.set_getElem_self]

lemma eq_of_key (hnodup : (l.map key).Nodup) (ha : a ∈ l) (hb : b ∈ l) (hkey : key a = key b) : a = b :=
  List.inj_on_of_nodup_map hnodup ha hb hkey

lemma mem_set_new (ha : l[i]? = some a) : b ∈ l.set i b := by
  obtain ⟨hlt, -⟩ := List.getElem?_eq_some_iff.mp ha
  exact List.mem_set hlt b

lemma mem_set_of_ne (ha : l[i]? = some a) (hw : w ∈ l) (hne : w ≠ a) : w ∈ l.set i b := by
  obtain ⟨j, hj⟩ := List.getElem?_of_mem hw
  refine List.mem_of_getElem? (i := j) ?_
  rw [List.getElem?_set_ne, hj]
  rintro rfl
  exact hne (Option.some.inj (hj.symm.trans ha))

lemma mem_set_of_key_ne (ha : l[i]? = some a) (hw : w ∈ l) (hkey : key w ≠ key a) : w ∈ l.set i b := by
  refine mem_set_of_ne ha hw ?_
  rintro rfl
  exact hkey rfl

/-- A worker of the list after a replacement is the new one or has another key. -/
lemma mem_set_cases (hnodup : (l.map key).Nodup) (ha : l[i]? = some a) (hw : w ∈ l.set i b) :
    w = b ∨ (w ∈ l ∧ key w ≠ key a) := by
  obtain ⟨j, hj⟩ := List.getElem?_of_mem hw
  by_cases hij : i = j
  · subst hij
    obtain ⟨hlt, -⟩ := List.getElem?_eq_some_iff.mp ha
    rw [List.getElem?_set_self hlt] at hj
    exact .inl (Option.some.inj hj).symm
  · rw [List.getElem?_set_ne hij] at hj
    refine .inr ⟨List.mem_of_getElem? hj, fun hkey => hij ?_⟩
    have hmap : (l.map key)[i]? = (l.map key)[j]? := by simp [ha, hj, hkey]
    have hlt : i < (l.map key).length := by simpa using (List.getElem?_eq_some_iff.mp ha).1
    exact (List.getElem?_inj hlt hnodup).mp hmap

lemma perm_eraseIdx (ha : l[i]? = some a) : l.Perm (a :: l.eraseIdx i) := by
  obtain ⟨hlt, rfl⟩ := List.getElem?_eq_some_iff.mp ha
  exact (List.getElem_cons_eraseIdx_perm hlt).symm

lemma nodup_eraseIdx (hnodup : (l.map key).Nodup) (ha : l[i]? = some a) :
    key a ∉ (l.eraseIdx i).map key ∧ ((l.eraseIdx i).map key).Nodup := by
  have hperm := (perm_eraseIdx ha).map key
  exact List.nodup_cons.mp (hperm.nodup_iff.mp hnodup)

lemma mem_map_eraseIdx (hnodup : (l.map key).Nodup) (ha : l[i]? = some a) {k : κ} :
    k ∈ (l.eraseIdx i).map key ↔ k ∈ l.map key ∧ k ≠ key a := by
  have hperm := (perm_eraseIdx ha).map key
  rw [hperm.mem_iff]
  constructor
  · intro hk
    refine ⟨List.mem_cons_of_mem _ hk, ?_⟩
    rintro rfl
    exact (nodup_eraseIdx hnodup ha).1 hk
  · rintro ⟨hk, hne⟩
    exact (List.mem_cons.mp hk).resolve_left hne

lemma mem_eraseIdx_cases (hnodup : (l.map key).Nodup) (ha : l[i]? = some a) (hw : w ∈ l.eraseIdx i) :
    w ∈ l ∧ key w ≠ key a := by
  refine ⟨(List.eraseIdx_sublist l i).subset hw, fun hkey => ?_⟩
  exact (nodup_eraseIdx hnodup ha).1 (hkey ▸ List.mem_map_of_mem hw)

lemma mem_eraseIdx_of_ne (ha : l[i]? = some a) (hw : w ∈ l) (hne : w ≠ a) : w ∈ l.eraseIdx i :=
  (List.mem_cons.mp ((perm_eraseIdx ha).mem_iff.mp hw)).resolve_left hne

lemma mem_eraseIdx_of_key_ne (ha : l[i]? = some a) (hw : w ∈ l) (hkey : key w ≠ key a) : w ∈ l.eraseIdx i := by
  refine mem_eraseIdx_of_ne ha hw ?_
  rintro rfl
  exact hkey rfl

end Workers
