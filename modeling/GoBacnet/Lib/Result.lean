import Mathlib.Tactic

/-!
# Computations that may fail

What it takes for a computation in `Except` to succeed, one lemma for each way of composing one, and rules for
folds over a list whose items each take several steps.
-/

namespace Except

universe u v

variable {ε : Type u} {α β : Type v}

@[simp] lemma ok_bind (a : α) (f : α → Except ε β) : (Except.ok a >>= f) = f a := rfl

@[simp] lemma error_bind (e : ε) (f : α → Except ε β) : (Except.error e >>= f) = .error e := rfl

@[simp] lemma pure_eq_ok (a : α) : (pure a : Except ε α) = .ok a := rfl

@[simp] lemma map_of_ok (f : α → β) (a : α) : (Except.ok a : Except ε α).map f = .ok (f a) := rfl

@[simp] lemma map_of_error (f : α → β) (e : ε) : (Except.error e : Except ε α).map f = .error e := rfl

lemma bind_eq_ok_iff {x : Except ε α} {f : α → Except ε β} {b : β} :
    (x >>= f) = .ok b ↔ ∃ a, x = .ok a ∧ f a = .ok b := by
  cases x <;> simp

lemma map_eq_ok_iff {x : Except ε α} {f : α → β} {b : β} : x.map f = .ok b ↔ ∃ a, x = .ok a ∧ f a = b := by
  cases x <;> simp

lemma check_eq_ok_iff {c : Prop} [Decidable c] {e : ε} {x : Except ε α} {a : α} :
    (if c then .error e else x) = .ok a ↔ ¬ c ∧ x = .ok a := by
  by_cases hc : c <;> simp [hc]

lemma ite_eq_ok_iff {c : Prop} [Decidable c] {x y : Except ε α} {a : α} :
    (if c then x else y) = .ok a ↔ (c ∧ x = .ok a) ∨ (¬ c ∧ y = .ok a) := by
  by_cases hc : c <;> simp [hc]

/-! ## Folds -/

section Fold

variable {σ ι : Type v}

lemma foldlM_cons_eq_ok_iff {step : σ → ι → Except ε σ} {x : ι} {xs : List ι} {s t : σ} :
    (x :: xs).foldlM step s = .ok t ↔ ∃ s', step s x = .ok s' ∧ xs.foldlM step s' = .ok t := by
  rw [List.foldlM_cons]
  exact bind_eq_ok_iff

lemma foldlM_append_eq_ok_iff {step : σ → ι → Except ε σ} {xs ys : List ι} {s t : σ} :
    (xs ++ ys).foldlM step s = .ok t ↔ ∃ s', xs.foldlM step s = .ok s' ∧ ys.foldlM step s' = .ok t := by
  rw [List.foldlM_append]
  exact bind_eq_ok_iff

lemma foldlM_optional {α : Type*} {step : σ → ι → Except ε σ} {part : α → ι} {s : σ} (set : σ → Option α → σ)
    (hnone : set s none = s) {o : Option α} (h : ∀ a ∈ o, step s (part a) = .ok (set s (some a))) :
    (o.map part).toList.foldlM step s = .ok (set s o) := by
  cases o with
  | none => exact congrArg Except.ok hnone.symm
  | some a => exact foldlM_cons_eq_ok_iff.mpr ⟨_, h a rfl, rfl⟩

/-- Items are read one after the other when the parts of each item lead from a state that stands for the items
before it to one that stands for the item as well. The items of a state are given with the last one first. -/
lemma foldlM_flatMap_ok {α : Type*} {step : σ → ι → Except ε σ} {parts : α → List ι} (stands : σ → List α → Prop)
    {xs : List α}
    (hread : ∀ x ∈ xs, ∀ s done, stands s done → ∃ t, (parts x).foldlM step s = .ok t ∧ stands t (x :: done))
    {s : σ} {done : List α} (hs : stands s done) :
    ∃ t, (xs.flatMap parts).foldlM step s = .ok t ∧ stands t (xs.reverse ++ done) := by
  induction xs generalizing s done with
  | nil => exact ⟨s, rfl, hs⟩
  | cons x xs ih =>
    obtain ⟨s', hx, hs'⟩ := hread x List.mem_cons_self s done hs
    obtain ⟨t, hxs, ht⟩ := ih (fun y hy => hread y (List.mem_cons_of_mem x hy)) hs'
    refine ⟨t, ?_, by simpa using ht⟩
    rw [List.flatMap_cons]
    exact foldlM_append_eq_ok_iff.mpr ⟨s', hx, hxs⟩

end Fold

/-! ## Maps -/

section Map

variable {ι : Type*} {f : ι → Except ε β} {x : ι} {xs : List ι} {ys : List β}

lemma mapM_cons_eq_ok_iff :
    (x :: xs).mapM f = .ok ys ↔ ∃ y ys', f x = .ok y ∧ xs.mapM f = .ok ys' ∧ ys = y :: ys' := by
  simp only [List.mapM_cons, bind_eq_ok_iff, pure_eq_ok, Except.ok.injEq, eq_comm (a := ys)]
  constructor
  · rintro ⟨y, hy, ys', hys', heq⟩
    exact ⟨y, ys', hy, hys', heq⟩
  · rintro ⟨y, ys', hy, hys', heq⟩
    exact ⟨y, hy, ys', hys', heq⟩

lemma forall_of_mapM {p : β → Prop} (hf : ∀ x y, f x = .ok y → p y) (h : xs.mapM f = .ok ys) : ∀ y ∈ ys, p y := by
  induction xs generalizing ys with
  | nil =>
    cases h
    simp
  | cons x xs ih =>
    obtain ⟨y, ys', hy, hys', rfl⟩ := mapM_cons_eq_ok_iff.mp h
    exact List.forall_mem_cons.mpr ⟨hf x y hy, ih hys'⟩

end Map

lemma exists_of_isOk {r : Except ε α} (h : r.isOk = true) : ∃ a, r = .ok a := by
  cases r with
  | error e => cases h
  | ok a => exact ⟨a, rfl⟩

end Except
