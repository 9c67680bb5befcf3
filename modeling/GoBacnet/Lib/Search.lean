import Mathlib.Tactic

/-!
# Binary search

The search for the first index at which a predicate holds. Whatever the predicate, the index found has the predicate
there, if it is below the bound, and not just before it.
-/

namespace Search

/-- Halves the interval from `i` to `j`; the length of the interval bounds the rounds. -/
def loop (f : Nat → Bool) : Nat → Nat → Nat → Nat
  | 0, i, _ => i
  | rounds + 1, i, j =>
    if i < j then
      let h := (i + j) / 2
      if f h then loop f rounds i h else loop f rounds (h + 1) j
    else i

/-- The first index below `n` at which `f` holds, or `n`. -/
def search (n : Nat) (f : Nat → Bool) : Nat := loop f n 0 n

/-- An index with the predicate there, or at the bound, and not just before it. -/
structure Boundary (f : Nat → Bool) (n k : Nat) : Prop where
  le : k ≤ n
  at_bound : k < n → f k = true
  before : ∀ i, k = i + 1 → f i = false

lemma loop_boundary {f : Nat → Bool} {n : Nat} :
    ∀ {rounds i j : Nat}, i ≤ j → j ≤ n → j - i ≤ rounds → (j < n → f j = true) →
      (∀ k, i = k + 1 → f k = false) → Boundary f n (loop f rounds i j) := by
  intro rounds
  induction rounds with
  | zero =>
    intro i j hij hjn hrounds hj hi
    obtain rfl : i = j := by omega
    exact ⟨hjn, hj, hi⟩
  | succ rounds ih =>
    intro i j hij hjn hrounds hj hi
    unfold loop
    by_cases hlt : i < j
    · rw [if_pos hlt]
      dsimp only
      by_cases hf : f ((i + j) / 2)
      · rw [if_pos hf]
        exact ih (by omega) (by omega) (by omega) (fun _ => hf) hi
      · rw [if_neg hf]
        refine ih (by omega) hjn (by omega) hj fun k hk => ?_
        obtain rfl : (i + j) / 2 = k := by omega
        exact Bool.not_eq_true _ ▸ hf
    · rw [if_neg hlt]
      obtain rfl : i = j := by omega
      exact ⟨hjn, hj, hi⟩

theorem search_boundary (n : Nat) (f : Nat → Bool) : Boundary f n (search n f) :=
  loop_boundary (Nat.zero_le n) le_rfl (by omega) (fun h => absurd h (lt_irrefl n)) nofun

/-- Where the predicate, once it holds, goes on holding, the index found separates where it does not hold from where
it does. -/
theorem Boundary.false_iff {f : Nat → Bool} {n k : Nat} (h : Boundary f n k)
    (hmono : ∀ i j, i ≤ j → j < n → f i = true → f j = true) {i : Nat} (hi : i < n) : f i = false ↔ i < k := by
  constructor
  · intro hfalse
    by_contra hge
    have htrue := hmono k i (not_lt.mp hge) hi (h.at_bound (lt_of_le_of_lt (not_lt.mp hge) hi))
    simp [hfalse] at htrue
  · intro hlt
    obtain ⟨j, rfl⟩ := Nat.exists_eq_succ_of_ne_zero (Nat.ne_zero_of_lt hlt)
    have hbefore := h.before j rfl
    by_contra htrue
    have hj := hmono i j (Nat.lt_succ_iff.mp hlt) (Nat.lt_of_succ_le h.le) (by simpa using htrue)
    simp [hbefore] at hj

end Search
