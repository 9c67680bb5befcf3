import Mathlib.Tactic

/-!
# Cutting a list into pieces of one size
-/

namespace Chunks

universe u

variable {α : Type u}

/-- Piece `i` of `xs` cut into pieces of `size` items; the last one may be shorter. -/
def chunk (xs : List α) (size i : Nat) : List α := (xs.drop (i * size)).take size

/-- The first `k` pieces, one after the other. -/
def chunks (xs : List α) (size k : Nat) : List α := (List.range k).flatMap (chunk xs size)

lemma chunks_zero (xs : List α) (size : Nat) : chunks xs size 0 = [] := rfl

lemma chunks_succ (xs : List α) (size k : Nat) :
    chunks xs size (k + 1) = chunks xs size k ++ chunk xs size k := by
  simp [chunks, List.range_succ]

theorem chunks_eq_take (xs : List α) (size k : Nat) : chunks xs size k = xs.take (k * size) := by
  induction k with
  | zero => simp [chunks_zero]
  | succ k ih =>
    rw [chunks_succ, ih, chunk, Nat.succ_mul, List.take_add]

theorem chunks_of_le {xs : List α} {size k : Nat} (h : xs.length ≤ k * size) : chunks xs size k = xs := by
  rw [chunks_eq_take, List.take_of_length_le h]

end Chunks
