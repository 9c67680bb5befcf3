import Mathlib.Tactic

/-!
# Positions in consecutive blocks

Blocks of given lengths follow each other. A position is the number of a block and an offset in it, and positions are
ordered by the block first.
-/

namespace Blocks

/-- Where block `i` starts. -/
def start (len : Nat → Nat) : Nat → Nat
  | 0 => 0
  | i + 1 => start len i + len i

/-- The block, among the first `k`, and the offset in it of position `n`. -/
def locate (len : Nat → Nat) : Nat → Nat → Nat × Nat
  | 0, n => (0, n)
  | k + 1, n =>
    if n < start len k then locate len k n else (k, n - start len k)

variable {len : Nat → Nat}

lemma start_mono {i j : Nat} (h : i ≤ j) : start len i ≤ start len j := by
  induction h with
  | refl => exact le_rfl
  | step _ ih => exact ih.trans (Nat.le_add_right _ _)

lemma start_locate (k n : Nat) : start len (locate len k n).1 + (locate len k n).2 = n := by
  induction k with
  | zero => exact Nat.zero_add n
  | succ k ih =>
    rw [locate]
    split_ifs with h
    · exact ih
    · exact Nat.add_sub_of_le (not_lt.mp h)

lemma locate_lt {k n : Nat} (h : n < start len k) : (locate len k n).1 < k ∧ (locate len k n).2 < len (locate len k n).1 := by
  induction k with
  | zero => exact absurd h (Nat.not_lt_zero n)
  | succ k ih =>
    rw [locate]
    split_ifs with hk
    · exact ⟨(ih hk).1.trans (Nat.lt_succ_self k), (ih hk).2⟩
    · rw [start] at h
      dsimp only
      omega

/-- Positions are in the order of their blocks, and in one block in the order of their offsets. -/
lemma start_add_lt_iff {i j r s : Nat} (hr : r < len i) (hs : s < len j) :
    start len i + r < start len j + s ↔ i < j ∨ i = j ∧ r < s := by
  rcases lt_trichotomy i j with h | rfl | h
  · have := @start_mono len _ _ (Nat.succ_le_of_lt h)
    rw [start] at this
    omega
  · omega
  · have := @start_mono len _ _ (Nat.succ_le_of_lt h)
    rw [start] at this
    omega

end Blocks
