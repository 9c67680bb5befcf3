import Mathlib.Tactic

/-!
# Overwriting a stretch of a list

A list into which other elements are written from an index on. Where the list is too short for that it is extended
first. Writing twice in a row, the second stretch right after the first, is writing both at once.
-/

namespace Overwrite

variable {α : Type*} (pad : α)

/-- `l` with `xs` from index `i` on, after `l` was extended with `pad` as far as needed. -/
def write (l : List α) (i : Nat) (xs : List α) : List α :=
  let grown := l ++ List.replicate (i + xs.length - l.length) pad
  grown.take i ++ xs ++ grown.drop (i + xs.length)

variable {pad} {l xs ys : List α} {i j : Nat}

lemma length_write : (write pad l i xs).length = max l.length (i + xs.length) := by
  simp [write]
  omega

/-- Before the stretch the list or the padding, in it the new elements, behind it the list. -/
lemma getElem?_write :
    (write pad l i xs)[j]? =
      if j < i then some (l[j]?.getD pad) else if j < i + xs.length then xs[j - i]? else l[j]? := by
  have hlen : (l ++ List.replicate (i + xs.length - l.length) pad).length = max l.length (i + xs.length) := by
    simp
    omega
  have htake : ((l ++ List.replicate (i + xs.length - l.length) pad).take i).length = i := by
    rw [List.length_take, hlen]
    omega
  unfold write
  dsimp only
  by_cases hi : j < i
  · rw [if_pos hi, List.getElem?_append_left (by rw [List.length_append, htake]; omega),
      List.getElem?_append_left (by rw [htake]; exact hi), List.getElem?_take_of_lt hi]
    by_cases hl : j < l.length
    · rw [List.getElem?_append_left hl, List.getElem?_eq_getElem hl, Option.getD_some]
    · rw [List.getElem?_append_right (not_lt.mp hl), List.getElem?_eq_none (not_lt.mp hl), Option.getD_none,
        List.getElem?_replicate, if_pos (by omega)]
  rw [if_neg hi]
  by_cases hx : j < i + xs.length
  · rw [if_pos hx, List.getElem?_append_left (by rw [List.length_append, htake]; omega),
      List.getElem?_append_right (by rw [htake]; omega), htake]
  · rw [if_neg hx, List.getElem?_append_right (by rw [List.length_append, htake]; omega), List.length_append, htake,
      List.getElem?_drop, show i + xs.length + (j - (i + xs.length)) = j by omega]
    by_cases hl : j < l.length
    · rw [List.getElem?_append_left hl]
    · rw [List.getElem?_eq_none (by rw [hlen]; omega), List.getElem?_eq_none (not_lt.mp hl)]

theorem write_append : write pad (write pad l i xs) (i + xs.length) ys = write pad l i (xs ++ ys) := by
  apply List.ext_getElem?
  intro j
  simp only [getElem?_write, List.length_append]
  by_cases hi : j < i
  · rw [if_pos (by omega : j < i + xs.length), if_pos hi, if_pos hi, Option.getD_some]
  rw [if_neg hi, if_neg hi]
  by_cases hx : j < i + xs.length
  · rw [if_pos hx, if_pos hx, if_pos (by omega), List.getElem?_append_left (by omega),
      List.getElem?_eq_getElem (by omega), Option.getD_some]
  rw [if_neg hx, if_neg hx]
  by_cases hy : j < i + xs.length + ys.length
  · rw [if_pos hy, if_pos (by omega), List.getElem?_append_right (by omega)]
    congr 1
    omega
  · rw [if_neg hy, if_neg (by omega)]

end Overwrite
