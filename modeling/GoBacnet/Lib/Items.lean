import GoBacnet.Lib.Result

/-!
# Items of several elements

A list may hold items one after the other, with nothing between them, each of which takes one or more elements. An
item reader is given all that is left and says how many elements its item took.
-/

namespace Items

universe u v w

variable {ε : Type u} {α : Type v} {β γ : Type w}

/-- Reads items until nothing is left, `fuel` items at most. -/
def readUpTo (item : List β → Except ε (α × Nat)) : Nat → List β → Except ε (List α)
  | _, [] => .ok []
  | 0, _ :: _ => .ok []
  | fuel + 1, el :: els =>
    match item (el :: els) with
    | .error e => .error e
    | .ok (a, n) => (readUpTo item fuel ((el :: els).drop n)).map (a :: ·)

/-- Reads items until nothing is left. There are not more items than elements, as each one takes an element. -/
def read (item : List β → Except ε (α × Nat)) (els : List β) : Except ε (List α) := readUpTo item els.length els

variable {item : List β → Except ε (α × Nat)}

@[simp] lemma readUpTo_nil (fuel : Nat) : readUpTo item fuel [] = .ok [] := by cases fuel <;> rfl

lemma forall_of_readUpTo {p : α → Prop} (hitem : ∀ els a n, item els = .ok (a, n) → p a) {fuel : Nat} {els : List β}
    {out : List α} (h : readUpTo item fuel els = .ok out) : ∀ a ∈ out, p a := by
  induction fuel generalizing els out with
  | zero =>
    cases els <;>
    · cases h
      simp
  | succ fuel ih =>
    cases els with
    | nil =>
      cases h
      simp
    | cons el els =>
      simp only [readUpTo] at h
      split at h
      · cases h
      · next a n ha =>
        obtain ⟨rest, hrest, rfl⟩ := Except.map_eq_ok_iff.mp h
        exact List.forall_mem_cons.mpr ⟨hitem _ a n ha, ih hrest⟩

lemma forall_of_read {p : α → Prop} (hitem : ∀ els a n, item els = .ok (a, n) → p a) {els : List β} {out : List α}
    (h : read item els = .ok out) : ∀ a ∈ out, p a :=
  forall_of_readUpTo hitem h

section Written

variable {parts : γ → List β} {g : γ → α} {accepted : γ → Prop} {xs : List γ}

lemma readUpTo_flatMap_eq_ok_iff (hne : ∀ x ∈ xs, parts x ≠ [])
    (hitem : ∀ x ∈ xs, accepted x → ∀ ys : List γ, item (parts x ++ ys.flatMap parts) = .ok (g x, (parts x).length))
    (herror : ∀ x ∈ xs, ¬ accepted x → ∀ ys : List γ, ∃ e, item (parts x ++ ys.flatMap parts) = .error e)
    {fuel : Nat} (hfuel : (xs.flatMap parts).length ≤ fuel) {out : List α} :
    readUpTo item fuel (xs.flatMap parts) = .ok out ↔ (∀ x ∈ xs, accepted x) ∧ out = xs.map g := by
  induction xs generalizing fuel out with
  | nil => simp [eq_comm]
  | cons x xs ih =>
    obtain ⟨el, els, hparts⟩ := List.exists_cons_of_ne_nil (hne x List.mem_cons_self)
    rw [List.flatMap_cons] at hfuel ⊢
    have hlength : (xs.flatMap parts).length < fuel := by
      simp only [hparts, List.cons_append, List.length_cons, List.length_append] at hfuel
      omega
    obtain ⟨fuel, rfl⟩ : ∃ k, fuel = k + 1 := ⟨fuel - 1, by omega⟩
    have hstep : readUpTo item (fuel + 1) (parts x ++ xs.flatMap parts) =
        match item (parts x ++ xs.flatMap parts) with
        | .error e => .error e
        | .ok (a, n) => (readUpTo item fuel ((parts x ++ xs.flatMap parts).drop n)).map (a :: ·) := by
      rw [hparts]
      rfl
    have hrest (out : List α) := @ih (fun y hy => hne y (List.mem_cons_of_mem x hy))
      (fun y hy => hitem y (List.mem_cons_of_mem x hy)) (fun y hy => herror y (List.mem_cons_of_mem x hy))
      fuel (Nat.lt_succ_iff.mp hlength) out
    rw [hstep]
    by_cases hx : accepted x
    · rw [hitem x List.mem_cons_self hx xs]
      simp only [List.drop_left, Except.map_eq_ok_iff, hrest, List.forall_mem_cons, hx, true_and, List.map_cons]
      constructor
      · rintro ⟨rest, ⟨hxs, rfl⟩, rfl⟩
        exact ⟨hxs, rfl⟩
      · rintro ⟨hxs, rfl⟩
        exact ⟨_, ⟨hxs, rfl⟩, rfl⟩
    · obtain ⟨e, he⟩ := herror x List.mem_cons_self hx xs
      rw [he]
      simp [hx]

lemma read_flatMap_eq_ok_iff (hne : ∀ x ∈ xs, parts x ≠ [])
    (hitem : ∀ x ∈ xs, accepted x → ∀ ys : List γ, item (parts x ++ ys.flatMap parts) = .ok (g x, (parts x).length))
    (herror : ∀ x ∈ xs, ¬ accepted x → ∀ ys : List γ, ∃ e, item (parts x ++ ys.flatMap parts) = .error e)
    {out : List α} : read item (xs.flatMap parts) = .ok out ↔ (∀ x ∈ xs, accepted x) ∧ out = xs.map g :=
  readUpTo_flatMap_eq_ok_iff hne hitem herror le_rfl

lemma read_flatMap (hne : ∀ x ∈ xs, parts x ≠ [])
    (hitem : ∀ x ∈ xs, ∀ ys : List γ, item (parts x ++ ys.flatMap parts) = .ok (g x, (parts x).length)) :
    read item (xs.flatMap parts) = .ok (xs.map g) := by
  have hiff : read item (xs.flatMap parts) = .ok (xs.map g) ↔ (∀ x ∈ xs, (fun _ => True) x) ∧ xs.map g = xs.map g :=
    read_flatMap_eq_ok_iff hne (fun x hx _ => hitem x hx) fun x _ hnot => (hnot trivial).elim
  exact hiff.mpr ⟨fun _ _ => trivial, rfl⟩

end Written

end Items
