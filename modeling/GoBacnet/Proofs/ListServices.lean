import GoBacnet.Server.ListProperty

/-!
# Adding and removing elements of a list

Items are applied one after the other to a copy of the list. The whole request fails at the first item that cannot be
applied after the ones before it.
-/

namespace GoBacnet.Server

variable {α : Type}

def added [DecidableEq α] (list items : List α) : List α := list ++ (items.filter (· ∉ list)).eraseDups

/-- The error names the first item that does not fit after the items before it. -/
def ListError.NamesFirst (e : ListError) (items : List α) (fits : List α → α → Prop) : Prop :=
  ∃ pre x post, items = pre ++ x :: post ∧ e.first = some (UInt32.ofNat (pre.length + 1)) ∧ ¬fits pre x ∧
    ∀ pre' y post', pre = pre' ++ y :: post' → fits pre' y

/-- An item fits if it is in the list already or there is room for it. -/
def AddFits [DecidableEq α] (max : Nat) (list before : List α) (x : α) : Prop :=
  x ∈ added list before ∨ (added list before).length < max

def RemoveFits [DecidableEq α] (list before : List α) (x : α) : Prop := x ∈ list.diff before

end GoBacnet.Server

namespace GoBacnet.Proofs

open GoBacnet.Server

variable {α : Type}

lemma foldlM_first {f : List α → α × Nat → Except ListError (List α)} (after : List α → List α)
    (fits : List α → α → Prop)
    (hstep : ∀ pre x i, (fits pre x ∧ f (after pre) (x, i) = .ok (after (pre ++ [x]))) ∨
      (¬fits pre x ∧ ∃ e, f (after pre) (x, i) = .error e ∧ e.first = some (UInt32.ofNat (i + 1)))) (items : List α) :
    (items.zipIdx.foldlM f (after []) = .ok (after items) ∧ ∀ pre x post, items = pre ++ x :: post → fits pre x) ∨
      ∃ e : ListError, items.zipIdx.foldlM f (after []) = .error e ∧ e.NamesFirst items fits := by
  -- The induction is on the items that are left, after those in `pre`, which all fit.
  suffices hgen : ∀ (rest pre : List α), (∀ pre' y post', pre = pre' ++ y :: post' → fits pre' y) →
      ((rest.zipIdx pre.length).foldlM f (after pre) = .ok (after (pre ++ rest)) ∧
        ∀ pre' x post, pre ++ rest = pre' ++ x :: post → fits pre' x) ∨
      ∃ e : ListError, (rest.zipIdx pre.length).foldlM f (after pre) = .error e ∧ e.NamesFirst (pre ++ rest) fits by
    simpa using hgen items [] (by simp)
  intro rest
  induction rest with
  | nil => exact fun pre hpre => .inl ⟨by simp, by simpa using hpre⟩
  | cons x rest ih =>
    intro pre hpre
    rw [List.zipIdx_cons, List.foldlM_cons]
    rcases hstep pre x pre.length with ⟨hfits, heq⟩ | ⟨hnot, e, heq, hfirst⟩
    · have hall : ∀ pre' y post', pre ++ [x] = pre' ++ y :: post' → fits pre' y := by
        intro pre' y post' h
        rcases List.eq_nil_or_concat post' with rfl | ⟨post'', z, rfl⟩
        · obtain ⟨rfl, hxy⟩ := List.append_inj' h rfl
          obtain rfl := (List.cons.inj hxy).1
          exact hfits
        · have h' : pre ++ [x] = (pre' ++ y :: post'') ++ [z] := by simpa using h
          exact hpre pre' y post'' (List.append_inj' h' rfl).1
      have hih := ih (pre ++ [x]) hall
      simp only [List.length_append, List.length_singleton, List.append_assoc, List.singleton_append] at hih
      simpa [heq] using hih
    · exact .inr ⟨e, by simp [heq], pre, x, rest, rfl, hfirst, hnot, hpre⟩

variable [DecidableEq α] {same : α → α → Bool} {max : Nat} {list items : List α}

lemma mem_added {x : α} : x ∈ added list items ↔ x ∈ list ∨ x ∈ items := by
  by_cases hx : x ∈ list <;> simp [added, List.mem_eraseDups, hx]

lemma added_concat (list items : List α) (x : α) :
    added list (items ++ [x]) = if x ∈ added list items then added list items else added list items ++ [x] := by
  rw [if_congr mem_added rfl rfl]
  unfold added
  by_cases hx : x ∈ list
  · simp [hx]
  · by_cases hx' : x ∈ items
    · simp [hx, hx', List.eraseDups_append, List.removeAll]
    · simp [hx, hx', List.eraseDups_append, List.removeAll, List.eraseDups_cons]

lemma addItems_cases (hsame : ∀ a b, same a b = true ↔ a = b) (max : Nat) (items list : List α) :
    (addItems same max items list = .ok (added list items) ∧
      ∀ pre x post, items = pre ++ x :: post → AddFits max list pre x) ∨
    ∃ e, addItems same max items list = .error e ∧ e.NamesFirst items (AddFits max list) := by
  have hinit : added list [] = list := by simp [added]
  have hcases := foldlM_first (added list) (AddFits max list) (f := fun next item =>
    if next.any (same · item.1) then .ok next
    else if next.length ≥ max then .error ⟨.noSpaceForListElement, some (UInt32.ofNat (item.2 + 1))⟩
    else .ok (next ++ [item.1])) (fun pre x i => ?_) items
  · rwa [hinit] at hcases
  · have hany : (added list pre).any (same · x) = true ↔ x ∈ added list pre := by simp [hsame]
    dsimp only
    rw [added_concat, if_congr hany rfl rfl]
    by_cases hx : x ∈ added list pre
    · exact .inl ⟨.inl hx, by rw [if_pos hx, if_pos hx]⟩
    · rw [if_neg hx, if_neg hx]
      by_cases hroom : (added list pre).length < max
      · exact .inl ⟨.inr hroom, if_neg (not_le.mpr hroom)⟩
      · exact .inr ⟨by simp [AddFits, hx, hroom], _, if_pos (not_lt.mp hroom), rfl⟩

lemma removeItems_cases (hsame : ∀ a b, same a b = true ↔ a = b) (items list : List α) :
    (removeItems same items list = .ok (list.diff items) ∧
      ∀ pre x post, items = pre ++ x :: post → RemoveFits list pre x) ∨
    ∃ e, removeItems same items list = .error e ∧ e.NamesFirst items (RemoveFits list) := by
  refine foldlM_first list.diff (RemoveFits list) (fun pre x i => ?_) items
  have hany : (list.diff pre).any (same · x) = true ↔ x ∈ list.diff pre := by simp [hsame]
  have herase : (list.diff pre).eraseP (same · x) = list.diff (pre ++ [x]) := by
    have hpred : (same · x) = (x == ·) := by
      funext y
      rw [Bool.eq_iff_iff, hsame, beq_iff_eq, eq_comm]
    rw [List.diff_append, List.diff_cons, List.diff_nil, List.erase_eq_eraseP, hpred]
  dsimp only
  rw [herase, if_congr hany rfl rfl]
  by_cases hx : x ∈ list.diff pre
  · exact .inl ⟨hx, if_pos hx⟩
  · exact .inr ⟨hx, _, if_neg hx, rfl⟩

lemma length_added_le (hlist : list.length ≤ max)
    (hfits : ∀ pre x post, items = pre ++ x :: post → AddFits max list pre x) : (added list items).length ≤ max := by
  induction items using List.reverseRecOn with
  | nil => simpa [added] using hlist
  | append_singleton items x ih =>
    have hprefix := ih fun pre y post h => hfits pre y (post ++ [x]) (by simp [h])
    rw [added_concat]
    split_ifs with hx
    · exact hprefix
    · have hroom := (hfits items x [] rfl).resolve_left hx
      simpa using hroom

end GoBacnet.Proofs
