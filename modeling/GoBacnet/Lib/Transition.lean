import Mathlib.Tactic

/-!
# Transition systems with an executable step

A system is a start state and a partial step function on actions. An action that is not
enabled in a state has no successor there. A condition on steps restricts the runs that are
considered; the reachable states of the unrestricted system are those of the condition that
always holds.
-/

namespace Transition

universe u v

variable {σ : Type u} {α : Type v}

inductive ReachableWhere (init : σ) (step : σ → α → Option σ) (cond : σ → α → Prop) : σ → Prop
  | init : ReachableWhere init step cond init
  | step {s s' : σ} (a : α) (hs : ReachableWhere init step cond s) (hc : cond s a)
      (h : step s a = some s') : ReachableWhere init step cond s'

abbrev Reachable (init : σ) (step : σ → α → Option σ) : σ → Prop :=
  ReachableWhere init step fun _ _ => True

variable {init : σ} {step : σ → α → Option σ} {cond : σ → α → Prop}

/-- What holds at the start and is kept by every step that meets the condition holds in
every state reached. -/
theorem ReachableWhere.invariant (inv : σ → Prop) (hinit : inv init)
    (hstep : ∀ s a s', inv s → cond s a → step s a = some s' → inv s') {s : σ}
    (hs : ReachableWhere init step cond s) : inv s := by
  induction hs with
  | init => exact hinit
  | step a _ hc h ih => exact hstep _ a _ ih hc h

/-- Executes a list of actions in order. -/
def run (step : σ → α → Option σ) : σ → List α → Option σ
  | s, [] => some s
  | s, a :: as => (step s a).bind fun s' => run step s' as

theorem ReachableWhere.run {s s' : σ} (hs : ReachableWhere init step cond s) {as : List α}
    (hc : ∀ a ∈ as, ∀ s, cond s a) (h : run step s as = some s') : ReachableWhere init step cond s' := by
  induction as generalizing s with
  | nil =>
    cases h
    exact hs
  | cons a as ih =>
    simp only [Transition.run, Option.bind_eq_some_iff] at h
    obtain ⟨t, ht, hrest⟩ := h
    exact ih (.step a hs (hc a (by simp) s) ht) (fun b hb => hc b (by simp [hb])) hrest

theorem Reachable.run {s s' : σ} (hs : Reachable init step s) {as : List α}
    (h : run step s as = some s') : Reachable init step s' :=
  ReachableWhere.run hs (fun _ _ _ => trivial) h

/-- Executes a list of actions in order, as long as each meets a condition. -/
def runWhere (step : σ → α → Option σ) (cond : σ → α → Bool) : σ → List α → Option σ
  | s, [] => some s
  | s, a :: as => if cond s a then (step s a).bind fun s' => runWhere step cond s' as else none

theorem ReachableWhere.runWhere {cond : σ → α → Bool} {s s' : σ}
    (hs : ReachableWhere init step (fun s a => cond s a = true) s) {as : List α}
    (h : runWhere step cond s as = some s') : ReachableWhere init step (fun s a => cond s a = true) s' := by
  induction as generalizing s with
  | nil =>
    cases h
    exact hs
  | cons a as ih =>
    simp only [Transition.runWhere] at h
    split_ifs at h with hc
    obtain ⟨t, ht, hrest⟩ := Option.bind_eq_some_iff.mp h
    exact ih (.step a hs hc ht) hrest

end Transition
