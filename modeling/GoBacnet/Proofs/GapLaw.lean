import Mathlib.Data.List.ReduceOption
import GoBacnet.Client.EventStream
import GoBacnet.Proofs.CovStream

/-!
# Gaps

An event is marked exactly if a lost one stands directly before it in the history of the stream, as long as no loss is
pending when a stream is closed.
-/

namespace GoBacnet.Client

/-- A marked event is one that follows a lost one. -/
def GapLaw {α : Type} (gap : α → Bool) (history : List (Option α)) : Prop :=
  ∀ before ev after, history = before ++ some ev :: after → (gap ev = true ↔ before.getLast? = some none)

section

variable {α : Type} {gap : α → Bool} {history : List (Option α)}

lemma GapLaw.concat (h : GapLaw gap history) (item : Option α)
    (hitem : ∀ ev, item = some ev → (gap ev = true ↔ history.getLast? = some none)) : GapLaw gap (history ++ [item]) := by
  intro before ev after heq
  rcases List.eq_nil_or_concat after with rfl | ⟨rest, last, rfl⟩
  · obtain ⟨rfl, hlast⟩ := List.append_inj' heq rfl
    exact hitem ev (by simpa using hlast)
  · have hlonger : history ++ [item] = (before ++ some ev :: rest) ++ [last] := by simpa using heq
    exact h before ev rest (List.append_inj' hlonger rfl).1

/-- The first event of a history comes after the losses before it. -/
lemma takeWhile_isNone {ev : α} {rest : List α} (h : history.reduceOption = ev :: rest) :
    history = history.takeWhile Option.isNone ++ some ev :: history.drop ((history.takeWhile Option.isNone).length + 1) ∧
      (history.drop ((history.takeWhile Option.isNone).length + 1)).reduceOption = rest := by
  induction history with
  | nil => cases h
  | cons item history ih =>
    cases item with
    | none => simpa using ih (by simpa using h)
    | some first =>
      obtain ⟨rfl, hrest⟩ : first = ev ∧ history.reduceOption = rest := by simpa using h
      simp [hrest]

end

/-! ## COV subscriptions -/

variable {N D : Type}

structure Subscription.Marked (s : Subscription N) : Prop where
  kept : s.history.reduceOption = s.queued
  pending : s.gapPending = true ↔ s.history.getLast? = some none
  law : GapLaw (·.gap) s.history

namespace Subscription.Marked

variable {s s' : Subscription N} {ev : SubscriptionEvent N} {phase : SendPhase}

lemma dropEvent (h : s.Marked) : s.dropEvent.Marked where
  kept := by
    rw [Subscription.dropEvent, List.reduceOption_append, h.kept]
    exact List.append_nil _
  pending := by simp [Subscription.dropEvent]
  law := h.law.concat _ nofun

lemma afterQueue (h : s.Marked) (hloss : ev.state = .closed → s.gapPending = false) : (s.afterQueue ev).Marked where
  kept := by
    rw [queued_afterQueue, ← h.kept]
    simp [Subscription.afterQueue, List.reduceOption_append]
  pending := by
    by_cases hev : ev.state = .closed <;> simp [Subscription.afterQueue, hev, hloss]
  law := h.law.concat _ fun e he => by
    cases he
    rw [← h.pending]
    by_cases hev : ev.state = .closed <;> simp [stamp, hev, hloss]

lemma tryMarkDegraded (h : s.Marked) : s.tryMarkDegraded.Marked := by
  unfold Subscription.tryMarkDegraded
  split
  · exact h
  · exact ⟨h.kept, h.pending, h.law⟩

lemma sendStep (h : s.Marked) (hsound : s.Sound) (hready : s.Ready ev phase)
    (hloss : phase = .queue → ev.state = .closed → s.gapPending = false) : (s.sendStep ev phase).1.Marked := by
  cases phase with
  | load => exact h
  | space =>
    simp only [Subscription.sendStep]
    split
    · exact h.dropEvent
    · exact h
  | queue =>
    rw [sendStep_queue hsound hready]
    exact h.afterQueue (hloss rfl)
  | degrade => exact h.tryMarkDegraded

end Subscription.Marked

namespace CovSystem

/-- The Closed event is not queued while a loss is pending. -/
def closesWithoutLoss (sys : CovSystem N) : CovAction N → Bool
  | .send => sys.sending.all fun snd => !(snd.phase = .queue ∧ snd.event.state = .closed ∧ sys.sub.gapPending)
  | _ => true

variable {sys sys' : CovSystem N}

lemma sub_lock {who : Sender} {event : SubscriptionEvent N} (h : sys.lock who event = some sys') : sys'.sub = sys.sub := by
  unfold lock at h
  split at h
  · cases h
    rfl
  · cases h

lemma sub_release (who : Sender) : (sys.release who).sub = sys.sub := by cases who <;> rfl

lemma sub_sendStep (snd : Sending N) : (sys.sendStep snd).sub = (sys.sub.sendStep snd.event snd.phase).1 := by
  unfold sendStep
  split
  · rename_i hstep
    rw [hstep]
  · rename_i hstep
    rw [sub_release, hstep]

lemma marked_starterStep (h : sys.sub.Marked) (hstep : sys.starterStep = some sys') : sys'.sub.Marked := by
  unfold starterStep at hstep
  cases hpc : sys.starter with
  | announce =>
    simp only [hpc] at hstep
    exact sub_lock hstep ▸ h
  | closeEvents =>
    simp only [hpc] at hstep
    split_ifs at hstep
    · cases hstep
      exact h
    · cases hstep
      exact ⟨h.kept, h.pending, h.law⟩
  | announcing | returned | failed => simp [hpc] at hstep
  | _ =>
    simp only [hpc] at hstep
    cases hstep
    exact ⟨h.kept, h.pending, h.law⟩

lemma marked_tryStore (h : sys.sub.Marked) (state : SubscriptionState) (next : RenewPC) :
    (sys.tryStore state next).sub.Marked := by
  unfold tryStore
  split <;> exact ⟨h.kept, h.pending, h.law⟩

lemma marked_renewStep (h : sys.sub.Marked) (hstep : sys.renewStep = some sys') : sys'.sub.Marked := by
  unfold renewStep at hstep
  cases hpc : sys.renew with
  | renewing | activate =>
    simp only [hpc] at hstep
    cases hstep
    exact marked_tryStore h _ _
  | announceRenewing | announceDegraded | announceActive =>
    simp only [hpc] at hstep
    exact sub_lock hstep ▸ h
  | degrade =>
    simp only [hpc] at hstep
    cases hstep
    exact h.tryMarkDegraded
  | absent | sending | exited => simp [hpc] at hstep
  | _ =>
    simp only [hpc] at hstep
    cases hstep
    exact h

lemma marked_closerStep (h : sys.sub.Marked) (hstep : sys.closerStep = some sys') : sys'.sub.Marked := by
  unfold closerStep at hstep
  cases hpc : sys.closer with
  | await =>
    simp only [hpc] at hstep
    split_ifs at hstep
    cases hstep
    exact h
  | publish =>
    simp only [hpc] at hstep
    exact sub_lock hstep ▸ h
  | idle | publishing | finished => simp [hpc] at hstep
  | _ =>
    simp only [hpc] at hstep
    cases hstep
    exact h

lemma marked_receive {s s' : Subscription N} (h : s.Marked) (hstep : s.receive = some s') : s'.Marked := by
  have hqueued := (Subscription.sameStream_receive hstep).1.queued
  unfold Subscription.receive at hstep
  split at hstep
  · cases hstep
  · cases hstep
    exact ⟨h.kept.trans hqueued.symm, h.pending, h.law⟩

lemma marked_step (hinv : sys.Inv) (h : sys.sub.Marked) {a : CovAction N} (hloss : sys.closesWithoutLoss a)
    (hstep : sys.step a = some sys') : sys'.sub.Marked := by
  cases a with
  | starter => exact marked_starterStep h hstep
  | deliver note => exact sub_lock hstep ▸ h
  | send =>
    obtain ⟨snd, hsnd, rfl⟩ := Option.map_eq_some_iff.mp hstep
    rw [sub_sendStep]
    refine h.sendStep hinv.sound (hinv.ready snd hsnd) fun hphase hclosed => ?_
    simpa [closesWithoutLoss, hsnd, hphase, hclosed] using hloss
  | receive =>
    obtain ⟨sub, hsub, rfl⟩ := Option.map_eq_some_iff.mp hstep
    exact marked_receive h hsub
  | renew => exact marked_renewStep h hstep
  | closer => exact marked_closerStep h hstep
  | startFails | renewFails | stop | closeSubscription | closeClient | closeAll | closeFound =>
    simp only [step] at hstep
    split_ifs at hstep
    all_goals
      cases hstep
      exact ⟨h.kept, h.pending, h.law⟩

lemma marked_reachable {bufferSize : Int}
    (h : Transition.ReachableWhere (init bufferSize) CovSystem.step (fun sys a => sys.closesWithoutLoss a) sys) :
    sys.sub.Marked := by
  have hboth := h.invariant (fun sys => sys.Inv ∧ sys.sub.Marked)
    ⟨inv_init bufferSize, rfl, by simp [init], fun before ev after heq => by simp [init] at heq⟩
    fun _ _ _ hinv hloss hstep => ⟨hinv.1.step hstep, marked_step hinv.1 hinv.2 hloss hstep⟩
  exact hboth.2

end CovSystem

/-! ## The event notification stream -/

namespace EventStream

/-- Close finds a free slot and no loss is pending. -/
def closesWithoutLoss (s : EventStream D) : EventStreamAction D → Bool
  | .closeStep => s.close = some .send → s.hasRoom ∧ !s.gap
  | _ => true

structure Marked (s : EventStream D) : Prop where
  past : s.past.reduceOption = s.received
  recent : s.recent.reduceOption = s.ch
  pending : s.close ≠ some .closed → (s.gap = true ↔ s.history.getLast? = some none)
  law : GapLaw (·.gap) s.history
  roomy : s.close ≠ some .evict ∧ s.close ≠ some .resend

variable {s s' : EventStream D}

lemma Marked.push (h : s.Marked) {ev : EventStreamEvent D} (hclose : s.close ≠ some .closed) (hgap : ev.gap = s.gap)
    {close : Option ClosePhase} (hroomy : close ≠ some .evict ∧ close ≠ some .resend) (seq : Nat) (gap : Bool)
    (hlater : close ≠ some .closed → gap = false) :
    Marked ({ s with close := close, seq := seq, gap := gap }.push ev) where
  past := h.past
  recent := by simp [EventStream.push, List.reduceOption_append, h.recent]
  pending hopen := by simp [EventStream.push, history, hlater hopen]
  law := by
    have hlaw := h.law.concat (some ev) fun e he => by
      cases he
      rw [hgap]
      exact h.pending hclose
    simpa [EventStream.push, history] using hlaw
  roomy := hroomy

lemma Marked.publish (h : s.Marked) (hclose : s.close = none) (d : D) : (s.publish d).Marked := by
  unfold EventStream.publish
  split
  · exact h.push (by simp [hclose]) rfl h.roomy _ _ fun _ => rfl
  · refine ⟨h.past, by simp [List.reduceOption_append, h.recent], fun _ => by simp [history], ?_, h.roomy⟩
    have hlaw := h.law.concat none nofun
    rwa [history, List.append_assoc] at hlaw

lemma Marked.receive (h : s.Marked) (hstep : s.receive = some s') : s'.Marked := by
  unfold EventStream.receive at hstep
  split at hstep
  · cases hstep
  · rename_i ev rest hch
    cases hstep
    obtain ⟨hrecent, hrest⟩ := takeWhile_isNone (h.recent.trans hch)
    have hnone : (s.recent.takeWhile Option.isNone).reduceOption = [] :=
      List.filterMap_eq_nil_iff.mpr fun item hitem =>
        Option.isNone_iff_eq_none.mp (List.all_eq_true.mp List.all_takeWhile item hitem)
    have hhistory : history { s with
        ch := rest, received := s.received ++ [ev], past := s.past ++ s.recent.takeWhile Option.isNone ++ [some ev]
        recent := s.recent.drop ((s.recent.takeWhile Option.isNone).length + 1) } = s.history := by
      conv_rhs => rw [history, hrecent]
      simp [history]
    refine ⟨?_, hrest, ?_, ?_, h.roomy⟩
    · simp [List.reduceOption_append, h.past, hnone]
    · rw [hhistory]
      exact h.pending
    · rw [hhistory]
      exact h.law

lemma Marked.step (h : s.Marked) {a : EventStreamAction D} (hloss : s.closesWithoutLoss a)
    (hstep : s.step a = some s') : s'.Marked := by
  cases a with
  | publish d =>
    simp only [EventStream.step] at hstep
    split_ifs at hstep with hclose
    cases hstep
    exact h.publish (Option.isNone_iff_eq_none.mp hclose) d
  | close =>
    simp only [EventStream.step] at hstep
    split_ifs at hstep with hclose
    cases hstep
    exact ⟨h.past, h.recent, fun _ => h.pending (by simp [Option.isNone_iff_eq_none.mp hclose]), h.law, by simp⟩
  | closeStep =>
    obtain ⟨phase, hphase, hstep⟩ := Option.bind_eq_some_iff.mp hstep
    cases phase with
    | send =>
      obtain ⟨hroom, hgap⟩ : s.hasRoom = true ∧ s.gap = false := by simpa [closesWithoutLoss, hphase] using hloss
      simp only [closeStep, hroom, if_true] at hstep
      cases hstep
      exact h.push (by simp [hphase]) hgap.symm (by simp) _ _ (by simp)
    | evict => exact absurd hphase h.roomy.1
    | resend => exact absurd hphase h.roomy.2
    | closed => cases hstep
  | receive => exact h.receive hstep

lemma marked_reachable {bufferSize : Int}
    (h : Transition.ReachableWhere (openEventStream bufferSize) EventStream.step (fun s a => s.closesWithoutLoss a)
      s) : s.Marked :=
  h.invariant Marked ⟨rfl, rfl, fun _ => by simp [openEventStream, history], fun before ev after heq => by
    simp [openEventStream, history] at heq, by simp [openEventStream]⟩ fun _ _ _ hmarked hloss hstep =>
      hmarked.step hloss hstep

end EventStream

/-- If no loss is pending when a stream is closed, an event is marked exactly if a loss comes directly before it; the
events are those that the caller has read and will read. -/
theorem gapLaw_of_closesWithoutLoss (bufferSize : Int) :
    (∀ sys : CovSystem N, Transition.ReachableWhere (CovSystem.init bufferSize) CovSystem.step
      (fun sys a => sys.closesWithoutLoss a) sys → GapLaw (·.gap) sys.sub.history ∧
        sys.sub.history.reduceOption = sys.sub.received ++ sys.sub.events) ∧
    (∀ s : EventStream D, Transition.ReachableWhere (EventStream.openEventStream bufferSize) EventStream.step
      (fun s a => s.closesWithoutLoss a) s → GapLaw (·.gap) s.history ∧
        s.history.reduceOption = s.received ++ s.ch) := by
  refine ⟨fun sys h => ?_, fun s h => ?_⟩
  · have hmarked := CovSystem.marked_reachable h
    exact ⟨hmarked.law, hmarked.kept⟩
  · have hmarked := EventStream.marked_reachable h
    exact ⟨hmarked.law, by rw [EventStream.history, List.reduceOption_append, hmarked.past, hmarked.recent]⟩

theorem gapLaw_of_closesWithoutLoss_runs :
    (∃ sys : CovSystem Unit, Transition.runWhere CovSystem.step CovSystem.closesWithoutLoss (CovSystem.init 1)
      CovSystem.closedRun = some sys ∧ GapLaw (·.gap) sys.sub.history) ∧
    ∃ s : EventStream Unit, Transition.runWhere EventStream.step EventStream.closesWithoutLoss
      (EventStream.openEventStream 1) [.publish (), .close, .closeStep] = some s ∧ GapLaw (·.gap) s.history := by
  obtain ⟨hcov, hevents⟩ := @gapLaw_of_closesWithoutLoss Unit Unit 1
  have hcovRun : ∃ sys, Transition.runWhere CovSystem.step CovSystem.closesWithoutLoss (CovSystem.init 1)
      CovSystem.closedRun = some sys := ⟨_, rfl⟩
  have heventsRun : ∃ s : EventStream Unit, Transition.runWhere EventStream.step EventStream.closesWithoutLoss
      (EventStream.openEventStream 1) [.publish (), .close, .closeStep] = some s := ⟨_, rfl⟩
  obtain ⟨sys, hsys⟩ := hcovRun
  obtain ⟨s, hs⟩ := heventsRun
  exact ⟨⟨sys, hsys, (hcov sys (.runWhere .init hsys)).1⟩, ⟨s, hs, (hevents s (.runWhere .init hs)).1⟩⟩

/-- A notification is dropped while the Active event fills the buffer, and the caller reads that event before Close. -/
def dropThenClose : List (CovAction Unit) :=
  [.starter, .starter, .starter, .starter, .starter, .send, .send, .send, .starter, .deliver (), .send, .send, .send,
    .receive, .closeSubscription, .closer, .closer, .closer, .stop, .renew, .closer, .closer, .send, .send, .send, .receive]

/-- The Closed event follows a loss and is not marked; so does the event after one that Close took out. -/
theorem gapLaw_broken_by_close :
    (∃ sys : CovSystem Unit, Transition.Reachable (CovSystem.init 1) CovSystem.step sys ∧ sys.sub.events = [] ∧
      ¬GapLaw (·.gap) sys.sub.history) ∧
    ∃ s : EventStream Unit, Transition.Reachable (EventStream.openEventStream 1) EventStream.step s ∧ s.ch = [] ∧
      ¬GapLaw (·.gap) s.history := by
  constructor
  · have hrun : ∃ sys ev closed, Transition.run CovSystem.step (CovSystem.init 1) dropThenClose = some sys ∧
        sys.sub.events = [] ∧ sys.sub.history = [some ev, none] ++ some closed :: [] ∧ closed.gap = false :=
      ⟨_, _, _, rfl, rfl, rfl, rfl⟩
    obtain ⟨sys, ev, closed, hsys, hread, hhistory, hgap⟩ := hrun
    refine ⟨sys, Transition.Reachable.run .init hsys, hread, fun hlaw => ?_⟩
    simpa [hgap] using hlaw _ _ _ hhistory
  · have hrun : ∃ s ev closed, Transition.run EventStream.step (EventStream.openEventStream 1)
        [.publish (), .publish (), .close, .closeStep, .closeStep, .closeStep, .receive, .receive] = some s ∧ s.ch = [] ∧
        s.history = [none] ++ some ev :: [some closed] ∧ ev.gap = false := ⟨_, _, _, rfl, rfl, rfl, rfl⟩
    obtain ⟨s, ev, closed, hs, hread, hhistory, hgap⟩ := hrun
    refine ⟨s, Transition.Reachable.run .init hs, hread, fun hlaw => ?_⟩
    simpa [hgap] using hlaw _ _ _ hhistory

end GoBacnet.Client
