import GoBacnet.Client.Subscription
import GoBacnet.Lib.Transition

/-!
# The event stream of a COV subscription

Only the holder of the mutex queues events, and only while the channel is open; a slot stays free for the Closed event.
-/

namespace GoBacnet.Client

variable {N : Type}

namespace Subscription

/-- Everything queued so far, whether it was read or not. -/
def queued (s : Subscription N) : List (SubscriptionEvent N) := s.received ++ s.events

structure Sound (s : Subscription N) : Prop where
  numbered : s.queued.map (·.sequence) = List.range' 1 s.seq
  closes : s.closes = if s.closed then 1 else 0
  lateWrites : s.lateWrites = 0
  room : s.closed = false → s.events.length ≤ s.capacity
  unclosed : s.closed = false → ∀ ev ∈ s.queued, ev.state ≠ .closed

/-- The Closed event was queued once, as the last event. -/
def EndsClosed (s : Subscription N) : Prop :=
  ∃ evs ev, s.queued = evs ++ [ev] ∧ ev.state = .closed ∧ ∀ e ∈ evs, e.state ≠ .closed

/-- What holds where `send` stands. -/
def Ready (s : Subscription N) (ev : SubscriptionEvent N) : SendPhase → Prop
  | .load => True
  | .space => s.closed = false
  | .queue => s.closed = false ∧ (ev.state ≠ .closed → s.events.length < s.capacity)
  | .degrade => ev.state ≠ .closed

variable {s s' : Subscription N} {ev : SubscriptionEvent N} {phase : SendPhase}

/-- The parts of a subscription that its stream of events depends on. -/
structure SameStream (s s' : Subscription N) : Prop where
  capacity : s'.capacity = s.capacity
  closed : s'.closed = s.closed
  seq : s'.seq = s.seq
  queued : s'.queued = s.queued
  closes : s'.closes = s.closes
  lateWrites : s'.lateWrites = s.lateWrites
  events : s'.events.length ≤ s.events.length

lemma Sound.of_same (h : s.Sound) (hs : SameStream s s') : s'.Sound where
  numbered := by rw [hs.queued, hs.seq, h.numbered]
  closes := by rw [hs.closes, hs.closed, h.closes]
  lateWrites := by rw [hs.lateWrites, h.lateWrites]
  room hopen := by
    rw [hs.capacity]
    exact hs.events.trans (h.room (hs.closed ▸ hopen))
  unclosed hopen := by
    rw [hs.queued]
    exact h.unclosed (hs.closed ▸ hopen)

lemma Ready.of_same (h : s.Ready ev phase) (hs : SameStream s s') : s'.Ready ev phase := by
  cases phase with
  | load => trivial
  | space => exact hs.closed.trans h
  | queue => exact ⟨hs.closed.trans h.1, fun hev => hs.capacity ▸ hs.events.trans_lt (h.2 hev)⟩
  | degrade => exact h

lemma EndsClosed.of_same (h : s.EndsClosed) (hs : SameStream s s') : s'.EndsClosed := by
  obtain ⟨evs, last, hqueued, hlast⟩ := h
  exact ⟨evs, last, hs.queued.trans hqueued, hlast⟩

lemma sameStream_rfl (s : Subscription N) : SameStream s s := ⟨rfl, rfl, rfl, rfl, rfl, rfl, Nat.le_refl _⟩

lemma sameStream_setState (s : Subscription N) (state : SubscriptionState) : SameStream s { s with state := state } :=
  ⟨rfl, rfl, rfl, rfl, rfl, rfl, Nat.le_refl _⟩

lemma sameStream_tryMarkDegraded (s : Subscription N) : SameStream s s.tryMarkDegraded := by
  unfold tryMarkDegraded
  split
  · exact sameStream_rfl s
  · exact sameStream_setState s .degraded

lemma closed_of_tryMarkDegraded (h : s.tryMarkDegraded.state = .closed) : s.state = .closed := by
  by_contra hopen
  simp [tryMarkDegraded, hopen] at h

lemma sameStream_receive (h : s.receive = some s') : SameStream s s' ∧ s'.state = s.state := by
  unfold receive at h
  split at h
  · cases h
  · rename_i ev rest hevents
    cases h
    exact ⟨⟨rfl, rfl, rfl, by simp [queued, hevents], rfl, rfl, by simp [hevents]⟩, rfl⟩

lemma sameStream_dropEvent (s : Subscription N) : SameStream s s.dropEvent := ⟨rfl, rfl, rfl, rfl, rfl, rfl, Nat.le_refl _⟩

def stamp (s : Subscription N) (ev : SubscriptionEvent N) : SubscriptionEvent N :=
  { ev with sequence := s.seq + 1, gap := s.gapPending && !decide (ev.state = .closed) }

/-- An open subscription after `send` has queued an event. -/
def afterQueue (s : Subscription N) (ev : SubscriptionEvent N) : Subscription N :=
  { s with
    seq := s.seq + 1, gapPending := s.gapPending && decide (ev.state = .closed), events := s.events ++ [s.stamp ev]
    history := s.history ++ [some (s.stamp ev)], closed := decide (ev.state = .closed)
    closes := if ev.state = .closed then 1 else 0 }

lemma queued_afterQueue (s : Subscription N) (ev : SubscriptionEvent N) :
    (s.afterQueue ev).queued = s.queued ++ [s.stamp ev] := (List.append_assoc _ _ _).symm

lemma sound_afterQueue (h : s.Sound) (hopen : s.closed = false)
    (hroom : ev.state ≠ .closed → s.events.length < s.capacity) : (s.afterQueue ev).Sound where
  numbered := by
    rw [queued_afterQueue, List.map_append, h.numbered]
    simp [afterQueue, stamp, List.range'_concat, Nat.add_comm]
  closes := by simp [afterQueue]
  lateWrites := h.lateWrites
  room hopen' := by simpa [afterQueue] using hroom (by simpa [afterQueue] using hopen')
  unclosed hopen' := by
    have hev : ev.state ≠ .closed := by simpa [afterQueue] using hopen'
    rw [queued_afterQueue]
    simpa [or_imp, forall_and, stamp, hev] using h.unclosed hopen

lemma endsClosed_afterQueue (h : s.Sound) (hopen : s.closed = false) (hev : ev.state = .closed) :
    (s.afterQueue ev).EndsClosed :=
  ⟨s.queued, s.stamp ev, queued_afterQueue s ev, hev, h.unclosed hopen⟩

lemma sendStep_queue (h : s.Sound) (hr : s.Ready ev .queue) : s.sendStep ev .queue = (s.afterQueue ev, none) := by
  have hlt : s.events.length < s.capacity + 1 := Nat.lt_succ_of_le (h.room hr.1)
  have hcloses : s.closes = 0 := by rw [h.closes, hr.1]; rfl
  by_cases hev : ev.state = .closed <;> simp [sendStep, hlt, afterQueue, stamp, write, closeEvents, hcloses, hev, hr.1]

/-- What a step of `send` may do to the stream: nothing, or queue the event. -/
lemma sendStep_cases (h : s.Sound) (hr : s.Ready ev phase) {next : Option SendPhase}
    (hstep : s.sendStep ev phase = (s', next)) :
    (SameStream s s' ∧ (s'.state = .closed → s.state = .closed) ∧ (∀ p, next = some p → s'.Ready ev p) ∧
      (ev.state = .closed → next = none → s.closed = true)) ∨
    (phase = .queue ∧ s' = s.afterQueue ev ∧ next = none) := by
  cases phase with
  | load =>
    cases hstep
    refine .inl ⟨sameStream_rfl s, id, fun p hp => ?_, fun hev hnone => ?_⟩
    · split at hp
      · cases hp
      · rename_i hopen
        cases hp
        exact Bool.eq_false_of_not_eq_true (not_or.mp hopen).1
    · simpa [hev] using hnone
  | space =>
    simp only [sendStep] at hstep
    split at hstep
    · rename_i hfull
      cases hstep
      refine .inl ⟨sameStream_dropEvent s, id, fun p hp => ?_, fun _ => nofun⟩
      cases hp
      exact hfull.1
    · rename_i hfree
      cases hstep
      refine .inl ⟨sameStream_rfl s, id, fun p hp => ?_, fun _ => nofun⟩
      cases hp
      exact ⟨hr, fun hev => Nat.lt_of_not_le fun hfull => hfree ⟨hev, hfull⟩⟩
  | queue =>
    rw [sendStep_queue h hr] at hstep
    cases hstep
    exact .inr ⟨rfl, rfl, rfl⟩
  | degrade =>
    cases hstep
    exact .inl ⟨sameStream_tryMarkDegraded s, closed_of_tryMarkDegraded, nofun, fun hev => absurd hev hr⟩

end Subscription

/-- The subscription is not in the manager's table yet, or its start has failed. -/
def notStarted : List StarterPC := [.register, .unregister, .finish, .closeEvents, .failed]

/-- What holds in every reachable state; the renewal loop's own place does not matter. -/
structure CovInv (sub : Subscription N) (starter : StarterPC) (closer : CloserPC) (sending : Option (Sending N))
    (registered clientClosed : Bool) (found : Option Bool) : Prop where
  sound : sub.Sound
  ready : ∀ snd, sending = some snd → sub.Ready snd.event snd.phase
  terminal : ∀ snd, sending = some snd → (snd.event.state = .closed ↔ snd.who = .closer)
  announcing : ∀ snd, sending = some snd → snd.who = .starter → starter = .announcing
  closing : sub.state = .closed → closer ≠ .idle
  ended : sub.closed = true → starter = .failed ∨ sub.EndsClosed
  finished : closer = .finished → sub.closed = true
  clientClosed : found ≠ none → clientClosed = true
  started : starter ∉ notStarted → registered = true ∨ found = some true ∨ closer ≠ .idle
  requested : starter ∉ .check :: notStarted → found ≠ some false ∨ closer ≠ .idle

lemma forall_sending_none {p : Sending N → Prop} : ∀ snd, none = some snd → p snd := fun _ hsnd => absurd hsnd (by simp)

namespace CovInv

variable {sub sub' : Subscription N} {starter starter' : StarterPC} {closer closer' : CloserPC}
  {sending : Option (Sending N)} {registered registered' clientClosed : Bool} {found : Option Bool}

lemma withSub (h : CovInv sub starter closer sending registered clientClosed found)
    (hs : Subscription.SameStream sub sub') (hstate : sub'.state = .closed → sub.state = .closed) :
    CovInv sub' starter closer sending registered clientClosed found :=
  { h with
    sound := h.sound.of_same hs
    ready := fun snd hsnd => (h.ready snd hsnd).of_same hs
    closing := fun hclosed => h.closing (hstate hclosed)
    ended := fun hclosed => (h.ended (hs.closed ▸ hclosed)).imp_right fun hends => hends.of_same hs
    finished := fun hfinished => hs.closed.trans (h.finished hfinished) }

lemma withCloser (h : CovInv sub starter closer sending registered clientClosed found)
    (hs : Subscription.SameStream sub sub') (hidle : closer' ≠ .idle) (hfinished : closer' ≠ .finished) :
    CovInv sub' starter closer' sending registered' clientClosed found :=
  { h with
    sound := h.sound.of_same hs
    ready := fun snd hsnd => (h.ready snd hsnd).of_same hs
    closing := fun _ => hidle
    ended := fun hclosed => (h.ended (hs.closed ▸ hclosed)).imp_right fun hends => hends.of_same hs
    finished := fun hfin => absurd hfin hfinished
    started := fun _ => .inr (.inr hidle)
    requested := fun _ => .inr hidle }

lemma advance (h : CovInv sub starter closer sending registered clientClosed found) (hannouncing : starter ≠ .announcing)
    (hfailed : starter ≠ .failed)
    (hstarted : starter' ∉ notStarted → registered' = true ∨ found = some true ∨ closer ≠ .idle)
    (hrequested : starter' ∉ .check :: notStarted → found ≠ some false ∨ closer ≠ .idle) :
    CovInv sub starter' closer sending registered' clientClosed found :=
  { h with
    announcing := fun snd hsnd hwho => absurd (h.announcing snd hsnd hwho) hannouncing
    ended := fun hclosed => .inr ((h.ended hclosed).resolve_left hfailed)
    started := hstarted
    requested := hrequested }

/-- The start goes on after the request. -/
lemma goOn (h : CovInv sub starter closer sending registered clientClosed found) (hpc : starter ∉ .check :: notStarted)
    (hannouncing : starter ≠ .announcing) : CovInv sub starter' closer sending registered clientClosed found :=
  h.advance hannouncing (fun hfailed => hpc (by simp [hfailed, notStarted]))
    (fun _ => h.started fun hmem => hpc (List.mem_cons_of_mem _ hmem)) fun _ => h.requested hpc

lemma fail (h : CovInv sub starter closer sending registered clientClosed found) (hannouncing : starter ≠ .announcing)
    (hfailed : starter ≠ .failed) (hpc : starter' ∈ notStarted) :
    CovInv sub starter' closer sending registered' clientClosed found :=
  h.advance hannouncing hfailed (fun hstarted => absurd hpc hstarted)
    fun hrequested => absurd (List.mem_cons_of_mem _ hpc) hrequested

lemma locked (h : CovInv sub starter closer none registered clientClosed found) {snd : Sending N}
    (hload : snd.phase = .load) (hterminal : snd.event.state = .closed ↔ snd.who = .closer)
    (hannouncing : snd.who = .starter → starter = .announcing) :
    CovInv sub starter closer (some snd) registered clientClosed found :=
  { h with
    ready := fun _ hsnd => by cases hsnd; rw [hload]; trivial
    terminal := fun _ hsnd => by cases hsnd; exact hterminal
    announcing := fun _ hsnd => by cases hsnd; exact hannouncing }

/-- A step of `send`, up to the place of the goroutine that makes it. -/
lemma sendStep {snd : Sending N} (h : CovInv sub starter closer (some snd) registered clientClosed found)
    {next : Option SendPhase} (hstep : sub.sendStep snd.event snd.phase = (sub', next)) :
    CovInv sub' starter closer (next.map fun phase => { snd with phase := phase }) registered clientClosed found ∧
      (snd.who = .closer → next = none → sub'.closed = true) := by
  have hterminal := h.terminal snd rfl
  rcases Subscription.sendStep_cases h.sound (h.ready snd rfl) hstep with ⟨hsame, hstate, hready, hlast⟩ | ⟨hqueue, rfl, rfl⟩
  · refine ⟨{ h.withSub hsame hstate with ready := ?_, terminal := ?_, announcing := ?_ }, fun hwho hnone =>
      hsame.closed.trans (hlast (hterminal.mpr hwho) hnone)⟩
    all_goals
      intro snd' hsnd'
      obtain ⟨phase, hphase, rfl⟩ := Option.map_eq_some_iff.mp hsnd'
    · exact hready phase hphase
    · exact hterminal
    · exact h.announcing snd rfl
  · obtain ⟨hopen, hroom⟩ : sub.Ready snd.event .queue := hqueue ▸ h.ready snd rfl
    refine ⟨{ h with
      sound := Subscription.sound_afterQueue h.sound hopen hroom
      ready := forall_sending_none
      terminal := forall_sending_none
      announcing := forall_sending_none
      closing := h.closing
      ended := fun hclosed => .inr (Subscription.endsClosed_afterQueue h.sound hopen (of_decide_eq_true hclosed))
      finished := fun hfinished => absurd (h.finished hfinished) (by simp [hopen]) }, fun hwho _ =>
        decide_eq_true (hterminal.mpr hwho)⟩

end CovInv

namespace CovSystem

abbrev Inv (sys : CovSystem N) : Prop :=
  CovInv sys.sub sys.starter sys.closer sys.sending sys.registered sys.clientClosed sys.found

variable {sys sys' : CovSystem N}

lemma inv_init (bufferSize : Int) : (init bufferSize : CovSystem N).Inv where
  sound := ⟨rfl, rfl, rfl, fun _ => Nat.zero_le _, nofun⟩
  ready := forall_sending_none
  terminal := forall_sending_none
  announcing := forall_sending_none
  closing h := absurd h (by simp [init])
  ended h := absurd h (by simp [init])
  finished h := absurd h (by simp [init])
  clientClosed h := absurd rfl h
  started h := by simp [init, notStarted] at h
  requested h := by simp [init, notStarted] at h

lemma Inv.lock (h : sys.Inv) {who : Sender} {event : SubscriptionEvent N} (hlock : sys.lock who event = some sys')
    (hterminal : event.state = .closed ↔ who = .closer) (hannouncing : who = .starter → sys.starter = .announcing) :
    sys'.Inv := by
  unfold CovSystem.lock at hlock
  split at hlock
  · rename_i hfree
    cases hlock
    exact CovInv.locked (Option.isNone_iff_eq_none.mp hfree ▸ h) rfl hterminal hannouncing
  · cases hlock

lemma Inv.starterStep (h : sys.Inv) (hstep : sys.starterStep = some sys') : sys'.Inv := by
  cases hpc : sys.starter with
  | register =>
    simp only [CovSystem.starterStep, hpc] at hstep
    cases hstep
    exact h.advance (by simp [hpc]) (by simp [hpc]) (fun _ => .inl rfl) fun hrequested => absurd hrequested (by simp)
  | check =>
    simp only [CovSystem.starterStep, hpc] at hstep
    cases hstep
    refine h.advance (by simp [hpc]) (by simp [hpc]) (fun _ => h.started (by simp [hpc, notStarted])) fun hrequested =>
      .inl fun hfound => hrequested ?_
    simp [h.clientClosed (by simp [hfound]), notStarted]
  | request =>
    simp only [CovSystem.starterStep, hpc] at hstep
    cases hstep
    exact h.goOn (by simp [hpc, notStarted]) (by simp [hpc])
  | activate =>
    simp only [CovSystem.starterStep, hpc] at hstep
    cases hstep
    exact (h.withSub (Subscription.sameStream_setState _ .active) (by simp)).goOn (by simp [hpc, notStarted]) (by simp [hpc])
  | announce =>
    simp only [CovSystem.starterStep, hpc] at hstep
    have hadvance : Inv { sys with starter := .announcing } :=
      h.goOn (by simp [hpc, notStarted]) (by simp [hpc])
    exact hadvance.lock hstep (by simp) fun _ => rfl
  | spawn =>
    simp only [CovSystem.starterStep, hpc] at hstep
    cases hstep
    exact h.goOn (by simp [hpc, notStarted]) (by simp [hpc])
  | unregister | finish =>
    simp only [CovSystem.starterStep, hpc] at hstep
    cases hstep
    exact h.fail (by simp [hpc]) (by simp [hpc]) (by simp [notStarted])
  | closeEvents =>
    simp only [CovSystem.starterStep, hpc] at hstep
    split at hstep
    · rename_i hfree
      cases hstep
      have hnone := Option.isNone_iff_eq_none.mp hfree
      have hsound : (if sys.sub.closed then sys.sub else sys.sub.closeEvents).Sound := by
        split
        · exact h.sound
        · rename_i hopen
          have hcloses := h.sound.closes
          exact ⟨h.sound.numbered, by simp [Subscription.closeEvents, hcloses, hopen], h.sound.lateWrites, nofun, nofun⟩
      exact { h with
        sound := hsound
        ready := fun snd hsnd => absurd (hnone.symm.trans hsnd) nofun
        announcing := fun snd hsnd => absurd (hnone.symm.trans hsnd) nofun
        closing := fun hclosed => h.closing (by split at hclosed <;> exact hclosed)
        ended := fun _ => .inl rfl
        finished := fun hfinished => by simp [h.finished hfinished]
        started := fun hstarted => absurd hstarted (by simp [notStarted])
        requested := fun hrequested => absurd hrequested (by simp [notStarted]) }
    · cases hstep
  | announcing | returned | failed => simp [CovSystem.starterStep, hpc] at hstep

lemma Inv.tryStore (h : sys.Inv) {state : SubscriptionState} (hstate : state ≠ .closed) (next : RenewPC) :
    (sys.tryStore state next).Inv := by
  unfold CovSystem.tryStore
  split
  · exact h
  · exact h.withSub (Subscription.sameStream_setState _ _) fun hclosed => absurd hclosed hstate

lemma Inv.renewStep (h : sys.Inv) (hstep : sys.renewStep = some sys') : sys'.Inv := by
  unfold CovSystem.renewStep at hstep
  cases hpc : sys.renew with
  | renewing | activate =>
    simp only [hpc] at hstep
    cases hstep
    exact h.tryStore (by simp) _
  | announceRenewing | announceDegraded | announceActive =>
    simp only [hpc] at hstep
    exact Inv.lock (show Inv { sys with renew := .sending } from h) hstep (by simp) (by simp)
  | degrade =>
    simp only [hpc] at hstep
    cases hstep
    exact h.withSub (Subscription.sameStream_tryMarkDegraded _) Subscription.closed_of_tryMarkDegraded
  | wait | timer | request | requested | exit =>
    simp only [hpc] at hstep
    cases hstep
    exact h
  | absent | sending | exited => simp [hpc] at hstep

lemma Inv.closerStep (h : sys.Inv) (hstep : sys.closerStep = some sys') : sys'.Inv := by
  have hsame := Subscription.sameStream_rfl sys.sub
  unfold CovSystem.closerStep at hstep
  cases hpc : sys.closer with
  | cancel bySubscription =>
    simp only [hpc] at hstep
    cases hstep
    cases bySubscription <;> exact h.withCloser hsame (by simp) (by simp)
  | unregister | request =>
    simp only [hpc] at hstep
    cases hstep
    exact h.withCloser hsame (by simp) (by simp)
  | await =>
    simp only [hpc] at hstep
    split at hstep
    · cases hstep
      exact h.withCloser hsame (by simp) (by simp)
    · cases hstep
  | publish =>
    simp only [hpc] at hstep
    have hpublishing : Inv { sys with closer := .publishing } := h.withCloser hsame (by simp) (by simp)
    exact hpublishing.lock hstep (by simp) (by simp)
  | idle | publishing | finished => simp [hpc] at hstep

lemma Inv.send (h : sys.Inv) {snd : Sending N} (hsnd : sys.sending = some snd) : (sys.sendStep snd).Inv := by
  have hsending : CovInv sys.sub sys.starter sys.closer (some snd) sys.registered sys.clientClosed sys.found := hsnd ▸ h
  unfold CovSystem.sendStep
  cases hstep : sys.sub.sendStep snd.event snd.phase with
  | mk sub next =>
    obtain ⟨hinv, hlast⟩ := hsending.sendStep hstep
    cases next with
    | some phase => exact hinv
    | none =>
      cases hwho : snd.who with
      | starter =>
        have hpc := h.announcing snd hsnd hwho
        exact { hinv with
          announcing := forall_sending_none
          ended := fun hclosed => .inr ((hinv.ended hclosed).resolve_left (by simp [hpc]))
          started := fun _ => h.started (by simp [hpc, notStarted])
          requested := fun _ => h.requested (by simp [hpc, notStarted]) }
      | closer =>
        exact { hinv with
          closing := fun _ => by simp [CovSystem.release]
          finished := fun _ => hlast hwho rfl
          started := fun _ => .inr (.inr (by simp [CovSystem.release]))
          requested := fun _ => .inr (by simp [CovSystem.release]) }
      | renewLoop | delivery => exact hinv

lemma Inv.step (h : sys.Inv) {a : CovAction N} (hstep : sys.step a = some sys') : sys'.Inv := by
  cases a with
  | starter => exact h.starterStep hstep
  | startFails =>
    simp only [CovSystem.step] at hstep
    split at hstep
    · rename_i hpc
      cases hstep
      exact h.fail (by simp [hpc]) (by simp [hpc]) (by simp [notStarted])
    · cases hstep
  | deliver note => exact h.lock hstep (by simp) (by simp)
  | send =>
    obtain ⟨snd, hsnd, rfl⟩ := Option.map_eq_some_iff.mp hstep
    exact h.send hsnd
  | receive =>
    obtain ⟨sub, hsub, rfl⟩ := Option.map_eq_some_iff.mp hstep
    obtain ⟨hsame, hstate⟩ := Subscription.sameStream_receive hsub
    exact h.withSub hsame hstate.symm.trans
  | renew => exact h.renewStep hstep
  | renewFails err =>
    simp only [CovSystem.step] at hstep
    split at hstep
    · cases hstep
      exact h
    · cases hstep
  | stop =>
    simp only [CovSystem.step] at hstep
    split at hstep
    · cases hstep
      exact h
    · cases hstep
  | closeSubscription =>
    simp only [CovSystem.step] at hstep
    split_ifs at hstep with hidle hclosed
    · exact absurd hidle.2 (h.closing hclosed)
    · cases hstep
      exact h.withCloser (Subscription.sameStream_setState _ _) (by simp) (by simp)
  | closeClient =>
    simp only [CovSystem.step] at hstep
    split at hstep
    · cases hstep
    · cases hstep
      exact { h with clientClosed := fun _ => rfl }
  | closeAll =>
    simp only [CovSystem.step] at hstep
    split at hstep
    · rename_i hclient
      cases hstep
      have hfound : sys.starter ∉ notStarted → some sys.registered = some true ∨ sys.closer ≠ .idle := by
        intro hstarted
        rcases h.started hstarted with hreg | hfound | hcloser
        · exact .inl (congrArg some hreg)
        · simp [hclient.2] at hfound
        · exact .inr hcloser
      exact { h with
        clientClosed := fun _ => hclient.1
        started := fun hstarted => .inr (hfound hstarted)
        requested := fun hrequested => (hfound fun hmem => hrequested (List.mem_cons_of_mem _ hmem)).imp_left
          fun hreg => by simp [hreg] }
    · cases hstep
  | closeFound =>
    simp only [CovSystem.step] at hstep
    split at hstep
    · cases hstep
      exact h.withCloser (Subscription.sameStream_setState _ _) (by simp) (by simp)
    · cases hstep
  | closer => exact h.closerStep hstep

/-- The events of a returned subscription are numbered without holes, its channel is closed once and not written to
afterwards, the Closed event is the last one, and Close of the client does not miss the subscription. -/
theorem covStream_ordered (bufferSize : Int) {sys : CovSystem N}
    (h : Transition.Reachable (init bufferSize) CovSystem.step sys) (hreturned : sys.starter = .returned) :
    sys.sub.received.map (·.sequence) = List.range' 1 sys.sub.received.length ∧
    sys.sub.closes ≤ 1 ∧ sys.sub.lateWrites = 0 ∧
    (sys.closer = .finished → sys.sub.closes = 1 ∧ sys.sub.EndsClosed) ∧
    (sys.found ≠ none → sys.found = some true ∨ sys.closer ≠ .idle) := by
  have hinv : sys.Inv := h.invariant Inv (inv_init bufferSize) fun _ _ _ hinv _ hstep => hinv.step hstep
  have hcloses := hinv.sound.closes
  refine ⟨?_, ?_, hinv.sound.lateWrites, fun hfinished => ?_, fun hfound => ?_⟩
  · have hnumbered := hinv.sound.numbered
    rw [Subscription.queued, List.map_append] at hnumbered
    obtain ⟨k, hk⟩ := Nat.exists_eq_add_of_le (show sys.sub.received.length ≤ sys.sub.seq by
      have := congrArg List.length hnumbered
      simp at this
      omega)
    rw [hk, ← List.range'_append_1] at hnumbered
    exact (List.append_inj hnumbered (by simp)).1
  · rw [hcloses]
    split <;> decide
  · have hclosed := hinv.finished hfinished
    exact ⟨by rw [hcloses, if_pos hclosed], (hinv.ended hclosed).resolve_left (by simp [hreturned])⟩
  · refine (hinv.requested (by simp [hreturned, notStarted])).imp_left fun hmissed => ?_
    cases hvalue : sys.found with
    | none => exact absurd hvalue hfound
    | some b =>
      cases b
      · exact absurd hvalue hmissed
      · rfl

/-- A subscription with a buffer of one event is started, gets a notification while the caller reads, and is closed. -/
def closedRun : List (CovAction Unit) :=
  [.starter, .starter, .starter, .starter, .starter, .send, .send, .send, .starter, .receive, .deliver (), .send, .send,
    .send, .closeSubscription, .closer, .closer, .closer, .stop, .renew, .closer, .closer, .send, .send, .send, .receive]

theorem covStream_ordered_closed :
    ∃ sys : CovSystem Unit, Transition.Reachable (init 1) CovSystem.step sys ∧ sys.starter = .returned ∧
      sys.sub.received.map (·.sequence) = [1, 2] ∧ sys.sub.closes = 1 ∧ sys.sub.EndsClosed := by
  have hrun : (Transition.run CovSystem.step (init 1) closedRun).map (fun sys =>
      (sys.starter, sys.closer, sys.sub.received.map (·.sequence))) = some (.returned, .finished, [1, 2]) := by
    decide +kernel
  obtain ⟨sys, hsys, hend⟩ := Option.map_eq_some_iff.mp hrun
  obtain ⟨hreturned, hfinished, hreceived⟩ : sys.starter = .returned ∧ sys.closer = .finished ∧
      sys.sub.received.map (·.sequence) = [1, 2] := by simpa using hend
  have hreach := Transition.Reachable.run .init hsys
  obtain ⟨-, -, -, hclosed, -⟩ := covStream_ordered 1 hreach hreturned
  exact ⟨sys, hreach, hreturned, hreceived, hclosed hfinished⟩

end CovSystem

end GoBacnet.Client
