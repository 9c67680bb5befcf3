import GoBacnet.Proofs.CovRuns

/-!
# The initial notification follows the acknowledgement

A subscription can be kicked as soon as it is in the table, and its SimpleACK is sent after that. A notification
overtakes the SimpleACK exactly through a change that finds the subscription in between.
-/

namespace GoBacnet.Server.Cov

variable {V : Type} {P : CovParams V} {s s' : Cov V}

def Ordered (transport : List (Sent V)) : Prop :=
  ∀ (i : Nat) (ref : Ref) (values : List (CovRef × V)), transport[i]? = some (.notification ref values) →
    ∃ j < i, transport[j]? = some (.simpleACK ref)

def FindsAcknowledged (s : Cov V) : Action V → Prop
  | .changed i => ∀ obj, s.changes[i]? = some obj → ∀ ref ∈ s.table.hit obj, .simpleACK ref ∈ s.transport
  | _ => True

lemma ordered_snoc {transport : List (Sent V)} {event : Sent V} (h : Ordered transport)
    (hevent : ∀ ref values, event = .notification ref values → .simpleACK ref ∈ transport) :
    Ordered (transport ++ [event]) := by
  intro i ref values hi
  rw [List.getElem?_append] at hi
  split_ifs at hi with hlt
  · obtain ⟨j, hj, hack⟩ := h i ref values hi
    exact ⟨j, hj, List.getElem?_append_left (hj.trans hlt) ▸ hack⟩
  · rw [List.getElem?_singleton] at hi
    split_ifs at hi
    obtain ⟨j, hack⟩ := List.getElem?_of_mem (hevent ref values (Option.some.inj hi))
    have hj := (List.getElem?_eq_some_iff.mp hack).1
    exact ⟨j, hj.trans_le (not_lt.mp hlt), List.getElem?_append_left hj ▸ hack⟩

/-- Only acknowledged subscriptions are kicked or have a sender. -/
structure Waits (s : Cov V) : Prop where
  kicks : ∀ k ∈ s.kicks, .simpleACK k.ref ∈ s.transport
  runs : ∀ run ∈ s.runs, .simpleACK run.ref ∈ s.transport
  ordered : Ordered s.transport

lemma Waits.kick (h : Waits s) {k : Kick} (hk : .simpleACK k.ref ∈ s.transport) : Waits (s.kick k) := by
  rcases kick_cases s k with ⟨heq, -⟩ | ⟨sub, -, -, heq⟩
  · rw [heq]
    exact h
  · rw [heq]
    refine ⟨h.kicks, fun run hrun => ?_, h.ordered⟩
    rcases mem_mark_cases hrun with hrun | rfl
    · exact h.runs run hrun
    · exact hk

lemma Waits.move (h : Waits s) {i : Nat} {run : Run V} {phase : RunPhase V} (hrun : s.runs[i]? = some run)
    (hkicks : s'.kicks = s.kicks) (hruns : s'.runs = s.runs.set i ⟨run.ref, phase⟩)
    (htransport : s'.transport = s.transport) : Waits s' := by
  refine ⟨?_, fun r hr => ?_, ?_⟩
  · rw [hkicks, htransport]
    exact h.kicks
  · rw [hruns] at hr
    rw [htransport]
    rcases List.mem_or_eq_of_mem_set hr with hr | rfl
    · exact h.runs r hr
    · exact h.runs run (List.mem_of_getElem? hrun)
  · rw [htransport]
    exact h.ordered

lemma Waits.runStep (h : Waits s) {i : Nat} {run : Run V} {sub : CovSub} (hrun : s.runs[i]? = some run) :
    Waits (s.runStep P i run sub) := by
  unfold Cov.runStep
  split
  · unfold runHead
    split_ifs
    · exact ⟨h.kicks, fun r hr => h.runs r ((List.eraseIdx_sublist _ i).subset hr), h.ordered⟩
    · exact h.move hrun rfl rfl rfl
  · exact h.move hrun rfl rfl rfl
  · split
    · exact h.move hrun rfl rfl rfl
    · exact h.move hrun rfl rfl rfl
    · unfold conclude
      split_ifs
      all_goals exact h.move hrun rfl rfl rfl
  · rename_i values _
    have hack := h.runs run (List.mem_of_getElem? hrun)
    have hmoved : Waits { s with runs := s.runs.set i ⟨run.ref, .head⟩ } := h.move hrun rfl rfl rfl
    refine ⟨fun k hk => List.mem_append_left _ (hmoved.kicks k hk),
      fun r hr => List.mem_append_left _ (hmoved.runs r hr), ordered_snoc h.ordered ?_⟩
    rintro ref _ hevent
    cases hevent
    exact hack

theorem waits_step {a : Action V} (h : Waits s) (hc : FindsAcknowledged s a) (hs : step P s a = some s') :
    Waits s' := by
  cases moves_of_step hs with
  | idle | change | maintain => exact ⟨h.kicks, h.runs, h.ordered⟩
  | @changed i obj hobj =>
    refine ⟨fun k hk => ?_, h.runs, h.ordered⟩
    rcases List.mem_append.mp hk with hk | hk
    · exact h.kicks k hk
    · obtain ⟨ref, href, rfl⟩ := List.mem_map.mp hk
      exact hc obj hobj ref href
  | @kick i k hk =>
    have hrest : Waits { s with kicks := s.kicks.eraseIdx i } :=
      ⟨fun k hk => h.kicks k ((List.eraseIdx_sublist _ i).subset hk), h.runs, h.ordered⟩
    exact hrest.kick (h.kicks k (List.mem_of_getElem? hk))
  | run hrun => exact h.runStep hrun
  | @acknowledge i ref =>
    refine ⟨fun k hk => ?_, fun r hr => List.mem_append_left _ (h.runs r hr), ordered_snoc h.ordered nofun⟩
    rcases List.mem_append.mp hk with hk | hk
    · exact List.mem_append_left _ (h.kicks k hk)
    · rw [List.mem_singleton.mp hk]
      simp

/-- Where every change finds acknowledged subscriptions only, no notification precedes the SimpleACK of its
subscription. -/
theorem notification_follows_ack {dev : Device V}
    (hs : Transition.ReachableWhere { dev } (step P) FindsAcknowledged s) : Ordered s.transport := by
  have hwaits : Waits s := by
    refine hs.invariant Waits ⟨?_, ?_, ?_⟩ fun s a s' h hc hs => waits_step h hc hs
    · simp
    · simp
    · intro i ref values hi
      simp at hi
  exact hwaits.ordered

/-! ### A change between the two -/

def binaryObject (value : Bool) : Object Bool where
  covReporter := true
  readProperty prop := if prop = .presentValue then some value else none

def binaryDevice : Device Bool where
  identifier := ⟨objectTypeDevice, 1⟩
  objects := Function.update (fun _ => none) ⟨5, 1⟩ (some (binaryObject false))

def binaryParams : CovParams Bool := { significant := fun last v => last ≠ v }

def subscriber : Peer := { immediate := ⟨.v4 192 168 1 10, 47808⟩, origin := ⟨.v4 192 168 1 10, 47808⟩ }

def subscribed : List (Action Bool) := [.request subscriber (.object 1 ⟨5, 1⟩ false 0), .proceed 0 true]

def binarySub : CovSub where
  key := { kind := .object, origin := subscriber.origin, source := {}, pid := 1, obj := ⟨5, 1⟩ }
  targets := [⟨⟨5, 1⟩, [⟨0, 0, 0, ⟨5, 1⟩, .presentValue⟩, ⟨0, 0, 1, ⟨5, 1⟩, .statusFlags⟩]⟩]

def reportedChange (value : Bool) : List (Action Bool) :=
  [.change ⟨5, 1⟩ (some (binaryObject value)), .changed 0, .kick 0]

/-- The sender evaluates the subscription once, up to the sending of its notification. -/
def evaluated : List (Action Bool) := List.replicate 7 (.run 0)

theorem notification_follows_ack_initial :
    ∃ s : Cov Bool, Transition.ReachableWhere { dev := binaryDevice } (step binaryParams) FindsAcknowledged s ∧
      s.transport.length = 2 ∧ Ordered s.transport := by
  obtain ⟨s, hrun, hlen⟩ := Option.map_eq_some_iff.mp
    (show (Transition.run (step binaryParams) { dev := binaryDevice }
      (subscribed ++ [.proceed 0 true, .kick 0] ++ evaluated)).map (fun s => s.transport.length) = some 2 by
        decide +kernel)
  have hmeets : ∀ a ∈ subscribed ++ [.proceed 0 true, .kick 0] ++ evaluated, ∀ s, FindsAcknowledged s a := by
    intro a ha s
    fin_cases ha <;> trivial
  have hreach := Transition.ReachableWhere.run .init hmeets hrun
  exact ⟨s, hreach, hlen, notification_follows_ack hreach⟩

/-- A change between the adding of a subscription and its SimpleACK: the notification goes out first. -/
theorem change_overtakes_ack :
    ∃ s : Cov Bool, Reachable binaryParams binaryDevice s ∧ s.requests = [.acknowledge 0] ∧
      (∃ values, s.transport = [.notification 0 values]) ∧ ¬Ordered s.transport := by
  obtain ⟨s, hrun, hproj⟩ := Option.map_eq_some_iff.mp
    (show (Transition.run (step binaryParams) { dev := binaryDevice }
      (subscribed ++ reportedChange true ++ evaluated)).map (fun s => (s.requests, s.transport)) =
        some ([.acknowledge 0], [.notification 0 [(⟨0, 0, 0, ⟨5, 1⟩, .presentValue⟩, true)]]) by
        decide +kernel)
  obtain ⟨hrequests, htransport⟩ := Prod.mk.inj hproj
  refine ⟨s, Transition.Reachable.run .init hrun, hrequests, ⟨_, htransport⟩, fun hordered => ?_⟩
  obtain ⟨j, hj, -⟩ := hordered 0 0 _ (by rw [htransport]; rfl)
  omega

end GoBacnet.Server.Cov
