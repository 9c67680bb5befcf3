import GoBacnet.Server.Requester

/-!
# Answers to the server's own requests

The receive loop matches an answer by its invoke ID and by the node that sent the datagram. The station behind
that node and the service are not looked at, so that another answer with the same invoke ID ends a notification.
-/

namespace GoBacnet.Proofs

open Apdu Server

def stationOf (dest : Address) : Address := if dest.scope = .remoteStation then dest else {}

structure FromDestination (c : Invocation) (pdu : PDU) (p : Peer) : Prop where
  node : p.origin = c.node
  station : p.source = stationOf c.dest
  service : ∀ ack, pdu = .simpleACK ack → ack.serviceChoice = c.svc

def Answers (c : Invocation) (pdu : PDU) (p : Peer) : Prop := answerID pdu = some c.id ∧ FromDestination c pdu p

def CompletedBy (c : Invocation) (pdu : PDU) (p : Peer) : Prop :=
  c.ch = some (pdu, p) ∨ c.phase = .returning (.answered pdu p) ∨ c.phase = .returned (.answered pdu p)

def Genuine (r : Requester) : Requester.Action → Prop
  | .response pdu p => ∀ id call c, answerID pdu = some id → r.pending id = some call → r.calls[call]? = some c →
      c.node = p.immediate → FromDestination c pdu p
  | _ => True

/-- Two records of one request. -/
structure SameRequest (c c' : Invocation) : Prop where
  node : c'.node = c.node
  dest : c'.dest = c.dest
  svc : c'.svc = c.svc
  id : c'.id = c.id

lemma SameRequest.answers {c c' : Invocation} (h : SameRequest c c') {pdu : PDU} {p : Peer} :
    Answers c' pdu p ↔ Answers c pdu p := by
  obtain ⟨hnode, hdest, hsvc, hid⟩ := h
  constructor
  · rintro ⟨hinvoke, hfrom⟩
    exact ⟨hid ▸ hinvoke, hnode ▸ hfrom.node, hdest ▸ hfrom.station, hsvc ▸ hfrom.service⟩
  · rintro ⟨hinvoke, hfrom⟩
    exact ⟨hid ▸ hinvoke, hnode ▸ hfrom.node, hdest ▸ hfrom.station, hsvc ▸ hfrom.service⟩

lemma CompletedBy.channel {c c' : Invocation} {pdu : PDU} {p : Peer} (h : CompletedBy c' pdu p) (hch : c'.ch = c.ch)
    (hreturning : ∀ pdu p, c'.phase ≠ .returning (.answered pdu p))
    (hreturned : ∀ pdu p, c'.phase ≠ .returned (.answered pdu p)) : CompletedBy c pdu p := by
  rcases h with h | h | h
  · exact .inl (hch ▸ h)
  · exact absurd h (hreturning pdu p)
  · exact absurd h (hreturned pdu p)

/-- The invariant of runs whose answers are genuine. -/
structure Matched (r : Requester) : Prop where
  pending : ∀ id call, r.pending id = some call → ∃ c, r.calls[call]? = some c ∧ c.id = id
  deliver : ∀ call pdu p, r.deliver = some (call, pdu, p) → ∃ c, r.calls[call]? = some c ∧ Answers c pdu p
  completed : ∀ c ∈ r.calls, ∀ pdu p, CompletedBy c pdu p → Answers c pdu p

variable {cfg : Config} {r r' : Requester} {call : Nat} {c c' : Invocation}

lemma Matched.set (h : Matched r) (hc : r.calls[call]? = some c) (hcalls : r'.calls = r.calls.set call c')
    (hsame : SameRequest c c') (hgot : ∀ pdu p, CompletedBy c' pdu p → CompletedBy c pdu p ∨ Answers c pdu p)
    (hpending : ∀ id i, r'.pending id = some i → r.pending id = some i)
    (hdeliver : ∀ d, r'.deliver = some d → r.deliver = some d) : Matched r' := by
  have hlt := (List.getElem?_eq_some_iff.mp hc).1
  -- Every request is still there, as itself.
  have hkept : ∀ (i : Nat) (d : Invocation), r.calls[i]? = some d → ∃ d', r'.calls[i]? = some d' ∧ SameRequest d d' := by
    intro i d hd
    by_cases hi : i = call
    · subst hi
      obtain rfl := Option.some.inj (hc.symm.trans hd)
      exact ⟨c', by rw [hcalls, List.getElem?_set_self hlt], hsame⟩
    · exact ⟨d, by rw [hcalls, List.getElem?_set_ne (Ne.symm hi), hd], rfl, rfl, rfl, rfl⟩
  refine ⟨fun id i hi => ?_, fun i pdu p hi => ?_, fun d hd pdu p hby => ?_⟩
  · obtain ⟨d, hd, hid⟩ := h.pending id i (hpending id i hi)
    obtain ⟨d', hd', hsame'⟩ := hkept i d hd
    exact ⟨d', hd', hsame'.id.trans hid⟩
  · obtain ⟨d, hd, hans⟩ := h.deliver i pdu p (hdeliver _ hi)
    obtain ⟨d', hd', hsame'⟩ := hkept i d hd
    exact ⟨d', hd', hsame'.answers.mpr hans⟩
  · rw [hcalls] at hd
    rcases List.mem_or_eq_of_mem_set hd with hold | rfl
    · exact h.completed d hold pdu p hby
    · rw [hsame.answers]
      rcases hgot pdu p hby with hold | hans
      · exact h.completed c (List.mem_of_getElem? hc) pdu p hold
      · exact hans

lemma modify_eq_some {f : Invocation → Option Invocation} (h : r.modify call f = some r') :
    ∃ c c', r.calls[call]? = some c ∧ f c = some c' ∧ r' = { r with calls := r.calls.set call c' } := by
  obtain ⟨c, hc, h⟩ := Option.bind_eq_some_iff.mp h
  obtain ⟨c', hc', h⟩ := Option.bind_eq_some_iff.mp h
  exact ⟨c, c', hc, hc', (Option.some.inj h).symm⟩

lemma Matched.modify (h : Matched r) {f : Invocation → Option Invocation} (hs : r.modify call f = some r')
    (hf : ∀ c c', f c = some c' → SameRequest c c' ∧ ∀ pdu p, CompletedBy c' pdu p → CompletedBy c pdu p) :
    Matched r' := by
  obtain ⟨c, c', hc, hc', rfl⟩ := modify_eq_some hs
  obtain ⟨hsame, hgot⟩ := hf c c' hc'
  exact h.set hc rfl hsame (fun pdu p hby => .inl (hgot pdu p hby)) (fun _ _ hp => hp) fun _ hd => hd

lemma Matched.invoke (h : Matched r) {node : Endpoint} {dest : Address} {svc : UInt8} {payload : Octets}
    (hs : r.step cfg (.invoke node dest svc payload) = some r') : Matched r' := by
  simp only [Requester.step] at hs
  split at hs
  · cases hs
    exact ⟨h.pending, h.deliver, h.completed⟩
  · next id _ =>
    cases hs
    have hold : ∀ (i : Nat) (d : Invocation), r.calls[i]? = some d →
        (r.calls ++ [({ node, dest, svc, payload, id } : Invocation)])[i]? = some d := fun i d hd =>
      (List.getElem?_append_left (List.getElem?_eq_some_iff.mp hd).1).trans hd
    refine ⟨fun id' i hi => ?_, fun i pdu p hi => ?_, fun d hd pdu p hby => ?_⟩
    · by_cases hid : id' = id
      · subst hid
        simp only [Function.update_self] at hi
        cases hi
        exact ⟨{ node, dest, svc, payload, id := id' }, by simp, rfl⟩
      · simp only [Function.update_of_ne hid] at hi
        obtain ⟨d, hd, hid⟩ := h.pending id' i hi
        exact ⟨d, hold i d hd, hid⟩
    · obtain ⟨d, hd, hans⟩ := h.deliver i pdu p hi
      exact ⟨d, hold i d hd, hans⟩
    · rcases List.mem_append.mp hd with hd | hd
      · exact h.completed d hd pdu p hby
      · obtain rfl := List.mem_singleton.mp hd
        rcases hby with hch | hret | hret
        · cases hch
        · cases hret
        · cases hret

lemma Matched.response (h : Matched r) {pdu : PDU} {p : Peer} (hgenuine : Genuine r (.response pdu p))
    (hs : r.step cfg (.response pdu p) = some r') : Matched r' := by
  simp only [Requester.step] at hs
  split_ifs at hs
  split at hs
  · cases hs
    exact h
  · next i hlookup =>
    obtain ⟨id, hid, hpending⟩ := Option.bind_eq_some_iff.mp hlookup
    obtain ⟨c, hc, hcid⟩ := h.pending id i hpending
    rw [hc] at hs
    dsimp only at hs
    split_ifs at hs with hnode
    · cases hs
      exact h
    · cases hs
      refine ⟨h.pending, fun i' pdu' p' hd => ?_, h.completed⟩
      cases hd
      exact ⟨c, hc, hcid ▸ hid, hgenuine id i c hid hpending hc (not_not.mp hnode)⟩

theorem matched_step {a : Requester.Action} (h : Matched r) (hgenuine : Genuine r a)
    (hs : r.step cfg a = some r') : Matched r' := by
  cases a with
  | invoke node dest svc payload => exact h.invoke hs
  | response pdu p => exact h.response hgenuine hs
  | send i ok =>
    obtain ⟨c, hc, hs⟩ := Option.bind_eq_some_iff.mp hs
    split_ifs at hs
    · cases hs
      refine h.set hc rfl ⟨rfl, rfl, rfl, rfl⟩ (fun pdu p hby => .inl ?_) (fun _ _ hp => hp) fun _ hd => hd
      exact hby.channel rfl (by simp) (by simp)
    · cases hs
      refine h.set hc rfl ⟨rfl, rfl, rfl, rfl⟩ (fun pdu p hby => .inl ?_) (fun _ _ hp => hp) fun _ hd => hd
      exact hby.channel rfl (by simp) (by simp)
  | take i =>
    refine h.modify hs fun c c' hf => ?_
    split at hf
    · next pdu p hphase hch =>
      cases hf
      refine ⟨⟨rfl, rfl, rfl, rfl⟩, fun pdu' p' hby => ?_⟩
      rcases hby with hch' | hret | hret
      · cases hch'
      · cases hret
        exact .inl hch
      · cases hret
    · cases hf
  | cancel i =>
    refine h.modify hs fun c c' hf => ?_
    split_ifs at hf
    cases hf
    exact ⟨⟨rfl, rfl, rfl, rfl⟩, fun pdu p hby => hby.channel rfl (by simp) (by simp)⟩
  | timeout i =>
    refine h.modify hs fun c c' hf => ?_
    split_ifs at hf
    · cases hf
      exact ⟨⟨rfl, rfl, rfl, rfl⟩, fun pdu p hby => hby.channel rfl (by simp) (by simp)⟩
    · cases hf
      exact ⟨⟨rfl, rfl, rfl, rfl⟩, fun pdu p hby => hby.channel rfl (by simp) (by simp)⟩
  | release i =>
    obtain ⟨c, hc, hs⟩ := Option.bind_eq_some_iff.mp hs
    split at hs
    · next res hphase =>
      cases hs
      refine h.set hc rfl ⟨rfl, rfl, rfl, rfl⟩ (fun pdu p hby => .inl ?_) (fun id i hp => ?_) fun _ hd => hd
      · rcases hby with hch | hret | hret
        · exact .inl hch
        · cases hret
        · cases hret
          exact .inr (.inl hphase)
      · by_cases hid : id = c.id
        · simp [hid] at hp
        · simpa [Function.update_of_ne hid] using hp
    · cases hs
  | deliver =>
    obtain ⟨⟨i, pdu, p⟩, hdeliver, hs⟩ := Option.bind_eq_some_iff.mp hs
    obtain ⟨c, hc, hs⟩ := Option.bind_eq_some_iff.mp hs
    cases hs
    obtain ⟨d, hd, hans⟩ := h.deliver i pdu p hdeliver
    obtain rfl := Option.some.inj (hc.symm.trans hd)
    refine h.set hc rfl ⟨rfl, rfl, rfl, rfl⟩ (fun pdu' p' hby => ?_) (fun _ _ hp => hp) fun _ hd => by cases hd
    rcases hby with hch | hret | hret
    · cases hold : c.ch with
      | none =>
        simp only [hold, Option.none_or, Option.some.injEq, Prod.mk.injEq] at hch
        obtain ⟨rfl, rfl⟩ := hch
        exact .inr hans
      | some x =>
        simp only [hold, Option.some_or] at hch
        exact .inl (.inl (hold.trans hch))
    · exact .inl (.inr (.inl hret))
    · exact .inl (.inr (.inr hret))

lemma matched_reachable (hr : Transition.ReachableWhere {} (Requester.step cfg) Genuine r) : Matched r := by
  refine hr.invariant Matched ?_ fun r a r' h hgenuine hs => matched_step h hgenuine hs
  exact ⟨fun _ _ h => (nomatch h), fun _ _ _ h => (nomatch h), fun _ h => (nomatch h)⟩

def Handles (r : Requester) (pdu : PDU) (p : Peer) : Requester.Action → Prop
  | .response pdu' p' => pdu' = pdu ∧ p' = p
  | .deliver => ∃ call, r.deliver = some (call, pdu, p)
  | _ => False

lemma response_keeps {pdu : PDU} {p : Peer} (hs : r.step cfg (.response pdu p) = some r') :
    r'.pending = r.pending ∧ r'.calls = r.calls := by
  simp only [Requester.step] at hs
  split_ifs at hs
  split at hs
  · cases hs
    exact ⟨rfl, rfl⟩
  · split at hs
    · cases hs
    · split_ifs at hs
      · cases hs
        exact ⟨rfl, rfl⟩
      · cases hs
        exact ⟨rfl, rfl⟩

/-- In every run whose answers are genuine a request is only completed by an answer that belongs to it, and any other
PDU leaves it pending as it is. -/
theorem answers_matched (hr : Transition.ReachableWhere {} (Requester.step cfg) Genuine r) :
    (∀ c ∈ r.calls, ∀ pdu p, CompletedBy c pdu p → Answers c pdu p) ∧
      ∀ pdu p a r', Handles r pdu p a → r.step cfg a = some r' → r'.pending = r.pending ∧
        ∀ (i : Nat) (c : Invocation), r.calls[i]? = some c → ¬ Answers c pdu p → r'.calls[i]? = some c := by
  have h := matched_reachable hr
  refine ⟨h.completed, fun pdu p a r' hhandles hs => ?_⟩
  cases a with
  | response pdu' p' =>
    obtain ⟨hpending, hcalls⟩ := response_keeps hs
    exact ⟨hpending, fun i c hc _ => hcalls ▸ hc⟩
  | deliver =>
    obtain ⟨call, hdeliver⟩ := hhandles
    obtain ⟨d, hd, hans⟩ := h.deliver call pdu p hdeliver
    simp only [Requester.step, hdeliver, hd, Option.bind_eq_bind, Option.bind_some, Option.some.injEq] at hs
    subst hs
    refine ⟨rfl, fun i c hc hno => ?_⟩
    have hi : call ≠ i := by
      rintro rfl
      obtain rfl := Option.some.inj (hd.symm.trans hc)
      exact hno hans
    exact (List.getElem?_set_ne hi).trans hc
  | invoke | send | take | cancel | timeout | release => exact hhandles.elim

/-- A confirmed COV notification to a station on network 5, and its answer. -/
theorem answers_matched_simpleACK :
    let router : Endpoint := ⟨.v4 10 0 0 2, 47808⟩
    let station : Address := .ofRemoteStation 5 ⟨[9], by decide⟩
    let p : Peer := { immediate := router, origin := router, source := station }
    ∃ r c, Transition.ReachableWhere {} (Requester.step {}) Genuine r ∧ r.calls = [c] ∧
      CompletedBy c (.simpleACK ⟨0, 1⟩) p ∧ Answers c (.simpleACK ⟨0, 1⟩) p := by
  intro router station p
  let c₀ : Invocation := { node := router, dest := station, svc := 1, payload := [], id := 0, phase := .waiting }
  have hstart : (Transition.run (Requester.step {}) {} [.invoke router station 1 [], .send 0 true]).map
      (fun r => (r.calls, r.deliver, r.pending 0)) = some ([c₀], none, some 0) := by decide +kernel
  obtain ⟨r, hr, hproj⟩ := Option.map_eq_some_iff.mp hstart
  obtain ⟨hcalls, hdeliver, hpending⟩ : r.calls = [c₀] ∧ r.deliver = none ∧ r.pending 0 = some 0 := by
    simpa using hproj
  have hreach : Transition.ReachableWhere {} (Requester.step {}) Genuine r :=
    Transition.ReachableWhere.run .init (by simp [Genuine]) hr
  -- The answer is genuine: the only request was sent to its station.
  have hgenuine : Genuine r (.response (.simpleACK ⟨0, 1⟩) p) := by
    intro id call c _ _ hc _
    obtain rfl : c = c₀ := by simpa [hcalls] using List.mem_of_getElem? hc
    exact ⟨rfl, rfl, fun ack hack => by cases hack; rfl⟩
  have hlookup : r.step {} (.response (.simpleACK ⟨0, 1⟩) p) =
      some { r with deliver := some (0, .simpleACK ⟨0, 1⟩, p) } := by
    simp [Requester.step, hdeliver, answerID, hpending, hcalls, c₀, p]
  have hreach' := hreach.step _ hgenuine hlookup
  have hput : Requester.step {} { r with deliver := some (0, .simpleACK ⟨0, 1⟩, p) } .deliver =
      some { r with deliver := none, calls := [{ c₀ with ch := some (.simpleACK ⟨0, 1⟩, p) }] } := by
    simp [Requester.step, hcalls, c₀]
  have hreach'' := hreach'.step _ (show Genuine _ .deliver from trivial) hput
  have hby : CompletedBy { c₀ with ch := some (.simpleACK ⟨0, 1⟩, p) } (.simpleACK ⟨0, 1⟩) p := .inl rfl
  exact ⟨_, _, hreach'', rfl, hby, (answers_matched hreach'').1 _ (List.mem_singleton_self _) _ _ hby⟩

/-- A SimpleACK of another station behind the same router, and one for another service, end the notification. -/
theorem otherStation_ends_notification :
    let router : Endpoint := ⟨.v4 10 0 0 2, 47808⟩
    let station : Address := .ofRemoteStation 5 ⟨[9], by decide⟩
    let other : Address := .ofRemoteStation 5 ⟨[10], by decide⟩
    let p : Peer := { immediate := router, origin := router, source := station }
    let p' : Peer := { immediate := router, origin := router, source := other }
    let start : List Requester.Action := [.invoke router station 1 [], .send 0 true]
    let c : Invocation := { node := router, dest := station, svc := 1, payload := [], id := 0 }
    (Transition.run (Requester.step {}) {} (start ++ [.response (.simpleACK ⟨0, 1⟩) p', .deliver, .take 0])).map
        Requester.calls = some [{ c with phase := .returning (.answered (.simpleACK ⟨0, 1⟩) p') }] ∧
      (Transition.run (Requester.step {}) {} (start ++ [.response (.simpleACK ⟨0, 2⟩) p, .deliver, .take 0])).map
        Requester.calls = some [{ c with phase := .returning (.answered (.simpleACK ⟨0, 2⟩) p) }] ∧
      ¬ Answers c (.simpleACK ⟨0, 1⟩) p' ∧ ¬ Answers c (.simpleACK ⟨0, 2⟩) p := by
  refine ⟨by decide +kernel, by decide +kernel, fun h => ?_, fun h => ?_⟩
  · exact absurd h.2.station (by decide)
  · exact absurd (h.2.service _ rfl) (by decide)

end GoBacnet.Proofs

namespace GoBacnet.Server.Requester

/-! ## The invoke IDs of the requests -/

variable {cfg : Config} {r r' : Requester}

/-- The invoke ID that a request holds until it returns. -/
def holds (c : Invocation) : Option UInt8 :=
  match c.phase with
  | .returned _ => none
  | _ => some c.id

def held (r : Requester) : List (Option UInt8) := r.calls.map holds

lemma held_set {call : Nat} {c c' : Invocation} (hc : r.calls[call]? = some c) (h : holds c' = holds c) :
    (r.calls.set call c').map holds = r.held := by
  obtain ⟨hlt, rfl⟩ := List.getElem?_eq_some_iff.mp hc
  rw [List.map_set, h, ← List.getElem_map holds (h := by simpa using hlt)]
  exact List.set_getElem_self _

lemma allocate_free {pending : UInt8 → Option Nat} {n : Nat} {next id : UInt8}
    (h : (allocate pending n next).1 = some id) : pending id = none := by
  induction n generalizing next with
  | zero => cases h
  | succ n ih =>
    unfold allocate at h
    split_ifs at h with hfree
    · cases h
      exact Option.isNone_iff_eq_none.mp hfree
    · exact ih h

/-- A step leaves the IDs alone, gives a free one to a new request, or takes one back. -/
lemma held_step {a : Action} (hs : r.step cfg a = some r') :
    r'.pending = r.pending ∧ r'.held = r.held ∨
    (∃ id, r.pending id = none ∧ r'.pending = Function.update r.pending id (some r.held.length) ∧
      r'.held = r.held ++ [some id]) ∨
    ∃ i id, r.held[i]? = some (some id) ∧ r'.pending = Function.update r.pending id none ∧
      r'.held = r.held.set i none := by
  have hmodify {call : Nat} {f : Invocation → Option Invocation} (hm : r.modify call f = some r')
      (hf : ∀ c c', f c = some c' → holds c' = holds c) : r'.pending = r.pending ∧ r'.held = r.held := by
    obtain ⟨c, c', hc, hc', rfl⟩ := Proofs.modify_eq_some hm
    exact ⟨rfl, held_set hc (hf c c' hc')⟩
  cases a with
  | invoke node dest svc payload =>
    simp only [step] at hs
    split at hs <;> cases hs
    · exact .inl ⟨rfl, rfl⟩
    · next id hid => exact .inr (.inl ⟨id, allocate_free hid, by simp [held], by simp [held, holds]⟩)
  | send call ok =>
    obtain ⟨c, hc, hs⟩ := Option.bind_eq_some_iff.mp hs
    split_ifs at hs with hphase <;>
      (cases hs; exact .inl ⟨rfl, held_set hc (by simp [holds, not_not.mp hphase])⟩)
  | take call =>
    refine .inl (hmodify hs fun c c' hf => ?_)
    split at hf <;> cases hf
    simp [holds, *]
  | cancel call =>
    refine .inl (hmodify hs fun c c' hf => ?_)
    split_ifs at hf with hphase
    cases hf
    simp [holds, hphase]
  | timeout call =>
    refine .inl (hmodify hs fun c c' hf => ?_)
    split_ifs at hf with hphase <;> (cases hf; simp [holds, not_not.mp hphase])
  | release call =>
    obtain ⟨c, hc, hs⟩ := Option.bind_eq_some_iff.mp hs
    split at hs <;> cases hs
    next res hphase =>
      refine .inr (.inr ⟨call, c.id, ?_, rfl, ?_⟩)
      · simp [held, hc, holds, hphase]
      · simp [held, List.map_set, holds]
  | response pdu p =>
    obtain ⟨hpending, hcalls⟩ := Proofs.response_keeps hs
    exact .inl ⟨hpending, by rw [held, hcalls, held]⟩
  | deliver =>
    obtain ⟨⟨call, pdu, p⟩, -, hs⟩ := Option.bind_eq_some_iff.mp hs
    obtain ⟨c, hc, hs⟩ := Option.bind_eq_some_iff.mp hs
    cases hs
    exact .inl ⟨rfl, held_set hc rfl⟩

/-- An ID is pending for the request that holds it, and for no other. -/
def Exact (r : Requester) : Prop := ∀ id i, r.pending id = some i ↔ r.held[i]? = some (some id)

lemma exact_step {a : Action} (h : r.Exact) (hs : r.step cfg a = some r') : r'.Exact := by
  intro id i
  rcases held_step hs with ⟨hpending, hheld⟩ | ⟨new, hfree, hpending, hheld⟩ | ⟨j, old, hj, hpending, hheld⟩
  · rw [hpending, hheld]
    exact h id i
  · rw [hpending, hheld, List.getElem?_append, Function.update_apply]
    have hid := h id i
    have hbound : r.pending id = some i → i < r.held.length := fun hi =>
      (List.getElem?_eq_some_iff.mp (hid.mp hi)).1
    split_ifs with hnew hlt hlt
    · rw [← hid, hnew, hfree]
      simp [Nat.ne_of_gt hlt]
    · rw [hnew, Option.some_inj]
      grind
    · exact hid
    · grind
  · rw [hpending, hheld, List.getElem?_set, Function.update_apply]
    have hold := (h old j).mpr hj
    have hid := h id i
    grind

/-- A search that finds nothing has seen every ID it went past. -/
lemma allocate_taken {pending : UInt8 → Option Nat} {n k : Nat} {next : UInt8} (h : (allocate pending n next).1 = none)
    (hk : k < n) : pending (next + UInt8.ofNat k) ≠ none := by
  induction n generalizing next k with
  | zero => omega
  | succ n ih =>
    unfold allocate at h
    split_ifs at h with hfree
    cases k with
    | zero => simpa using hfree
    | succ k =>
      have hnext : next + UInt8.ofNat (k + 1) = next + 1 + UInt8.ofNat k := by
        rw [Nat.add_comm, UInt8.ofNat_add, ← UInt8.add_assoc]
        rfl
      rw [hnext]
      exact ih h (by omega)

/-- In every run each ID that is pending is held by one request that has not returned, each such request is pending, and
a request is refused only while all 256 IDs are held. -/
theorem pending_exact (hr : Transition.Reachable {} (step cfg) r) : r.Exact ∧
    ∀ node dest svc payload r', r.step cfg (.invoke node dest svc payload) = some r' → r'.calls = r.calls →
      ∀ id, some id ∈ r.held := by
  have hexact : r.Exact := by
    refine hr.invariant Exact ?_ fun r a r' h _ hs => exact_step h hs
    intro id i
    simp [held]
  refine ⟨hexact, fun node dest svc payload r' hs hcalls id => ?_⟩
  simp only [step] at hs
  split at hs <;> cases hs
  · next hnone =>
    have hid := allocate_taken hnone (id - r.next).toNat_lt
    rw [UInt8.ofNat_toNat, UInt8.add_comm, UInt8.sub_add_cancel] at hid
    obtain ⟨i, hi⟩ := Option.ne_none_iff_exists'.mp hid
    exact List.mem_of_getElem? ((hexact id i).mp hi)
  · simp at hcalls

/-- The first of two requests was cancelled and has returned. -/
theorem pending_exact_second :
    let actions : List Action := [.invoke {} {} 1 [], .invoke {} {} 1 [], .send 0 true, .cancel 0, .release 0]
    ∃ r, Transition.run (step {}) {} actions = some r ∧ r.held = [none, some 1] ∧ r.pending 1 = some 1 := by
  intro actions
  obtain ⟨r, hrun, hheld⟩ := Option.map_eq_some_iff.mp
    (by decide +kernel : (Transition.run (step {}) {} actions).map held = some [none, some 1])
  exact ⟨r, hrun, hheld, ((pending_exact (.run .init hrun)).1 1 1).mpr (by simp [hheld])⟩

end GoBacnet.Server.Requester
