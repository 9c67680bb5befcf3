import GoBacnet.Bbmd
import GoBacnet.Proofs.FrameRoundTrip
import GoBacnet.Proofs.ServerSilence
import GoBacnet.Server.Events

/-!
# Where an I-Am is bound

The endpoint that an I-Am binds for its device is the node that sent the datagram, while routes are learnt
through the node that originated it. The two are one unless the NPDU was forwarded for another node.
-/

namespace GoBacnet.Proofs

open Bvlc Npdu Server

/-- A broadcast management device tells the node that originated what it delivers. -/
def ReportsOrigin (handleBVLC : BBMD) : Prop :=
  ∀ msg sender, (handleBVLC msg sender).1 = true → (handleBVLC msg sender).2 = Link.origin msg sender

lemma origin_eq_sender {msg : Message} (h : msg.function ≠ functionForwardedNPDU) (sender : Endpoint) :
    Link.origin msg sender = sender := by
  simp [Link.origin, Message.originAddrPort, h]

variable {s : Settings} {now : Nat} {room : Bool} {core : Core} {pkt : InboundPacket} {p : Peer}

lemma arrive_peer (hbbmd : ∀ b, s.bbmd = some b → ReportsOrigin b) {msg : Message} {immediate : Endpoint}
    (h : (arrive s msg immediate).2 = some p) :
    p.immediate = immediate ∧ p.origin = Link.origin msg immediate := by
  have hbroadcast : (arriveBroadcast s msg immediate).2 = some p →
      p.immediate = immediate ∧ p.origin = Link.origin msg immediate := by
    intro h
    unfold arriveBroadcast at h
    dsimp only at h
    split at h
    · next b hb =>
      have hreports := hbbmd b hb msg immediate
      dsimp only at h
      split_ifs at h with hdeliver
      cases h
      exact ⟨rfl, hreports hdeliver⟩
    · split_ifs at h with hforwarded hdistribute
      · cases h
        exact ⟨rfl, rfl⟩
      · cases h
        exact ⟨rfl, (origin_eq_sender hforwarded immediate).symm⟩
  have htable : (arriveTable s msg immediate).2 = none := by
    unfold arriveTable
    split <;> rfl
  unfold arrive at h
  split at h
  · next hfn =>
    cases h
    exact ⟨rfl, (origin_eq_sender (by rw [hfn]; decide) immediate).symm⟩
  all_goals first
    | exact hbroadcast h
    | exact absurd (htable.symm.trans h) (by simp)
    | cases h

lemma source_remote {data : Octets} {limits : DecodeLimits} {n : NPDU} {consumed : Nat}
    (h : Npdu.parse data limits = .ok (n, consumed)) (hscope : n.source.scope = .remoteStation) :
    Remote n.source.network := by
  obtain ⟨_, enc', _, -, -, -, -, -, -, -, hsrc, -⟩ := parse_ok h
  cases hpresent : n.control &&& controlSourceSpec != 0 with
  | false =>
    rw [hpresent] at hsrc
    have hread := hsrc.read []
    simp only [parseIf, Bool.false_eq_true, if_false, Except.ok.injEq, Prod.mk.injEq] at hread
    rw [← hread.1] at hscope
    cases hscope
  | true =>
    rw [hpresent] at hsrc
    have hhas := hsrc.has
    simp only [hasSource, hscope] at hhas
    split_ifs at hhas
    · cases hhas
    · obtain ⟨_, hvalid, -⟩ := Except.bind_eq_ok_iff.mp hhas
      have hnot := (Except.check_eq_ok_iff.mp hvalid).1
      exact ⟨fun h0 => hnot (.inl h0), fun hf => hnot (.inr hf)⟩

/-- What the network layer hands up: it keeps the sender, and learns routes through the node that originated the
NPDU. -/
lemma network_some {routes : Routes} {p₀ : Peer} {payload apdu : Octets}
    (h : (network s routes p₀ payload).2 = some (p, apdu)) :
    ∃ n consumed, Npdu.parse payload s.cfg.limits = .ok (n, consumed) ∧ p₀.origin.isValid = true ∧
      n.networkMessage = false ∧ (network s routes p₀ payload).1 = learnRoutes routes n p₀.origin ∧
      p.immediate = p₀.immediate ∧ p.origin = p₀.origin := by
  unfold network at h ⊢
  split_ifs at h ⊢ with hskip
  obtain ⟨hvalid, -⟩ := not_or.mp hskip
  split at h
  · cases h
  · next n consumed hparse =>
    rw [hparse]
    dsimp only
    split_ifs at h ⊢ with hnet
    all_goals first
      | cases h; done
      | (cases h
         exact ⟨n, consumed, rfl, by simpa using hvalid, by simpa using hnet, rfl, rfl, rfl⟩)

lemma inbound_some (hbbmd : ∀ b, s.bbmd = some b → ReportsOrigin b) {routes : Routes} {msg : Message} {apdu : Octets}
    (hmsg : Bvlc.parse pkt.data s.cfg.limits = .ok msg) (h : (inbound s routes pkt).2.2 = some (p, apdu)) :
    ∃ n consumed, Npdu.parse msg.payload s.cfg.limits = .ok (n, consumed) ∧
      (Link.origin msg pkt.immediatePeer).isValid = true ∧ n.networkMessage = false ∧
      (inbound s routes pkt).1 = learnRoutes routes n (Link.origin msg pkt.immediatePeer) ∧
      p.immediate = pkt.immediatePeer ∧ p.origin = Link.origin msg pkt.immediatePeer := by
  unfold inbound at h ⊢
  rw [hmsg] at h ⊢
  dsimp only at h ⊢
  rcases harrive : arrive s msg pkt.immediatePeer with ⟨outputs, _ | p₀⟩
  · rw [harrive] at h
    cases h
  · rw [harrive] at h
    obtain ⟨himmediate, horigin⟩ := arrive_peer hbbmd (congrArg Prod.snd harrive)
    obtain ⟨n, consumed, hparse, hvalid, hnet, hroutes, himm, horig⟩ := network_some h
    rw [horigin] at hvalid hroutes horig
    exact ⟨n, consumed, hparse, hvalid, hnet, hroutes, himm.trans himmediate, horig⟩

lemma confirmedOutputs_core (core : Core) (req : Apdu.ConfirmedRequest) :
    (confirmedOutputs s now room core req p).1.routes = core.routes ∧
      ∀ r q, Output.unconfirmed r q ∉ (confirmedOutputs s now room core req p).2 := by
  unfold confirmedOutputs
  dsimp only
  split
  · simp
  · split_ifs
    · simp
    · split <;> simp

lemma dispatch_core (pdu : Apdu.PDU) :
    (dispatch s now room core pdu p).1.routes = core.routes ∧
      ∀ r q, Output.unconfirmed r q ∈ (dispatch s now room core pdu p).2 → q = p := by
  cases pdu with
  | confirmedRequest req =>
    unfold dispatch
    dsimp only
    split_ifs
    · exact ⟨(confirmedOutputs_core _ req).1, fun r q h => absurd h ((confirmedOutputs_core _ req).2 r q)⟩
    · simp
  | unconfirmedRequest req =>
    unfold dispatch
    dsimp only
    split_ifs <;> simp
  | abort a => cases hserver : a.server <;> simp [dispatch, hserver]
  | segmentACK ack | simpleACK ack | complexACK ack | error e | reject r => simp [dispatch]

lemma handlePacket_unconfirmed {req : Apdu.UnconfirmedRequest}
    (h : .unconfirmed req p ∈ (handlePacket s now room core pkt).2) :
    (∃ apdu, (inbound s core.routes pkt).2.2 = some (p, apdu)) ∧
      (handlePacket s now room core pkt).1.routes = (inbound s core.routes pkt).1 := by
  have hlink := inbound_silent s core.routes pkt
  unfold handlePacket at h ⊢
  generalize inbound s core.routes pkt = link at h hlink ⊢
  obtain ⟨routes, outputs, _ | ⟨p₀, apdu⟩⟩ := link
  · exact absurd (hlink _ h) (by simp [Output.answers])
  · dsimp only at h hlink ⊢
    have happ : Output.unconfirmed req p ∈ (application s now room { core with routes } p₀ apdu).2 := by
      rcases List.mem_append.mp h with h | h
      · exact absurd (hlink _ h) (by simp [Output.answers])
      · exact h
    unfold application at happ ⊢
    split at happ
    · split_ifs at happ
      · simp at happ
      · simp at happ
    · next pdu hparse =>
      obtain rfl := (dispatch_core pdu).2 req p happ
      exact ⟨⟨apdu, rfl⟩, (dispatch_core pdu).1⟩

lemma learnRoutes_source {routes : Routes} {n : NPDU} {router : Endpoint} (hscope : n.source.scope = .remoteStation)
    (hnet : n.networkMessage = false) (hremote : Remote n.source.network) (hvalid : router.isValid = true)
    (hroom : n.source.network ∈ routes ∨ routes.entries.length < maxRoutes) :
    (learnRoutes routes n router).lookup n.source.network = some router := by
  have hfull : ¬ (n.source.network ∉ routes ∧ routes.entries.length ≥ maxRoutes) := by
    rintro ⟨hnew, hfull⟩
    rcases hroom with hknown | hroom
    · exact hnew hknown
    · omega
  have hskip : ¬ (n.source.network = 0 ∨ n.source.network = 0xFFFF ∨ (!router.isValid) = true) := by
    rintro (h0 | hf | hbad)
    · exact hremote.1 h0
    · exact hremote.2 hf
    · simp [hvalid] at hbad
  simp only [learnRoutes, hscope, hnet, Routes.learn, if_true, if_neg hfull, if_neg hskip, Bool.false_eq_true, false_and,
    if_false]
  exact AList.lookup_insert _

lemma decodeIAm_device {payload : Octets} {limits : DecodeLimits} {r : Service.IAm}
    (h : Service.decodeIAm payload limits = .ok r) : r.device.type = objectTypeDevice := by
  obtain ⟨_, _, h⟩ := Except.bind_eq_ok_iff.mp h
  obtain ⟨_, _, h⟩ := Except.bind_eq_ok_iff.mp h
  obtain ⟨_, _, h⟩ := Except.bind_eq_ok_iff.mp h
  obtain ⟨_, _, h⟩ := Except.bind_eq_ok_iff.mp h
  obtain ⟨_, h⟩ := Except.check_eq_ok_iff.mp h
  obtain ⟨id, _, h⟩ := Except.bind_eq_ok_iff.mp h
  obtain ⟨htype, h⟩ := Except.check_eq_ok_iff.mp h
  obtain ⟨_, _, h⟩ := Except.bind_eq_ok_iff.mp h
  obtain ⟨_, _, h⟩ := Except.bind_eq_ok_iff.mp h
  obtain ⟨_, h⟩ := Except.check_eq_ok_iff.mp h
  obtain ⟨_, _, h⟩ := Except.bind_eq_ok_iff.mp h
  cases h
  exact not_not.mp htype

/-- An I-Am of another device that is recorded is bound to the node that originated it, and to the endpoint that its
route was learnt through, exactly if it was not forwarded for a node other than the sender of the datagram. -/
theorem iAm_bound_to_origin_iff {msg : Message} {n : NPDU} {consumed : Nat} {req : Apdu.UnconfirmedRequest}
    {r : Service.IAm} {bindings : Bindings} (hbbmd : ∀ b, s.bbmd = some b → ReportsOrigin b)
    (hmsg : Bvlc.parse pkt.data s.cfg.limits = .ok msg)
    (hnpdu : Npdu.parse msg.payload s.cfg.limits = .ok (n, consumed))
    (hreq : .unconfirmed req p ∈ (handlePacket s now room core pkt).2)
    (hservice : req.serviceChoice = serviceIAm) (hiam : Service.decodeIAm req.payload s.cfg.limits = .ok r)
    (hother : r.device ≠ s.device)
    (hroom : r.device.instanceNumber ∈ bindings ∨ bindings.entries.length < maxBindings) :
    ∃ node, (∀ routes confirmed,
        (resolve (executeUnconfirmed s bindings req p) routes confirmed (.device r.device.instanceNumber)).1 =
          some ⟨node, p.source, false⟩) ∧
      ((node = Link.origin msg pkt.immediatePeer ∧
        (n.source.scope = .remoteStation → n.source.network ∈ core.routes ∨ core.routes.entries.length < maxRoutes →
          (handlePacket s now room core pkt).1.routes.lookup n.source.network = some node)) ↔
        (msg.function = functionForwardedNPDU → msg.originAddrPort = some pkt.immediatePeer)) := by
  obtain ⟨⟨apdu, hcarried⟩, hroutes⟩ := handlePacket_unconfirmed hreq
  obtain ⟨n', consumed', hnpdu', hvalid, hnet, hlearnt, himmediate, -⟩ := inbound_some hbbmd hmsg hcarried
  obtain ⟨rfl, rfl⟩ := Prod.mk.inj (Except.ok.inj (hnpdu.symm.trans hnpdu'))
  have hbound : executeUnconfirmed s bindings req p =
      bindings.insert r.device.instanceNumber { node := pkt.immediatePeer, addr := p.source } := by
    have hfull : ¬ (r.device.instanceNumber ∉ bindings ∧ bindings.entries.length ≥ maxBindings) := by
      rintro ⟨hnew, hfull⟩
      rcases hroom with hknown | hroom
      · exact hnew hknown
      · omega
    simp [executeUnconfirmed, hservice, iAm, hiam, decodeIAm_device hiam, hother, hfull, himmediate]
  refine ⟨pkt.immediatePeer, fun routes confirmed => ?_, ?_⟩
  · simp [resolve, hbound]
  · have horigin : pkt.immediatePeer = Link.origin msg pkt.immediatePeer ↔
        (msg.function = functionForwardedNPDU → msg.originAddrPort = some pkt.immediatePeer) := by
      by_cases hfn : msg.function = functionForwardedNPDU
      · simp [Link.origin, Message.originAddrPort, hfn, eq_comm]
      · simp [origin_eq_sender hfn, hfn]
    rw [← horigin]
    refine ⟨fun h => h.1, fun h => ⟨h, fun hscope hroom' => ?_⟩⟩
    rw [hroutes, hlearnt, learnRoutes_source hscope hnet (source_remote hnpdu hscope) hvalid hroom', ← h]

/-- An I-Am of device 200 in an Original-Unicast-NPDU. -/
theorem iAm_bound_to_origin_unicast :
    let s : Settings := { device := ⟨objectTypeDevice, 1⟩ }
    let sender : Endpoint := ⟨.v4 10 0 0 3, 47808⟩
    let payload : Octets := [0xC4, 2, 0, 0, 200, 0x22, 5, 0xC4, 0x91, 0, 0x21, 1]
    let req : Apdu.UnconfirmedRequest := ⟨serviceIAm, payload⟩
    let p : Peer := { immediate := sender, origin := sender }
    let pkt : InboundPacket := ⟨[0x81, 0x0A, 0, 20, 1, 0, 0x10, 0] ++ payload, sender⟩
    .unconfirmed req p ∈ (handlePacket s 0 true {} pkt).2 ∧
      ∃ node, (resolve (executeUnconfirmed s ∅ req p) ∅ true (.device 200)).1 = some ⟨node, {}, false⟩ ∧
        node = sender := by
  intro s sender payload req p pkt
  let msg : Message := { function := functionOriginalUnicastNPDU, payload := [1, 0, 0x10, 0] ++ payload }
  let n : NPDU := { version := 1, apdu := [0x10, 0] ++ payload }
  have hreq : .unconfirmed req p ∈ (handlePacket s 0 true {} pkt).2 := by decide +kernel
  have hmsg : Bvlc.parse pkt.data s.cfg.limits = .ok msg := by decide +kernel
  have hnpdu : Npdu.parse msg.payload s.cfg.limits = .ok (n, 16) := by decide +kernel
  have hiam : Service.decodeIAm req.payload s.cfg.limits = .ok ⟨⟨objectTypeDevice, 200⟩, 1476, 0, 1⟩ := by
    decide +kernel
  obtain ⟨node, hresolve, hiff⟩ := iAm_bound_to_origin_iff
    (fun b hb => absurd (show none = some b from hb) (by simp)) hmsg hnpdu hreq rfl hiam (by decide)
    (.inr (by decide : (∅ : Bindings).entries.length < maxBindings))
  have hunicast : msg.function ≠ functionForwardedNPDU := by decide
  obtain ⟨hnode, -⟩ := hiff.mpr fun hforwarded => absurd hforwarded hunicast
  exact ⟨hreq, node, hresolve ∅ true, hnode.trans (origin_eq_sender hunicast sender)⟩

/-- An I-Am that a broadcast management device forwarded is bound to that device, while its route is learnt through
the node that originated it. -/
theorem forwarded_iAm_bound_to_sender :
    let s : Settings := { device := ⟨objectTypeDevice, 1⟩ }
    let sender : Endpoint := ⟨.v4 10 0 0 9, 47808⟩
    let origin : Endpoint := ⟨.v4 10 9 9 9, 47808⟩
    let payload : Octets := [0xC4, 2, 0, 0, 200, 0x22, 5, 0xC4, 0x91, 0, 0x21, 1]
    let req : Apdu.UnconfirmedRequest := ⟨serviceIAm, payload⟩
    let station : Address := .ofRemoteStation 7 ⟨[1], by decide⟩
    let p : Peer := { immediate := sender, origin, source := station, broadcast := true }
    let pkt : InboundPacket :=
      ⟨[0x81, 0x04, 0, 30, 10, 9, 9, 9, 0xBA, 0xC0, 1, 0x08, 0, 7, 1, 1, 0x10, 0] ++ payload, sender⟩
    (handlePacket s 0 true {} pkt).2 = [.unconfirmed req p] ∧
      (handlePacket s 0 true {} pkt).1.routes.lookup 7 = some origin ∧
      (resolve (executeUnconfirmed s ∅ req p) ∅ true (.device 200)).1 = some ⟨sender, station, false⟩ := by
  refine ⟨by decide +kernel, by decide +kernel, by decide +kernel⟩

end GoBacnet.Proofs
