import GoBacnet.Proofs.ApduRoundTrip
import GoBacnet.Server.Packet
import GoBacnet.Service.Discovery

/-!
# Requests that go unanswered

A confirmed request that arrived as a broadcast and, while communication is disabled, every request but the two
that end or restart it get no answer. The Reject of a request that does not parse is sent before either is looked
at.
-/

namespace GoBacnet.Proofs

open Apdu Server

/-! ## Requests by their octets -/

def typeOctet (apdu : Octets) : Option UInt8 := apdu.head?.map (· &&& 0xF0)

/-- The service choice of a confirmed request, after the header of its form. -/
def serviceOctet (apdu : Octets) : Option UInt8 :=
  if apdu.head?.any (· &&& 0x08 = 0) then apdu[3]? else apdu[5]?

def SilenceDue (disabled : Prop) (p : Peer) (apdu : Octets) : Prop :=
  (typeOctet apdu = some typeConfirmedRequest ∧ p.broadcast = true) ∨
    (disabled ∧ (typeOctet apdu = some typeUnconfirmedRequest ∨
      (typeOctet apdu = some typeConfirmedRequest ∧ serviceOctet apdu ≠ some serviceDeviceCommunicationControl ∧
        serviceOctet apdu ≠ some serviceReinitializeDevice)))

def Silent (outputs : List Output) : Prop := ∀ o ∈ outputs, o.answers = false

def PDU.typeOf : PDU → UInt8
  | .confirmedRequest _ => typeConfirmedRequest
  | .unconfirmedRequest _ => typeUnconfirmedRequest
  | .simpleACK _ => typeSimpleACK
  | .complexACK _ => typeComplexACK
  | .segmentACK _ => typeSegmentACK
  | .error _ => typeError
  | .reject _ => typeReject
  | .abort _ => typeAbort

lemma typeOctet_appendPDU (pdu : PDU) : typeOctet (appendPDU [] pdu) = some (PDU.typeOf pdu) := by
  have hconfirmed : ∀ seg more accepted : Bool, (typeConfirmedRequest ||| flag seg 0x08 ||| flag more 0x04 |||
      flag accepted 0x02) &&& 0xF0 = typeConfirmedRequest := by decide
  have hcomplex : ∀ seg more : Bool, (typeComplexACK ||| flag seg 0x08 ||| flag more 0x04) &&& 0xF0 = typeComplexACK := by
    decide
  have hsegment : ∀ nak server : Bool, (typeSegmentACK ||| flag nak 0x02 ||| flag server 0x01) &&& 0xF0 =
      typeSegmentACK := by decide
  have habort : ∀ server : Bool, (typeAbort ||| flag server 0x01) &&& 0xF0 = typeAbort := by decide
  cases pdu with
  | confirmedRequest req => exact congrArg some (hconfirmed _ _ _)
  | complexACK ack => exact congrArg some (hcomplex _ _)
  | segmentACK ack => exact congrArg some (hsegment _ _)
  | abort a => exact congrArg some (habort _)
  | unconfirmedRequest req | simpleACK ack | error e | reject r => rfl

lemma serviceOctet_confirmed (req : ConfirmedRequest) :
    serviceOctet (appendConfirmedRequest [] req) = some req.serviceChoice := by
  have hflag : ∀ seg more accepted : Bool, ((typeConfirmedRequest ||| flag seg 0x08 ||| flag more 0x04 |||
      flag accepted 0x02) &&& 0x08 = 0) ↔ seg = false := by decide
  cases hseg : req.segmentedMessage with
  | true =>
    have hset := hflag true req.moreFollows req.segmentedResponseAccepted
    simp [serviceOctet, appendConfirmedRequest, hseg, hset]
  | false =>
    have hclear := (hflag false req.moreFollows req.segmentedResponseAccepted).mpr rfl
    unfold serviceOctet appendConfirmedRequest
    rw [hseg]
    simp only [List.nil_append, List.cons_append, List.head?_cons, Option.any_some, hclear, decide_true, if_true,
      Bool.false_eq_true, if_false]
    rfl

/-! ## What is answered -/

lemma arriveBroadcast_silent (s : Settings) (msg : Bvlc.Message) (immediate : Endpoint) :
    Silent (arriveBroadcast s msg immediate).1 := by
  unfold arriveBroadcast
  dsimp only
  split
  · simp [Silent, Output.answers]
  · split_ifs <;> simp [Silent, Output.answers]

lemma arriveTable_silent (s : Settings) (msg : Bvlc.Message) (immediate : Endpoint) :
    Silent (arriveTable s msg immediate).1 := by
  unfold arriveTable
  split <;> simp [Silent, Output.answers]

lemma arrive_silent (s : Settings) (msg : Bvlc.Message) (immediate : Endpoint) :
    Silent (arrive s msg immediate).1 := by
  unfold arrive
  split
  all_goals first
    | exact arriveBroadcast_silent s msg immediate
    | exact arriveTable_silent s msg immediate
    | exact fun _ h => nomatch h

lemma inbound_silent (s : Settings) (routes : Routes) (pkt : InboundPacket) :
    Silent (inbound s routes pkt).2.1 := by
  unfold inbound
  split
  · exact fun _ h => nomatch h
  · next msg _ =>
    have harrive := arrive_silent s msg pkt.immediatePeer
    split
    · next heq => rwa [heq] at harrive
    · next heq => rwa [heq] at harrive

variable {s : Settings} {now : Nat} {room : Bool} {core : Core} {p : Peer} {apdu : Octets}

lemma dispatch_silent {pdu : PDU} (hparse : Apdu.parse apdu s.cfg.limits = .ok pdu)
    (hdue : SilenceDue (core.dcc.current now = .disable) p apdu) : Silent (dispatch s now room core pdu p).2 := by
  have hdata : apdu = appendPDU [] pdu := (appendPDU_parse hparse).symm
  have htype : typeOctet apdu = some (PDU.typeOf pdu) := hdata ▸ typeOctet_appendPDU pdu
  have hother : ∀ {type : UInt8}, typeOctet apdu = some type → type = PDU.typeOf pdu :=
    fun h => Option.some.inj (h.symm.trans htype)
  cases pdu with
  | confirmedRequest req =>
    have hservice : serviceOctet apdu = some req.serviceChoice := hdata ▸ serviceOctet_confirmed req
    unfold dispatch
    dsimp only
    split_ifs with hresponds
    · -- The mode does not silence the request, so it is a broadcast.
      have hbroadcast : p.broadcast = true := by
        rcases hdue with ⟨-, hbroadcast⟩ | ⟨hdisabled, hunconfirmed | ⟨-, hdcc, hreinit⟩⟩
        · exact hbroadcast
        · exact absurd (show typeUnconfirmedRequest = typeConfirmedRequest from hother hunconfirmed) (by decide)
        · rw [hservice] at hdcc hreinit
          simp only [ne_eq, Option.some.injEq] at hdcc hreinit
          simp [Dcc.respondsTo, hdisabled, hdcc, hreinit] at hresponds
      simp [confirmedOutputs, Responder.confirmed, hbroadcast, Silent]
    · exact fun _ h => nomatch h
  | unconfirmedRequest req =>
    have hdisabled : core.dcc.current now = .disable := by
      rcases hdue with ⟨hconfirmed, -⟩ | ⟨hdisabled, -⟩
      · exact absurd (show typeConfirmedRequest = typeUnconfirmedRequest from hother hconfirmed) (by decide)
      · exact hdisabled
    have hff : core.dcc.respondsTo now 0xFF = false := by
      simp [Dcc.respondsTo, hdisabled, serviceDeviceCommunicationControl, serviceReinitializeDevice]
    simp [dispatch, hff, Silent]
  | abort a => cases hserver : a.server <;> simp [dispatch, hserver, Silent, Output.answers]
  | segmentACK ack | simpleACK ack | complexACK ack | error e | reject r => simp [dispatch, Silent, Output.answers]

/-- A request that is to go unanswered is answered exactly if it does not parse but has the header of a confirmed
request in one piece. -/
lemma application_silent_iff (hdue : SilenceDue (core.dcc.current now = .disable) p apdu) :
    Silent (application s now room core p apdu).2 ↔
      ¬ ((∃ e, Apdu.parse apdu s.cfg.limits = .error e) ∧ rejectable apdu = true) := by
  unfold application
  cases hparse : Apdu.parse apdu s.cfg.limits with
  | error e => cases hrej : rejectable apdu <;> simp [Silent, Output.answers]
  | ok pdu => simp [dispatch_silent hparse hdue]

/-- For every packet: an APDU that is to go unanswered gets no answer, unless it is a confirmed request in one piece
with a header that does not parse. -/
theorem silence_iff (s : Settings) (now : Nat) (room : Bool) (core : Core) (pkt : InboundPacket) :
    (∀ p apdu, (inbound s core.routes pkt).2.2 = some (p, apdu) →
      SilenceDue (core.dcc.current now = .disable) p apdu → Silent (handlePacket s now room core pkt).2) ↔
    ∀ p apdu, (inbound s core.routes pkt).2.2 = some (p, apdu) →
      SilenceDue (core.dcc.current now = .disable) p apdu →
      ¬ ((∃ e, Apdu.parse apdu s.cfg.limits = .error e) ∧ rejectable apdu = true) := by
  have hlink := inbound_silent s core.routes pkt
  unfold handlePacket
  generalize inbound s core.routes pkt = link at hlink ⊢
  obtain ⟨routes, outputs, carried⟩ := link
  dsimp only at hlink ⊢
  refine forall₄_congr fun p apdu hcarried hdue => ?_
  subst hcarried
  have happ : Silent (application s now room { core with routes } p apdu).2 ↔
      ¬ ((∃ e, Apdu.parse apdu s.cfg.limits = .error e) ∧ rejectable apdu = true) := application_silent_iff hdue
  rw [← happ]
  refine ⟨fun h o ho => h o (List.mem_append_right _ ho), fun h o ho => ?_⟩
  rcases List.mem_append.mp ho with ho | ho
  · exact hlink o ho
  · exact h o ho

/-- A broadcast ReadProperty request that parses goes unanswered. -/
theorem silence_broadcast_readProperty :
    let s : Settings := { device := ⟨objectTypeDevice, 1⟩ }
    let sender : Endpoint := ⟨.v4 10 0 0 2, 47808⟩
    let p : Peer := { immediate := sender, origin := sender, broadcast := true }
    let pkt : InboundPacket := ⟨[0x81, 0x0B, 0, 10, 1, 0x04, 0x00, 0x05, 7, 12], sender⟩
    (inbound s ∅ pkt).2.2 = some (p, [0x00, 0x05, 7, 12]) ∧ Silent (handlePacket s 0 true {} pkt).2 := by
  intro s sender p pkt
  have hcarried : (inbound s ∅ pkt).2.2 = some (p, [0x00, 0x05, 7, 12]) := by decide +kernel
  refine ⟨hcarried, (silence_iff s 0 true {} pkt).mpr ?_ p _ hcarried (.inl ⟨by decide, rfl⟩)⟩
  intro p' apdu hcarried' _ hmalformed
  obtain ⟨-, rfl⟩ := Prod.mk.inj (Option.some.inj (hcarried.symm.trans hcarried'))
  obtain ⟨⟨e, he⟩, -⟩ := hmalformed
  have hparse : (Apdu.parse [0x00, 0x05, 7, 12] s.cfg.limits).isOk = true := by decide +kernel
  rw [he] at hparse
  cases hparse

/-- A broadcast confirmed request with an undefined Max-APDU code is answered with a Reject. -/
theorem malformed_broadcast_rejected :
    let s : Settings := { device := ⟨objectTypeDevice, 1⟩ }
    let sender : Endpoint := ⟨.v4 10 0 0 2, 47808⟩
    let p : Peer := { immediate := sender, origin := sender, broadcast := true }
    let pkt : InboundPacket := ⟨[0x81, 0x0B, 0, 10, 1, 0x04, 0x00, 0x0F, 7, 12], sender⟩
    (inbound s ∅ pkt).2.2 = some (p, [0x00, 0x0F, 7, 12]) ∧
      SilenceDue (({} : Dcc).current 0 = .disable) p [0x00, 0x0F, 7, 12] ∧
      (handlePacket s 0 true {} pkt).2 = [.reply p [0x60, 7, 4]] := by
  refine ⟨by decide +kernel, .inl ⟨by decide, rfl⟩, by decide +kernel⟩

end GoBacnet.Proofs
