import GoBacnet.Proofs.BbmdTable
import GoBacnet.Proofs.FrameRoundTrip

/-!
# Confirmed requests are not broadcast

The device's own scan of an NPDU header finds the APDU where the NPDU parser does. So a confirmed request is not
distributed from an Original-Broadcast-NPDU or a Distribute-Broadcast-To-Network. A Forwarded-NPDU is not scanned, and
what it carries goes on to the foreign devices and, from a one-hop peer, to the local subnet.
-/

namespace GoBacnet.Bbmd

open Bvlc

/-! ### The scan of the header -/

def IsConfirmedRequest (apdu : Octets) : Prop := ∃ type rest, apdu = type :: rest ∧ type &&& 0xF0 = 0

section Scan

open Npdu

/-- An address field that is present takes three octets and as many as its third says. -/
def FieldLength (present : Bool) (enc : Octets) : Prop :=
  if present then ∃ hi lo len tail, enc = hi :: lo :: len :: tail ∧ tail.length = len.toNat else enc = []

lemma parseDestination_length {data rest : Octets} {a : Address} (h : parseDestination data = .ok (a, rest)) :
    ∃ hi lo len tail, data = hi :: lo :: len :: tail ∧ len.toNat ≤ tail.length ∧ rest = tail.drop len.toNat := by
  unfold parseDestination at h
  split at h
  · cases h
  · cases h
  · cases h
  · next hi lo len tail =>
    obtain ⟨-, h⟩ := Except.check_eq_ok_iff.mp h
    obtain ⟨hfit, h⟩ := Except.check_eq_ok_iff.mp h
    obtain ⟨mac, -, h⟩ := Except.bind_eq_ok_iff.mp h
    refine ⟨hi, lo, len, tail, rfl, not_lt.mp hfit, ?_⟩
    dsimp only at h
    split_ifs at h
    all_goals first | exact (congrArg Prod.snd (Except.ok.inj h)).symm | cases h

lemma parseSource_length {data rest : Octets} {a : Address} (h : parseSource data = .ok (a, rest)) :
    ∃ hi lo len tail, data = hi :: lo :: len :: tail ∧ len.toNat ≤ tail.length ∧ rest = tail.drop len.toNat := by
  unfold parseSource at h
  split at h
  · cases h
  · cases h
  · cases h
  · next hi lo len tail =>
    obtain ⟨-, h⟩ := Except.check_eq_ok_iff.mp h
    obtain ⟨hfit, h⟩ := Except.check_eq_ok_iff.mp h
    obtain ⟨mac, -, h⟩ := Except.bind_eq_ok_iff.mp h
    refine ⟨hi, lo, len, tail, rfl, not_lt.mp hfit, ?_⟩
    dsimp only at h
    split_ifs at h
    all_goals first | exact (congrArg Prod.snd (Except.ok.inj h)).symm | cases h

lemma fieldLength_of_read {present : Bool} {field : Octets → Except Err (Address × Octets)} {a : Address}
    {enc : Octets} (hread : ∀ rest, parseIf present field {} (enc ++ rest) = .ok (a, rest))
    (hfield : ∀ data rest, field data = .ok (a, rest) →
      ∃ hi lo len tail, data = hi :: lo :: len :: tail ∧ len.toNat ≤ tail.length ∧ rest = tail.drop len.toNat) :
    FieldLength present enc := by
  have hread := hread []
  rw [List.append_nil] at hread
  cases present with
  | false => exact (Prod.mk.inj (Except.ok.inj hread)).2
  | true =>
    obtain ⟨hi, lo, len, tail, rfl, hle, hrest⟩ := hfield enc [] hread
    refine ⟨hi, lo, len, tail, rfl, le_antisymm ?_ hle⟩
    exact List.drop_eq_nil_iff.mp hrest.symm

lemma skip_field (before rest : Octets) {present : Prop} [Decidable present] {enc : Octets}
    (h : FieldLength present enc) :
    (if present then (addressField (before ++ (enc ++ rest)) before.length).map (before.length + ·)
      else some before.length) = some (before.length + enc.length) := by
  by_cases hp : present
  · simp only [hp, FieldLength, decide_true, if_true] at h ⊢
    obtain ⟨hi, lo, len, tail, rfl, hlen⟩ := h
    simp [addressField, hlen]
    omega
  · simp only [hp, FieldLength, decide_false, Bool.false_eq_true, if_false] at h ⊢
    rw [h]
    rfl

lemma confirmedRequest_eq {npdu : Octets} {off off' : Nat} (hlen : ¬ npdu.length < 2)
    (hdst : (if npdu.getD 1 0 &&& 0x20 ≠ 0 then (addressField npdu 2).map (2 + ·) else some 2) = some off)
    (hsrc : (if npdu.getD 1 0 &&& 0x08 ≠ 0 then (addressField npdu off).map (off + ·) else some off) = some off') :
    confirmedRequest npdu = (decide (npdu.getD 1 0 &&& 0x80 = 0) &&
      npdu[if npdu.getD 1 0 &&& 0x20 ≠ 0 then off' + 1 else off']?.any fun type => type &&& 0xF0 = 0) := by
  unfold confirmedRequest
  rw [if_neg hlen]
  generalize npdu.getD 1 0 = ctl at *
  by_cases hnet : ctl &&& 0x80 = 0
  · have hmap (o : Option UInt8) : (o.bind fun type => some (decide (type &&& 0xF0 = 0))).getD false =
        o.any fun type => type &&& 0xF0 = 0 := by cases o <;> simp
    by_cases hd : ctl &&& 0x20 = 0 <;> by_cases hs : ctl &&& 0x08 = 0 <;>
      simp only [hd, hs, ne_eq, not_true_eq_false, not_false_eq_true, if_true, if_false] at hdst hsrc <;>
      simp [hnet, hd, hs, hdst, hsrc, hmap]
  · simp [hnet]

/-- The scan finds the APDU where the parser does. -/
lemma confirmedRequest_of_parse {data : Octets} {limits : DecodeLimits} {n : NPDU} {consumed : Nat}
    (h : Npdu.parse data limits = .ok (n, consumed)) :
    confirmedRequest data = (!n.networkMessage && n.apdu.head?.any fun type => type &&& 0xF0 = 0) := by
  obtain ⟨enc, enc', hop, rfl, -, -, hnet, -, -, hdst, hsrc, hhop⟩ := parse_ok h
  have hfield := fieldLength_of_read hdst.read fun data rest => parseDestination_length
  have hfield' := fieldLength_of_read hsrc.read fun data rest => parseSource_length
  have hbit (mask : UInt8) : (n.control &&& mask != 0) = decide (n.control &&& mask ≠ 0) := by
    rw [Bool.eq_iff_iff]
    simp
  rw [hbit] at hfield hfield' hnet
  simp only [hbit, decide_eq_true_eq] at hhop
  have hskip := skip_field [version1, n.control] (enc' ++ (hop ++ n.content)) hfield
  have hskip' := skip_field ([version1, n.control] ++ enc) (hop ++ n.content) hfield'
  rw [show ([version1, n.control] ++ enc).length = 2 + enc.length by simp; omega, List.append_assoc] at hskip'
  have hpdu : (version1 :: n.control :: (enc ++ (enc' ++ (hop ++ n.content))))[
      if n.control &&& controlDestinationSpec ≠ 0 then 2 + enc.length + enc'.length + 1
      else 2 + enc.length + enc'.length]? = n.content.head? := by
    have hlen : (if n.control &&& controlDestinationSpec ≠ 0 then 2 + enc.length + enc'.length + 1
        else 2 + enc.length + enc'.length) = ([version1, n.control] ++ enc ++ enc' ++ hop).length := by
      rw [hhop]
      split <;> simp <;> omega
    have hsplit : version1 :: n.control :: (enc ++ (enc' ++ (hop ++ n.content))) =
        ([version1, n.control] ++ enc ++ enc' ++ hop) ++ n.content := by simp
    rw [hlen, hsplit, List.getElem?_append_right le_rfl, Nat.sub_self, ← List.head?_eq_getElem?]
  refine (@confirmedRequest_eq (version1 :: n.control :: (enc ++ (enc' ++ (hop ++ n.content)))) _ _ (by simp) hskip
    hskip').trans ?_
  cases hmsg : n.networkMessage with
  | true =>
    rw [hmsg, eq_comm, decide_eq_true_eq] at hnet
    simp [show ¬ n.control &&& 0x80 = 0 from hnet]
  | false =>
    rw [hmsg, eq_comm, decide_eq_false_iff_not, not_not] at hnet
    have hcontent : n.content = n.apdu := by simp [NPDU.content, hmsg]
    simp only [List.getD_cons_succ, List.getD_cons_zero, show n.control &&& 0x80 = 0 from hnet]
    exact congrArg (Option.any _) (hpdu.trans (by rw [hcontent]))

lemma isConfirmedRequest_iff {apdu : Octets} :
    IsConfirmedRequest apdu ↔ (apdu.head?.any fun type => type &&& 0xF0 = 0) = true := by
  cases apdu <;> simp [IsConfirmedRequest]

theorem confirmedRequest_agrees {data : Octets} {limits : DecodeLimits} {n : NPDU} {consumed : Nat}
    (h : Npdu.parse data limits = .ok (n, consumed)) :
    confirmedRequest data = true ↔ n.networkMessage = false ∧ IsConfirmedRequest n.apdu := by
  rw [confirmedRequest_of_parse h, isConfirmedRequest_iff]
  simp

/-- A ReadProperty request to every device of network 5, with no address in the destination. -/
theorem confirmedRequest_agrees_broadcast : ∃ n consumed,
    Npdu.parse [1, 0x20, 0, 5, 0, 255, 0x00, 0x05, 0x01, 0x0C] defaultDecodeLimits = .ok (n, consumed) ∧
      confirmedRequest [1, 0x20, 0, 5, 0, 255, 0x00, 0x05, 0x01, 0x0C] = true ∧ IsConfirmedRequest n.apdu := by
  obtain ⟨⟨n, consumed⟩, h⟩ := Except.exists_of_isOk (by decide +kernel :
    (Npdu.parse [1, 0x20, 0, 5, 0, 255, 0x00, 0x05, 0x01, 0x0C] defaultDecodeLimits).isOk = true)
  have hscan : confirmedRequest [1, 0x20, 0, 5, 0, 255, 0x00, 0x05, 0x01, 0x0C] = true := by decide +kernel
  exact ⟨n, consumed, h, hscan, ((confirmedRequest_agrees h).mp hscan).2⟩

end Scan

/-! ### What is sent -/

def Carries (npdu : Octets) (o : OutboundPacket) : Prop := ∃ origin, forwarded origin npdu = .ok o.data

lemma function_of_append {msg : Message} {frame : Octets} (h : Bvlc.append [] msg = .ok frame) :
    frame[1]? = some msg.function := by
  obtain ⟨-, h⟩ := Except.check_eq_ok_iff.mp h
  rw [← Except.ok.inj h]
  rfl

lemma function_of_forwarded {origin : Endpoint} {npdu frame : Octets} (h : forwarded origin npdu = .ok frame) :
    frame[1]? = some functionForwardedNPDU := by
  unfold forwarded at h
  split at h
  · exact function_of_append h
  · cases h

lemma not_carries_of_function {npdu : Octets} {o : OutboundPacket} {fn : Function} (h : o.data[1]? = some fn)
    (hfn : fn ≠ functionForwardedNPDU) : ¬ Carries npdu o := by
  rintro ⟨origin, hforwarded⟩
  rw [function_of_forwarded hforwarded] at h
  exact hfn (Option.some.inj h).symm

lemma not_carries_result {npdu : Octets} {destination : Endpoint} {code : UInt16} {o : OutboundPacket}
    (h : o ∈ Node.result destination code) : ¬ Carries npdu o := by
  unfold Node.result at h
  split at h
  · cases h
  · next frame hframe =>
    obtain rfl := List.mem_singleton.mp h
    exact not_carries_of_function (function_of_append hframe) (show functionResult ≠ functionForwardedNPDU by decide)

lemma not_carries_tableAck {npdu : Octets} {destination : Endpoint} {fn : Function} (hfn : fn ≠ functionForwardedNPDU)
    {body : Except Err Octets} {nak : UInt16} {o : OutboundPacket} (h : o ∈ Node.tableAck destination fn body nak) :
    ¬ Carries npdu o := by
  unfold Node.tableAck at h
  split at h
  · exact not_carries_result h
  · next frame hframe =>
    obtain ⟨body, -, hframe⟩ := Except.bind_eq_ok_iff.mp hframe
    obtain rfl := List.mem_singleton.mp h
    exact not_carries_of_function (function_of_append hframe) hfn

lemma forwarded_ok_iff {origin : Endpoint} (hvalid : origin.isValid = true) {npdu : Octets} :
    (∃ frame, forwarded origin npdu = .ok frame) ↔ 10 + npdu.length ≤ 65535 := by
  unfold Endpoint.isValid at hvalid
  unfold forwarded
  split at hvalid
  · next a b c d haddr =>
    have hlen : 4 + (Bvlc.body { function := functionForwardedNPDU, originIP := ⟨a, b, c, d⟩
                                 originPort := origin.port, payload := npdu }).length = 10 + npdu.length := by
      change 4 + ([a, b, c, d] ++ BigEndian.octets16 origin.port ++ npdu).length = _
      simp [BigEndian.octets16]
      omega
    simp only [haddr, Bvlc.append, hlen]
    split
    · next hlong => exact iff_of_false (by rintro ⟨frame, hframe⟩; cases hframe) (not_le.mpr hlong)
    · next hshort => exact iff_of_true ⟨_, rfl⟩ (not_lt.mp hshort)
  · cases hvalid

section Sent

variable {b : Node} {now later : Int} {origin sender : Endpoint} {npdu : Octets} {msg : Message}

lemma carries_distribute_iff (hvalid : origin.isValid = true) :
    (∃ o ∈ (b.distribute later origin npdu false).1, Carries npdu o) ↔
      10 + npdu.length ≤ 65535 ∧ ∃ ep, b.registered later ep = true ∧ ep ≠ origin ∧ ep ≠ b.self := by
  rw [← forwarded_ok_iff hvalid]
  unfold Node.distribute
  cases hframe : forwarded origin npdu with
  | error e => simp
  | ok frame =>
    simp only [Bool.false_eq_true, if_false, List.nil_append, List.mem_map, Except.ok.injEq, exists_eq', true_and]
    constructor
    · rintro ⟨o, ⟨ep, hep, rfl⟩, -⟩
      exact ⟨ep, mem_foreignDestinations.mp hep⟩
    · rintro ⟨ep, hep⟩
      exact ⟨_, ⟨ep, mem_foreignDestinations.mpr hep, rfl⟩, origin, hframe⟩

/-- A Forwarded-NPDU of another node that fits a datagram is passed on: from a one-hop peer to the local subnet, and to
the foreign devices other than its origin. -/
def Relays (b : Node) (later : Int) (msg : Message) (sender : Endpoint) : Prop :=
  msg.function = functionForwardedNPDU ∧ sender ≠ b.self ∧ msg.originAddrPort.getD {} ≠ b.self ∧
    10 + msg.payload.length ≤ 65535 ∧
    (b.isPeerOneHop sender = true ∨
      ∃ ep, b.registered later ep = true ∧ ep ≠ msg.originAddrPort.getD {} ∧ ep ≠ b.self)

def rebroadcast (origin : Endpoint) (npdu : Octets) : List OutboundPacket :=
  match forwarded origin npdu with
  | .error _ => []
  | .ok frame => [{ data := frame, broadcast := true }]

lemma sent_forwarded (hfn : msg.function = functionForwardedNPDU) (hself : sender ≠ b.self)
    (horigin : msg.originAddrPort.getD {} ≠ b.self) :
    (b.handleBVLC now later msg sender).sent =
      (if b.isPeerOneHop sender then rebroadcast (msg.originAddrPort.getD {}) msg.payload else []) ++
        (b.distribute later (msg.originAddrPort.getD {}) msg.payload false).1 := by
  obtain ⟨fn, payload, originIP, originPort, resultCode, ttl⟩ := msg
  obtain rfl : fn = functionForwardedNPDU := hfn
  unfold Node.handleBVLC
  rw [if_neg hself]
  exact congrArg Outcome.sent (if_neg horigin)

lemma sent_own (hfn : msg.function = functionForwardedNPDU) (horigin : msg.originAddrPort.getD {} = b.self) :
    (b.handleBVLC now later msg sender).sent = [] := by
  obtain ⟨fn, payload, originIP, originPort, resultCode, ttl⟩ := msg
  obtain rfl : fn = functionForwardedNPDU := hfn
  unfold Node.handleBVLC
  split
  · rfl
  · exact congrArg Outcome.sent (if_pos horigin)

lemma carries_rebroadcast_iff (hvalid : origin.isValid = true) :
    (∃ o ∈ rebroadcast origin npdu, Carries npdu o) ↔ 10 + npdu.length ≤ 65535 := by
  rw [← forwarded_ok_iff hvalid]
  unfold rebroadcast
  cases hframe : forwarded origin npdu with
  | error e => simp
  | ok frame => simpa using ⟨origin, hframe⟩

lemma carries_forwarded_iff (hfn : msg.function = functionForwardedNPDU) :
    (∃ o ∈ (b.handleBVLC now later msg sender).sent, Carries msg.payload o) ↔ Relays b later msg sender := by
  have hvalid : (msg.originAddrPort.getD {}).isValid = true := by
    simp [Message.originAddrPort, hfn, Endpoint.isValid]
  unfold Relays
  by_cases hself : sender = b.self
  · simp [hself, Node.handleBVLC]
  by_cases horigin : msg.originAddrPort.getD {} = b.self
  · simp [horigin, sent_own hfn horigin]
  rw [sent_forwarded hfn hself horigin]
  simp only [List.mem_append, or_and_right, exists_or, carries_distribute_iff hvalid, hfn, ne_eq, hself, horigin,
    not_false_eq_true, true_and]
  by_cases hpeer : b.isPeerOneHop sender
  · simp only [hpeer, if_true, carries_rebroadcast_iff hvalid, true_or, and_true]
    exact or_iff_left_of_imp And.left
  · simp [hpeer]

lemma not_carries_of_confirmed (hfn : msg.function ≠ functionForwardedNPDU)
    (hconfirmed : confirmedRequest msg.payload = true) {o : OutboundPacket}
    (ho : o ∈ (b.handleBVLC now later msg sender).sent) : ¬ Carries msg.payload o := by
  unfold Node.handleBVLC at ho
  by_cases hself : sender = b.self
  · simp [hself] at ho
  rw [if_neg hself] at ho
  split at ho
  · simp [hconfirmed] at ho
  · next h => exact absurd h hfn
  · simp only [hconfirmed, or_true, if_true] at ho
    exact not_carries_result ho
  · exact not_carries_result ho
  · exact not_carries_tableAck (by decide) ho
  · exact not_carries_result ho
  · exact not_carries_tableAck (by decide) ho
  · split at ho
    · exact not_carries_result ho
    · exact not_carries_result ho
  · cases ho

end Sent

/-- A confirmed request is never forwarded, exactly if it does not come in a Forwarded-NPDU that is passed on. -/
theorem confirmed_not_forwarded_iff (b : Node) (now later : Int) {msg : Message} (sender : Endpoint)
    {limits : DecodeLimits} {n : Npdu.NPDU} {consumed : Nat}
    (hparse : Npdu.parse msg.payload limits = .ok (n, consumed)) (hmsg : n.networkMessage = false)
    (hapdu : IsConfirmedRequest n.apdu) :
    (∀ o ∈ (b.handleBVLC now later msg sender).sent, ¬ Carries msg.payload o) ↔ ¬ Relays b later msg sender := by
  by_cases hfn : msg.function = functionForwardedNPDU
  · have hiff : (∃ o ∈ (b.handleBVLC now later msg sender).sent, Carries msg.payload o) ↔ Relays b later msg sender :=
      carries_forwarded_iff hfn
    rw [← hiff]
    simp
  · refine iff_of_true (fun o ho => ?_) fun h => hfn h.1
    have hscan : confirmedRequest msg.payload = true := by
      simpa [confirmedRequest_of_parse hparse, hmsg] using isConfirmedRequest_iff.mp hapdu
    exact not_carries_of_confirmed hfn hscan ho

def sampleNPDU : Octets := [0x01, 0x04, 0x00, 0x05, 0x01, 0x0C]

def sampleNode : Node where
  self := ⟨.v4 10 0 0 1, 47808⟩
  bdt := [⟨⟨.v4 10 0 0 2, 47808⟩, ⟨0xFF, 0xFF, 0xFF, 0xFF⟩⟩]

def sampleForward (fn : Function) : Message := { function := fn, payload := sampleNPDU, originIP := ⟨10, 0, 0, 3⟩ }

/-- In an Original-Broadcast-NPDU the request is not forwarded. -/
theorem confirmed_not_forwarded_broadcast :
    ¬ ∃ o ∈ (sampleNode.handleBVLC 0 0 (sampleForward functionOriginalBroadcastNPDU) ⟨.v4 10 0 0 2, 47808⟩).sent,
      Carries sampleNPDU o := by
  obtain ⟨n, k, hparse, hmsg, hapdu⟩ : ∃ n k, Npdu.parse sampleNPDU defaultDecodeLimits = .ok (n, k) ∧
      n.networkMessage = false ∧ IsConfirmedRequest n.apdu :=
    ⟨_, _, rfl, rfl, 0x00, _, rfl, rfl⟩
  have hnot : ¬ Relays sampleNode 0 (sampleForward functionOriginalBroadcastNPDU) ⟨.v4 10 0 0 2, 47808⟩ :=
    fun h => absurd h.1 (by decide)
  rintro ⟨o, ho, hcarries⟩
  exact (confirmed_not_forwarded_iff sampleNode 0 0 ⟨.v4 10 0 0 2, 47808⟩ hparse hmsg hapdu).mpr hnot o ho hcarries

/-- In a Forwarded-NPDU of a one-hop peer it is rebroadcast. -/
theorem confirmed_forwarded_onehop :
    ∃ n k, Npdu.parse sampleNPDU defaultDecodeLimits = .ok (n, k) ∧ n.networkMessage = false ∧
      IsConfirmedRequest n.apdu ∧
      ∃ o ∈ (sampleNode.handleBVLC 0 0 (sampleForward functionForwardedNPDU) ⟨.v4 10 0 0 2, 47808⟩).sent,
        Carries sampleNPDU o ∧ o.broadcast = true := by
  exact ⟨_, _, rfl, rfl, ⟨0x00, _, rfl, rfl⟩, { data := _, broadcast := true }, List.mem_cons_self,
    ⟨⟨.v4 10 0 0 3, 0⟩, rfl⟩, rfl⟩

end GoBacnet.Bbmd
