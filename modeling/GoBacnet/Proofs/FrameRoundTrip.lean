import GoBacnet.Bvlc
import GoBacnet.Npdu
import GoBacnet.Proofs.ApduRoundTrip

/-!
# Frame layers

The codecs of the virtual link, the network and the application layer are inverse to each other in both
directions: what is encoded from a valid value is decoded to it, and what is decoded from a frame is encoded
to that frame.
-/

namespace GoBacnet.Bvlc

open BigEndian

variable {msg : Message}

/-- A message that holds what its function carries and nothing else, and fits in a datagram. -/
structure Message.Valid (msg : Message) : Prop where
  origin : msg.function ≠ functionForwardedNPDU → msg.originIP = {} ∧ msg.originPort = 0
  resultCode : msg.function ≠ functionResult → msg.resultCode = 0
  ttl : msg.function ≠ functionRegisterForeignDevice → msg.ttl = 0
  payload : msg.function = functionResult ∨ msg.function = functionRegisterForeignDevice → msg.payload = []
  fits : 4 + (body msg).length ≤ 65535

lemma parseBody_other {fn : Function} (hresult : fn ≠ functionResult) (hforwarded : fn ≠ functionForwardedNPDU)
    (hregister : fn ≠ functionRegisterForeignDevice) (octets : Octets) :
    parseBody fn octets = .ok { function := fn, payload := octets } := by
  unfold parseBody
  split
  · exact absurd rfl hresult
  · exact absurd rfl hforwarded
  · exact absurd rfl hregister
  · rfl

lemma body_other (hresult : msg.function ≠ functionResult)
    (hforwarded : msg.function ≠ functionForwardedNPDU) (hregister : msg.function ≠ functionRegisterForeignDevice) :
    body msg = msg.payload := by
  unfold body
  split
  · contradiction
  · contradiction
  · contradiction
  · rfl

lemma parseBody_body (h : msg.Valid) : parseBody msg.function (body msg) = .ok msg := by
  obtain ⟨function, payload, originIP, originPort, resultCode, ttl⟩ := msg
  obtain ⟨horigin, hresult, httl, hpayload, -⟩ := h
  dsimp only at horigin hresult httl hpayload
  by_cases hr : function = functionResult
  · subst hr
    obtain ⟨rfl, rfl⟩ := horigin (by decide)
    obtain rfl := httl (by decide)
    obtain rfl := hpayload (.inl rfl)
    change Except.ok (⟨_, [], {}, 0, uint16 (resultCode >>> 8).toUInt8 resultCode.toUInt8, 0⟩ : Message) = _
    rw [uint16_octets]
  by_cases hf : function = functionForwardedNPDU
  · subst hf
    obtain rfl := hresult (by decide)
    obtain rfl := httl (by decide)
    change Except.ok (⟨_, payload, originIP, uint16 (originPort >>> 8).toUInt8 originPort.toUInt8, 0, 0⟩ : Message) = _
    rw [uint16_octets]
  by_cases hg : function = functionRegisterForeignDevice
  · subst hg
    obtain ⟨rfl, rfl⟩ := horigin (by decide)
    obtain rfl := hresult (by decide)
    obtain rfl := hpayload (.inr rfl)
    change Except.ok (⟨_, [], {}, 0, 0, uint16 (ttl >>> 8).toUInt8 ttl.toUInt8⟩ : Message) = _
    rw [uint16_octets]
  · obtain ⟨rfl, rfl⟩ := horigin hf
    obtain rfl := hresult hr
    obtain rfl := httl hg
    rw [parseBody_other hr hf hg, body_other hr hf hg]

lemma body_parseBody {fn : Function} {octets : Octets} (h : parseBody fn octets = .ok msg) :
    msg.function = fn ∧ body msg = octets := by
  unfold parseBody at h
  split at h
  · split at h
    · cases h
      exact ⟨rfl, octets16_uint16 _ _⟩
    · cases h
  · split at h
    · next a b c d hi lo payload =>
      cases h
      refine ⟨rfl, ?_⟩
      change [a, b, c, d] ++ octets16 (uint16 hi lo) ++ payload = _
      rw [octets16_uint16]
      rfl
    · cases h
  · split at h
    · cases h
      exact ⟨rfl, octets16_uint16 _ _⟩
    · cases h
  · next hresult hforwarded hregister =>
    cases h
    exact ⟨rfl, body_other hresult hforwarded hregister⟩

lemma toNat_ofNat_of_le {n : Nat} (h : n ≤ 65535) : (UInt16.ofNat n).toNat = n := by
  rw [UInt16.toNat_ofNat']
  exact Nat.mod_eq_of_lt (by omega)

theorem parse_append (h : msg.Valid) (limits : DecodeLimits) :
    ∃ enc, append [] msg = .ok enc ∧
      ((enc.length : Int) ≤ limits.normalize.maxDatagramSize → parse enc limits = .ok msg) := by
  have hfits := h.fits
  refine ⟨_, if_neg (by omega), fun hsize => ?_⟩
  simp only [List.nil_append, octets16, List.cons_append] at hsize ⊢
  have hlen : ∀ a b c d : UInt8, (a :: b :: c :: d :: body msg).length = 4 + (body msg).length := by
    intro a b c d
    simp only [List.length_cons]
    omega
  rw [hlen] at hsize
  simp only [parse, hlen, uint16_octets, toNat_ofNat_of_le hfits, ne_eq, not_true_eq_false, if_false, not_lt.mpr hsize]
  exact parseBody_body h

theorem append_parse {data : Octets} {limits : DecodeLimits} (h : parse data limits = .ok msg) :
    append [] msg = .ok data := by
  unfold parse at h
  split at h
  · next type fn hi lo octets =>
    obtain ⟨-, h⟩ := Except.check_eq_ok_iff.mp h
    obtain ⟨htype, h⟩ := Except.check_eq_ok_iff.mp h
    obtain ⟨hlen, h⟩ := Except.check_eq_ok_iff.mp h
    rw [ne_eq, not_not] at htype hlen
    obtain ⟨hfn, hbody⟩ := body_parseBody h
    have hword := (uint16 hi lo).toNat_lt
    have htotal : 4 + (body msg).length = (uint16 hi lo).toNat := by
      rw [hlen, hbody]
      simp only [List.length_cons]
      omega
    simp only [append]
    rw [htotal, if_neg (by omega), UInt16.ofNat_toNat, octets16_uint16, hbody, hfn, htype]
    rfl
  · cases h

end GoBacnet.Bvlc

namespace GoBacnet.Npdu

open BigEndian

variable {a : Address} {n : NPDU} {data rest : Octets}

/-! ## The control octet -/

def controlOf (networkMessage expectingReply : Bool) (priority : UInt8) (hasDst hasSrc : Bool) : UInt8 :=
  controlBit networkMessage controlNetworkMessage ||| controlBit expectingReply controlExpectingReply |||
    (priority &&& controlPriorityMask) ||| controlBit hasDst controlDestinationSpec |||
    controlBit hasSrc controlSourceSpec

lemma controlOf_fields (networkMessage expectingReply hasDst hasSrc : Bool) (priority : UInt8) :
    let c := controlOf networkMessage expectingReply priority hasDst hasSrc
    c &&& controlReservedBits = 0 ∧ (c &&& controlNetworkMessage != 0) = networkMessage ∧
      (c &&& controlExpectingReply != 0) = expectingReply ∧
      c &&& controlPriorityMask = priority &&& controlPriorityMask ∧
      (c &&& controlDestinationSpec != 0) = hasDst ∧ (c &&& controlSourceSpec != 0) = hasSrc := by
  have hall : ∀ (m r d s : Bool) (p : Fin 4),
      let c : UInt8 := controlBit m controlNetworkMessage ||| controlBit r controlExpectingReply |||
        UInt8.ofNat p.val ||| controlBit d controlDestinationSpec ||| controlBit s controlSourceSpec
      c &&& controlReservedBits = 0 ∧ (c &&& controlNetworkMessage != 0) = m ∧
        (c &&& controlExpectingReply != 0) = r ∧ c &&& controlPriorityMask = UInt8.ofNat p.val ∧
        (c &&& controlDestinationSpec != 0) = d ∧ (c &&& controlSourceSpec != 0) = s := by decide +kernel
  have hp : (priority &&& controlPriorityMask).toNat < 4 := by
    rw [UInt8.toNat_and]
    exact Nat.and_lt_two_pow _ (by decide : controlPriorityMask.toNat < 2 ^ 2)
  simpa [controlOf] using hall networkMessage expectingReply hasDst hasSrc ⟨_, hp⟩

lemma controlOf_eq {c : UInt8} (h : c &&& controlReservedBits = 0) :
    controlOf (c &&& controlNetworkMessage != 0) (c &&& controlExpectingReply != 0) (c &&& controlPriorityMask)
      (c &&& controlDestinationSpec != 0) (c &&& controlSourceSpec != 0) = c := by
  revert h
  exact forall_octet (P := fun c => c &&& controlReservedBits = 0 →
    controlOf (c &&& controlNetworkMessage != 0) (c &&& controlExpectingReply != 0) (c &&& controlPriorityMask)
      (c &&& controlDestinationSpec != 0) (c &&& controlSourceSpec != 0) = c) (by decide +kernel) c

/-! ## Addresses -/

def Remote (network : UInt16) : Prop := network ≠ 0 ∧ network ≠ 0xFFFF

/-- The destinations that a frame can carry. -/
inductive Destination : Address → Prop
  | globalBroadcast : Destination .ofGlobalBroadcast
  | remoteBroadcast (network : UInt16) (hnet : Remote network) : Destination (.ofRemoteBroadcast network)
  | remoteStation (network : UInt16) (mac : MAC) (hnet : Remote network) (hmac : mac.isZero = false) :
    Destination (.ofRemoteStation network mac)

/-- The sources that a frame can carry. -/
inductive Source : Address → Prop
  | localStation (mac : MAC) (hmac : mac.isZero = false) : Source (.ofLocalStation mac)
  | remoteStation (network : UInt16) (mac : MAC) (hnet : Remote network) (hmac : mac.isZero = false) :
    Source (.ofRemoteStation network mac)

lemma validateRemoteNetwork_ok {role : String} {network : UInt16} (h : Remote network) :
    validateRemoteNetwork role network = .ok () :=
  if_neg fun hbad => hbad.elim h.1 h.2

lemma hasDestination_ok (h : Destination a) : hasDestination a = .ok true := by
  cases h with
  | globalBroadcast => rfl
  | remoteBroadcast network hnet =>
    simp [hasDestination, Address.ofRemoteBroadcast, validateRemoteNetwork_ok hnet]
  | remoteStation network mac hnet hmac =>
    simp [hasDestination, Address.ofRemoteStation, validateRemoteNetwork_ok hnet, hmac]

lemma hasSource_ok (h : Source a) : hasSource a = .ok true := by
  cases h with
  | localStation mac hmac => simp [hasSource, Address.ofLocalStation, hmac]
  | remoteStation network mac hnet hmac =>
    simp [hasSource, Address.ofRemoteStation, validateRemoteNetwork_ok hnet, hmac]

lemma macLength_ok (mac : MAC) : macLength mac.octets = .ok (UInt8.ofNat mac.octets.length) :=
  if_neg (not_lt.mpr mac.length_le)

lemma toNat_macLength (mac : MAC) : (UInt8.ofNat mac.octets.length).toNat = mac.octets.length := by
  have := mac.length_le
  rw [UInt8.toNat_ofNat']
  exact Nat.mod_eq_of_lt (by unfold maxMACLength at this; omega)

lemma newMAC_take (mac : MAC) (rest : Octets) : newMAC ((mac.octets ++ rest).take mac.octets.length) = .ok mac := by
  rw [List.take_left, newMAC, dif_neg (not_lt.mpr mac.length_le)]

lemma length_ne_zero {mac : MAC} (hmac : mac.isZero = false) : UInt8.ofNat mac.octets.length ≠ 0 := by
  intro hzero
  have hlen := toNat_macLength mac
  rw [hzero] at hlen
  simp [MAC.isZero, ← hlen] at hmac

lemma octets_of_newMAC {octets : Octets} {mac : MAC} (h : newMAC octets = .ok mac) : mac.octets = octets := by
  unfold newMAC at h
  split at h
  · cases h
  · cases h
    rfl

lemma isZero_of_length {mac : MAC} {len : UInt8} (hlength : mac.octets.length = len.toNat) (hne : len ≠ 0) :
    mac.isZero = false := by
  have hpos : len.toNat ≠ 0 := fun hzero => hne (UInt8.toNat_inj.mp hzero)
  simp [MAC.isZero, hlength, hpos]

lemma parseDestination_append (h : Destination a) :
    ∃ enc, (∀ dst, appendDestination dst a = .ok (dst ++ enc)) ∧
      ∀ rest, parseDestination (enc ++ rest) = .ok (a, rest) := by
  cases h with
  | globalBroadcast => exact ⟨[0xFF, 0xFF, 0], fun dst => rfl, fun rest => rfl⟩
  | remoteBroadcast network hnet =>
    refine ⟨octets16 network ++ [0], fun dst => ?_, fun rest => ?_⟩
    · simp [appendDestination, Address.ofRemoteBroadcast]
    · have hmac : newMAC [] = .ok MAC.empty := rfl
      simp [octets16, parseDestination, maxMACLength, hmac, hnet.1, hnet.2]
  | remoteStation network mac hnet hmac =>
    have hlen := mac.length_le
    refine ⟨octets16 network ++ [UInt8.ofNat mac.octets.length] ++ mac.octets, fun dst => ?_, fun rest => ?_⟩
    · simp [appendDestination, Address.ofRemoteStation, macLength_ok]
    · have hfit : ¬ mac.octets.length > (mac.octets ++ rest).length := by simp
      simp only [octets16, List.cons_append, List.nil_append, parseDestination, toNat_macLength, uint16_octets, hnet.1,
        hnet.2, not_lt.mpr hlen, hfit, if_false, newMAC_take, length_ne_zero hmac, List.drop_left, Bind.bind,
        Except.bind, Pure.pure, Except.pure]

lemma parseSource_append (h : Source a) :
    ∃ enc, (∀ dst, appendSource dst a = .ok (dst ++ enc)) ∧ ∀ rest, parseSource (enc ++ rest) = .ok (a, rest) := by
  cases h with
  | localStation mac hmac =>
    have hlen := mac.length_le
    refine ⟨octets16 0 ++ [UInt8.ofNat mac.octets.length] ++ mac.octets, fun dst => ?_, fun rest => ?_⟩
    · simp [appendSource, Address.ofLocalStation, macLength_ok]
    · have hfit : ¬ mac.octets.length > (mac.octets ++ rest).length := by simp
      simp only [octets16, List.cons_append, List.nil_append, parseSource, toNat_macLength, uint16_octets,
        not_lt.mpr hlen, hfit, if_false, newMAC_take, length_ne_zero hmac, false_or, List.drop_left, Bind.bind,
        Except.bind, Pure.pure, Except.pure, if_true]
      rfl
  | remoteStation network mac hnet hmac =>
    have hlen := mac.length_le
    refine ⟨octets16 network ++ [UInt8.ofNat mac.octets.length] ++ mac.octets, fun dst => ?_, fun rest => ?_⟩
    · simp [appendSource, Address.ofRemoteStation, macLength_ok]
    · have hfit : ¬ mac.octets.length > (mac.octets ++ rest).length := by simp
      simp only [octets16, List.cons_append, List.nil_append, parseSource, toNat_macLength, uint16_octets, hnet.1,
        hnet.2, not_lt.mpr hlen, hfit, if_false, newMAC_take, length_ne_zero hmac, false_or, List.drop_left, Bind.bind,
        Except.bind, Pure.pure, Except.pure]

lemma append_parseDestination (h : parseDestination data = .ok (a, rest)) :
    Destination a ∧ ∃ enc, data = enc ++ rest ∧ ∀ dst, appendDestination dst a = .ok (dst ++ enc) := by
  unfold parseDestination at h
  split at h
  · cases h
  · cases h
  · cases h
  · next hi lo dlen tail =>
    obtain ⟨hlen, h⟩ := Except.check_eq_ok_iff.mp h
    obtain ⟨hfit, h⟩ := Except.check_eq_ok_iff.mp h
    obtain ⟨mac, hmac, h⟩ := Except.bind_eq_ok_iff.mp h
    have hocts := octets_of_newMAC hmac
    have hlength : mac.octets.length = dlen.toNat := by
      rw [hocts, List.length_take]
      omega
    have hsplit : hi :: lo :: dlen :: tail = (octets16 (uint16 hi lo) ++ [dlen] ++ mac.octets) ++ tail.drop dlen.toNat := by
      rw [octets16_uint16, hocts]
      simp
    dsimp only at h
    split_ifs at h with hglobal hdlen hzero hdnet hdnet
    · cases h
    · -- A global broadcast has no station.
      cases h
      rw [ne_eq, not_not] at hdlen
      refine ⟨.globalBroadcast, _, hsplit, fun dst => ?_⟩
      have hnil : mac.octets = [] := List.length_eq_zero_iff.mp (by rw [hlength, hdlen]; rfl)
      rw [hglobal, hdlen, hnil]
      rfl
    · cases h
    · cases h
      refine ⟨.remoteBroadcast _ ⟨hdnet, hglobal⟩, _, hsplit, fun dst => ?_⟩
      have hnil : mac.octets = [] := List.length_eq_zero_iff.mp (by rw [hlength, hzero]; rfl)
      simp [appendDestination, Address.ofRemoteBroadcast, hzero, hnil]
    · cases h
    · cases h
      refine ⟨.remoteStation _ mac ⟨hdnet, hglobal⟩ (isZero_of_length hlength hzero), _, hsplit, fun dst => ?_⟩
      simp [appendDestination, Address.ofRemoteStation, macLength_ok, hlength]

lemma append_parseSource (h : parseSource data = .ok (a, rest)) :
    Source a ∧ ∃ enc, data = enc ++ rest ∧ ∀ dst, appendSource dst a = .ok (dst ++ enc) := by
  unfold parseSource at h
  split at h
  · cases h
  · cases h
  · cases h
  · next hi lo slen tail =>
    obtain ⟨hlen, h⟩ := Except.check_eq_ok_iff.mp h
    obtain ⟨hfit, h⟩ := Except.check_eq_ok_iff.mp h
    obtain ⟨mac, hmac, h⟩ := Except.bind_eq_ok_iff.mp h
    obtain ⟨hsnet, h⟩ := Except.check_eq_ok_iff.mp h
    push Not at hlen
    have hocts := octets_of_newMAC hmac
    have hlength : mac.octets.length = slen.toNat := by
      rw [hocts, List.length_take]
      omega
    have hsplit : hi :: lo :: slen :: tail = (octets16 (uint16 hi lo) ++ [slen] ++ mac.octets) ++ tail.drop slen.toNat := by
      rw [octets16_uint16, hocts]
      simp
    have hzero := isZero_of_length hlength hlen.1
    dsimp only at h
    split_ifs at h with hlocal
    · cases h
      refine ⟨.localStation mac hzero, _, hsplit, fun dst => ?_⟩
      simp [appendSource, Address.ofLocalStation, macLength_ok, hlength, hlocal]
    · cases h
      refine ⟨.remoteStation _ mac ⟨hlocal, hsnet⟩ hzero, _, hsplit, fun dst => ?_⟩
      simp [appendSource, Address.ofRemoteStation, macLength_ok, hlength]

/-! ## The fields of a frame -/

structure DestinationField (present : Bool) (a : Address) (enc : Octets) : Prop where
  has : hasDestination a = .ok present
  write : ∀ dst, appendIf present (appendDestination · a) dst = .ok (dst ++ enc)
  read : ∀ rest, parseIf present parseDestination {} (enc ++ rest) = .ok (a, rest)

structure SourceField (present : Bool) (a : Address) (enc : Octets) : Prop where
  has : hasSource a = .ok present
  write : ∀ dst, appendIf present (appendSource · a) dst = .ok (dst ++ enc)
  read : ∀ rest, parseIf present parseSource {} (enc ++ rest) = .ok (a, rest)

lemma destinationField_absent : DestinationField false {} [] :=
  ⟨rfl, fun dst => by simp [appendIf], fun rest => by simp [parseIf]⟩

lemma sourceField_absent : SourceField false {} [] :=
  ⟨rfl, fun dst => by simp [appendIf], fun rest => by simp [parseIf]⟩

lemma destinationField_present (h : Destination a) : ∃ enc, DestinationField true a enc := by
  obtain ⟨enc, hwrite, hread⟩ := parseDestination_append h
  exact ⟨enc, hasDestination_ok h, fun dst => by simp [appendIf, hwrite], fun rest => by simp [parseIf, hread]⟩

lemma sourceField_present (h : Source a) : ∃ enc, SourceField true a enc := by
  obtain ⟨enc, hwrite, hread⟩ := parseSource_append h
  exact ⟨enc, hasSource_ok h, fun dst => by simp [appendIf, hwrite], fun rest => by simp [parseIf, hread]⟩

lemma destinationField_of_read {present : Bool}
    (h : parseIf present parseDestination {} data = .ok (a, rest)) :
    ∃ enc, data = enc ++ rest ∧ DestinationField present a enc := by
  cases present with
  | false =>
    cases h
    exact ⟨[], rfl, destinationField_absent⟩
  | true =>
    obtain ⟨hdest, enc, rfl, hwrite⟩ := append_parseDestination h
    obtain ⟨enc', hfield⟩ := destinationField_present hdest
    obtain rfl : enc = enc' := by simpa [appendIf, hwrite] using hfield.write []
    exact ⟨enc, rfl, hfield⟩

lemma sourceField_of_read {present : Bool}
    (h : parseIf present parseSource {} data = .ok (a, rest)) :
    ∃ enc, data = enc ++ rest ∧ SourceField present a enc := by
  cases present with
  | false =>
    cases h
    exact ⟨[], rfl, sourceField_absent⟩
  | true =>
    obtain ⟨hsrc, enc, rfl, hwrite⟩ := append_parseSource h
    obtain ⟨enc', hfield⟩ := sourceField_present hsrc
    obtain rfl : enc = enc' := by simpa [appendIf, hwrite] using hfield.write []
    exact ⟨enc, rfl, hfield⟩

def NPDU.content (n : NPDU) : Octets := if n.networkMessage then n.netMsgType :: n.netMsgData else n.apdu

def NPDU.hop (n : NPDU) : UInt8 := if n.hopCount = 0 then 255 else n.hopCount

lemma append_eq {hasDst hasSrc : Bool} {enc enc' : Octets} (hversion : n.version = version1)
    (hdst : DestinationField hasDst n.destination enc) (hsrc : SourceField hasSrc n.source enc') :
    append [] n = .ok (version1 :: controlOctet n hasDst hasSrc ::
      (enc ++ (enc' ++ ((if hasDst then [n.hop] else []) ++ n.content)))) := by
  have hne : version1 ≠ 0 := by decide
  simp only [append, hdst.has, hsrc.has, hversion, hne, if_false, Bind.bind, Except.bind]
  rw [hdst.write]
  simp only
  rw [hsrc.write]
  cases hasDst <;> cases hnet : n.networkMessage <;>
    simp [NPDU.content, NPDU.hop, hnet]

/-- A PDU that holds what its form carries and nothing else. The hop count is non-zero exactly with a
destination. -/
structure NPDU.Valid (n : NPDU) : Prop where
  version : n.version = version1
  destination : n.destination = {} ∨ Destination n.destination
  source : n.source = {} ∨ Source n.source
  hopCount : n.hopCount = 0 ↔ n.destination = {}
  control : n.control = controlOctet n (n.destination ≠ {}) (n.source ≠ {})
  expectingReply : n.expectingReply = (n.control &&& controlExpectingReply != 0)
  priority : n.priority &&& controlPriorityMask = n.priority
  message : n.networkMessage = true → n.apdu = [] ∧ validateNetworkMessageData n.netMsgType n.netMsgData = .ok ()
  application : n.networkMessage = false → n.netMsgType = 0 ∧ n.netMsgData = []

lemma ne_zero_of_destination (h : Destination a) : a ≠ {} := by
  rintro rfl
  cases h

lemma ne_zero_of_source (h : Source a) : a ≠ {} := by
  intro hzero
  cases h with
  | localStation mac hmac =>
    have hempty : mac = MAC.empty := by simpa [Address.ofLocalStation] using hzero
    simp [hempty, MAC.isZero, MAC.empty] at hmac
  | remoteStation network mac hnet hmac =>
    have hnone : network = 0 := congrArg Address.network hzero
    exact hnet.1 hnone

theorem parse_append (h : n.Valid) (limits : DecodeLimits) :
    ∃ enc, append [] n = .ok enc ∧
      ((enc.length : Int) ≤ limits.normalize.maxDatagramSize → parse enc limits = .ok (n, enc.length)) := by
  obtain ⟨enc, hdst⟩ : ∃ enc, DestinationField (n.destination ≠ {}) n.destination enc := by
    rcases h.destination with hzero | hdest
    · exact ⟨[], by simpa [hzero] using destinationField_absent⟩
    · obtain ⟨enc, hfield⟩ := destinationField_present hdest
      exact ⟨enc, by simpa [ne_zero_of_destination hdest] using hfield⟩
  obtain ⟨enc', hsrc⟩ : ∃ enc, SourceField (n.source ≠ {}) n.source enc := by
    rcases h.source with hzero | hsource
    · exact ⟨[], by simpa [hzero] using sourceField_absent⟩
    · obtain ⟨enc, hfield⟩ := sourceField_present hsource
      exact ⟨enc, by simpa [ne_zero_of_source hsource] using hfield⟩
  refine ⟨_, append_eq h.version hdst hsrc, fun hsize => ?_⟩
  rw [← h.control] at hsize ⊢
  have hcontrol : n.control = controlOf n.networkMessage (n.expectingReply || n.control &&& controlExpectingReply != 0)
      n.priority (n.destination ≠ {}) (n.source ≠ {}) := h.control
  obtain ⟨hreserved, hnet, -, hpriority, hd, hs⟩ := controlOf_fields n.networkMessage
    (n.expectingReply || n.control &&& controlExpectingReply != 0) (n.destination ≠ {}) (n.source ≠ {}) n.priority
  rw [← hcontrol] at hreserved hnet hpriority hd hs
  rw [h.priority] at hpriority
  have hhop : ∀ rest, parseIf (n.destination ≠ {}) parseHopCount 0
      ((if (n.destination ≠ {} : Bool) then [n.hop] else []) ++ rest) = .ok (n.hopCount, rest) := by
    intro rest
    by_cases hzero : n.destination = {}
    · simp [hzero, parseIf, h.hopCount.mpr hzero]
    · have hne : n.hopCount ≠ 0 := fun h0 => hzero (h.hopCount.mp h0)
      simp [hzero, parseIf, parseHopCount, NPDU.hop, hne]
  rw [parse, if_neg (not_lt.mpr hsize)]
  simp only [ne_eq, not_true_eq_false, if_false, hreserved, hnet, ← h.expectingReply, hpriority, hd, hs]
  simp only [ne_eq] at hdst hsrc hhop
  simp only [Bind.bind, Except.bind, hdst.read, hsrc.read, hhop, NPDU.content]
  cases hmsg : n.networkMessage with
  | true =>
    obtain ⟨hapdu, hvalid⟩ := h.message hmsg
    simp only [if_true, hvalid, Pure.pure, Except.pure, Except.ok.injEq, Prod.mk.injEq, and_true]
    exact NPDU.ext h.version.symm rfl rfl rfl rfl hmsg.symm rfl rfl hapdu.symm rfl rfl
  | false =>
    obtain ⟨htype, hdata⟩ := h.application hmsg
    simp only [Bool.false_eq_true, if_false, Pure.pure, Except.pure, Except.ok.injEq, Prod.mk.injEq, and_true]
    exact NPDU.ext h.version.symm rfl rfl rfl rfl hmsg.symm htype.symm hdata.symm rfl rfl rfl

lemma parse_ok {limits : DecodeLimits} {consumed : Nat}
    (h : parse data limits = .ok (n, consumed)) :
    ∃ enc enc' hop, data = version1 :: n.control :: (enc ++ (enc' ++ (hop ++ n.content))) ∧
      n.version = version1 ∧ n.control &&& controlReservedBits = 0 ∧
      n.networkMessage = (n.control &&& controlNetworkMessage != 0) ∧
      n.expectingReply = (n.control &&& controlExpectingReply != 0) ∧ n.priority = n.control &&& controlPriorityMask ∧
      DestinationField (n.control &&& controlDestinationSpec != 0) n.destination enc ∧
      SourceField (n.control &&& controlSourceSpec != 0) n.source enc' ∧
      hop = if n.control &&& controlDestinationSpec != 0 then [n.hopCount] else [] := by
  obtain ⟨-, h⟩ := Except.check_eq_ok_iff.mp h
  split at h
  · next version control rest _ =>
    obtain ⟨hversion, h⟩ := Except.check_eq_ok_iff.mp h
    obtain ⟨hreserved, h⟩ := Except.check_eq_ok_iff.mp h
    obtain ⟨⟨destination, rest₁⟩, hdst, h⟩ := Except.bind_eq_ok_iff.mp h
    obtain ⟨⟨source, rest₂⟩, hsrc, h⟩ := Except.bind_eq_ok_iff.mp h
    obtain ⟨⟨hopCount, rest₃⟩, hhop, h⟩ := Except.bind_eq_ok_iff.mp h
    rw [ne_eq, not_not] at hversion hreserved
    obtain ⟨enc, rfl, hfield⟩ := destinationField_of_read hdst
    obtain ⟨enc', rfl, hfield'⟩ := sourceField_of_read hsrc
    dsimp only at hhop h
    obtain ⟨hop, rfl, hop_eq⟩ : ∃ hop, rest₂ = hop ++ rest₃ ∧
        hop = if control &&& controlDestinationSpec != 0 then [hopCount] else [] := by
      cases hd : control &&& controlDestinationSpec != 0 with
      | false =>
        rw [hd] at hhop
        cases hhop
        exact ⟨[], rfl, rfl⟩
      | true =>
        rw [hd] at hhop
        cases rest₂ with
        | nil => cases hhop
        | cons hop rest₂ =>
          obtain ⟨rfl, rfl⟩ := Prod.mk.inj (Except.ok.inj hhop)
          exact ⟨[hop], rfl, rfl⟩
    subst hversion
    split_ifs at h with hnet
    · cases rest₃ with
      | nil => cases h
      | cons netMsgType netMsgData =>
        obtain ⟨_, -, h⟩ := Except.bind_eq_ok_iff.mp h
        obtain ⟨rfl, -⟩ := Prod.mk.inj (Except.ok.inj h)
        exact ⟨enc, enc', hop, by simp [NPDU.content, hnet], rfl, hreserved, rfl, rfl, rfl, hfield, hfield', hop_eq⟩
    · obtain ⟨rfl, -⟩ := Prod.mk.inj (Except.ok.inj h)
      exact ⟨enc, enc', hop, by simp [NPDU.content, hnet], rfl, hreserved, rfl, rfl, rfl, hfield, hfield', hop_eq⟩
  · cases h

theorem append_parse {limits : DecodeLimits} {consumed : Nat}
    (h : parse data limits = .ok (n, consumed)) (hhop : n.destination = {} ∨ n.hopCount ≠ 0) :
    append [] n = .ok data := by
  obtain ⟨enc, enc', hop, rfl, hversion, hreserved, hnet, hreply, hpriority, hdst, hsrc, rfl⟩ := parse_ok h
  have hcontrol : controlOctet n (n.control &&& controlDestinationSpec != 0) (n.control &&& controlSourceSpec != 0) =
      n.control := by
    calc
      _ = controlOf n.networkMessage (n.expectingReply || n.control &&& controlExpectingReply != 0) n.priority
          (n.control &&& controlDestinationSpec != 0) (n.control &&& controlSourceSpec != 0) := rfl
      _ = controlOf (n.control &&& controlNetworkMessage != 0) (n.control &&& controlExpectingReply != 0)
          (n.control &&& controlPriorityMask) (n.control &&& controlDestinationSpec != 0)
          (n.control &&& controlSourceSpec != 0) := by rw [hnet, hreply, Bool.or_self, hpriority]
      _ = n.control := controlOf_eq hreserved
  rw [append_eq hversion hdst hsrc, hcontrol]
  cases hd : n.control &&& controlDestinationSpec != 0 with
  | false => rfl
  | true =>
    have hne : n.hopCount ≠ 0 := by
      refine hhop.resolve_left fun hzero => ?_
      have hhas := hdst.has
      rw [hd, hzero] at hhas
      cases hhas
    simp [NPDU.hop, hne]

end GoBacnet.Npdu

namespace GoBacnet.Proofs

open Bvlc (Message)
open Npdu (NPDU)
open Apdu (PDU)

/-- Each layer is decoded from its encoding, and a datagram that all three layers accept is the encoding of what was
decoded from it. -/
theorem frameLayers_inverse (limits : DecodeLimits) :
    (∀ msg : Message, msg.Valid → ∃ enc, Bvlc.append [] msg = .ok enc ∧
      ((enc.length : Int) ≤ limits.normalize.maxDatagramSize → Bvlc.parse enc limits = .ok msg)) ∧
    (∀ n : NPDU, n.Valid → ∃ enc, Npdu.append [] n = .ok enc ∧
      ((enc.length : Int) ≤ limits.normalize.maxDatagramSize → Npdu.parse enc limits = .ok (n, enc.length))) ∧
    (∀ pdu : PDU, ValidPDU pdu → ((appendPDU [] pdu).length : Int) ≤ limits.normalize.maxAPDUSize →
      Apdu.parse (appendPDU [] pdu) limits = .ok pdu) ∧
    (∀ (data : Octets) (msg : Message) (n : NPDU) (consumed : Nat) (pdu : PDU), data.length ≤ 65535 →
      Bvlc.parse data limits = .ok msg → Npdu.parse msg.payload limits = .ok (n, consumed) →
      (n.destination = {} ∨ n.hopCount ≠ 0) → Apdu.parse n.apdu limits = .ok pdu →
      Bvlc.append [] msg = .ok data ∧ Npdu.append [] n = .ok msg.payload ∧ appendPDU [] pdu = n.apdu) := by
  refine ⟨fun msg hmsg => Bvlc.parse_append hmsg limits, fun n hn => Npdu.parse_append hn limits,
    fun pdu hpdu hsize => parse_appendPDU hpdu hsize, ?_⟩
  intro data msg n consumed pdu _ hdata hpayload hhop hapdu
  exact ⟨Bvlc.append_parse hdata, Npdu.append_parse hpayload hhop, appendPDU_parse hapdu⟩

/-- A forwarded ReadProperty request for a station on network 5. -/
theorem frameLayers_inverse_forwarded :
    let mac : MAC := ⟨[9], by decide⟩
    let request : PDU := .confirmedRequest ⟨false, false, true, 4, 5, 7, 0, 0, 12, [0x0C, 0, 0, 0, 1, 0x19, 85]⟩
    let apdu : Octets := [0x02, 0x45, 7, 12, 0x0C, 0, 0, 0, 1, 0x19, 85]
    let n : NPDU :=
      { version := 1, control := 0x24, destination := .ofRemoteStation 5 mac, hopCount := 255, apdu,
        expectingReply := true }
    let npdu : Octets := [1, 0x24, 0, 5, 1, 9, 255] ++ apdu
    let msg : Message :=
      { function := 0x04, payload := npdu, originIP := ⟨10, 0, 0, 1⟩, originPort := 47808 }
    let data : Octets := [0x81, 0x04, 0, 28, 10, 0, 0, 1, 0xBA, 0xC0] ++ npdu
    (∃ enc, Bvlc.append [] msg = .ok enc ∧
      ((enc.length : Int) ≤ ({} : DecodeLimits).normalize.maxDatagramSize → Bvlc.parse enc {} = .ok msg)) ∧
    (∃ enc, Npdu.append [] n = .ok enc ∧
      ((enc.length : Int) ≤ ({} : DecodeLimits).normalize.maxDatagramSize →
        Npdu.parse enc {} = .ok (n, enc.length))) ∧
    Apdu.parse (appendPDU [] request) {} = .ok request ∧
    Bvlc.append [] msg = .ok data ∧ Npdu.append [] n = .ok npdu ∧ appendPDU [] request = apdu := by
  intro mac request apdu n npdu msg data
  have hmsg : msg.Valid := by constructor <;> decide +kernel
  have hn : n.Valid :=
    { version := rfl
      destination := .inr (.remoteStation 5 mac ⟨by decide, by decide⟩ rfl)
      source := .inl rfl
      hopCount := by decide
      control := by decide
      expectingReply := by decide
      priority := by decide
      message := by decide
      application := by decide }
  have hrequest : ValidPDU request := ⟨by decide, rfl, rfl, rfl, rfl⟩
  obtain ⟨hbvlc, hnpdu, happ, hback⟩ := frameLayers_inverse {}
  exact ⟨hbvlc msg hmsg, hnpdu n hn, happ request hrequest (by decide +kernel),
    hback data msg n 18 request (by decide) (by decide +kernel) (by decide +kernel) (.inr (by decide)) (by decide +kernel)⟩

end GoBacnet.Proofs
