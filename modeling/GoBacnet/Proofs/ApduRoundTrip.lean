import GoBacnet.Apdu
import GoBacnet.Lib.Result

/-!
# APDU round trip

The decoder reads back what the encoders wrote, up to the checks of the decoder that the encoders do not
make, and the encoders write what the decoder accepted.
-/

namespace GoBacnet.Proofs

open Apdu

variable {limits : DecodeLimits} {tail : Octets} {pdu : PDU} {b0 : UInt8}

lemma maxInfo_fields (maxSegments maxAPDU : UInt8) :
    let maxInfo := ((maxSegments &&& 0x07) <<< 4) ||| (maxAPDU &&& 0x0F)
    (maxInfo &&& 0x80 != 0) = false ∧ (maxInfo >>> 4) &&& 0x07 = maxSegments &&& 0x07 ∧
      maxInfo &&& 0x0F = maxAPDU &&& 0x0F := by
  have hall : ∀ (s : Fin 8) (a : Fin 16),
      let maxInfo : UInt8 := (UInt8.ofNat s.val <<< 4) ||| UInt8.ofNat a.val
      (maxInfo &&& 0x80 != 0) = false ∧ (maxInfo >>> 4) &&& 0x07 = UInt8.ofNat s.val ∧
        maxInfo &&& 0x0F = UInt8.ofNat a.val := by decide +kernel
  have hs : (maxSegments &&& 0x07).toNat < 8 := by
    rw [UInt8.toNat_and]
    exact Nat.and_lt_two_pow _ (by decide : (7 : Nat) < 2 ^ 3)
  have ha : (maxAPDU &&& 0x0F).toNat < 16 := by
    rw [UInt8.toNat_and]
    exact Nat.and_lt_two_pow _ (by decide : (15 : Nat) < 2 ^ 4)
  simpa using hall ⟨_, hs⟩ ⟨_, ha⟩

/-- A request as the wire carries it: the capability codes take three and four bits. -/
def wireRequest (req : ConfirmedRequest) : ConfirmedRequest :=
  { req with maxSegments := req.maxSegments &&& 0x07, maxAPDU := req.maxAPDU &&& 0x0F }

lemma confirmedHeader_fields (more accepted : Bool) :
    let b0 := typeConfirmedRequest ||| flag true 0x08 ||| flag more 0x04 ||| flag accepted 0x02
    b0 &&& 0xF0 = typeConfirmedRequest ∧ (b0 &&& 0x01 != 0) = false ∧ (b0 &&& 0x08 != 0) = true ∧
      (b0 &&& 0x04 != 0) = more ∧ (b0 &&& 0x02 != 0) = accepted := by
  revert more accepted
  decide

theorem parse_appendConfirmedRequest {req : ConfirmedRequest} (hseg : req.segmentedMessage = true)
    (limits : DecodeLimits) :
    parse (appendConfirmedRequest [] req) limits =
      if ((appendConfirmedRequest [] req).length : Int) > limits.normalize.maxAPDUSize then
        .error (limitExceeded "APDU size")
      else if (decodeMaxAPDUSize (req.maxAPDU &&& 0x0F)).isNone then
        .error (malformed ("undefined MaxAPDU code " ++ toString (req.maxAPDU &&& 0x0F)))
      else (checkWindowSize req.proposedWindowSize).map fun _ => .confirmedRequest (wireRequest req) := by
  obtain ⟨segmented, more, accepted, maxSegments, maxAPDU, invokeID, seq, win, service, payload⟩ := req
  obtain rfl : segmented = true := hseg
  obtain ⟨hreserved, hsegments, hapdu⟩ := maxInfo_fields maxSegments maxAPDU
  obtain ⟨htype, h01, h08, h04, h02⟩ := confirmedHeader_fields more accepted
  simp only [parse, appendConfirmedRequest, List.nil_append, List.cons_append, if_true, htype, parseConfirmed,
    h01, h08, h04, h02, hreserved, hsegments, hapdu, Bool.false_eq_true, if_false]
  split
  · rfl
  · cases hcode : (decodeMaxAPDUSize (maxAPDU &&& 0x0F)).isNone with
    | true =>
      cases more <;> rfl
    | false =>
      cases checkWindowSize win <;> cases more <;>
        simp [checkSegmentFlags, parseService, wireRequest]

lemma complexHeader_fields (more : Bool) :
    let b0 := typeComplexACK ||| flag true 0x08 ||| flag more 0x04
    b0 &&& 0xF0 = typeComplexACK ∧ (b0 &&& 0x03 != 0) = false ∧ (b0 &&& 0x08 != 0) = true ∧
      (b0 &&& 0x04 != 0) = more := by
  revert more
  decide

lemma eq_of_parse_confirmedRequest {req : ConfirmedRequest} (hseg : req.segmentedMessage = true) {limits : DecodeLimits}
    {pdu : PDU} (h : parse (appendConfirmedRequest [] req) limits = .ok pdu) :
    pdu = .confirmedRequest (wireRequest req) := by
  rw [parse_appendConfirmedRequest hseg] at h
  obtain ⟨-, h⟩ := Except.check_eq_ok_iff.mp h
  obtain ⟨_, -, rfl⟩ := Except.map_eq_ok_iff.mp (Except.check_eq_ok_iff.mp h).2
  rfl

theorem parse_appendComplexACK {ack : ComplexACK} (hseg : ack.segmentedMessage = true) (limits : DecodeLimits) :
    parse (appendComplexACK [] ack) limits =
      if ((appendComplexACK [] ack).length : Int) > limits.normalize.maxAPDUSize then
        .error (limitExceeded "APDU size")
      else (checkWindowSize ack.proposedWindowSize).map fun _ => .complexACK ack := by
  obtain ⟨segmented, more, invokeID, seq, win, service, payload⟩ := ack
  obtain rfl : segmented = true := hseg
  obtain ⟨htype, h03, h08, h04⟩ := complexHeader_fields more
  have hne : typeComplexACK ≠ typeConfirmedRequest ∧ typeComplexACK ≠ typeUnconfirmedRequest ∧
      typeComplexACK ≠ typeSimpleACK := by decide
  simp only [parse, appendComplexACK, List.nil_append, List.cons_append, if_true, htype, hne, parseComplexACK,
    h03, h08, h04, Bool.false_eq_true, if_false]
  split
  · rfl
  · cases checkWindowSize win <;> cases more <;>
      simp [checkSegmentFlags, parseService]

lemma segmentACKHeader_fields (negative server : Bool) :
    let b0 := typeSegmentACK ||| flag negative 0x02 ||| flag server 0x01
    b0 &&& 0xF0 = typeSegmentACK ∧ (b0 &&& 0x0C != 0) = false ∧ (b0 &&& 0x02 != 0) = negative ∧
      (b0 &&& 0x01 != 0) = server := by
  revert negative server
  decide

theorem parse_appendSegmentACK (ack : SegmentACK) (limits : DecodeLimits) :
    parse (appendSegmentACK [] ack) limits =
      if ((appendSegmentACK [] ack).length : Int) > limits.normalize.maxAPDUSize then
        .error (limitExceeded "APDU size")
      else (checkWindowSize ack.actualWindowSize).map fun _ => .segmentACK ack := by
  obtain ⟨negative, server, invokeID, seq, win⟩ := ack
  obtain ⟨htype, h0C, h02, h01⟩ := segmentACKHeader_fields negative server
  have hne : typeSegmentACK ≠ typeConfirmedRequest ∧ typeSegmentACK ≠ typeUnconfirmedRequest ∧
      typeSegmentACK ≠ typeSimpleACK ∧ typeSegmentACK ≠ typeComplexACK := by decide
  simp only [parse, appendSegmentACK, List.nil_append, if_true, htype, hne, parseSegmentACK,
    h0C, h02, h01, Bool.false_eq_true, if_false]
  refine if_congr Iff.rfl rfl ?_
  cases checkWindowSize win <;> rfl

lemma eq_of_parse_complexACK {ack : ComplexACK} (hseg : ack.segmentedMessage = true) {limits : DecodeLimits} {pdu : PDU}
    (h : parse (appendComplexACK [] ack) limits = .ok pdu) : pdu = .complexACK ack := by
  rw [parse_appendComplexACK hseg] at h
  obtain ⟨_, -, rfl⟩ := Except.map_eq_ok_iff.mp (Except.check_eq_ok_iff.mp h).2
  rfl

lemma eq_of_parse_segmentACK {ack : SegmentACK} {limits : DecodeLimits} {pdu : PDU}
    (h : parse (appendSegmentACK [] ack) limits = .ok pdu) : pdu = .segmentACK ack := by
  rw [parse_appendSegmentACK] at h
  obtain ⟨_, -, rfl⟩ := Except.map_eq_ok_iff.mp (Except.check_eq_ok_iff.mp h).2
  rfl

theorem parse_appendAbort (a : AbortPDU) (limits : DecodeLimits) :
    parse (appendAbort [] a) limits =
      if ((appendAbort [] a).length : Int) > limits.normalize.maxAPDUSize then
        .error (limitExceeded "APDU size")
      else .ok (.abort a) := by
  obtain ⟨server, invokeID, reason⟩ := a
  have hne : typeAbort ≠ typeConfirmedRequest ∧ typeAbort ≠ typeUnconfirmedRequest ∧ typeAbort ≠ typeSimpleACK ∧
      typeAbort ≠ typeComplexACK ∧ typeAbort ≠ typeSegmentACK ∧ typeAbort ≠ typeError ∧
      typeAbort ≠ typeReject := by decide
  have hfields : (typeAbort ||| flag server 0x01) &&& 0xF0 = typeAbort ∧
      ((typeAbort ||| flag server 0x01) &&& 0x0E != 0) = false ∧
      ((typeAbort ||| flag server 0x01) &&& 0x01 != 0) = server := by
    revert server
    decide
  simp only [parse, appendAbort, List.nil_append, hfields, hne, parseAbort, Bool.false_eq_true, if_true, if_false]
  rfl

lemma checkWindowSize_ok {w : UInt8} (hlo : 1 ≤ w) (hhi : w ≤ 127) : checkWindowSize w = .ok () := by
  unfold checkWindowSize
  rw [if_neg]
  rintro (rfl | h)
  · exact absurd hlo (by decide)
  · exact absurd hhi (UInt8.not_le.mpr h)

/-! ## All types -/

def appendPDU (dst : Octets) : PDU → Octets
  | .confirmedRequest req => appendConfirmedRequest dst req
  | .unconfirmedRequest req => appendUnconfirmedRequest dst req
  | .simpleACK ack => appendSimpleACK dst ack
  | .complexACK ack => appendComplexACK dst ack
  | .segmentACK ack => appendSegmentACK dst ack
  | .error e => appendError dst e
  | .reject r => appendReject dst r
  | .abort a => appendAbort dst a

def SegmentFields (segmented more : Bool) (sequenceNumber window : UInt8) : Prop :=
  if segmented then 1 ≤ window ∧ window ≤ 127 else more = false ∧ sequenceNumber = 0 ∧ window = 0

def ValidPDU : PDU → Prop
  | .confirmedRequest req => req.maxSegments ≤ 7 ∧ (decodeMaxAPDUSize req.maxAPDU).isSome = true ∧
    SegmentFields req.segmentedMessage req.moreFollows req.sequenceNumber req.proposedWindowSize
  | .complexACK ack => SegmentFields ack.segmentedMessage ack.moreFollows ack.sequenceNumber ack.proposedWindowSize
  | .segmentACK ack => 1 ≤ ack.actualWindowSize ∧ ack.actualWindowSize ≤ 127
  | _ => True

lemma wireRequest_eq {req : ConfirmedRequest} (hsegments : req.maxSegments ≤ 7)
    (hapdu : (decodeMaxAPDUSize req.maxAPDU).isSome = true) : wireRequest req = req := by
  have hs : req.maxSegments &&& 0x07 = req.maxSegments :=
    BigEndian.forall_octet (P := fun b => b ≤ 7 → b &&& 0x07 = b) (by decide +kernel) _ hsegments
  have ha : req.maxAPDU &&& 0x0F = req.maxAPDU :=
    BigEndian.forall_octet (P := fun b => (decodeMaxAPDUSize b).isSome = true → b &&& 0x0F = b) (by decide +kernel) _
      hapdu
  rw [wireRequest, hs, ha]

lemma parse_confirmedRequest_whole {req : ConfirmedRequest} (hseg : req.segmentedMessage = false)
    (hmore : req.moreFollows = false) (hseq : req.sequenceNumber = 0) (hwin : req.proposedWindowSize = 0) (hapdu : (decodeMaxAPDUSize (req.maxAPDU &&& 0x0F)).isSome = true)
    (hsize : ((appendConfirmedRequest [] req).length : Int) ≤ limits.normalize.maxAPDUSize) :
    parse (appendConfirmedRequest [] req) limits = .ok (.confirmedRequest (wireRequest req)) := by
  obtain ⟨segmented, more, accepted, maxSegments, maxAPDU, invokeID, seq, win, service, payload⟩ := req
  obtain rfl : segmented = false := hseg
  obtain rfl : more = false := hmore
  obtain rfl : seq = 0 := hseq
  obtain rfl : win = 0 := hwin
  obtain ⟨hreserved, hsegments, hcode⟩ := maxInfo_fields maxSegments maxAPDU
  have hfields : let b0 := typeConfirmedRequest ||| flag false 0x08 ||| flag false 0x04 ||| flag accepted 0x02
      b0 &&& 0xF0 = typeConfirmedRequest ∧ (b0 &&& 0x01 != 0) = false ∧ (b0 &&& 0x08 != 0) = false ∧
        (b0 &&& 0x04 != 0) = false ∧ (b0 &&& 0x02 != 0) = accepted := by
    cases accepted <;> decide
  obtain ⟨htype, h01, h08, h04, h02⟩ := hfields
  have hnone : (decodeMaxAPDUSize (maxAPDU &&& 0x0F)).isNone = false := by
    rw [← Option.not_isSome, hapdu]
    rfl
  simp only [appendConfirmedRequest, List.nil_append, List.cons_append, Bool.false_eq_true, if_false] at hsize ⊢
  simp only [parse, not_lt.mpr hsize, htype, parseConfirmed, h01, h08, h04, h02, hreserved, hsegments, hcode, hnone,
    checkSegmentFlags, parseService, Bool.false_eq_true, if_false, if_true, Bind.bind, Except.bind, Pure.pure,
    Except.pure, Bool.false_and, wireRequest]

lemma parse_complexACK_whole {ack : ComplexACK} (hseg : ack.segmentedMessage = false) (hmore : ack.moreFollows = false)
    (hseq : ack.sequenceNumber = 0) (hwin : ack.proposedWindowSize = 0)
    (hsize : ((appendComplexACK [] ack).length : Int) ≤ limits.normalize.maxAPDUSize) :
    parse (appendComplexACK [] ack) limits = .ok (.complexACK ack) := by
  obtain ⟨segmented, more, invokeID, seq, win, service, payload⟩ := ack
  obtain rfl : segmented = false := hseg
  obtain rfl : more = false := hmore
  obtain rfl : seq = 0 := hseq
  obtain rfl : win = 0 := hwin
  have hfields : let b0 := typeComplexACK ||| flag false 0x08 ||| flag false 0x04
      b0 &&& 0xF0 = typeComplexACK ∧ (b0 &&& 0x03 != 0) = false ∧ (b0 &&& 0x08 != 0) = false ∧
        (b0 &&& 0x04 != 0) = false := by decide
  obtain ⟨htype, h03, h08, h04⟩ := hfields
  have hne : typeComplexACK ≠ typeConfirmedRequest ∧ typeComplexACK ≠ typeUnconfirmedRequest ∧
      typeComplexACK ≠ typeSimpleACK := by decide
  simp only [appendComplexACK, List.nil_append, List.cons_append, Bool.false_eq_true, if_false] at hsize ⊢
  simp only [parse, not_lt.mpr hsize, htype, hne, parseComplexACK, h03, h08, h04, checkSegmentFlags, parseService,
    Bool.false_eq_true, if_false, if_true, Bind.bind, Except.bind, Pure.pure, Except.pure, Bool.false_and]

theorem parse_appendPDU (h : ValidPDU pdu)
    (hsize : ((appendPDU [] pdu).length : Int) ≤ limits.normalize.maxAPDUSize) :
    parse (appendPDU [] pdu) limits = .ok pdu := by
  cases pdu with
  | confirmedRequest req =>
    obtain ⟨hsegments, hapdu, hfields⟩ := h
    have hwire := wireRequest_eq hsegments hapdu
    have hcode : req.maxAPDU &&& 0x0F = req.maxAPDU := congrArg ConfirmedRequest.maxAPDU hwire
    cases hseg : req.segmentedMessage with
    | true =>
      rw [SegmentFields, hseg, if_pos rfl] at hfields
      rw [appendPDU] at hsize ⊢
      rw [parse_appendConfirmedRequest hseg, if_neg (not_lt.mpr hsize), hcode, ← Option.not_isSome, hapdu,
        checkWindowSize_ok hfields.1 hfields.2, hwire]
      rfl
    | false =>
      rw [SegmentFields, hseg, if_neg (by decide)] at hfields
      obtain ⟨hmore, hseq, hwin⟩ := hfields
      rw [appendPDU] at hsize ⊢
      rw [parse_confirmedRequest_whole hseg hmore hseq hwin (by rwa [hcode]) hsize, hwire]
  | complexACK ack =>
    cases hseg : ack.segmentedMessage with
    | true =>
      rw [ValidPDU, SegmentFields, hseg, if_pos rfl] at h
      rw [appendPDU] at hsize ⊢
      rw [parse_appendComplexACK hseg, if_neg (not_lt.mpr hsize), checkWindowSize_ok h.1 h.2]
      rfl
    | false =>
      rw [ValidPDU, SegmentFields, hseg, if_neg (by decide)] at h
      exact parse_complexACK_whole hseg h.1 h.2.1 h.2.2 hsize
  | segmentACK ack =>
    rw [appendPDU] at hsize ⊢
    rw [parse_appendSegmentACK, if_neg (not_lt.mpr hsize), checkWindowSize_ok h.1 h.2]
    rfl
  | abort a =>
    rw [appendPDU] at hsize ⊢
    rw [parse_appendAbort, if_neg (not_lt.mpr hsize)]
  | unconfirmedRequest req | simpleACK ack | error e | reject r =>
    exact if_neg (not_lt.mpr hsize)

/-! ## What was accepted is encoded again -/

lemma confirmedHeader_eq (htype : b0 &&& 0xF0 = typeConfirmedRequest) (h01 : (b0 &&& 0x01 != 0) = false) :
    typeConfirmedRequest ||| flag (b0 &&& 0x08 != 0) 0x08 ||| flag (b0 &&& 0x04 != 0) 0x04 |||
      flag (b0 &&& 0x02 != 0) 0x02 = b0 :=
  BigEndian.forall_octet (P := fun b0 => b0 &&& 0xF0 = typeConfirmedRequest → (b0 &&& 0x01 != 0) = false →
    typeConfirmedRequest ||| flag (b0 &&& 0x08 != 0) 0x08 ||| flag (b0 &&& 0x04 != 0) 0x04 |||
      flag (b0 &&& 0x02 != 0) 0x02 = b0) (by decide +kernel) b0 htype h01

lemma maxInfo_eq {maxInfo : UInt8} (h : (maxInfo &&& 0x80 != 0) = false) :
    ((((maxInfo >>> 4) &&& 0x07) &&& 0x07) <<< 4) ||| ((maxInfo &&& 0x0F) &&& 0x0F) = maxInfo :=
  BigEndian.forall_octet (P := fun maxInfo => (maxInfo &&& 0x80 != 0) = false →
    ((((maxInfo >>> 4) &&& 0x07) &&& 0x07) <<< 4) ||| ((maxInfo &&& 0x0F) &&& 0x0F) = maxInfo)
    (by decide +kernel) maxInfo h

lemma complexHeader_eq (htype : b0 &&& 0xF0 = typeComplexACK) (h03 : (b0 &&& 0x03 != 0) = false) :
    typeComplexACK ||| flag (b0 &&& 0x08 != 0) 0x08 ||| flag (b0 &&& 0x04 != 0) 0x04 = b0 :=
  BigEndian.forall_octet (P := fun b0 => b0 &&& 0xF0 = typeComplexACK → (b0 &&& 0x03 != 0) = false →
    typeComplexACK ||| flag (b0 &&& 0x08 != 0) 0x08 ||| flag (b0 &&& 0x04 != 0) 0x04 = b0) (by decide +kernel) b0
    htype h03

lemma segmentACKHeader_eq (htype : b0 &&& 0xF0 = typeSegmentACK) (h0C : (b0 &&& 0x0C != 0) = false) :
    typeSegmentACK ||| flag (b0 &&& 0x02 != 0) 0x02 ||| flag (b0 &&& 0x01 != 0) 0x01 = b0 :=
  BigEndian.forall_octet (P := fun b0 => b0 &&& 0xF0 = typeSegmentACK → (b0 &&& 0x0C != 0) = false →
    typeSegmentACK ||| flag (b0 &&& 0x02 != 0) 0x02 ||| flag (b0 &&& 0x01 != 0) 0x01 = b0) (by decide +kernel) b0
    htype h0C

lemma abortHeader_eq (htype : b0 &&& 0xF0 = typeAbort) (h0E : (b0 &&& 0x0E != 0) = false) :
    typeAbort ||| flag (b0 &&& 0x01 != 0) 0x01 = b0 :=
  BigEndian.forall_octet (P := fun b0 => b0 &&& 0xF0 = typeAbort → (b0 &&& 0x0E != 0) = false →
    typeAbort ||| flag (b0 &&& 0x01 != 0) 0x01 = b0) (by decide +kernel) b0 htype h0E

lemma plainHeader_eq {type : UInt8} (htype : b0 &&& 0xF0 = type) (h0F : (b0 &&& 0x0F != 0) = false) : type = b0 := by
  subst htype
  exact BigEndian.forall_octet (P := fun b0 => (b0 &&& 0x0F != 0) = false → b0 &&& 0xF0 = b0) (by decide +kernel) b0 h0F

lemma parseService_ok {rest payload : Octets} {service : UInt8} (h : parseService rest = .ok (service, payload)) :
    rest = service :: payload := by
  cases rest with
  | nil => cases h
  | cons s tail => cases h; rfl

lemma segmentHeader_ok (segmented : Bool) (rest : Octets) {e : Err}
    (k : UInt8 × UInt8 × Octets → Except Err PDU)
    (h : (if segmented = true then
        match rest with
        | seq :: win :: rest => do
          checkWindowSize win
          k (seq, win, rest)
        | _ => throw e
      else k (0, 0, rest)) = .ok pdu) :
    ∃ seq win rest', rest = (if segmented then [seq, win] else []) ++ rest' ∧ k (seq, win, rest') = .ok pdu := by
  cases segmented with
  | false => exact ⟨0, 0, rest, rfl, h⟩
  | true =>
    match rest, h with
    | seq :: win :: tail, h =>
      obtain ⟨_, _, h⟩ := Except.bind_eq_ok_iff.mp h
      exact ⟨seq, win, tail, rfl, h⟩

lemma parseConfirmed_encoded (htype : b0 &&& 0xF0 = typeConfirmedRequest)
    (h : parseConfirmed (b0 :: tail) = .ok pdu) : appendPDU [] pdu = b0 :: tail := by
  match tail, h with
  | maxInfo :: invokeID :: r :: rest, h =>
    obtain ⟨h01, h⟩ := Except.check_eq_ok_iff.mp h
    obtain ⟨h80, h⟩ := Except.check_eq_ok_iff.mp h
    obtain ⟨_, _, h⟩ := Except.bind_eq_ok_iff.mp h
    obtain ⟨_, h⟩ := Except.check_eq_ok_iff.mp h
    obtain ⟨seq, win, rest', hhead, h⟩ := segmentHeader_ok (b0 &&& 0x08 != 0) (r :: rest) (fun fields => do
      let service ← parseService fields.2.2
      return .confirmedRequest
        ⟨b0 &&& 0x08 != 0, b0 &&& 0x04 != 0, b0 &&& 0x02 != 0, (maxInfo >>> 4) &&& 0x07, maxInfo &&& 0x0F, invokeID,
          fields.1, fields.2.1, service.1, service.2⟩) h
    obtain ⟨⟨service, payload⟩, hservice, h⟩ := Except.bind_eq_ok_iff.mp h
    cases h
    have hrest : rest' = service :: payload := parseService_ok hservice
    simp only [Bool.not_eq_true] at h01 h80
    simp only [appendPDU, appendConfirmedRequest, confirmedHeader_eq htype h01, maxInfo_eq h80, hhead, hrest, List.nil_append,
      List.cons_append]

lemma parseComplexACK_encoded (htype : b0 &&& 0xF0 = typeComplexACK)
    (h : parseComplexACK (b0 :: tail) = .ok pdu) : appendPDU [] pdu = b0 :: tail := by
  match tail, h with
  | invokeID :: r :: rest, h =>
    obtain ⟨h03, h⟩ := Except.check_eq_ok_iff.mp h
    obtain ⟨_, _, h⟩ := Except.bind_eq_ok_iff.mp h
    obtain ⟨seq, win, rest', hhead, h⟩ := segmentHeader_ok (b0 &&& 0x08 != 0) (r :: rest) (fun fields => do
      let service ← parseService fields.2.2
      return .complexACK
        ⟨b0 &&& 0x08 != 0, b0 &&& 0x04 != 0, invokeID, fields.1, fields.2.1, service.1, service.2⟩) h
    obtain ⟨⟨service, payload⟩, hservice, h⟩ := Except.bind_eq_ok_iff.mp h
    cases h
    have hrest : rest' = service :: payload := parseService_ok hservice
    simp only [Bool.not_eq_true] at h03
    simp only [appendPDU, appendComplexACK, complexHeader_eq htype h03, hhead, hrest, List.nil_append,
      List.cons_append]

lemma parseSegmentACK_encoded (htype : b0 &&& 0xF0 = typeSegmentACK)
    (h : parseSegmentACK (b0 :: tail) = .ok pdu) : appendPDU [] pdu = b0 :: tail := by
  match tail, h with
  | [invokeID, sequenceNumber, window], h =>
    obtain ⟨h0C, h⟩ := Except.check_eq_ok_iff.mp h
    obtain ⟨_, _, h⟩ := Except.bind_eq_ok_iff.mp h
    cases h
    simp only [Bool.not_eq_true] at h0C
    simp only [appendPDU, appendSegmentACK, segmentACKHeader_eq htype h0C, List.nil_append]

lemma parseAbort_encoded (htype : b0 &&& 0xF0 = typeAbort)
    (h : parseAbort (b0 :: tail) = .ok pdu) : appendPDU [] pdu = b0 :: tail := by
  match tail, h with
  | [invokeID, reason], h =>
    obtain ⟨h0E, h⟩ := Except.check_eq_ok_iff.mp h
    cases h
    simp only [Bool.not_eq_true] at h0E
    simp only [appendPDU, appendAbort, abortHeader_eq htype h0E, List.nil_append]

lemma parsePlain_encoded (b0 : UInt8) (tail : Octets) (pdu : PDU) :
    (b0 &&& 0xF0 = typeUnconfirmedRequest → parseUnconfirmed (b0 :: tail) = .ok pdu → appendPDU [] pdu = b0 :: tail) ∧
    (b0 &&& 0xF0 = typeSimpleACK → parseSimpleACK (b0 :: tail) = .ok pdu → appendPDU [] pdu = b0 :: tail) ∧
    (b0 &&& 0xF0 = typeError → parseError (b0 :: tail) = .ok pdu → appendPDU [] pdu = b0 :: tail) ∧
    (b0 &&& 0xF0 = typeReject → parseReject (b0 :: tail) = .ok pdu → appendPDU [] pdu = b0 :: tail) := by
  refine ⟨fun htype h => ?_, fun htype h => ?_, fun htype h => ?_, fun htype h => ?_⟩
  · match tail, h with
    | service :: payload, h =>
      obtain ⟨h0F, h⟩ := Except.check_eq_ok_iff.mp h
      cases h
      simp only [appendPDU, appendUnconfirmedRequest, plainHeader_eq htype (Bool.not_eq_true _ ▸ h0F), List.nil_append]
  · match tail, h with
    | [invokeID, service], h =>
      obtain ⟨h0F, h⟩ := Except.check_eq_ok_iff.mp h
      cases h
      simp only [appendPDU, appendSimpleACK, plainHeader_eq htype (Bool.not_eq_true _ ▸ h0F), List.nil_append]
  · match tail, h with
    | invokeID :: service :: payload, h =>
      obtain ⟨h0F, h⟩ := Except.check_eq_ok_iff.mp h
      cases h
      simp only [appendPDU, appendError, plainHeader_eq htype (Bool.not_eq_true _ ▸ h0F), List.nil_append]
  · match tail, h with
    | [invokeID, reason], h =>
      obtain ⟨h0F, h⟩ := Except.check_eq_ok_iff.mp h
      cases h
      simp only [appendPDU, appendReject, plainHeader_eq htype (Bool.not_eq_true _ ▸ h0F), List.nil_append]

theorem appendPDU_parse {data : Octets} (h : parse data limits = .ok pdu) :
    appendPDU [] pdu = data := by
  cases data with
  | nil => cases h
  | cons b0 tail =>
    obtain ⟨_, h⟩ := Except.check_eq_ok_iff.mp h
    obtain ⟨hunconfirmed, hsimple, herror, hreject⟩ := parsePlain_encoded b0 tail pdu
    split_ifs at h with h0 h1 h2 h3 h4 h5 h6 h7
    · exact parseConfirmed_encoded h0 h
    · exact hunconfirmed h1 h
    · exact hsimple h2 h
    · exact parseComplexACK_encoded h3 h
    · exact parseSegmentACK_encoded h4 h
    · exact herror h5 h
    · exact hreject h6 h
    · exact parseAbort_encoded h7 h

end GoBacnet.Proofs
