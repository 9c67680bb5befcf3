import GoBacnet.Lib.Result
import GoBacnet.Proofs.TagRoundTrip

/-!
# The frame of a tag

What `parseTag` reads before it looks at the limits: the tag number, the class and the content octets.
The frame of a tag depends on its own octets only, and the limits on the content only.
-/

namespace GoBacnet

/-- A tag that was delimited and not decoded yet, with the octets it takes. -/
inductive TagFrame where
  | mark (tagNumber : UInt8) (opening : Bool) (size : Nat)
  | boolean (b : Bool) (size : Nat)
  | primitive (context : Bool) (tagNumber lvt : UInt8) (content : Octets) (size : Nat)

namespace TagFrame

def size : TagFrame → Nat
  | mark _ _ n | boolean _ n | primitive _ _ _ _ n => n

def decode (limits : DecodeLimits) : TagFrame → Except Err Element
  | mark tagNumber opening _ => .ok (.mk true tagNumber opening (!opening) .null)
  | boolean b _ => .ok (.app tagBoolean (.boolean b))
  | primitive context tagNumber lvt content _ => parsePrimitive context tagNumber lvt content limits

end TagFrame

def parseFrame (data : Octets) : Except Err TagFrame :=
  match data with
  | [] => .error (malformed "empty tag")
  | b0 :: _ => do
    let context := b0 &&& 0x08 != 0
    let lvt := b0 &&& 0x07
    let (tagNumber, off) ← parseTagNumber data b0
    if context && lvt == 6 then return .mark tagNumber true off
    if context && lvt == 7 then return .mark tagNumber false off
    if !context && tagNumber == tagBoolean then
      if lvt > 1 then throw (malformed ("boolean length/value/type " ++ toString lvt))
      return .boolean (lvt == 1) off
    let (length, n) ← parseLength (data.drop off) lvt
    if length > data.length - (off + n) then throw (malformed "truncated tag value")
    return .primitive context tagNumber lvt ((data.drop (off + n)).take length) (off + n + length)

def TagFrame.Valid : TagFrame → Prop
  | .mark tagNumber _ _ => tagNumber ≠ tagNumberReserved
  | .boolean _ _ => True
  | .primitive context tagNumber _ content _ => tagNumber ≠ tagNumberReserved ∧
    (context = true ∨ tagNumber ≠ tagBoolean) ∧ content.length ≤ maxUint32

end GoBacnet

namespace GoBacnet.Proofs

variable {data : Octets}

lemma parseTag_eq (data : Octets) (limits : DecodeLimits) :
    parseTag data limits =
      (parseFrame data).bind fun f => (f.decode limits.normalize).map fun el => (el, f.size) := by
  cases data with
  | nil => rfl
  | cons b0 rest =>
    simp only [parseTag, parseFrame]
    cases parseTagNumber (b0 :: rest) b0 with
    | error e => rfl
    | ok p =>
      obtain ⟨tagNumber, off⟩ := p
      simp only [Bind.bind, Except.bind, Pure.pure, Except.pure]
      by_cases h6 : (b0 &&& 0x08 != 0 && b0 &&& 0x07 == 6) = true
      · simp [h6, TagFrame.decode, TagFrame.size]
      by_cases h7 : (b0 &&& 0x08 != 0 && b0 &&& 0x07 == 7) = true
      · simp [h6, h7, TagFrame.decode, TagFrame.size]
      by_cases hb : (!(b0 &&& 0x08 != 0) && tagNumber == tagBoolean) = true
      · have hnumber : tagNumber = tagBoolean := beq_iff_eq.mp (Bool.and_eq_true_iff.mp hb).2
        simp only [h6, h7, hb, if_false, if_true, Bool.false_eq_true]
        by_cases hlvt : b0 &&& 0x07 > 1
        · simp only [hlvt, if_true]
          rfl
        · simp only [hlvt, if_false, hnumber, TagFrame.decode, TagFrame.size, Except.map]
      · simp only [h6, h7, hb, if_false, Bool.false_eq_true]
        cases parseLength ((b0 :: rest).drop off) (b0 &&& 0x07) with
        | error e => rfl
        | ok q =>
          obtain ⟨length, n⟩ := q
          dsimp only
          split
          · rfl
          · simp only [TagFrame.decode, TagFrame.size]
            cases parsePrimitive (b0 &&& 0x08 != 0) tagNumber (b0 &&& 0x07)
              (((b0 :: rest).drop (off + n)).take length) limits.normalize <;> rfl

lemma parseFrame_pos {f : TagFrame} (h : parseFrame data = .ok f) : 0 < f.size ∧ 0 < data.length := by
  cases data with
  | nil => cases h
  | cons b0 tail =>
    refine ⟨?_, by simp⟩
    obtain ⟨⟨tagNumber, off⟩, hnumber, h⟩ := Except.bind_eq_ok_iff.mp h
    have hoff := parseTagNumber_pos hnumber
    simp only [Pure.pure, Except.pure] at h
    split_ifs at h
    · cases h
      exact hoff
    · cases h
      exact hoff
    · cases h
    · cases h
      exact hoff
    · obtain ⟨⟨length, n⟩, -, h⟩ := Except.bind_eq_ok_iff.mp h
      simp only at h
      split_ifs at h
      · cases h
      · cases h
        simp only [TagFrame.size]
        omega

/-! ## What follows a tag does not matter -/

lemma parseTagNumber_ok {b0 t : UInt8} {off : Nat} (hdata : data ≠ [])
    (h : parseTagNumber data b0 = .ok (t, off)) :
    t ≠ tagNumberReserved ∧ off ≤ data.length ∧
      ∀ rest, parseTagNumber (data ++ rest) b0 = .ok (t, off) := by
  unfold parseTagNumber at h ⊢
  by_cases hext : b0 >>> 4 = 0x0F
  · simp only [hext, if_true] at h ⊢
    match data, h with
    | [], h => cases h
    | [_], h => cases h
    | b :: ext :: tail, h =>
      simp only at h
      split_ifs at h with hbad
      cases h
      push Not at hbad
      refine ⟨hbad.2, by simp, fun rest => ?_⟩
      simp only [List.cons_append]
      rw [if_neg (by push Not; exact hbad)]
  · simp only [hext, if_false] at h ⊢
    cases h
    have hsmall : b0 >>> 4 ≠ tagNumberReserved :=
      BigEndian.forall_octet (P := fun b => b >>> 4 ≠ tagNumberReserved) (by decide +kernel) b0
    exact ⟨hsmall, List.length_pos_iff.mpr hdata, fun _ => rfl⟩

lemma value_take_le (data : Octets) (k : Nat) : BigEndian.value (data.take k) < 256 ^ k := by
  refine (BigEndian.value_lt _).trans_le (Nat.pow_le_pow_right (by omega) ?_)
  simp

lemma parseLength_ok {lvt : UInt8} {length n : Nat} (h : parseLength data lvt = .ok (length, n)) :
    length ≤ maxUint32 ∧ n ≤ data.length ∧ ∀ rest, parseLength (data ++ rest) lvt = .ok (length, n) := by
  unfold parseLength at h ⊢
  by_cases h5 : lvt < 5
  · simp only [h5, if_true] at h ⊢
    cases h
    have := lvt.toNat_lt
    exact ⟨by norm_num [maxUint32]; omega, by omega, fun _ => rfl⟩
  by_cases he : lvt = 5
  · simp only [if_neg h5, if_pos he] at h ⊢
    cases data with
    | nil => cases h
    | cons ext tail =>
      simp only [List.cons_append] at h ⊢
      by_cases hshort : ext < 254
      · simp only [hshort, if_true] at h ⊢
        cases h
        have := ext.toNat_lt
        exact ⟨by norm_num [maxUint32]; omega, by simp, fun _ => rfl⟩
      by_cases h16 : ext = 254
      · simp only [if_neg hshort, if_pos h16] at h ⊢
        split_ifs at h with hlen
        cases h
        simp only [List.length_cons] at hlen ⊢
        refine ⟨(value_take_le _ 2).le.trans (by norm_num [maxUint32]), by omega, fun rest => ?_⟩
        rw [if_neg (by simp; omega), List.take_append_of_le_length (by omega)]
      · simp only [if_neg hshort, if_neg h16] at h ⊢
        split_ifs at h with hlen hsafe
        cases h
        simp only [List.length_cons] at hlen ⊢
        refine ⟨?_, by omega, fun rest => ?_⟩
        · have := value_take_le tail 4
          norm_num [maxUint32] at this ⊢
          omega
        · rw [if_neg (by simp; omega), List.take_append_of_le_length (by omega), if_neg hsafe]
  · simp only [if_neg h5, if_neg he] at h
    cases h

lemma parseFrame_ok {f : TagFrame} (h : parseFrame data = .ok f) :
    f.Valid ∧ f.size ≤ data.length ∧ ∀ rest, parseFrame (data ++ rest) = .ok f := by
  cases data with
  | nil => cases h
  | cons b0 tail =>
    simp only [parseFrame, List.cons_append] at h ⊢
    cases hnumber : parseTagNumber (b0 :: tail) b0 with
    | error e => simp [hnumber] at h
    | ok p =>
      obtain ⟨tagNumber, off⟩ := p
      obtain ⟨hreserved, hoff, hext⟩ := parseTagNumber_ok (by simp) hnumber
      simp only [List.cons_append] at hext
      simp only [hnumber, hext, Bind.bind, Except.bind, Pure.pure, Except.pure] at h ⊢
      by_cases h6 : (b0 &&& 0x08 != 0 && b0 &&& 0x07 == 6) = true
      · simp only [if_pos h6] at h ⊢
        cases h
        exact ⟨hreserved, hoff, fun _ => rfl⟩
      by_cases h7 : (b0 &&& 0x08 != 0 && b0 &&& 0x07 == 7) = true
      · simp only [if_neg h6, if_pos h7] at h ⊢
        cases h
        exact ⟨hreserved, hoff, fun _ => rfl⟩
      by_cases hb : (!(b0 &&& 0x08 != 0) && tagNumber == tagBoolean) = true
      · simp only [if_neg h6, if_neg h7, if_pos hb] at h ⊢
        split_ifs at h with hlvt
        cases h
        exact ⟨trivial, hoff, fun _ => by rw [if_neg hlvt]⟩
      · simp only [if_neg h6, if_neg h7, if_neg hb] at h ⊢
        cases hlength : parseLength ((b0 :: tail).drop off) (b0 &&& 0x07) with
        | error e => simp [hlength] at h
        | ok q =>
          obtain ⟨length, n⟩ := q
          obtain ⟨hmax, hn, hlext⟩ := parseLength_ok hlength
          simp only [hlength] at h
          split_ifs at h with hlong
          cases h
          rw [List.length_drop] at hn
          have hfit : off + n + length ≤ (b0 :: tail).length := by omega
          refine ⟨⟨hreserved, ?_, ?_⟩, hfit, fun rest => ?_⟩
          · by_contra hcon
            push Not at hcon
            simp [hcon.2, hcon.1] at hb
          · exact (List.length_take_le _ _).trans hmax
          · have hdrop : (b0 :: (tail ++ rest)).drop off = (b0 :: tail).drop off ++ rest := by
              rw [← List.cons_append, List.drop_append_of_le_length hoff]
            have hcontent : ((b0 :: (tail ++ rest)).drop (off + n)).take length =
                ((b0 :: tail).drop (off + n)).take length := by
              rw [← List.cons_append, List.drop_append_of_le_length (by omega),
                List.take_append_of_le_length (by rw [List.length_drop]; omega)]
            rw [hdrop, hlext]
            simp only
            rw [if_neg (by simp only [List.length_cons, List.length_append] at hfit ⊢; omega), hcontent]

/-! ## What is decoded fits -/

lemma decodeObjectIdentifier_range (v : UInt32) :
    (decodeObjectIdentifier v).type ≤ 0x3FF ∧ (decodeObjectIdentifier v).instanceNumber ≤ maxObjectInstance := by
  refine ⟨?_, ?_⟩
  · rw [decodeObjectIdentifier, UInt16.le_iff_toNat_le]
    simp only [UInt32.toNat_toUInt16, UInt32.toNat_shiftRight, UInt32.reduceToNat, Nat.reduceMod,
      Nat.shiftRight_eq_div_pow]
    have := v.toNat_lt
    exact (Nat.mod_le _ _).trans (by simp; omega)
  · rw [decodeObjectIdentifier, UInt32.le_iff_toNat_le]
    simp only [UInt32.toNat_and]
    exact Nat.and_le_right

lemma applicationTag_cases {tag : UInt8} (h : tag ≤ tagObjectIdentifier) :
    tag = tagNull ∨ tag = tagBoolean ∨ tag = tagUnsigned ∨ tag = tagSigned ∨ tag = tagReal ∨ tag = tagDouble ∨
      tag = tagOctetString ∨ tag = tagCharacterString ∨ tag = tagBitString ∨ tag = tagEnumerated ∨ tag = tagDate ∨
      tag = tagTime ∨ tag = tagObjectIdentifier := by
  have hlt : tag.toNat < 13 := Nat.lt_succ_of_le (UInt8.le_iff_toNat_le.mp h)
  obtain ⟨k, hk, rfl⟩ : ∃ k : Nat, k < 13 ∧ tag = UInt8.ofNat k := ⟨tag.toNat, hlt, by simp⟩
  interval_cases k <;> decide

lemma decodeApplicationValue_fits {tag lvt : UInt8} {v : ApplicationValue} {limits : DecodeLimits}
    (h : decodeApplicationValue tag data lvt limits = .ok v) :
    v.Fits limits ∧ (tag ≤ tagObjectIdentifier → v.tagNumber = tag) ∧
      (tagObjectIdentifier < tag → v = .octetString data) := by
  unfold decodeApplicationValue at h
  split at h
  · obtain ⟨-, h⟩ := Except.check_eq_ok_iff.mp h
    cases h
    exact ⟨trivial, fun _ => rfl, fun hlt => absurd hlt (by decide)⟩
  · obtain ⟨-, h⟩ := Except.check_eq_ok_iff.mp h
    cases h
    exact ⟨trivial, fun _ => rfl, fun hlt => absurd hlt (by decide)⟩
  · obtain ⟨u, -, rfl⟩ := Except.map_eq_ok_iff.mp h
    exact ⟨trivial, fun _ => rfl, fun hlt => absurd hlt (by decide)⟩
  · obtain ⟨s, -, rfl⟩ := Except.map_eq_ok_iff.mp h
    exact ⟨trivial, fun _ => rfl, fun hlt => absurd hlt (by decide)⟩
  · obtain ⟨-, h⟩ := Except.check_eq_ok_iff.mp h
    cases h
    exact ⟨trivial, fun _ => rfl, fun hlt => absurd hlt (by decide)⟩
  · obtain ⟨-, h⟩ := Except.check_eq_ok_iff.mp h
    cases h
    exact ⟨trivial, fun _ => rfl, fun hlt => absurd hlt (by decide)⟩
  · obtain ⟨hlen, h⟩ := Except.check_eq_ok_iff.mp h
    cases h
    exact ⟨not_lt.mp hlen, fun _ => rfl, fun _ => rfl⟩
  · cases data with
    | nil => cases h
    | cons encoding value =>
      obtain ⟨hlen, h⟩ := Except.check_eq_ok_iff.mp h
      cases h
      exact ⟨not_lt.mp hlen, fun _ => rfl, fun hlt => absurd hlt (by decide)⟩
  · cases data with
    | nil => cases h
    | cons unused bytes =>
      obtain ⟨_, hvalid, h⟩ := Except.bind_eq_ok_iff.mp h
      obtain ⟨hunused, hvalid⟩ := Except.check_eq_ok_iff.mp hvalid
      obtain ⟨hempty, -⟩ := Except.check_eq_ok_iff.mp hvalid
      obtain ⟨hbits, h⟩ := Except.check_eq_ok_iff.mp h
      cases h
      refine ⟨⟨UInt8.not_lt.mp hunused, fun hnil => ?_, not_lt.mp hbits⟩, fun _ => rfl,
        fun hlt => absurd hlt (by decide)⟩
      by_contra hne
      exact hempty ⟨by rw [show bytes = [] from hnil]; rfl, hne⟩
  · obtain ⟨u, -, h⟩ := Except.bind_eq_ok_iff.mp h
    obtain ⟨-, h⟩ := Except.check_eq_ok_iff.mp h
    cases h
    exact ⟨trivial, fun _ => rfl, fun hlt => absurd hlt (by decide)⟩
  · split at h
    · cases h
      exact ⟨trivial, fun _ => rfl, fun hlt => absurd hlt (by decide)⟩
    · cases h
  · split at h
    · cases h
      exact ⟨trivial, fun _ => rfl, fun hlt => absurd hlt (by decide)⟩
    · cases h
  · obtain ⟨-, h⟩ := Except.check_eq_ok_iff.mp h
    cases h
    exact ⟨decodeObjectIdentifier_range _, fun _ => rfl, fun hlt => absurd hlt (by decide)⟩
  · obtain ⟨hlen, h⟩ := Except.check_eq_ok_iff.mp h
    cases h
    refine ⟨not_lt.mp hlen, fun hle => ?_, fun _ => rfl⟩
    rcases applicationTag_cases hle with rfl | rfl | rfl | rfl | rfl | rfl | rfl | rfl | rfl | rfl | rfl | rfl | rfl <;>
      contradiction

def wireLimits : DecodeLimits where
  maxOctetStringLength := maxUint32
  maxCharacterLength := maxUint32 - 1
  maxBitStringBits := (maxUint32 - 1) * 8

lemma wireLimits_encodable : wireLimits.Encodable := by
  refine ⟨le_rfl, ?_, ?_⟩ <;> norm_num [wireLimits, maxUint32]

lemma decodeApplicationValue_wire {tag lvt : UInt8} {v : ApplicationValue} {limits : DecodeLimits}
    (h : decodeApplicationValue tag data lvt limits = .ok v) (hlen : data.length ≤ maxUint32) :
    decodeApplicationValue tag data lvt wireLimits = .ok v := by
  unfold decodeApplicationValue at h ⊢
  split at h
  all_goals try exact h
  · exact Except.check_eq_ok_iff.mpr ⟨by simp [wireLimits]; omega, (Except.check_eq_ok_iff.mp h).2⟩
  · cases data with
    | nil => cases h
    | cons encoding value =>
      rw [List.length_cons] at hlen
      exact Except.check_eq_ok_iff.mpr ⟨by simp [wireLimits]; omega, (Except.check_eq_ok_iff.mp h).2⟩
  · cases data with
    | nil => cases h
    | cons unused bytes =>
      rw [List.length_cons] at hlen
      obtain ⟨u, hvalid, h⟩ := Except.bind_eq_ok_iff.mp h
      refine Except.bind_eq_ok_iff.mpr ⟨u, hvalid, ?_⟩
      exact Except.check_eq_ok_iff.mpr ⟨by simp [wireLimits]; omega, (Except.check_eq_ok_iff.mp h).2⟩
  · exact Except.check_eq_ok_iff.mpr ⟨by simp [wireLimits]; omega, (Except.check_eq_ok_iff.mp h).2⟩

inductive TagKind (limits : DecodeLimits) : Element → Prop
  | opening (tagNumber : UInt8) (hreserved : tagNumber ≠ tagNumberReserved) :
    TagKind limits (.mk true tagNumber true false .null)
  | closing (tagNumber : UInt8) : TagKind limits (.mk true tagNumber false true .null)
  | app (tagNumber : ApplicationTag) (v : ApplicationValue) (hfits : v.Fits limits) (hwire : v.Fits wireLimits)
      (hkind : tagNumber ≤ tagObjectIdentifier → v.tagNumber = tagNumber)
      (hreserved : tagObjectIdentifier < tagNumber → v.tagNumber = tagOctetString) : TagKind limits (.app tagNumber v)
  | ctx (tagNumber : UInt8) (octets : Octets) (hreserved : tagNumber ≠ tagNumberReserved)
      (hfits : octets.length ≤ limits.maxOctetStringLength) (hwire : octets.length ≤ maxUint32) :
    TagKind limits (.ctx tagNumber octets)

lemma tagKind_decode {f : TagFrame} {limits : DecodeLimits} {el : Element} (hvalid : f.Valid)
    (h : f.decode limits = .ok el) : TagKind limits el := by
  cases f with
  | mark tagNumber opening n =>
    cases h
    cases opening
    · exact .closing tagNumber
    · exact .opening tagNumber hvalid
  | boolean b n =>
    cases h
    exact .app tagBoolean (.boolean b) trivial trivial (fun _ => rfl) (fun hlt => absurd hlt (by decide))
  | primitive context tagNumber lvt content n =>
    obtain ⟨hreserved, -, hlen⟩ := hvalid
    cases context with
    | true =>
      obtain ⟨hfits, h⟩ := Except.check_eq_ok_iff.mp h
      cases h
      exact .ctx tagNumber content hreserved (not_lt.mp hfits) hlen
    | false =>
      obtain ⟨v, hv, rfl⟩ := Except.map_eq_ok_iff.mp h
      obtain ⟨hfits, hkind, hoctets⟩ := decodeApplicationValue_fits hv
      have hwire := (decodeApplicationValue_fits (decodeApplicationValue_wire hv hlen)).1
      exact .app tagNumber v hfits hwire hkind fun hlt => by rw [hoctets hlt]; rfl

end GoBacnet.Proofs
