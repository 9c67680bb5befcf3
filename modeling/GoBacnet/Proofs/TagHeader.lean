import GoBacnet.Proofs.TagContent

/-!
# One tag

The header written by `encodeTagHeader` is read back by `parseTag` for every tag number and
each of the length forms, whatever follows the tag.
-/

namespace GoBacnet.Proofs

open BigEndian

def initialOctet (context : Bool) (tagNumber lvt : UInt8) : UInt8 :=
  let b0 : UInt8 := if tagNumber < 15 then tagNumber <<< 4 else 0xF0
  (if context then b0 ||| 0x08 else b0) ||| lvt

def extendedTag (tagNumber : UInt8) : Octets := if tagNumber < 15 then [] else [tagNumber]

def lengthField (length : Nat) : UInt8 := if length < 5 then UInt8.ofNat length else 5

def extendedLength (length : Nat) : Octets :=
  if length < 5 then []
  else if length < 254 then [UInt8.ofNat length]
  else if length ≤ maxUint16 then 254 :: octets 2 length
  else 255 :: octets 4 length

lemma encodeTagHeader_eq (context : Bool) (tagNumber : UInt8) {length : Nat}
    (h : length ≤ maxUint32) :
    encodeTagHeader context tagNumber length =
      .ok (initialOctet context tagNumber (lengthField length) ::
        (extendedTag tagNumber ++ extendedLength length)) := by
  unfold encodeTagHeader
  rw [if_neg (by omega)]
  unfold initialOctet extendedTag lengthField extendedLength
  by_cases h5 : length < 5
  · simp [h5]
  · by_cases h254 : length < 254
    · simp [h5, h254]
    · by_cases h16 : length ≤ maxUint16
      · simp [h5, h254, h16]
      · simp [h5, h254, h16]

lemma encodeTagHeader_ok {context : Bool} {tagNumber : UInt8} {length : Nat} {hdr : Octets}
    (h : encodeTagHeader context tagNumber length = .ok hdr) : length ≤ maxUint32 := by
  by_contra hlen
  simp [encodeTagHeader, Nat.lt_of_not_le hlen] at h

lemma initialOctet_fields (context : Bool) (tagNumber : UInt8) {lvt : UInt8} (hlvt : lvt < 8) :
    initialOctet context tagNumber lvt >>> 4 = (if tagNumber < 15 then tagNumber else 15) ∧
      (initialOctet context tagNumber lvt &&& 0x08 != 0) = context ∧
      initialOctet context tagNumber lvt &&& 0x07 = lvt := by
  have hsmall : ∀ (c : Bool) (t : Fin 15) (l : Fin 8),
      let b0 : UInt8 := (if c then (UInt8.ofNat t.val <<< 4) ||| 0x08 else UInt8.ofNat t.val <<< 4) |||
        UInt8.ofNat l.val
      b0 >>> 4 = UInt8.ofNat t.val ∧ (b0 &&& 0x08 != 0) = c ∧ b0 &&& 0x07 = UInt8.ofNat l.val := by
    decide +kernel
  have hlarge : ∀ (c : Bool) (l : Fin 8),
      let b0 : UInt8 := (if c then 0xF0 ||| 0x08 else 0xF0) ||| UInt8.ofNat l.val
      b0 >>> 4 = 15 ∧ (b0 &&& 0x08 != 0) = c ∧ b0 &&& 0x07 = UInt8.ofNat l.val := by
    decide +kernel
  have hl : lvt.toNat < 8 := UInt8.lt_iff_toNat_lt.mp hlvt
  unfold initialOctet
  by_cases ht : tagNumber < 15
  · have ht' : tagNumber.toNat < 15 := UInt8.lt_iff_toNat_lt.mp ht
    simpa [ht] using hsmall context ⟨tagNumber.toNat, ht'⟩ ⟨lvt.toNat, hl⟩
  · simpa [ht] using hlarge context ⟨lvt.toNat, hl⟩

lemma parseTagNumber_initialOctet (context : Bool) (tagNumber : UInt8) {lvt : UInt8} (hlvt : lvt < 8)
    (hreserved : tagNumber ≠ tagNumberReserved) (rest : Octets) :
    parseTagNumber (initialOctet context tagNumber lvt :: (extendedTag tagNumber ++ rest))
        (initialOctet context tagNumber lvt) =
      .ok (tagNumber, 1 + (extendedTag tagNumber).length) := by
  obtain ⟨hnumber, -, -⟩ := initialOctet_fields context tagNumber hlvt
  unfold parseTagNumber extendedTag
  rw [hnumber]
  by_cases ht : tagNumber < 15
  · have hne : tagNumber ≠ 15 := by
      rintro rfl
      exact absurd ht (by decide)
    simp [ht, hne]
  · simp [ht, hreserved]

lemma parseLength_extendedLength {length : Nat} (h : length ≤ maxUint32) (rest : Octets) :
    parseLength (extendedLength length ++ rest) (lengthField length) =
      .ok (length, (extendedLength length).length) := by
  unfold parseLength extendedLength lengthField
  by_cases h5 : length < 5
  · have hlt : UInt8.ofNat length < 5 := by
      rw [UInt8.lt_iff_toNat_lt, UInt8.toNat_ofNat']
      exact (Nat.mod_le _ _).trans_lt h5
    simp [h5, hlt]
    omega
  · by_cases h254 : length < 254
    · have hlt : UInt8.ofNat length < 254 := by
        rw [UInt8.lt_iff_toNat_lt, UInt8.toNat_ofNat']
        exact (Nat.mod_le _ _).trans_lt h254
      simp [h5, h254, hlt]
      omega
    · by_cases h16 : length ≤ maxUint16
      · have hval : value (octets 2 length) = length :=
          value_octets_of_lt (by norm_num [maxUint16] at h16 ⊢; omega)
        have hfull : ¬ 2 + rest.length + 1 < 3 := by omega
        simp [h5, h254, h16, hval, hfull]
      · have hval : value (octets 4 length) = length :=
          value_octets_of_lt (by norm_num [maxUint32] at h ⊢; omega)
        have hfull : ¬ 4 + rest.length + 1 < 5 := by omega
        have hsafe : ¬ maxSafe < length := by
          norm_num [maxUint32, maxSafe] at h ⊢
          omega
        simp [h5, h254, h16, hval, hfull, hsafe]

/-- A primitive tag is read back from its header and value, whatever follows. An application
BOOLEAN has no value octets and is not of this form. -/
theorem parseTag_primitive {context : Bool} {tagNumber : UInt8} {content hdr : Octets}
    (hhdr : encodeTagHeader context tagNumber content.length = .ok hdr)
    (hreserved : tagNumber ≠ tagNumberReserved) (hbool : context = true ∨ tagNumber ≠ tagBoolean)
    (rest : Octets) (limits : DecodeLimits) :
    parseTag (hdr ++ content ++ rest) limits =
      (parsePrimitive context tagNumber (lengthField content.length) content limits.normalize).map
        fun el => (el, hdr.length + content.length) := by
  have hlen := encodeTagHeader_ok hhdr
  rw [encodeTagHeader_eq _ _ hlen] at hhdr
  cases hhdr
  have hlvt : lengthField content.length < 6 := by
    unfold lengthField
    split
    · rw [UInt8.lt_iff_toNat_lt, UInt8.toNat_ofNat']
      exact (Nat.mod_le _ _).trans_lt (by simp; omega)
    · decide
  have hlvt8 : lengthField content.length < 8 := UInt8.lt_trans hlvt (by decide)
  have h6 : (lengthField content.length == 6) = false := by simpa using UInt8.ne_of_lt hlvt
  have h7 : (lengthField content.length == 7) = false := by
    simpa using UInt8.ne_of_lt (UInt8.lt_trans hlvt (by decide : (6 : UInt8) < 7))
  have hb : (!context && tagNumber == tagBoolean) = false := by
    rcases hbool with rfl | hne
    · rfl
    · simp [hne]
  obtain ⟨-, hcontext, hfield⟩ := initialOctet_fields context tagNumber hlvt8
  have hnumber := parseTagNumber_initialOctet context tagNumber hlvt8 hreserved
    (extendedLength content.length ++ (content ++ rest))
  simp only [List.cons_append, List.append_assoc, parseTag, hnumber, hcontext, hfield, h6, h7, hb,
    Bind.bind, Except.bind, Pure.pure, Except.pure, Bool.and_false, Bool.false_eq_true, if_false]
  have hdrop (tail : Octets) :
      (initialOctet context tagNumber (lengthField content.length) :: (extendedTag tagNumber ++ tail)).drop
        (1 + (extendedTag tagNumber).length) = tail := by
    rw [Nat.add_comm, List.drop_succ_cons, List.drop_left]
  rw [hdrop, parseLength_extendedLength hlen]
  have hcontent (b : UInt8) : List.take content.length (List.drop
      (1 + (extendedTag tagNumber).length + (extendedLength content.length).length)
      (b :: (extendedTag tagNumber ++ (extendedLength content.length ++ (content ++ rest))))) = content := by
    rw [show 1 + (extendedTag tagNumber).length + (extendedLength content.length).length =
      (extendedTag tagNumber ++ extendedLength content.length).length + 1 by simp; omega,
      List.drop_succ_cons, ← List.append_assoc, List.drop_left, List.take_left]
  dsimp only
  rw [if_neg (by simp; omega), hcontent]
  cases parsePrimitive context tagNumber (lengthField content.length) content limits.normalize with
  | error e => rfl
  | ok el =>
    simp only [Except.map, List.length_cons, List.length_append]
    congr 2
    omega

theorem parseTag_openClose {tagNumber : UInt8} (hreserved : tagNumber ≠ tagNumberReserved)
    (opening : Bool) (rest : Octets) (limits : DecodeLimits) :
    parseTag (appendContextOpenClose [] tagNumber opening ++ rest) limits =
      .ok (.mk true tagNumber opening (!opening) .null,
        (appendContextOpenClose [] tagNumber opening).length) := by
  have hocts : appendContextOpenClose [] tagNumber opening =
      initialOctet true tagNumber (if opening then 6 else 7) :: extendedTag tagNumber := by
    unfold appendContextOpenClose initialOctet extendedTag
    by_cases ht : tagNumber < 15 <;> simp [ht]
  have hlvt : (if opening then 6 else 7 : UInt8) < 8 := by cases opening <;> decide
  obtain ⟨-, hcontext, hfield⟩ := initialOctet_fields true tagNumber hlvt
  have hnumber := parseTagNumber_initialOctet true tagNumber hlvt hreserved rest
  rw [hocts]
  simp only [List.cons_append, parseTag, hnumber, hcontext, hfield, Bind.bind, Except.bind, Pure.pure,
    Except.pure]
  cases opening <;> simp [Nat.add_comm]

theorem parseTag_boolean (b : Bool) (rest : Octets) (limits : DecodeLimits) :
    parseTag ((if b then (tagBoolean <<< 4) ||| 1 else tagBoolean <<< 4) :: rest) limits =
      .ok (.app tagBoolean (.boolean b), 1) := by
  cases b <;> rfl

end GoBacnet.Proofs
