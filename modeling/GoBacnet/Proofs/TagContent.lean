import GoBacnet.Constructed

/-!
# Content octets of primitive values

Every primitive content encoder is inverted by its decoder: unsigned and signed integers of
every width, and object identifiers.
-/

namespace GoBacnet.Proofs

open BigEndian

lemma bitVec_shift_or (x : BitVec 64) (b : BitVec 8) :
    (x <<< 8) ||| b.setWidth 64 = x * 256#64 + b.setWidth 64 := by
  have hdisj : (x <<< 8) &&& (b.setWidth 64) = 0#64 := by
    ext i hi
    simp only [BitVec.getElem_and, BitVec.getElem_shiftLeft, BitVec.getElem_setWidth]
    by_cases h : i < 8
    · simp [h]
    · simp [BitVec.getLsbD_of_ge _ _ (by omega : 8 ≤ i)]
  rw [← BitVec.add_eq_or_of_and_eq_zero _ _ hdisj, BitVec.shiftLeft_eq_mul_twoPow]
  rfl

lemma uint64_shift_or (u : UInt64) (b : UInt8) :
    (u <<< 8) ||| b.toUInt64 = u * 256 + b.toUInt64 := by
  apply UInt64.toBitVec_inj.mp
  simpa using bitVec_shift_or u.toBitVec b.toBitVec

lemma int64_shift_or (s : Int64) (b : UInt8) :
    (s <<< 8) ||| Int64.ofNat b.toNat = s * 256 + Int64.ofNat b.toNat := by
  apply Int64.toBitVec_inj.mp
  have hwidth : BitVec.setWidth 64 b.toBitVec = BitVec.ofNat 64 b.toNat := by
    apply BitVec.eq_of_toNat_eq
    simp
  have h := bitVec_shift_or s.toBitVec b.toBitVec
  rw [hwidth] at h
  simpa using h

/-! ## Unsigned integers -/

lemma foldl_unsigned (bs : Octets) (acc : Nat) :
    bs.foldl (fun (u : UInt64) b => (u <<< 8) ||| b.toUInt64) (UInt64.ofNat acc) =
      UInt64.ofNat (valueFrom acc bs) := by
  induction bs generalizing acc with
  | nil => rfl
  | cons b bs ih =>
    have hstep : (UInt64.ofNat acc <<< 8) ||| b.toUInt64 = UInt64.ofNat (acc * 256 + b.toNat) := by
      rw [uint64_shift_or, UInt64.ofNat_add, UInt64.ofNat_mul, UInt64.ofNat_uInt8ToNat]
      rfl
    rw [List.foldl_cons, hstep, ih]
    rfl

lemma decodeUnsigned_eq {bs : Octets} (hpos : 0 < bs.length) (hlen : bs.length ≤ 8) :
    decodeUnsigned bs = .ok (UInt64.ofNat (value bs)) := by
  unfold decodeUnsigned
  rw [if_neg (by omega)]
  congr 1
  exact foldl_unsigned bs 0

lemma value_skipZeros (bs tmp : Octets) :
    value (bs.foldl (fun tmp b => if tmp ≠ [] ∨ b ≠ 0 then tmp ++ [b] else tmp) tmp) =
      valueFrom (value tmp) bs := by
  induction bs generalizing tmp with
  | nil => rfl
  | cons b bs ih =>
    rw [List.foldl_cons, ih]
    have hcons : valueFrom (value tmp) (b :: bs) = valueFrom (value tmp * 256 + b.toNat) bs := rfl
    rw [hcons]
    congr 1
    split
    · simp [value, valueFrom]
    · next h =>
      push Not at h
      obtain ⟨rfl, rfl⟩ := h
      rfl

lemma length_skipZeros (bs tmp : Octets) :
    (bs.foldl (fun tmp b => if tmp ≠ [] ∨ b ≠ 0 then tmp ++ [b] else tmp) tmp).length ≤
      tmp.length + bs.length := by
  induction bs generalizing tmp with
  | nil => simp
  | cons b bs ih =>
    rw [List.foldl_cons]
    refine (ih _).trans ?_
    split
    · simp
      omega
    · simp

lemma shifted_octets (u : UInt64) :
    ([7, 6, 5, 4, 3, 2, 1, 0].map fun i : UInt64 => (u >>> (i * 8)).toUInt8) = octets 8 u.toNat := by
  have hshift (k : UInt64) (w : Nat) (hk : k.toNat % 64 = 8 * w) :
      (u >>> k).toUInt8 = UInt8.ofNat (u.toNat / 256 ^ w) := by
    rw [← UInt8.ofNat_uInt64ToNat, UInt64.toNat_shiftRight, hk, Nat.shiftRight_eq_div_pow, Nat.pow_mul]
  simp only [List.map_cons, List.map_nil, octets]
  rw [hshift _ 7 rfl, hshift _ 6 rfl, hshift _ 5 rfl, hshift _ 4 rfl, hshift _ 3 rfl, hshift _ 2 rfl,
    hshift _ 1 rfl, hshift _ 0 rfl]

lemma value_encodeUnsigned (u : UInt64) : value (encodeUnsigned u) = u.toNat := by
  unfold encodeUnsigned
  split
  · next h => subst h; rfl
  · rw [shifted_octets, value_skipZeros]
    exact value_octets_of_lt (by simpa using u.toNat_lt)

lemma length_encodeUnsigned (u : UInt64) :
    0 < (encodeUnsigned u).length ∧ (encodeUnsigned u).length ≤ 8 := by
  constructor
  · apply List.length_pos_iff.mpr
    intro hnil
    have hval := value_encodeUnsigned u
    rw [hnil] at hval
    have hu : u = 0 := UInt64.toNat_inj.mp hval.symm
    simp [encodeUnsigned, hu] at hnil
  · unfold encodeUnsigned
    split
    · simp
    · exact (length_skipZeros _ _).trans (by simp)

lemma le_value_skipZeros (bs tmp : Octets) (htmp : tmp ≠ [] → 256 ^ (tmp.length - 1) ≤ value tmp) :
    bs.foldl (fun tmp b => if tmp ≠ [] ∨ b ≠ 0 then tmp ++ [b] else tmp) tmp ≠ [] →
      256 ^ ((bs.foldl (fun tmp b => if tmp ≠ [] ∨ b ≠ 0 then tmp ++ [b] else tmp) tmp).length - 1) ≤
        value (bs.foldl (fun tmp b => if tmp ≠ [] ∨ b ≠ 0 then tmp ++ [b] else tmp) tmp) := by
  induction bs generalizing tmp with
  | nil => exact htmp
  | cons b bs ih =>
    rw [List.foldl_cons]
    refine ih _ ?_
    split_ifs with hb
    · intro _
      have hvalue : value (tmp ++ [b]) = value tmp * 256 + b.toNat := by simp [value, valueFrom]
      rw [hvalue, List.length_append, List.length_singleton, Nat.add_sub_cancel]
      by_cases hnil : tmp = []
      · have hpos : b.toNat ≠ 0 := fun h => hb.resolve_left (not_not.mpr hnil) (UInt8.toNat_inj.mp h)
        simp only [hnil, List.length_nil, pow_zero]
        omega
      · have hlen : tmp.length = tmp.length - 1 + 1 := by
          have := List.length_pos_iff.mpr hnil
          omega
        have hle := htmp hnil
        rw [hlen, pow_succ]
        omega
    · exact htmp

lemma length_encodeUnsigned_mono {u v : UInt64} (h : u ≤ v) : (encodeUnsigned u).length ≤ (encodeUnsigned v).length := by
  have hvpos := (length_encodeUnsigned v).1
  by_cases hu : u = 0
  · exact hu ▸ hvpos
  · have hmin : 256 ^ ((encodeUnsigned u).length - 1) ≤ u.toNat := by
      have hne : encodeUnsigned u ≠ [] := List.length_pos_iff.mp (length_encodeUnsigned u).1
      rw [← value_encodeUnsigned u]
      unfold encodeUnsigned at hne ⊢
      rw [if_neg hu] at hne ⊢
      exact le_value_skipZeros _ [] (fun hnil => absurd rfl hnil) hne
    have hlt : v.toNat < 256 ^ (encodeUnsigned v).length := value_encodeUnsigned v ▸ value_lt _
    have hpow := hmin.trans_lt ((UInt64.le_iff_toNat_le.mp h).trans_lt hlt)
    have := (Nat.pow_lt_pow_iff_right (show 1 < 256 by decide)).mp hpow
    omega

theorem decodeUnsigned_encodeUnsigned (u : UInt64) : decodeUnsigned (encodeUnsigned u) = .ok u := by
  obtain ⟨hpos, hlen⟩ := length_encodeUnsigned u
  rw [decodeUnsigned_eq hpos hlen, value_encodeUnsigned, UInt64.ofNat_toNat]

/-! ## Signed integers -/

def intFrom (acc : Int) (bs : Octets) : Int := bs.foldl (fun s b => s * 256 + b.toNat) acc

lemma intFrom_eq (bs : Octets) (acc : Int) (n : Nat) :
    intFrom (acc + n) bs = acc * 256 ^ bs.length + valueFrom n bs := by
  induction bs generalizing acc n with
  | nil => simp [intFrom, valueFrom]
  | cons b bs ih =>
    have hcons : intFrom (acc + n) (b :: bs) = intFrom (acc * 256 + (n * 256 + b.toNat : Nat)) bs := by
      simp only [intFrom, List.foldl_cons]
      congr 1
      push_cast
      ring
    rw [hcons, ih, List.length_cons, pow_succ]
    simp only [valueFrom, List.foldl_cons]
    ring

lemma foldl_signed (bs : Octets) (acc : Int) :
    bs.foldl (fun (s : Int64) b => (s <<< 8) ||| Int64.ofNat b.toNat) (Int64.ofInt acc) =
      Int64.ofInt (intFrom acc bs) := by
  induction bs generalizing acc with
  | nil => rfl
  | cons b bs ih =>
    have hstep : (Int64.ofInt acc <<< 8) ||| Int64.ofNat b.toNat = Int64.ofInt (acc * 256 + b.toNat) := by
      rw [int64_shift_or, Int64.ofInt_add, Int64.ofInt_mul]
      rfl
    rw [List.foldl_cons, hstep, ih]
    rfl

def signExtend (first : UInt8) : Int := if 128 ≤ first.toNat then first.toNat - 256 else first.toNat

lemma signExtend_eq : ∀ first : UInt8,
    (if Int64.ofNat first.toNat ≥ 0x80 then Int64.ofNat first.toNat - 0x100
      else Int64.ofNat first.toNat) = Int64.ofInt (signExtend first) := by
  have h : ∀ k : Fin 256,
      (if Int64.ofNat k.val ≥ 0x80 then Int64.ofNat k.val - 0x100 else Int64.ofNat k.val) =
        Int64.ofInt (if 128 ≤ k.val then (k.val : Int) - 256 else k.val) := by decide +kernel
  intro first
  exact h ⟨first.toNat, first.toNat_lt⟩

lemma decodeSigned_eq {first : UInt8} {rest : Octets} (hlen : rest.length ≤ 7) :
    decodeSigned (first :: rest) = .ok (Int64.ofInt (intFrom (signExtend first) rest)) := by
  have h : ¬ (first :: rest).length > 8 := by simp; omega
  simp only [decodeSigned, if_neg h]
  rw [signExtend_eq, foldl_signed]

/-- Reading back `w + 1` octets of `v` modulo `256 ^ (w + 1)` gives `v` when it is in the
signed range of that width. -/
lemma intFrom_octets (w : Nat) (v : Int) (hlo : -(128 * 256 ^ w : Int) ≤ v) (hhi : v < 128 * 256 ^ w) :
    intFrom (signExtend (UInt8.ofNat ((v % 256 ^ (w + 1)).toNat / 256 ^ w)))
      (octets w (v % 256 ^ (w + 1)).toNat) = v := by
  have hpow : (0 : Int) < 256 ^ w := by positivity
  have hmod : (0 : Int) < 256 ^ (w + 1) := by positivity
  have hsucc : (256 : Int) ^ (w + 1) = 256 ^ w * 256 := pow_succ _ _
  obtain ⟨n, hn⟩ : ∃ n : Nat, v % 256 ^ (w + 1) = n := Int.eq_ofNat_of_zero_le (Int.emod_nonneg v hmod.ne')
  have hcases : (v : Int) = n ∧ (n : Int) < 128 * 256 ^ w ∨
      v = n - 256 ^ (w + 1) ∧ (128 * 256 ^ w : Int) ≤ n := by
    rcases le_or_gt 0 v with h0 | h0
    · left
      have heq : v % 256 ^ (w + 1) = v := Int.emod_eq_of_lt h0 (by omega)
      omega
    · right
      have heq : (v + 256 ^ (w + 1)) % 256 ^ (w + 1) = v + 256 ^ (w + 1) :=
        Int.emod_eq_of_lt (by omega) (by omega)
      rw [Int.add_emod_right] at heq
      omega
  have hlt : n < 256 ^ w * 256 := by
    have := Int.emod_lt_of_pos v hmod
    rw [hn, hsucc] at this
    exact_mod_cast this
  have hfirst : (UInt8.ofNat (n / 256 ^ w)).toNat = n / 256 ^ w := by
    simpa using Nat.mod_eq_of_lt (Nat.div_lt_of_lt_mul hlt)
  have hdecomp : (256 ^ w : Int) * (n / 256 ^ w : Nat) + (n % 256 ^ w : Nat) = n := by
    exact_mod_cast Nat.div_add_mod n (256 ^ w)
  have hsign : 128 ≤ n / 256 ^ w ↔ (128 * 256 ^ w : Int) ≤ n := by
    rw [Nat.le_div_iff_mul_le (by positivity)]
    exact_mod_cast Iff.rfl
  rw [hn, Int.toNat_natCast]
  have hread := intFrom_eq (octets w n) (signExtend (UInt8.ofNat (n / 256 ^ w))) 0
  rw [Nat.cast_zero, add_zero, length_octets, valueFrom_octets] at hread
  rw [hread]
  simp only [signExtend, hfirst, Nat.zero_mul, Nat.zero_add]
  rcases hcases with ⟨hv, hsmall⟩ | ⟨hv, hbig⟩
  · rw [if_neg (by rw [hsign]; omega), hv]
    linarith
  · rw [if_pos (hsign.mpr hbig), hv, hsucc]
    linarith

lemma signedWidth_spec (v : Int64) :
    ∃ w, signedWidth v = w + 1 ∧ w ≤ 7 ∧ -(128 * 256 ^ w : Int) ≤ v.toInt ∧ v.toInt < 128 * 256 ^ w := by
  unfold signedWidth
  cases hf : List.find? _ [1, 2, 3, 4, 5, 6, 7] with
  | none =>
    refine ⟨7, rfl, le_rfl, ?_, ?_⟩
    · have := v.le_toInt
      norm_num at this ⊢
      omega
    · have := v.toInt_lt
      norm_num at this ⊢
      omega
  | some width =>
    have hrange := List.find?_some hf
    have hmem := List.mem_of_find?_eq_some hf
    have hw : 1 ≤ width ∧ width ≤ 7 := by
      fin_cases hmem <;> simp
    obtain ⟨w, rfl⟩ : ∃ w, width = w + 1 := ⟨width - 1, by omega⟩
    have hpow : (2 : Int) ^ (8 * (w + 1) - 1) = 128 * 256 ^ w := by
      rw [show 8 * (w + 1) - 1 = 7 + 8 * w by omega, pow_add, pow_mul]
      norm_num
    simp only [decide_eq_true_eq, hpow] at hrange
    exact ⟨w, rfl, by omega, hrange.1, hrange.2⟩

lemma uint8_ofInt_eq {a : Int} {n : Nat} (h : a % 256 = n % 256) : UInt8.ofInt a = UInt8.ofNat n := by
  apply UInt8.toNat_inj.mp
  rw [UInt8.toNat_ofNat']
  simp [UInt8.ofInt]
  omega

lemma shifted_octets_int (x : Int) (m w : Nat) (hw : w ≤ m) :
    ((List.range w).map fun i => UInt8.ofInt (x >>> ((w - 1 - i) * 8))) =
      octets w (x % 256 ^ m).toNat := by
  induction w with
  | zero => rfl
  | succ w ih =>
    have hhead : x >>> (w * 8) % 256 = ((x % 256 ^ m).toNat / 256 ^ w : Nat) % 256 := by
      have hpos : (0 : Int) < 256 ^ m := by positivity
      have hnn : 0 ≤ x % 256 ^ m := Int.emod_nonneg _ hpos.ne'
      have hsplit : (256 : Int) ^ m = 256 ^ w * (256 * 256 ^ (m - w - 1)) := by
        rw [← pow_succ', ← pow_add]
        congr 1
        omega
      rw [Int.shiftRight_eq_div_pow, Nat.mul_comm, Nat.pow_mul]
      push_cast
      rw [Int.toNat_of_nonneg hnn]
      conv_lhs => rw [← Int.emod_add_mul_ediv x (256 ^ m)]
      rw [hsplit, mul_assoc, Int.add_mul_ediv_left _ _ (by positivity), mul_assoc,
        Int.add_mul_emod_self_left]
    rw [List.range_succ_eq_map, List.map_cons, List.map_map, octets, ← ih (by omega)]
    congr 1
    · exact uint8_ofInt_eq (by simpa using hhead)
    · apply List.map_congr_left
      intro i _
      simp only [Function.comp]
      congr 3
      omega

theorem decodeSigned_encodeSigned (v : Int64) : decodeSigned (encodeSigned v) = .ok v := by
  obtain ⟨w, hwidth, hw, hlo, hhi⟩ := signedWidth_spec v
  have henc : encodeSigned v = octets (w + 1) (v.toInt % 256 ^ (w + 1)).toNat := by
    unfold encodeSigned
    rw [hwidth]
    exact shifted_octets_int v.toInt (w + 1) (w + 1) le_rfl
  rw [henc, octets, decodeSigned_eq (by simpa using hw), intFrom_octets w _ hlo hhi, Int64.ofInt_toInt]

lemma length_encodeSigned (v : Int64) : (encodeSigned v).length ≤ 8 := by
  obtain ⟨w, hwidth, hw, -⟩ := signedWidth_spec v
  simp [encodeSigned, hwidth]
  omega

/-! ## Object identifiers -/

lemma encodeObjectIdentifier_eq {id : ObjectIdentifier} (htype : id.type ≤ 0x3FF)
    (hinst : id.instanceNumber ≤ maxObjectInstance) :
    encodeObjectIdentifier id = .ok ((id.type.toUInt32 <<< 22) ||| id.instanceNumber) := by
  unfold encodeObjectIdentifier
  rw [if_neg (UInt16.not_lt.mpr htype), if_neg (UInt32.not_lt.mpr hinst)]

/-- A type of 10 bits and an instance of 22 bits are packed without overlap. -/
theorem decodeObjectIdentifier_pack {id : ObjectIdentifier} (htype : id.type ≤ 0x3FF)
    (hinst : id.instanceNumber ≤ maxObjectInstance) :
    decodeObjectIdentifier ((id.type.toUInt32 <<< 22) ||| id.instanceNumber) = id := by
  obtain ⟨t, n⟩ := id
  have ht : t.toNat ≤ 0x3FF := UInt16.le_iff_toNat_le.mp htype
  have hn : n.toNat ≤ 0x3FFFFF := UInt32.le_iff_toNat_le.mp hinst
  have hpack : ((t.toUInt32 <<< 22) ||| n).toNat = t.toNat * 2 ^ 22 + n.toNat := by
    rw [UInt32.toNat_or, UInt32.toNat_shiftLeft, UInt16.toNat_toUInt32,
      show (22 : UInt32).toNat % 32 = 22 from rfl, Nat.shiftLeft_eq, Nat.mod_eq_of_lt (by omega),
      ← Nat.shiftLeft_eq, ← Nat.shiftLeft_add_eq_or_of_lt (by omega)]
  unfold decodeObjectIdentifier
  congr 1
  · apply UInt16.toNat_inj.mp
    rw [UInt32.toNat_toUInt16, UInt32.toNat_shiftRight, hpack, Nat.shiftRight_eq_div_pow,
      show (22 : UInt32).toNat % 32 = 22 from rfl]
    omega
  · apply UInt32.toNat_inj.mp
    rw [UInt32.toNat_and, hpack, show maxObjectInstance.toNat = 2 ^ 22 - 1 from rfl,
      Nat.and_two_pow_sub_one_eq_mod]
    omega

end GoBacnet.Proofs
