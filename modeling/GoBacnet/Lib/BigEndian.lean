import Mathlib.Tactic

/-!
# Big-endian octet strings

Fixed-width big-endian octets of a natural number, and the value of an octet string
read most significant octet first.
-/

namespace BigEndian

/-- The `w` least significant octets of `n`, most significant octet first. -/
def octets : Nat → Nat → List UInt8
  | 0, _ => []
  | w + 1, n => UInt8.ofNat (n / 256 ^ w) :: octets w n

def valueFrom (acc : Nat) (bs : List UInt8) : Nat :=
  bs.foldl (fun n b => n * 256 + b.toNat) acc

def value (bs : List UInt8) : Nat := valueFrom 0 bs

@[simp] lemma length_octets (w n : Nat) : (octets w n).length = w := by
  induction w with
  | zero => rfl
  | succ w ih => simp [octets, ih]

lemma valueFrom_octets (w n acc : Nat) :
    valueFrom acc (octets w n) = acc * 256 ^ w + n % 256 ^ w := by
  induction w generalizing acc with
  | zero => simp [octets, valueFrom, Nat.mod_one]
  | succ w ih =>
    have hcons : valueFrom acc (octets (w + 1) n) =
        valueFrom (acc * 256 + n / 256 ^ w % 256) (octets w n) := by
      simp [octets, valueFrom]
    have hsplit : n % 256 ^ (w + 1) = 256 ^ w * (n / 256 ^ w % 256) + n % 256 ^ w := by
      rw [Nat.pow_succ, Nat.mod_mul]
      omega
    rw [hcons, ih, hsplit, Nat.pow_succ]
    ring

theorem value_octets (w n : Nat) : value (octets w n) = n % 256 ^ w := by
  simp [value, valueFrom_octets]

theorem value_octets_of_lt {w n : Nat} (h : n < 256 ^ w) : value (octets w n) = n := by
  rw [value_octets, Nat.mod_eq_of_lt h]

lemma valueFrom_lt (bs : List UInt8) (acc : Nat) :
    valueFrom acc bs < (acc + 1) * 256 ^ bs.length := by
  induction bs generalizing acc with
  | nil => simp [valueFrom]
  | cons b bs ih =>
    have hb : b.toNat < 256 := b.toNat_lt
    have hstep := ih (acc * 256 + b.toNat)
    have hle : acc * 256 + b.toNat + 1 ≤ (acc + 1) * 256 := by omega
    calc valueFrom acc (b :: bs) = valueFrom (acc * 256 + b.toNat) bs := rfl
      _ < (acc * 256 + b.toNat + 1) * 256 ^ bs.length := hstep
      _ ≤ (acc + 1) * 256 * 256 ^ bs.length := Nat.mul_le_mul_right _ hle
      _ = (acc + 1) * 256 ^ (b :: bs).length := by
        rw [List.length_cons, Nat.pow_succ]
        ring

lemma value_lt (bs : List UInt8) : value bs < 256 ^ bs.length := by
  simpa [value] using valueFrom_lt bs 0

lemma forall_octet {P : UInt8 → Prop} (h : ∀ k : Fin 256, P (UInt8.ofNat k.val)) (b : UInt8) : P b := by
  simpa using h ⟨b.toNat, b.toNat_lt⟩

/-! ## Words of two octets -/

/-- The word of two octets, most significant octet first. -/
def uint16 (hi lo : UInt8) : UInt16 := (hi.toUInt16 <<< 8) ||| lo.toUInt16

def octets16 (v : UInt16) : List UInt8 := [(v >>> 8).toUInt8, v.toUInt8]

lemma toNat_uint16 (hi lo : UInt8) : (uint16 hi lo).toNat = hi.toNat * 256 + lo.toNat := by
  have hhi := hi.toNat_lt
  have hlo := lo.toNat_lt
  rw [uint16, UInt16.toNat_or, UInt16.toNat_shiftLeft, UInt8.toNat_toUInt16, UInt8.toNat_toUInt16]
  have hshift : hi.toNat <<< (UInt16.toNat 8 % 16) % 2 ^ 16 = hi.toNat <<< 8 := by
    rw [Nat.shiftLeft_eq, Nat.shiftLeft_eq]
    exact Nat.mod_eq_of_lt (by simp; omega)
  rw [hshift, ← Nat.shiftLeft_add_eq_or_of_lt hlo, Nat.shiftLeft_eq]

@[simp] lemma uint16_octets (v : UInt16) : uint16 (v >>> 8).toUInt8 v.toUInt8 = v := by
  apply UInt16.toNat_inj.mp
  have hv := v.toNat_lt
  rw [toNat_uint16, UInt16.toNat_toUInt8, UInt16.toNat_toUInt8, UInt16.toNat_shiftRight]
  simp only [UInt16.reduceToNat, Nat.reduceMod, Nat.shiftRight_eq_div_pow]
  omega

@[simp] lemma octets16_uint16 (hi lo : UInt8) : octets16 (uint16 hi lo) = [hi, lo] := by
  have hhi := hi.toNat_lt
  have hlo := lo.toNat_lt
  have hhead : ((uint16 hi lo) >>> 8).toUInt8 = hi := by
    apply UInt8.toNat_inj.mp
    rw [UInt16.toNat_toUInt8, UInt16.toNat_shiftRight, toNat_uint16]
    simp only [UInt16.reduceToNat, Nat.reduceMod, Nat.shiftRight_eq_div_pow]
    omega
  have htail : (uint16 hi lo).toUInt8 = lo := by
    apply UInt8.toNat_inj.mp
    rw [UInt16.toNat_toUInt8, toNat_uint16]
    omega
  rw [octets16, hhead, htail]

end BigEndian
