import GoBacnet.Proofs.WireForm
import GoBacnet.Service.PropertyAccess

/-!
# Fields under context tags

What each field of a message writes, as elements, and that the field is read back from them.
-/

namespace GoBacnet

def ObjectIdentifier.octets (id : ObjectIdentifier) : Octets :=
  BigEndian.octets 4 ((id.type.toUInt32 <<< 22) ||| id.instanceNumber).toNat

def Service.DateTime.elements (ts : Service.DateTime) : List Element := [.app tagDate (.date ts.date), .app tagTime (.time ts.time)]

def BitString.octets (b : BitString) : Octets := b.unusedBits :: b.bytes

end GoBacnet

namespace GoBacnet.Proofs

open GoBacnet.Service

/-! ## Writing -/

def Writes (append : Octets → Except Err Octets) (valid : Prop) (els : List Element) : Prop :=
  ∀ dst bytes, append dst = .ok bytes ↔ valid ∧ appendTags dst els = .ok bytes

lemma appendContextPrimitive_eq_appendTags (dst : Octets) (tag : UInt8) (octets : Octets) :
    appendContextPrimitive dst tag octets = appendTags dst [.ctx tag octets] := by
  rw [appendTags_singleton]
  unfold appendTag
  by_cases htag : tag = tagNumberReserved
  · simp [htag, appendContextPrimitive]
    rfl
  · simp [htag, contextContentOctets]

lemma appendTags_enclosed (dst : Octets) (els : List Element) (tag : UInt8) (htag : tag < 15) :
    appendTags dst [.ctxConstructed tag els] =
      (appendTags (dst ++ [(tag <<< 4) ||| 0x08 ||| 6]) els).map (· ++ [(tag <<< 4) ||| 0x08 ||| 7]) := by
  have hne : tag ≠ tagNumberReserved := by
    rintro rfl
    exact absurd htag (by decide)
  rw [appendTags_singleton, appendTag_ctxConstructed]
  simp only [appendContextTagged, appendContextOpenClose, hne, htag, if_true, if_false, Bind.bind, Except.bind,
    Pure.pure, Except.pure, Bool.false_eq_true]
  cases appendTags (dst ++ [(tag <<< 4) ||| 0x08 ||| 6]) els <;> rfl

lemma appendTag_app (dst : Octets) (tag : ApplicationTag) (v : ApplicationValue) :
    appendTag dst (.app tag v) = appendApplicationValue dst v := by
  unfold appendTag
  simp

namespace Writes

lemma primitive (tag : UInt8) (octets : Octets) :
    Writes (fun dst => appendContextPrimitive dst tag octets) True [.ctx tag octets] := by
  intro dst bytes
  simp only [true_and]
  rw [appendContextPrimitive_eq_appendTags]

lemma unsigned (tag : UInt8) (u : UInt64) :
    Writes (fun dst => appendContextUnsigned dst tag u) True [.ctx tag (encodeUnsigned u)] :=
  primitive tag _

lemma objectID (tag : UInt8) (id : ObjectIdentifier) :
    Writes (fun dst => appendContextObjectID dst tag id) id.Valid [.ctx tag id.octets] := by
  intro dst bytes
  unfold appendContextObjectID
  simp only [Except.bind_eq_ok_iff, encodeObjectIdentifier_eq_ok_iff, ← appendContextPrimitive_eq_appendTags]
  constructor
  · rintro ⟨enc, ⟨hid, rfl⟩, happ⟩
    exact ⟨hid, happ⟩
  · rintro ⟨hid, happ⟩
    exact ⟨_, ⟨hid, rfl⟩, happ⟩

lemma value (v : ApplicationValue) : Writes (fun dst => appendApplicationValue dst v) True (valueElements v) := by
  intro dst bytes
  simp only [true_and]
  cases v with
  | constructed els =>
    unfold appendApplicationValue
    rfl
  | _ =>
    simp only [valueElements, appendTags_singleton]
    unfold appendTag
    simp

variable {f g : Octets → Except Err Octets} {p q : Prop} {els els' : List Element}

lemma congr (h : Writes f p els) (hpq : p ↔ q) : Writes f q els := fun dst bytes => by rw [h dst bytes, hpq]

lemma of_eq (h : Writes f p els) (hgf : ∀ dst, g dst = f dst) : Writes g p els := fun dst bytes => by
  rw [hgf dst, h dst bytes]

lemma nothing : Writes .ok True [] := by
  intro dst bytes
  simp [appendTags]

lemma bind (hf : Writes f p els) (hg : Writes g q els') : Writes (fun dst => f dst >>= g) (p ∧ q) (els ++ els') := by
  intro dst bytes
  rw [Except.bind_eq_ok_iff, appendTags_concat]
  constructor
  · rintro ⟨mid, hmid, hbytes⟩
    obtain ⟨hp, hels⟩ := (hf dst mid).mp hmid
    obtain ⟨hq, hels'⟩ := (hg mid bytes).mp hbytes
    exact ⟨⟨hp, hq⟩, by rw [hels]; exact hels'⟩
  · rintro ⟨⟨hp, hq⟩, happ⟩
    obtain ⟨mid, hels, hels'⟩ := Except.bind_eq_ok_iff.mp happ
    exact ⟨mid, (hf dst mid).mpr ⟨hp, hels⟩, (hg mid bytes).mpr ⟨hq, hels'⟩⟩

lemma check {c : Prop} [Decidable c] {e : Err} (hf : Writes f p els) :
    Writes (fun dst => if c then .error e else f dst) (¬ c ∧ p) els := by
  intro dst bytes
  rw [Except.check_eq_ok_iff, hf dst bytes, and_assoc]

lemma enclosed (tag : UInt8) (htag : tag < 15) (hf : Writes f p els) :
    Writes (fun dst => do return (← f (dst ++ [(tag <<< 4) ||| 0x08 ||| 6])) ++ [(tag <<< 4) ||| 0x08 ||| 7]) p
      [.ctxConstructed tag els] := by
  intro dst bytes
  rw [appendTags_enclosed dst els tag htag, Except.bind_eq_ok_iff, Except.map_eq_ok_iff]
  constructor
  · rintro ⟨inner, hinner, hbytes⟩
    obtain ⟨hp, hels⟩ := (hf _ inner).mp hinner
    exact ⟨hp, inner, hels, Except.ok.inj hbytes⟩
  · rintro ⟨hp, inner, hels, hbytes⟩
    exact ⟨inner, (hf _ inner).mpr ⟨hp, hels⟩, congrArg Except.ok hbytes⟩

lemma enclosedValue (tag : UInt8) (htag : tag < 15) (v : ApplicationValue) :
    Writes (fun dst => do
        let body ← appendApplicationValue [] v
        return dst ++ [(tag <<< 4) ||| 0x08 ||| 6] ++ body ++ [(tag <<< 4) ||| 0x08 ||| 7]) True
      [.ctxConstructed tag (valueElements v)] := by
  intro dst bytes
  rw [← (enclosed tag htag (value v)) dst bytes]
  beta_reduce
  rw [appendApplicationValue_append (dst ++ _)]
  cases appendApplicationValue [] v with
  | error e => simp
  | ok body => simp

lemma contextTagged {tag : UInt8} (htag : tag ≠ tagNumberReserved) {inner : List Element}
    (h : Writes (fun dst => appendTags dst inner) p els) :
    Writes (fun dst => appendContextTagged dst tag inner) p [.ctxConstructed tag els] := by
  intro dst bytes
  rw [appendTags_singleton, appendTag_ctxConstructed]
  simp only [appendContextTagged, htag, if_false, Except.bind_eq_ok_iff, Pure.pure, Except.pure]
  constructor
  · rintro ⟨mid, hinner, hbytes⟩
    obtain ⟨hp, hels⟩ := (h _ mid).mp hinner
    exact ⟨hp, mid, hels, hbytes⟩
  · rintro ⟨hp, mid, hels, hbytes⟩
    exact ⟨mid, (h _ mid).mpr ⟨hp, hels⟩, hbytes⟩

lemma constructed (tag : UInt8) (inner : List Element) :
    Writes (fun dst => appendContextTagged dst tag inner) True [.ctxConstructed tag inner] := by
  intro dst bytes
  rw [appendTags_singleton, appendTag_ctxConstructed, true_and]

lemma app (tag : ApplicationTag) (v : ApplicationValue) :
    Writes (fun dst => appendTag dst (.app tag v)) True (valueElements v) :=
  (value v).of_eq fun dst => appendTag_app dst tag v

lemma tagged (tag : UInt8) (htag : tag < 15) (v : ApplicationValue) :
    Writes (fun dst => appendContextTagged dst tag [.app 0 v]) True [.ctxConstructed tag (valueElements v)] := by
  have hne : tag ≠ tagNumberReserved := by
    rintro rfl
    exact absurd htag (by decide)
  refine contextTagged hne ((app 0 v).of_eq fun dst => ?_)
  rw [appendTags_singleton]

lemma optional {α : Type} {append : Octets → α → Except Err Octets} {valid : α → Prop} {el : α → Element}
    (h : ∀ a, Writes (fun dst => append dst a) (valid a) [el a]) (o : Option α) :
    Writes (fun dst => appendOptional append dst o) (∀ a ∈ o, valid a) (o.map el).toList := by
  cases o with
  | none => exact nothing.congr (by simp)
  | some a => exact (h a).congr (by simp)

lemma foldlM {ι : Type} {append : Octets → ι → Except Err Octets} {valid : ι → Prop} {parts : ι → List Element}
    (h : ∀ x, Writes (fun dst => append dst x) (valid x) (parts x)) (xs : List ι) :
    Writes (fun dst => xs.foldlM append dst) (∀ x ∈ xs, valid x) (xs.flatMap parts) := by
  induction xs with
  | nil => exact nothing.congr (by simp)
  | cons x xs ih =>
    have hstep : (fun dst => (x :: xs).foldlM append dst) =
        fun dst => append dst x >>= fun dst => xs.foldlM append dst := by
      funext dst
      exact List.foldlM_cons
    rw [hstep, List.flatMap_cons]
    exact ((h x).bind ih).congr (by simp)

end Writes

lemma writes_bitString (tag : UInt8) (b : BitString) :
    Writes (fun dst => appendContextBitString dst tag b) b.Valid [.ctx tag b.octets] := by
  intro dst bytes
  unfold appendContextBitString
  rw [Except.bind_eq_ok_iff, ← appendContextPrimitive_eq_appendTags, ← validateBitString_eq_ok_iff]
  constructor
  · rintro ⟨_, hvalid, hbytes⟩
    exact ⟨hvalid, hbytes⟩
  · rintro ⟨hvalid, hbytes⟩
    exact ⟨(), hvalid, hbytes⟩

/-! ## Reading -/

@[simp] lemma isContextConstructed_ctx (tag : UInt8) (octets : Octets) :
    isContextConstructed (.ctx tag octets) = false := rfl

@[simp] lemma isContextConstructed_ctxConstructed (tag : UInt8) (els : List Element) :
    isContextConstructed (.ctxConstructed tag els) = true := rfl

@[simp] lemma contextOctets_ctx (tag : UInt8) (octets : Octets) (otherwise : String) :
    contextOctets (.ctx tag octets) otherwise = .ok octets := rfl

@[simp] lemma contextUnsigned_ctx (tag : UInt8) (u : UInt64) :
    contextUnsigned (.ctx tag (encodeUnsigned u)) = .ok u :=
  decodeUnsigned_encodeUnsigned u

lemma toUInt64_le_maxUint32 (u : UInt32) : ¬ u.toUInt64.toNat > maxUint32 := by
  have h := u.toNat_lt
  simp [maxUint32]
  omega

@[simp] lemma contextUnsigned32_ctx (tag : UInt8) (u : UInt32) :
    contextUnsigned32 (.ctx tag (encodeUnsigned u.toUInt64)) = .ok u := by
  simp only [contextUnsigned32, contextUnsigned_ctx, Bind.bind, Except.bind, if_neg (toUInt64_le_maxUint32 u),
    UInt32.toUInt32_toUInt64]

@[simp] lemma contextNumber_ctx (tag : UInt8) (u : UInt32) (what : String) :
    contextNumber (.ctx tag (encodeUnsigned u.toUInt64)) what = .ok u := by
  simp only [contextNumber, contextUnsigned_ctx, Bind.bind, Except.bind, if_neg (toUInt64_le_maxUint32 u),
    UInt32.toUInt32_toUInt64]

lemma contextPriority_ctx {p : UInt8} (hp : 1 ≤ p ∧ p ≤ 16) (tag : UInt8) (outOfRange : UInt64 → String) :
    contextPriority (.ctx tag (encodeUnsigned p.toUInt64)) outOfRange = .ok p := by
  have hrange : ¬ (p.toUInt64 < 1 ∨ p.toUInt64 > 16) := by
    obtain ⟨hlo, hhi⟩ := hp
    simp only [UInt8.le_iff_toNat_le, UInt64.lt_iff_toNat_lt, gt_iff_lt] at *
    simp at *
    omega
  simp only [contextPriority, contextUnsigned_ctx, Bind.bind, Except.bind, if_neg hrange, UInt8.toUInt8_toUInt64]

lemma contextObjectID_ctx {id : ObjectIdentifier} (hid : id.Valid) (tag : UInt8) :
    contextObjectID (.ctx tag id.octets) = .ok id := by
  have hlen : id.octets.length = 4 := BigEndian.length_octets 4 _
  have hlt : ((id.type.toUInt32 <<< 22) ||| id.instanceNumber).toNat < 256 ^ 4 := UInt32.toNat_lt _
  have hvalue : BigEndian.value id.octets = ((id.type.toUInt32 <<< 22) ||| id.instanceNumber).toNat :=
    BigEndian.value_octets_of_lt hlt
  simp only [contextObjectID, contextOctets_ctx, Bind.bind, Except.bind, hlen, hvalue, ne_eq, not_true_eq_false,
    if_false, UInt32.ofNat_toNat, decodeObjectIdentifier_pack hid.1 hid.2]

lemma contextBitString_ctx {b : BitString} (hb : b.Valid) (tag : UInt8) :
    contextBitString (.ctx tag b.octets) = .ok b := by
  simp [contextBitString, BitString.octets, validateBitString_eq_ok_iff.mpr hb]

lemma valid_of_contextBitString {el : Element} {b : BitString} (h : contextBitString el = .ok b) : b.Valid := by
  obtain ⟨octets, -, h⟩ := Except.bind_eq_ok_iff.mp h
  cases octets with
  | nil => cases h
  | cons unused bytes =>
    obtain ⟨_, hvalid, h⟩ := Except.bind_eq_ok_iff.mp h
    cases h
    exact validateBitString_eq_ok_iff.mp hvalid

lemma contextBool_ctx (tag : UInt8) (b : Bool) : contextBool (.ctx tag [if b then 1 else 0]) = .ok b := by
  cases b <;> rfl

lemma contextSigned_ctx (tag : UInt8) (s : Int64) : contextSigned (.ctx tag (encodeSigned s)) = .ok s :=
  decodeSigned_encodeSigned s

end GoBacnet.Proofs
