import GoBacnet.Proofs.ContextField
import GoBacnet.Service.NotificationParameters

/-!
# Encoding decoded notification parameters again

The typed body of each choice, what it takes for the encoder to accept it, and that it is read back. The
encoder parses part of its own output with the default limits; the decoder may have been given others.
-/

namespace GoBacnet

def Tagged (els : List Element) : Prop := forestWithKindTags els = els

def ApplicationValue.ContextForm : ApplicationValue → Prop
  | .constructed els => Tagged els
  | .context _ => True
  | _ => False

namespace Service

def FlagsFit (b : BitString) : Prop := b.octets.length ≤ defaultDecodeLimits.maxOctetStringLength

/-! ## What can be encoded again -/

def ChangeOfStateParams.Reencodable (p : ChangeOfStateParams) : Prop :=
  FlagsFit p.statusFlags ∧ p.newState.value.withKindTags = p.newState.value

def ChangeOfBitstringParams.Reencodable (p : ChangeOfBitstringParams) : Prop :=
  FlagsFit p.referencedBitstring ∧ FlagsFit p.statusFlags

def ChangeOfValueParams.Reencodable (p : ChangeOfValueParams) : Prop :=
  FlagsFit p.statusFlags ∧ ∃ els, p.newValue = .value (.constructed els) ∧ Tagged els

def CommandFailureParams.Reencodable (p : CommandFailureParams) : Prop :=
  FlagsFit p.statusFlags ∧ p.commandValue.ContextForm ∧ p.feedbackValue.ContextForm

def NotificationParameters.Unknown (p : NotificationParameters) : Prop :=
  p = { choice := p.choice, rawElements := p.rawElements }

structure NotificationParameters.Reencodable (p : NotificationParameters) : Prop where
  changeOfBitstring : ∀ body ∈ p.changeOfBitstring, body.Reencodable
  changeOfState : ∀ body ∈ p.changeOfState, body.Reencodable
  changeOfValue : ∀ body ∈ p.changeOfValue, body.Reencodable
  outOfRange : ∀ body ∈ p.outOfRange, FlagsFit body.statusFlags
  commandFailure : ∀ body ∈ p.commandFailure, body.Reencodable
  floatingLimit : ∀ body ∈ p.floatingLimit, FlagsFit body.statusFlags
  unsignedRange : ∀ body ∈ p.unsignedRange, FlagsFit body.statusFlags
  bufferReady : ∀ body ∈ p.bufferReady, Tagged body.bufferProperty
  changeOfLifeSafety : ∀ body ∈ p.changeOfLifeSafety, FlagsFit body.statusFlags
  extended : ∀ body ∈ p.extended, Tagged body.parameters
  complexEventType : ∀ body ∈ p.complexEventType, Tagged body.values
  unknown : p.Unknown → p.rawElements ≠ [] ∧ Tagged p.rawElements

/-- The same choice with the same typed body, and the same elements if the choice is not known. -/
structure NotificationParameters.Same (p' p : NotificationParameters) : Prop where
  body : p' = { p with rawElements := p'.rawElements }
  unknown : p.Unknown → p'.rawElements = p.rawElements

end Service

end GoBacnet

namespace GoBacnet.Proofs

open GoBacnet.Service

variable {v : ApplicationValue} {b : BitString} {el : Element} {els : List Element} {octets : Octets} {what : String}
  {tag : UInt8}

/-! ## Parsing what was just written -/

lemma parseTag_ctx_iff {limits : DecodeLimits} {raw : Octets} {n : Nat}
    (h : appendContextPrimitive [] tag octets = .ok raw) :
    parseTag raw limits = .ok (el, n) ↔
      octets.length ≤ limits.normalize.maxOctetStringLength ∧ el = .ctx tag octets ∧ n = raw.length := by
  have htag : appendTag [] (.ctx tag octets) = .ok raw := by
    rw [← appendTags_singleton, ← appendContextPrimitive_eq_appendTags, h]
  obtain ⟨hreserved, hlen⟩ := of_appendTag_ctx htag
  have hread (limits : DecodeLimits) (hoctets : octets.length ≤ limits.normalize.maxOctetStringLength) :
      parseTag raw limits = .ok (.ctx tag octets, raw.length) := by
    simpa using parseTag_ctx hreserved hoctets htag []
  constructor
  · intro hparse
    have hwire : parseTag raw wireLimits = .ok (.ctx tag octets, raw.length) :=
      hread wireLimits (by simpa [wireLimits, DecodeLimits.normalize, orDefault, maxUint32] using hlen)
    rcases parseTag_limits hwire limits [] with hok | ⟨e, herr, -⟩
    · rw [List.append_nil, hparse] at hok
      cases hok
      have hfits := (primitive_of_parseTag hparse rfl rfl).2.2.1
      exact ⟨(fits_ctx_iff.mp hfits).2, rfl, rfl⟩
    · rw [List.append_nil, hparse] at herr
      cases herr
  · rintro ⟨hoctets, rfl, rfl⟩
    exact hread limits hoctets

lemma parseTag_default_iff {raw : Octets} {n : Nat} (h : appendContextPrimitive [] tag octets = .ok raw) :
    parseTag raw defaultDecodeLimits = .ok (el, n) ↔
      octets.length ≤ defaultDecodeLimits.maxOctetStringLength ∧ el = .ctx tag octets ∧ n = raw.length := by
  have hnorm : defaultDecodeLimits.normalize = defaultDecodeLimits := by decide
  rw [parseTag_ctx_iff h, hnorm]

lemma parseElement_eq_ok_iff {raw : Octets} (h : appendContextPrimitive [] tag octets = .ok raw) :
    parseElement raw what = .ok el ↔
      octets.length ≤ defaultDecodeLimits.maxOctetStringLength ∧ el = .ctx tag octets := by
  unfold parseElement
  cases hparse : parseTag raw defaultDecodeLimits with
  | error e =>
    simp only [reduceCtorEq, false_iff, not_and]
    rintro hoctets rfl
    have hok := (parseTag_default_iff h).mpr ⟨hoctets, rfl, rfl⟩
    rw [hparse] at hok
    cases hok
  | ok r =>
    obtain ⟨el', n⟩ := r
    obtain ⟨hoctets, rfl, rfl⟩ := (parseTag_default_iff h).mp hparse
    simp [hoctets, eq_comm]

lemma length_of_default (h : octets.length ≤ defaultDecodeLimits.maxOctetStringLength) : octets.length ≤ maxUint32 := by
  simp only [defaultDecodeLimits] at h
  simp only [maxUint32]
  omega

lemma appendContextPrimitive_ok (htag : tag ≠ tagNumberReserved)
    (hlen : octets.length ≤ maxUint32) : ∃ raw, appendContextPrimitive [] tag octets = .ok raw := by
  rw [appendContextPrimitive_eq_appendTags, appendTags_singleton]
  exact appendTag_ok wireLimits_encodable (.ctx tag octets htag (by simpa [wireLimits] using hlen))

lemma length_encodeUnsigned_le (u : UInt64) : (encodeUnsigned u).length ≤ 8 := (length_encodeUnsigned u).2

lemma parseContextUnsignedElement_eq (htag : tag ≠ tagNumberReserved) (v : UInt64) :
    parseContextUnsignedElement tag v = .ok (.ctx tag (encodeUnsigned v)) := by
  have hlen := length_encodeUnsigned_le v
  have hmax : (encodeUnsigned v).length ≤ maxUint32 := by
    simp only [maxUint32]
    omega
  obtain ⟨raw, hraw⟩ := appendContextPrimitive_ok htag hmax
  unfold parseContextUnsignedElement appendContextUnsigned
  rw [hraw]
  refine (parseElement_eq_ok_iff hraw).mpr ⟨?_, rfl⟩
  simp only [defaultDecodeLimits]
  omega

lemma parseContextBitStringElement_eq_ok_iff (htag : tag ≠ tagNumberReserved) :
    parseContextBitStringElement tag b = .ok el ↔ b.Valid ∧ FlagsFit b ∧ el = .ctx tag b.octets := by
  unfold parseContextBitStringElement appendContextBitString
  simp only [Except.bind_eq_ok_iff]
  constructor
  · rintro ⟨raw, ⟨_, hvalid, hraw⟩, hparse⟩
    exact ⟨validateBitString_eq_ok_iff.mp hvalid, (parseElement_eq_ok_iff hraw).mp hparse⟩
  · rintro ⟨hvalid, hfit, rfl⟩
    obtain ⟨raw, hraw⟩ := appendContextPrimitive_ok htag (length_of_default hfit)
    exact ⟨raw, ⟨(), validateBitString_eq_ok_iff.mpr hvalid, hraw⟩, (parseElement_eq_ok_iff hraw).mpr ⟨hfit, rfl⟩⟩

lemma parseElements_eq_ok_iff {es : List Element} {raw : Octets} (hplain : forestPlain es)
    (h : appendTags [] es = .ok raw) :
    parseElements raw what = .ok els ↔ WithinLimits defaultDecodeLimits (forestWire es) ∧ els = forestWire es := by
  unfold parseElements
  cases hparse : parseSequence raw defaultDecodeLimits (-1) with
  | error e =>
    simp only [reduceCtorEq, false_iff, not_and]
    rintro hwithin rfl
    rw [parseSequence_wire h hwithin] at hparse
    cases hparse
  | ok r =>
    obtain ⟨els', n⟩ := r
    obtain ⟨hwithin, rfl, rfl⟩ := (parseSequence_wire_iff hplain h).mp hparse
    simp [hwithin, eq_comm]

lemma withinDefault_iff {els : List (UInt8 × Octets)} (htags : ∀ f ∈ els, f.1 ≠ tagNumberReserved)
    (hcount : els.length ≤ 4096) :
    WithinLimits defaultDecodeLimits (els.map fun f => .ctx f.1 f.2) ↔
      ∀ f ∈ els, f.2.length ≤ defaultDecodeLimits.maxOctetStringLength := by
  have hnorm : defaultDecodeLimits.normalize = defaultDecodeLimits := by decide
  have hflat : forestDepth (els.map fun f => .ctx f.1 f.2) = 0 ∧
      forestCount (els.map fun f => .ctx f.1 f.2) = els.length := by
    clear htags hcount
    induction els with
    | nil => simp [forestDepth, forestCount]
    | cons f els ih => simp [forestDepth, forestCount, Element.depth, Element.count, ApplicationValue.depth,
        ApplicationValue.count, ih, Nat.add_comm]
  constructor
  · rintro ⟨hfits, -, -⟩ f hf
    have hel := hfits _ (List.mem_map_of_mem hf)
    rw [hnorm] at hel
    exact (fits_ctx_iff.mp hel).2
  · intro hoctets
    refine ⟨List.forall_mem_map.mpr fun f hf => ?_, ?_, ?_⟩
    · rw [hnorm]
      exact .ctx f.1 f.2 (htags f hf) (hoctets f hf)
    · rw [hflat.1]
      decide
    · rw [hflat.2, hnorm]
      simp only [defaultDecodeLimits]
      omega

/-! ## Reading fields -/

lemma orMalformed_eq_ok_iff {α : Type} {r : Except Err α} {a : α} :
    orMalformed r what = .ok a ↔ r = .ok a := by
  cases r <;> simp [orMalformed]

lemma valid_of_notificationBitString
    (h : notificationBitString el tag what = .ok b) : b.Valid :=
  valid_of_contextBitString (orMalformed_eq_ok_iff.mp (Except.check_eq_ok_iff.mp h).2)

lemma notificationBitString_ctx (hb : b.Valid) (tag : UInt8) (what : String) :
    notificationBitString (.ctx tag b.octets) tag what = .ok b :=
  Except.check_eq_ok_iff.mpr ⟨by simp, orMalformed_eq_ok_iff.mpr (contextBitString_ctx hb tag)⟩

lemma notificationReal_ctx (bits : UInt32) (tag : UInt8) :
    notificationReal (.ctx tag (BigEndian.octets 4 bits.toNat)) tag = .ok bits := by
  have hlt : bits.toNat < 256 ^ 4 := bits.toNat_lt
  simp [notificationReal, ApplicationValue.octets, BigEndian.value_octets_of_lt hlt]

/-! ## Bodies -/

structure Reencodes {β : Type} (encode : β → Except Err (List Element)) (decode : List Element → Except Err β)
    (cond : Prop) (body : β) : Prop where
  plain : ∀ inner, encode body = .ok inner → forestPlain inner
  back : cond → ∃ inner, encode body = .ok inner ∧ (∀ el ∈ inner, el.Fits wireLimits) ∧
    decode (forestWire inner) = .ok body
  only : ∀ inner, encode body = .ok inner → decode (forestWire inner) = .ok body → cond

lemma forestWire_primitives (fields : List (UInt8 × Octets)) :
    forestWire (fields.map fun f => .ctx f.1 f.2) = fields.map fun f => .ctx f.1 f.2 := by
  induction fields with
  | nil => rfl
  | cons f fields ih => simp [ih]

/-- The encoder gives `out` if the body fits, and `body'` is read from it. -/
lemma reencodes_of_image {β : Type} {encode : β → Except Err (List Element)} {decode : List Element → Except Err β}
    {cond fit : Prop} {body body' : β} {out : List Element}
    (hencode : ∀ inner, encode body = .ok inner ↔ fit ∧ inner = out) (hplain : forestPlain out)
    (hfits : cond → ∀ el ∈ out, el.Fits wireLimits) (hdecode : decode (forestWire out) = .ok body')
    (hcond : cond ↔ fit ∧ body' = body) : Reencodes encode decode cond body where
  plain inner henc := by
    obtain ⟨-, rfl⟩ := (hencode inner).mp henc
    exact hplain
  back h := by
    obtain ⟨hfit, rfl⟩ := hcond.mp h
    exact ⟨out, (hencode out).mpr ⟨hfit, rfl⟩, hfits h, hdecode⟩
  only inner henc hdec := by
    obtain ⟨hfit, rfl⟩ := (hencode inner).mp henc
    exact hcond.mpr ⟨hfit, Except.ok.inj (hdecode.symm.trans hdec)⟩

lemma reencodes_of_fields {β : Type} {encode : β → Except Err (List Element)}
    {decode : List Element → Except Err β} {cond : Prop} {body : β} (fields : List (UInt8 × Octets))
    (hiff : ∀ inner, encode body = .ok inner ↔ cond ∧ inner = fields.map fun f => .ctx f.1 f.2)
    (hfits : cond → ∀ f ∈ fields, f.1 ≠ tagNumberReserved ∧ f.2.length ≤ maxUint32)
    (hread : decode (fields.map fun f => .ctx f.1 f.2) = .ok body) : Reencodes encode decode cond body := by
  refine reencodes_of_image hiff ?_ (fun hcond => List.forall_mem_map.mpr fun f hf => ?_)
    (by rw [forestWire_primitives, hread]) (by simp)
  · exact forestPlain_iff.mpr (List.forall_mem_map.mpr fun f _ => by simp [Element.Plain, ApplicationValue.Plain])
  · exact .ctx f.1 f.2 (hfits hcond f hf).1 (by simpa [wireLimits] using (hfits hcond f hf).2)

lemma defaultLimits_encodable : defaultDecodeLimits.normalize.Encodable := ⟨by decide, by decide, by decide⟩

lemma parsedFields_iff {write : Except Err Octets} {valid fit : Prop} (fields : List (UInt8 × Octets)) (hcount : fields.length ≤ 4096)
    (htags : ∀ f ∈ fields, f.1 ≠ tagNumberReserved)
    (hfit : (∀ f ∈ fields, f.2.length ≤ defaultDecodeLimits.maxOctetStringLength) ↔ fit)
    (hwrite : ∀ raw, write = .ok raw ↔ valid ∧ appendTags [] (fields.map fun f => .ctx f.1 f.2) = .ok raw) :
    (∃ raw, write = .ok raw ∧ parseElements raw what = .ok els) ↔
      (valid ∧ fit) ∧ els = fields.map fun f => .ctx f.1 f.2 := by
  have hplain : forestPlain (fields.map fun f => Element.ctx f.1 f.2) :=
    forestPlain_iff.mpr (List.forall_mem_map.mpr fun f _ => by simp [Element.Plain, ApplicationValue.Plain])
  have hwithin : WithinLimits defaultDecodeLimits (fields.map fun f => Element.ctx f.1 f.2) ↔ fit :=
    (withinDefault_iff htags hcount).trans hfit
  constructor
  · rintro ⟨raw, hraw, hparse⟩
    obtain ⟨hvalid, happ⟩ := (hwrite raw).mp hraw
    obtain ⟨hw, rfl⟩ := (parseElements_eq_ok_iff hplain happ).mp hparse
    rw [forestWire_primitives] at hw ⊢
    exact ⟨⟨hvalid, hwithin.mp hw⟩, rfl⟩
  · rintro ⟨⟨hvalid, hf⟩, rfl⟩
    have hw := hwithin.mpr hf
    obtain ⟨raw, happ⟩ := appendTags_within hw defaultLimits_encodable
    refine ⟨raw, (hwrite raw).mpr ⟨hvalid, happ⟩, (parseElements_eq_ok_iff hplain happ).mpr ?_⟩
    rw [forestWire_primitives]
    exact ⟨hw, rfl⟩

/-- The fields that a floating limit and an out of range have in common. -/
def realFlagsFields (v0 : UInt32) (flags : BitString) (v2 v3 : UInt32) : List (UInt8 × Octets) :=
  [(0, BigEndian.octets 4 v0.toNat), (1, flags.octets), (2, BigEndian.octets 4 v2.toNat),
    (3, BigEndian.octets 4 v3.toNat)]

lemma realFlagsFields_fit {v0 v2 v3 : UInt32} {flags : BitString} (h : FlagsFit flags) :
    ∀ f ∈ realFlagsFields v0 flags v2 v3, f.1 ≠ tagNumberReserved ∧ f.2.length ≤ maxUint32 := by
  simp only [realFlagsFields, List.forall_mem_cons, BigEndian.length_octets]
  exact ⟨by decide, ⟨by decide, length_of_default h⟩, by decide, by decide, by simp⟩

lemma encodeRealFlagsRealReal_eq_ok_iff {v0 v2 v3 : UInt32} {flags : BitString} :
    encodeRealFlagsRealReal v0 flags v2 v3 what = .ok els ↔ (flags.Valid ∧ FlagsFit flags) ∧
      els = (realFlagsFields v0 flags v2 v3).map fun f => .ctx f.1 f.2 := by
  have hwrites := (Writes.primitive 0 (BigEndian.octets 4 v0.toNat)).bind ((writes_bitString 1 flags).bind
    ((Writes.primitive 2 (BigEndian.octets 4 v2.toNat)).bind (Writes.primitive 3 (BigEndian.octets 4 v3.toNat))))
  have heq : encodeRealFlagsRealReal v0 flags v2 v3 what =
      (appendContextPrimitive [] 0 (BigEndian.octets 4 v0.toNat) >>= fun dst =>
        appendContextBitString dst 1 flags >>= fun dst =>
          appendContextPrimitive dst 2 (BigEndian.octets 4 v2.toNat) >>= fun dst =>
            appendContextPrimitive dst 3 (BigEndian.octets 4 v3.toNat)) >>= fun raw => parseElements raw what := by
    simp [encodeRealFlagsRealReal, appendContextReal, bind_assoc]
  rw [heq, Except.bind_eq_ok_iff]
  refine parsedFields_iff (realFlagsFields v0 flags v2 v3) (by simp [realFlagsFields]) ?_ ?_ fun raw =>
    (hwrites [] raw).trans (by simp [realFlagsFields])
  · simp [realFlagsFields, tagNumberReserved]
  · simp [realFlagsFields, FlagsFit, defaultDecodeLimits]

lemma outOfRange_reencodes {body : OutOfRangeParams} (h : decodeOutOfRange els = .ok body) :
    Reencodes encodeOutOfRange decodeOutOfRange (FlagsFit body.statusFlags) body := by
  have hvalid : body.statusFlags.Valid := by
    unfold decodeOutOfRange at h
    split at h
    · simp only [Except.bind_eq_ok_iff] at h
      obtain ⟨_, -, flags, hflags, _, -, _, -, h⟩ := h
      cases h
      exact valid_of_notificationBitString hflags
    · cases h
  refine reencodes_of_fields
    (realFlagsFields body.exceedingValue body.statusFlags body.deadband body.exceededLimit)
    (fun inner => encodeRealFlagsRealReal_eq_ok_iff.trans (by simp [hvalid])) realFlagsFields_fit ?_
  simp [realFlagsFields, decodeOutOfRange, notificationReal_ctx, notificationBitString_ctx hvalid]

lemma floatingLimit_reencodes {body : FloatingLimitParams}
    (h : decodeFloatingLimit els = .ok body) :
    Reencodes encodeFloatingLimit decodeFloatingLimit (FlagsFit body.statusFlags) body := by
  have hvalid : body.statusFlags.Valid := by
    unfold decodeFloatingLimit at h
    split at h
    · simp only [Except.bind_eq_ok_iff] at h
      obtain ⟨_, -, flags, hflags, _, -, _, -, h⟩ := h
      cases h
      exact valid_of_contextBitString hflags
    · cases h
  refine reencodes_of_fields
    (realFlagsFields body.referenceValue body.statusFlags body.setPointValue body.errorLimit)
    (fun inner => encodeRealFlagsRealReal_eq_ok_iff.trans (by simp [hvalid])) realFlagsFields_fit ?_
  simp [realFlagsFields, decodeFloatingLimit, notificationReal_ctx, contextBitString_ctx hvalid]

lemma changeOfBitstring_reencodes {body : ChangeOfBitstringParams}
    (h : decodeChangeOfBitstring els = .ok body) :
    Reencodes encodeChangeOfBitstring decodeChangeOfBitstring body.Reencodable body := by
  have hvalid : body.referencedBitstring.Valid ∧ body.statusFlags.Valid := by
    unfold decodeChangeOfBitstring at h
    split at h
    · simp only [Except.bind_eq_ok_iff] at h
      obtain ⟨ref, href, flags, hflags, h⟩ := h
      cases h
      exact ⟨valid_of_notificationBitString href, valid_of_notificationBitString hflags⟩
    · cases h
  have hwrites := (writes_bitString 0 body.referencedBitstring).bind (writes_bitString 1 body.statusFlags)
  have heq : encodeChangeOfBitstring body =
      (appendContextBitString [] 0 body.referencedBitstring >>= fun dst =>
        appendContextBitString dst 1 body.statusFlags) >>= fun raw => parseElements raw "change-of-bitstring" := by
    simp [encodeChangeOfBitstring, bind_assoc]
  refine reencodes_of_fields [(0, body.referencedBitstring.octets), (1, body.statusFlags.octets)] (fun inner => ?_) ?_ ?_
  · have hfields := @parsedFields_iff inner "change-of-bitstring" _ _ body.Reencodable
      [(0, body.referencedBitstring.octets), (1, body.statusFlags.octets)] (by simp) (by simp [tagNumberReserved])
      (by simp [ChangeOfBitstringParams.Reencodable, FlagsFit]) fun raw => hwrites [] raw
    rw [heq, Except.bind_eq_ok_iff]
    exact hfields.trans (by simp [hvalid])
  · intro hfit
    simp only [List.forall_mem_cons]
    exact ⟨⟨by decide, length_of_default hfit.1⟩, ⟨by decide, length_of_default hfit.2⟩, by simp⟩
  · simp [decodeChangeOfBitstring, notificationBitString_ctx hvalid.1, notificationBitString_ctx hvalid.2]

lemma length_encodeUnsigned_max (u : UInt64) : (encodeUnsigned u).length ≤ maxUint32 :=
  (length_encodeUnsigned_le u).trans (by decide)

lemma unsigned_fits (htag : tag ≠ tagNumberReserved) (u : UInt64) :
    (Element.ctx tag (encodeUnsigned u)).Fits wireLimits :=
  .ctx tag _ htag (by simpa [wireLimits] using length_encodeUnsigned_max u)

lemma flags_fits (htag : tag ≠ tagNumberReserved) (h : FlagsFit b) :
    (Element.ctx tag b.octets).Fits wireLimits :=
  .ctx tag _ htag (by simpa [wireLimits] using length_of_default h)

lemma unsignedRange_reencodes {body : UnsignedRangeParams}
    (h : decodeUnsignedRange els = .ok body) :
    Reencodes encodeUnsignedRange decodeUnsignedRange (FlagsFit body.statusFlags) body := by
  have hvalid : body.statusFlags.Valid := by
    unfold decodeUnsignedRange at h
    split at h
    · simp only [Except.bind_eq_ok_iff] at h
      obtain ⟨_, -, flags, hflags, _, -, h⟩ := h
      cases h
      exact valid_of_contextBitString hflags
    · cases h
  refine reencodes_of_fields [(0, encodeUnsigned body.exceedingValue.toUInt64), (1, body.statusFlags.octets),
    (2, encodeUnsigned body.exceededLimit.toUInt64)] (fun inner => ?_) ?_ ?_
  · unfold encodeUnsignedRange
    rw [parseContextUnsignedElement_eq (by decide), parseContextUnsignedElement_eq (by decide)]
    simp only [Except.bind_eq_ok_iff, parseContextBitStringElement_eq_ok_iff (show (1 : UInt8) ≠ _ by decide), hvalid,
      true_and]
    simp [eq_comm]
  · intro hfit
    simp only [List.forall_mem_cons]
    exact ⟨⟨by decide, length_encodeUnsigned_max _⟩, ⟨by decide, length_of_default hfit⟩,
      ⟨by decide, length_encodeUnsigned_max _⟩, by simp⟩
  · simp [decodeUnsignedRange, contextBitString_ctx hvalid]

lemma changeOfLifeSafety_reencodes {body : ChangeOfLifeSafetyParams}
    (h : decodeChangeOfLifeSafety els = .ok body) :
    Reencodes encodeChangeOfLifeSafety decodeChangeOfLifeSafety (FlagsFit body.statusFlags) body := by
  have hvalid : body.statusFlags.Valid := by
    unfold decodeChangeOfLifeSafety at h
    split at h
    · simp only [Except.bind_eq_ok_iff] at h
      obtain ⟨_, -, _, -, flags, hflags, _, -, h⟩ := h
      cases h
      exact valid_of_contextBitString hflags
    · cases h
  refine reencodes_of_fields [(0, encodeUnsigned body.newState.toUInt64), (1, encodeUnsigned body.newMode.toUInt64),
    (2, body.statusFlags.octets), (3, encodeUnsigned body.operationExpected.toUInt64)] (fun inner => ?_) ?_ ?_
  · unfold encodeChangeOfLifeSafety
    rw [parseContextUnsignedElement_eq (by decide), parseContextUnsignedElement_eq (by decide),
      parseContextUnsignedElement_eq (by decide)]
    simp only [Except.bind_eq_ok_iff, parseContextBitStringElement_eq_ok_iff (show (2 : UInt8) ≠ _ by decide), hvalid,
      true_and]
    simp [eq_comm]
  · intro hfit
    simp only [List.forall_mem_cons]
    exact ⟨⟨by decide, length_encodeUnsigned_max _⟩, ⟨by decide, length_encodeUnsigned_max _⟩,
      ⟨by decide, length_of_default hfit⟩, ⟨by decide, length_encodeUnsigned_max _⟩, by simp⟩
  · simp [decodeChangeOfLifeSafety, contextBitString_ctx hvalid]

/-! ### Values kept as they were received -/

def Received (v : ApplicationValue) : Prop := ∃ el : Element, el.Fits wireLimits ∧ el.value = v

lemma tagged_iff (h : ∀ el ∈ els, el.Fits wireLimits) : Tagged els ↔ forestWire els = els := by
  rw [forestWire_of_fits h, Tagged]

lemma received_constructed (h : Received (.constructed els)) : ∀ el ∈ els, el.Fits wireLimits := by
  obtain ⟨el, hel, hv⟩ := h
  cases hel with
  | app tag v hfits =>
    obtain rfl : v = .constructed els := hv
    exact hfits.elim
  | ctx tag octets => cases hv
  | constructed tag elements htag hels =>
    obtain rfl : elements = els := ApplicationValue.constructed.inj hv
    exact hels

lemma contextForm_iff (h : Received v) (tag : UInt8) :
    v.ContextForm ↔ (v.wireUnder tag).value = v := by
  cases v with
  | constructed els => simp [ApplicationValue.ContextForm, tagged_iff (received_constructed h)]
  | context o => simp [ApplicationValue.ContextForm]
  | _ =>
    unfold ApplicationValue.wireUnder
    simp [ApplicationValue.ContextForm]

lemma under_fits (h : Received v) (hform : v.ContextForm)
    (htag : tag ≠ tagNumberReserved) : (Element.mk true tag false false v).Fits wireLimits := by
  cases v with
  | constructed els => exact .constructed tag els htag (received_constructed h)
  | context o =>
    obtain ⟨el, hel, hv⟩ := h
    cases hel with
    | app tag v hfits =>
      obtain rfl : v = .context o := hv
      exact hfits.elim
    | ctx tag' octets _ hlen =>
      obtain rfl : octets = o := ApplicationValue.context.inj hv
      exact .ctx tag octets htag hlen
    | constructed => cases hv
  | _ => exact hform.elim

lemma received_plain (h : Received v) : v.Plain := by
  obtain ⟨⟨context, tag, opening, closing, v'⟩, hel, rfl⟩ := h
  have hplain := plain_of_fits hel
  unfold Element.Plain at hplain
  exact hplain.2.2

lemma commandFailure_reencodes (hels : ∀ el ∈ els, el.Fits wireLimits)
    {body : CommandFailureParams} (h : decodeCommandFailure els = .ok body) :
    Reencodes encodeCommandFailure decodeCommandFailure body.Reencodable body := by
  obtain ⟨hvalid, hcommand, hfeedback⟩ :
      body.statusFlags.Valid ∧ Received body.commandValue ∧ Received body.feedbackValue := by
    unfold decodeCommandFailure at h
    split at h
    · next command flags feedback =>
      obtain ⟨b, hflags, h⟩ := Except.bind_eq_ok_iff.mp h
      cases h
      exact ⟨valid_of_contextBitString hflags, ⟨command, hels _ (by simp), rfl⟩, ⟨feedback, hels _ (by simp), rfl⟩⟩
    · cases h
  have hencode (inner : List Element) : encodeCommandFailure body = .ok inner ↔ FlagsFit body.statusFlags ∧
      inner = [.mk true 0 false false body.commandValue, .ctx 1 body.statusFlags.octets,
        .mk true 2 false false body.feedbackValue] := by
    unfold encodeCommandFailure
    simp only [Except.bind_eq_ok_iff, parseContextBitStringElement_eq_ok_iff (show (1 : UInt8) ≠ _ by decide), hvalid,
      true_and]
    simp [eq_comm]
  have hdecode : decodeCommandFailure (forestWire [.mk true 0 false false body.commandValue,
        .ctx 1 body.statusFlags.octets, .mk true 2 false false body.feedbackValue]) =
      .ok ⟨(body.commandValue.wireUnder 0).value, body.statusFlags, (body.feedbackValue.wireUnder 2).value⟩ := by
    simp [decodeCommandFailure, contextBitString_ctx hvalid]
  refine reencodes_of_image hencode ?_ (fun hcond => ?_) hdecode ?_
  · simp [forestPlain, Element.Plain, received_plain hcommand, received_plain hfeedback, ApplicationValue.Plain]
  · simp only [List.forall_mem_cons]
    exact ⟨under_fits hcommand hcond.2.1 (by decide), flags_fits (by decide) hcond.1,
      under_fits hfeedback hcond.2.2 (by decide), by simp⟩
  · rw [CommandFailureParams.Reencodable, contextForm_iff hcommand 0, contextForm_iff hfeedback 2]
    cases body
    simp

lemma constructed_of_fits {limits : DecodeLimits} (hel : el.Fits limits)
    (h : isContextConstructed el = true) :
    ∃ els, el = .ctxConstructed el.tagNumber els ∧ el.tagNumber ≠ tagNumberReserved ∧ ∀ e ∈ els, e.Fits limits := by
  cases hel with
  | app tag v hv => cases h
  | ctx tag octets => cases h
  | constructed tag els htag hels => exact ⟨els, rfl, htag, hels⟩

lemma primitive_of_fits {limits : DecodeLimits} (hel : el.Fits limits) (hcontext : el.context = true)
    (h : isContextConstructed el = false) :
    ∃ octets, el = .ctx el.tagNumber octets ∧ el.tagNumber ≠ tagNumberReserved ∧
      octets.length ≤ limits.maxOctetStringLength := by
  cases hel with
  | app tag v hv => cases hcontext
  | ctx tag octets htag hlen => exact ⟨octets, rfl, htag, hlen⟩
  | constructed tag els htag hels => cases h

lemma parseElement_short (htag : tag ≠ tagNumberReserved) (hlen : octets.length ≤ 8)
    (what : String) :
    (appendContextPrimitive [] tag octets >>= fun raw => parseElement raw what) = .ok (.ctx tag octets) := by
  obtain ⟨raw, hraw⟩ := appendContextPrimitive_ok htag (hlen.trans (by decide))
  rw [hraw]
  refine (parseElement_eq_ok_iff hraw).mpr ⟨?_, rfl⟩
  simp only [defaultDecodeLimits]
  omega

lemma propertyState_back (hel : el.Fits wireLimits) (hcontext : el.context = true) (hv : decodePropertyState el = .ok v) :
    ∃ new new', encodePropertyStates ⟨el.tagNumber, v⟩ = .ok [new] ∧ new.Fits wireLimits ∧ new.wire = [new'] ∧
      new'.context = true ∧ new'.tagNumber = el.tagNumber ∧ decodePropertyState new' = .ok v.withKindTags := by
  cases hc : isContextConstructed el with
  | true =>
    obtain ⟨els, heq, htag, hels⟩ := constructed_of_fits hel hc
    generalize el.tagNumber = tag at heq htag
    subst heq
    obtain rfl : ApplicationValue.constructed els = v := by
      simpa [decodePropertyState, ApplicationValue.elements] using hv
    refine ⟨.ctxConstructed tag els, .ctxConstructed tag (forestWithKindTags els), rfl, hel, ?_, rfl, rfl, ?_⟩
    · simp [forestWire_of_fits hels]
    · simp [decodePropertyState, ApplicationValue.elements, ApplicationValue.withKindTags]
  | false =>
    obtain ⟨octets, heq, htag, hlen⟩ := primitive_of_fits hel hcontext hc
    generalize el.tagNumber = tag at heq htag
    subst heq
    by_cases h0 : tag = 0
    · subst h0
      obtain ⟨b, hb, rfl⟩ : ∃ b, contextBool (.ctx 0 octets) = .ok b ∧ v = .boolean b := by
        simp only [decodePropertyState, isContextConstructed_ctx, Element.tagNumber_mk, Bool.not_false, beq_self_eq_true,
          Bool.and_self, if_true, Except.map_eq_ok_iff, orMalformed_eq_ok_iff] at hv
        obtain ⟨b, hb, rfl⟩ := hv
        exact ⟨b, hb, rfl⟩
      refine ⟨.ctx 0 [if b then 1 else 0], .ctx 0 [if b then 1 else 0], ?_, ?_, by simp, rfl, rfl, ?_⟩
      · simp only [encodePropertyStates, appendContextBool]
        have hlen : [if b then (1 : UInt8) else 0].length ≤ 8 := by simp
        rw [← bind_assoc, parseElement_short htag hlen]
        rfl
      · exact .ctx 0 _ htag (by simp [wireLimits, maxUint32])
      · simp [decodePropertyState, contextBool_ctx, orMalformed, ApplicationValue.withKindTags]
    · cases hu : contextUnsigned32 (.ctx tag octets) with
      | ok u =>
        obtain rfl : ApplicationValue.enumerated u = v := by
          simpa [decodePropertyState, h0, hu] using hv
        refine ⟨.ctx tag (encodeUnsigned u.toUInt64), .ctx tag (encodeUnsigned u.toUInt64), ?_, ?_, by simp, rfl, rfl, ?_⟩
        · simp only [encodePropertyStates, appendContextUnsigned]
          rw [← bind_assoc, parseElement_short htag (length_encodeUnsigned_le _)]
          rfl
        · exact unsigned_fits htag u.toUInt64
        · simp [decodePropertyState, h0, ApplicationValue.withKindTags]
      | error e =>
        obtain rfl : ApplicationValue.context octets = v := by
          simpa [decodePropertyState, h0, hu, ApplicationValue.octets] using hv
        refine ⟨.ctx tag octets, .ctx tag octets, rfl, hel, by simp, rfl, rfl, ?_⟩
        simp [decodePropertyState, h0, hu, ApplicationValue.octets, ApplicationValue.withKindTags]

lemma changeOfState_reencodes (hels : ∀ el ∈ els, el.Fits wireLimits)
    {body : ChangeOfStateParams} (h : decodeChangeOfState els = .ok body) :
    Reencodes encodeChangeOfState decodeChangeOfState body.Reencodable body := by
  obtain ⟨hvalid, psEl, hpsEl, hcontext, htag, hstate⟩ : body.statusFlags.Valid ∧ ∃ psEl : Element,
      psEl.Fits wireLimits ∧ psEl.context = true ∧ psEl.tagNumber = body.newState.choice ∧
        decodePropertyState psEl = .ok body.newState.value := by
    unfold decodeChangeOfState at h
    split at h
    · next state flags =>
      obtain ⟨hnew, h⟩ := Except.check_eq_ok_iff.mp h
      split at h
      · next psEl heq =>
        obtain ⟨hcontext, h⟩ := Except.check_eq_ok_iff.mp h
        obtain ⟨v, hv, h⟩ := Except.bind_eq_ok_iff.mp h
        obtain ⟨-, h⟩ := Except.check_eq_ok_iff.mp h
        obtain ⟨b, hflags, h⟩ := Except.bind_eq_ok_iff.mp h
        cases h
        have hc : isContextConstructed state = true := (show _ ∧ _ by simpa using hnew).2
        obtain ⟨inner, hstate, -, hinner⟩ := constructed_of_fits (hels state (by simp)) hc
        have hmem : psEl ∈ inner := by
          rw [hstate] at heq
          simp only [Element.value_mk, ApplicationValue.elements] at heq
          simp [heq]
        exact ⟨valid_of_contextBitString hflags, psEl, hinner psEl hmem, by simpa using hcontext, rfl, hv⟩
      · cases h
    · cases h
  obtain ⟨new, new', hps, hfits, hwire, hcontext', htag', hback⟩ := propertyState_back hpsEl hcontext hstate
  rw [htag] at hps htag'
  have hencode (inner : List Element) : encodeChangeOfState body = .ok inner ↔ FlagsFit body.statusFlags ∧
      inner = [.ctxConstructed 0 [new], .ctx 1 body.statusFlags.octets] := by
    unfold encodeChangeOfState
    rw [hps]
    simp only [Except.bind_eq_ok_iff, parseContextBitStringElement_eq_ok_iff (show (1 : UInt8) ≠ _ by decide), hvalid,
      true_and]
    simp [eq_comm]
  have hdecode : decodeChangeOfState (forestWire [.ctxConstructed 0 [new], .ctx 1 body.statusFlags.octets]) =
      .ok ⟨⟨body.newState.choice, body.newState.value.withKindTags⟩, body.statusFlags⟩ := by
    simp [decodeChangeOfState, hwire, ApplicationValue.elements, hcontext', htag', hback, contextBitString_ctx hvalid]
  refine reencodes_of_image hencode ?_ (fun hcond => ?_) hdecode ?_
  · simp [forestPlain, Element.Plain, plain_of_fits hfits, ApplicationValue.Plain]
  · simp only [List.forall_mem_cons]
    exact ⟨.constructed 0 _ (by decide) (by simpa using hfits), flags_fits (by decide) hcond.1, by simp⟩
  · obtain ⟨⟨choice, value⟩, flags⟩ := body
    simp [ChangeOfStateParams.Reencodable]

lemma changeOfValue_reencodes (hels : ∀ el ∈ els, el.Fits wireLimits)
    {body : ChangeOfValueParams} (h : decodeChangeOfValue els = .ok body) :
    Reencodes encodeChangeOfValue decodeChangeOfValue body.Reencodable body := by
  obtain ⟨hvalid, hnew⟩ : body.statusFlags.Valid ∧ ((∃ el, body.newValue = .primitive el) ∨
      ∃ inner, body.newValue = .value (.constructed inner) ∧ ∀ el ∈ inner, el.Fits wireLimits) := by
    unfold decodeChangeOfValue at h
    split at h
    · next new flags =>
      obtain ⟨-, h⟩ := Except.check_eq_ok_iff.mp h
      obtain ⟨b, hflags, h⟩ := Except.bind_eq_ok_iff.mp h
      cases h
      refine ⟨valid_of_notificationBitString hflags, ?_⟩
      cases hc : isContextConstructed new with
      | false => exact .inl ⟨new, by simp⟩
      | true =>
        obtain ⟨inner, heq, -, hinner⟩ := constructed_of_fits (hels new (by simp)) hc
        refine .inr ⟨inner, ?_, hinner⟩
        rw [heq]
        simp [ApplicationValue.elements]
    · cases h
  obtain ⟨el, hel⟩ | ⟨inner, hinner, hfits⟩ := hnew
  · have hfail (out : List Element) : encodeChangeOfValue body ≠ .ok out := by
      simp [encodeChangeOfValue, hel, changeOfValueNewValue]
    refine ⟨fun out henc => absurd henc (hfail out), fun hcond => ?_, fun out henc => absurd henc (hfail out)⟩
    obtain ⟨-, _, hvalue, -⟩ := hcond
    rw [hel] at hvalue
    cases hvalue
  · have hencode (out : List Element) : encodeChangeOfValue body = .ok out ↔ FlagsFit body.statusFlags ∧
        out = [.ctxConstructed 0 inner, .ctx 1 body.statusFlags.octets] := by
      unfold encodeChangeOfValue changeOfValueNewValue
      rw [hinner]
      simp only [Except.bind_eq_ok_iff, parseContextBitStringElement_eq_ok_iff (show (1 : UInt8) ≠ _ by decide), hvalid,
        true_and]
      simp [eq_comm]
    have hdecode : decodeChangeOfValue (forestWire [.ctxConstructed 0 inner, .ctx 1 body.statusFlags.octets]) =
        .ok ⟨.value (.constructed (forestWire inner)), body.statusFlags⟩ := by
      simp [decodeChangeOfValue, ApplicationValue.elements, notificationBitString_ctx hvalid]
    refine reencodes_of_image hencode ?_ (fun hcond => ?_) hdecode ?_
    · simpa [forestPlain, Element.Plain, ApplicationValue.Plain] using
        forestPlain_iff.mpr fun el hel => plain_of_fits (hfits el hel)
    · simp only [List.forall_mem_cons]
      exact ⟨.constructed 0 _ (by decide) hfits, flags_fits (by decide) hcond.1, by simp⟩
    · obtain ⟨newValue, flags⟩ := body
      obtain rfl : newValue = _ := hinner
      simp [ChangeOfValueParams.Reencodable, tagged_iff hfits]

/-! ### Bodies whose fields may come in any order -/

lemma bufferProperty_of_fold {br br' : BufferReadyParams}
    (h : els.foldlM bufferReadyStep br = .ok br') :
    br'.bufferProperty = br.bufferProperty ++ els.filter fun el => el.tagNumber = 0 := by
  induction els generalizing br with
  | nil => simp [← Except.ok.inj h]
  | cons el els ih =>
    obtain ⟨mid, hmid, h⟩ := Except.foldlM_cons_eq_ok_iff.mp h
    rw [ih h]
    unfold bufferReadyStep at hmid
    split_ifs at hmid with h0 h1 h2
    · cases hmid
      simp [h0]
    · obtain ⟨u, -, rfl⟩ := Except.map_eq_ok_iff.mp hmid
      simp [h0]
    · obtain ⟨u, -, rfl⟩ := Except.map_eq_ok_iff.mp hmid
      simp [h0]
    · cases hmid
      simp [h0]

lemma bufferReady_fold_property (h0 : ∀ el ∈ els, el.tagNumber = 0) (br : BufferReadyParams) :
    els.foldlM bufferReadyStep br = .ok { br with bufferProperty := br.bufferProperty ++ els } := by
  induction els generalizing br with
  | nil => simp
  | cons el els ih =>
    have hstep : bufferReadyStep br el = .ok { br with bufferProperty := br.bufferProperty ++ [el] } := by
      simp [bufferReadyStep, h0 el (by simp)]
    rw [List.foldlM_cons, hstep]
    simpa using
      ih (fun el' hel' => h0 el' (by simp [hel'])) { br with bufferProperty := br.bufferProperty ++ [el] }

lemma length_forestWithKindTags (els : List Element) : (forestWithKindTags els).length = els.length := by
  induction els with
  | nil => rfl
  | cons el els ih => simp [forestWithKindTags, ih]

lemma bufferReady_reencodes (hels : ∀ el ∈ els, el.Fits wireLimits) {body : BufferReadyParams}
    (h : decodeBufferReady els = .ok body) :
    Reencodes encodeBufferReady decodeBufferReady (Tagged body.bufferProperty) body := by
  have hproperty : body.bufferProperty = els.filter fun el => el.tagNumber = 0 := by
    simpa using bufferProperty_of_fold h
  have hfits : ∀ el ∈ body.bufferProperty, el.Fits wireLimits := fun el hel => by
    rw [hproperty] at hel
    exact hels el (List.mem_filter.mp hel).1
  have htag : ∀ el ∈ body.bufferProperty, el.tagNumber = 0 := fun el hel => by
    rw [hproperty] at hel
    simpa using (List.mem_filter.mp hel).2
  have hencode : encodeBufferReady body = .ok (body.bufferProperty ++
      [.ctx 1 (encodeUnsigned body.previousCount.toUInt64), .ctx 2 (encodeUnsigned body.currentCount.toUInt64)]) := by
    unfold encodeBufferReady
    rw [parseContextUnsignedElement_eq (by decide), parseContextUnsignedElement_eq (by decide)]
    rfl
  have hcounts : ∀ el ∈ [Element.ctx 1 (encodeUnsigned body.previousCount.toUInt64),
      .ctx 2 (encodeUnsigned body.currentCount.toUInt64)], el.Fits wireLimits := by
    simp only [List.forall_mem_cons]
    exact ⟨unsigned_fits (by decide) _, unsigned_fits (by decide) _, by simp⟩
  have hall := List.forall_mem_append.mpr ⟨hfits, hcounts⟩
  refine ⟨fun inner henc => ?_, fun htagged => ⟨_, hencode, hall, ?_⟩, fun inner henc hdec => ?_⟩
  · obtain rfl := Except.ok.inj (hencode.symm.trans henc)
    exact forestPlain_iff.mpr fun el hel => plain_of_fits (hall el hel)
  · rw [forestWire_append, (tagged_iff hfits).mp htagged, decodeBufferReady]
    refine Except.foldlM_append_eq_ok_iff.mpr ⟨_, bufferReady_fold_property htag {}, ?_⟩
    simp [bufferReadyStep]
  · obtain rfl := Except.ok.inj (hencode.symm.trans henc)
    have hback := bufferProperty_of_fold hdec
    rw [forestWire_append, forestWire_of_fits hfits] at hback
    simp only [List.nil_append, List.filter_append, forestWire_cons, wire_under, wireUnder_context, forestWire_nil] at hback
    have hfilter : (forestWithKindTags body.bufferProperty).filter (fun el => el.tagNumber = 0) =
        forestWithKindTags body.bufferProperty := by
      refine List.filter_eq_self.mpr ?_
      refine List.length_filter_eq_length_iff.mp ?_
      rw [length_forestWithKindTags]
      simpa using (congrArg List.length hback).symm
    rw [hfilter] at hback
    unfold Tagged
    simpa using hback.symm

lemma parameters_of_fold (hels : ∀ el ∈ els, el.Fits wireLimits) {ext ext' : ExtendedParams}
    (hext : ∀ el ∈ ext.parameters, el.Fits wireLimits) (h : els.foldlM extendedStep ext = .ok ext') :
    ∀ el ∈ ext'.parameters, el.Fits wireLimits := by
  induction els generalizing ext with
  | nil =>
    cases h
    exact hext
  | cons el els ih =>
    obtain ⟨mid, hmid, h⟩ := Except.foldlM_cons_eq_ok_iff.mp h
    refine ih (fun el' hel' => hels el' (by simp [hel'])) ?_ h
    unfold extendedStep at hmid
    split_ifs at hmid with h0 h1 h2
    · simp only [Except.bind_eq_ok_iff] at hmid
      obtain ⟨_, -, _, -, hmid⟩ := hmid
      cases hmid
      exact hext
    · obtain ⟨u, -, rfl⟩ := Except.map_eq_ok_iff.mp hmid
      exact hext
    · cases hmid
      obtain ⟨inner, heq, -, hinner⟩ := constructed_of_fits (hels el (by simp)) h2.2
      rw [heq]
      simpa [ApplicationValue.elements] using hinner
    · cases hmid
      exact hext

lemma narrowU16_toUInt64 (u : UInt16) (what : String) : narrowU16 u.toUInt64 what = .ok u := by
  have h := u.toNat_lt
  simp [narrowU16, maxUint16]
  omega

lemma extended_reencodes (hels : ∀ el ∈ els, el.Fits wireLimits) {body : ExtendedParams}
    (h : decodeExtended els = .ok body) :
    Reencodes encodeExtended decodeExtended (Tagged body.parameters) body := by
  have hfits := parameters_of_fold hels (by simp) h
  obtain ⟨vendorID, eventType, parameters⟩ := body
  have hencode : encodeExtended ⟨vendorID, eventType, parameters⟩ = .ok ([.ctx 0 (encodeUnsigned vendorID.toUInt64),
      .ctx 1 (encodeUnsigned eventType.toUInt64)] ++
        if parameters.isEmpty then [] else [.ctxConstructed 2 parameters]) := by
    unfold encodeExtended
    rw [parseContextUnsignedElement_eq (by decide), parseContextUnsignedElement_eq (by decide)]
    rfl
  have hall : ∀ el ∈ [Element.ctx 0 (encodeUnsigned vendorID.toUInt64), .ctx 1 (encodeUnsigned eventType.toUInt64)] ++
      if parameters.isEmpty then [] else [.ctxConstructed 2 parameters], el.Fits wireLimits := by
    refine List.forall_mem_append.mpr ⟨?_, ?_⟩
    · simp only [List.forall_mem_cons]
      exact ⟨unsigned_fits (by decide) _, unsigned_fits (by decide) _, by simp⟩
    · split_ifs
      · simp
      · simpa using ⟨by decide, hfits⟩
  have hdecode : decodeExtended (forestWire ([.ctx 0 (encodeUnsigned vendorID.toUInt64),
      .ctx 1 (encodeUnsigned eventType.toUInt64)] ++ if parameters.isEmpty then [] else [.ctxConstructed 2 parameters])) =
        .ok ⟨vendorID, eventType, forestWire parameters⟩ := by
    cases parameters with
    | nil => simp [decodeExtended, extendedStep, narrowU16_toUInt64]
    | cons el parameters => simp [decodeExtended, extendedStep, narrowU16_toUInt64, ApplicationValue.elements]
  have hiff : ∀ inner, encodeExtended ⟨vendorID, eventType, parameters⟩ = .ok inner ↔ True ∧ inner = _ :=
    fun inner => by rw [hencode, Except.ok.injEq, true_and, eq_comm]
  refine reencodes_of_image hiff ?_ (fun _ => hall) hdecode ?_
  · exact forestPlain_iff.mpr fun el hel => plain_of_fits (hall el hel)
  · simp [tagged_iff hfits]

lemma kept_reencodes {β : Type} {encode : β → Except Err (List Element)} {decode : List Element → Except Err β}
    {cond : Prop} {body : β} (hels : ∀ el ∈ els, el.Fits wireLimits)
    (hencode : ∀ inner, encode body = .ok inner ↔ cond ∧ inner = els)
    (hdecode : ∀ inner, decode inner = .ok body ↔ inner = els) :
    Reencodes encode decode (cond ∧ Tagged els) body where
  plain inner henc := by
    obtain ⟨-, rfl⟩ := (hencode inner).mp henc
    exact forestPlain_iff.mpr fun el hel => plain_of_fits (hels el hel)
  back hcond := ⟨els, (hencode els).mpr ⟨hcond.1, rfl⟩, hels, (hdecode _).mpr ((tagged_iff hels).mp hcond.2)⟩
  only inner henc hdec := by
    obtain ⟨hcond, rfl⟩ := (hencode inner).mp henc
    exact ⟨hcond, (tagged_iff hels).mpr ((hdecode _).mp hdec)⟩

/-! ## The choice -/

structure Returns (p : NotificationParameters) : Prop where
  plain : ∀ out, encodeNotificationParameters p = .ok out → forestPlain out
  back : p.Reencodable → ∃ out p', encodeNotificationParameters p = .ok out ∧ (∀ el ∈ out, el.Fits wireLimits) ∧
    decodeNotificationParameters (forestWire out) = .ok p' ∧ p'.Same p
  only : ∀ out p', encodeNotificationParameters p = .ok out →
    decodeNotificationParameters (forestWire out) = .ok p' → p'.Same p → p.Reencodable

lemma NotificationParameters.reencodable_iff {p : NotificationParameters} : p.Reencodable ↔
    (∀ body ∈ p.changeOfBitstring, body.Reencodable) ∧ (∀ body ∈ p.changeOfState, body.Reencodable) ∧
    (∀ body ∈ p.changeOfValue, body.Reencodable) ∧ (∀ body ∈ p.outOfRange, FlagsFit body.statusFlags) ∧
    (∀ body ∈ p.commandFailure, body.Reencodable) ∧ (∀ body ∈ p.floatingLimit, FlagsFit body.statusFlags) ∧
    (∀ body ∈ p.unsignedRange, FlagsFit body.statusFlags) ∧ (∀ body ∈ p.bufferReady, Tagged body.bufferProperty) ∧
    (∀ body ∈ p.changeOfLifeSafety, FlagsFit body.statusFlags) ∧ (∀ body ∈ p.extended, Tagged body.parameters) ∧
    (∀ body ∈ p.complexEventType, Tagged body.values) ∧ (p.Unknown → p.rawElements ≠ [] ∧ Tagged p.rawElements) :=
  ⟨fun h => ⟨h.1, h.2, h.3, h.4, h.5, h.6, h.7, h.8, h.9, h.10, h.11, h.12⟩,
    fun ⟨h0, h1, h2, h3, h4, h5, h6, h7, h8, h9, h10, h11⟩ => ⟨h0, h1, h2, h3, h4, h5, h6, h7, h8, h9, h10, h11⟩⟩

lemma NotificationParameters.same_iff {p' p : NotificationParameters} : p'.Same p ↔
    p' = { p with rawElements := p'.rawElements } ∧ (p.Unknown → p'.rawElements = p.rawElements) :=
  ⟨fun h => ⟨h.body, h.unknown⟩, fun h => ⟨h.1, h.2⟩⟩

lemma returns_of_body {β : Type} (encode : β → Except Err (List Element)) (decode : List Element → Except Err β)
    (cond : β → Prop) (mk : List Element → β → NotificationParameters) {choice : UInt8} {raw : List Element}
    {p : NotificationParameters} (h : decodeNotificationParameters [.ctxConstructed choice raw] = .ok p)
    (hchoice : choice ≠ tagNumberReserved)
    (hbody : ∀ body, decode raw = .ok body → Reencodes encode decode (cond body) body)
    (hencode : ∀ body, encodeNotificationInner (mk raw body) = (encode body).map (·, choice))
    (hdecode : ∀ els, decodeNotificationParameters [.ctxConstructed choice els] = (decode els).map (mk els))
    (hsame : ∀ els body' body, (mk els body').Same (mk raw body) ↔ body' = body := by
      simp [NotificationParameters.same_iff, NotificationParameters.Unknown])
    (hcond : ∀ body, (mk raw body).Reencodable ↔ cond body := by
      simp [NotificationParameters.reencodable_iff, NotificationParameters.Unknown]) : Returns p := by
  replace hencode (body : β) : encodeNotificationParameters (mk raw body) =
      (encode body).map fun inner => [.ctxConstructed choice inner] := by
    unfold encodeNotificationParameters
    rw [hencode]
    cases encode body <;> rfl
  rw [hdecode] at h
  obtain ⟨body, hdec, rfl⟩ := Except.map_eq_ok_iff.mp h
  have hre := hbody body hdec
  refine ⟨fun out henc => ?_, fun hp => ?_, fun out p' henc hdec hp' => ?_⟩
  · rw [hencode] at henc
    obtain ⟨inner, hinner, rfl⟩ := Except.map_eq_ok_iff.mp henc
    simpa [forestPlain, Element.Plain, ApplicationValue.Plain] using hre.plain inner hinner
  · obtain ⟨inner, hinner, hfits, hback⟩ := hre.back ((hcond body).mp hp)
    refine ⟨[.ctxConstructed choice inner], mk (forestWire inner) body, ?_, ?_, ?_, (hsame _ _ _).mpr rfl⟩
    · rw [hencode, hinner]
      rfl
    · simpa using ⟨hchoice, hfits⟩
    · simp [hdecode, hback]
  · rw [hencode] at henc
    obtain ⟨inner, hinner, rfl⟩ := Except.map_eq_ok_iff.mp henc
    simp only [forestWire_cons, wire_under, wireUnder_constructed, forestWire_nil, List.append_nil, hdecode] at hdec
    obtain ⟨body', hbody', rfl⟩ := Except.map_eq_ok_iff.mp hdec
    obtain rfl := (hsame _ _ _).mp hp'
    exact (hcond _).mpr (hre.only inner hinner hbody')

section Choices

variable {choice : UInt8} {raw : List Element} {p : NotificationParameters}

lemma returns_unknown (h : decodeNotificationParameters [.ctxConstructed choice raw] = .ok p)
    (hraw : ∀ el ∈ raw, el.Fits wireLimits) (hchoice : choice ≠ tagNumberReserved)
    (hunknown : ∀ els, decodeNotificationParameters [.ctxConstructed choice els] =
      .ok { choice := choice, rawElements := els }) : Returns p := by
  refine returns_of_body
    (fun els => if els.isEmpty then .error (malformed "empty NotificationParameters") else .ok els) .ok
    (fun els => els ≠ [] ∧ Tagged els) (fun _ els => { choice := choice, rawElements := els }) h hchoice
    (fun body hbody => ?_) (fun body => ?_) fun els => ?_
  · cases hbody
    refine kept_reencodes hraw (fun inner => ?_) (fun inner => ?_)
    · rw [Except.check_eq_ok_iff, Except.ok.injEq, List.isEmpty_iff, eq_comm (a := inner)]
    · simp
  · cases body <;> rfl
  · rw [hunknown]
    rfl

lemma returns_of_choice (h : decodeNotificationParameters [.ctxConstructed choice raw] = .ok p)
    (hraw : ∀ el ∈ raw, el.Fits wireLimits) (hchoice : choice ≠ tagNumberReserved) : Returns p := by
  by_cases h1 : choice = notificationChangeOfState
  · subst h1
    exact returns_of_body encodeChangeOfState decodeChangeOfState ChangeOfStateParams.Reencodable
      (fun els body => { choice := notificationChangeOfState, rawElements := els, changeOfState := some body }) h hchoice
      (fun _ => changeOfState_reencodes hraw) (fun _ => rfl) fun _ => rfl
  by_cases h0 : choice = notificationChangeOfBitstring
  · subst h0
    exact returns_of_body encodeChangeOfBitstring decodeChangeOfBitstring ChangeOfBitstringParams.Reencodable
      (fun els body => { choice := notificationChangeOfBitstring, rawElements := els, changeOfBitstring := some body }) h hchoice
      (fun _ => changeOfBitstring_reencodes) (fun _ => rfl) fun _ => rfl
  by_cases h2 : choice = notificationChangeOfValue
  · subst h2
    exact returns_of_body encodeChangeOfValue decodeChangeOfValue ChangeOfValueParams.Reencodable
      (fun els body => { choice := notificationChangeOfValue, rawElements := els, changeOfValue := some body }) h hchoice
      (fun _ => changeOfValue_reencodes hraw) (fun _ => rfl) fun _ => rfl
  by_cases h5 : choice = notificationOutOfRange
  · subst h5
    exact returns_of_body encodeOutOfRange decodeOutOfRange (fun body => FlagsFit body.statusFlags)
      (fun els body => { choice := notificationOutOfRange, rawElements := els, outOfRange := some body }) h hchoice
      (fun _ => outOfRange_reencodes) (fun _ => rfl) fun _ => rfl
  by_cases h3 : choice = notificationCommandFailure
  · subst h3
    exact returns_of_body encodeCommandFailure decodeCommandFailure CommandFailureParams.Reencodable
      (fun els body => { choice := notificationCommandFailure, rawElements := els, commandFailure := some body }) h hchoice
      (fun _ => commandFailure_reencodes hraw) (fun _ => rfl) fun _ => rfl
  by_cases h4 : choice = notificationFloatingLimit
  · subst h4
    exact returns_of_body encodeFloatingLimit decodeFloatingLimit (fun body => FlagsFit body.statusFlags)
      (fun els body => { choice := notificationFloatingLimit, rawElements := els, floatingLimit := some body }) h hchoice
      (fun _ => floatingLimit_reencodes) (fun _ => rfl) fun _ => rfl
  by_cases h10 : choice = notificationBufferReady
  · subst h10
    exact returns_of_body encodeBufferReady decodeBufferReady (fun body => Tagged body.bufferProperty)
      (fun els body => { choice := notificationBufferReady, rawElements := els, bufferReady := some body }) h hchoice
      (fun _ => bufferReady_reencodes hraw) (fun _ => rfl) fun _ => rfl
  by_cases h11 : choice = notificationUnsignedRange
  · subst h11
    exact returns_of_body encodeUnsignedRange decodeUnsignedRange (fun body => FlagsFit body.statusFlags)
      (fun els body => { choice := notificationUnsignedRange, rawElements := els, unsignedRange := some body }) h hchoice
      (fun _ => unsignedRange_reencodes) (fun _ => rfl) fun _ => rfl
  by_cases h8 : choice = notificationChangeOfLifeSafety
  · subst h8
    exact returns_of_body encodeChangeOfLifeSafety decodeChangeOfLifeSafety (fun body => FlagsFit body.statusFlags)
      (fun els body => { choice := notificationChangeOfLifeSafety, rawElements := els, changeOfLifeSafety := some body }) h hchoice
      (fun _ => changeOfLifeSafety_reencodes) (fun _ => rfl) fun _ => rfl
  by_cases h9 : choice = notificationExtended
  · subst h9
    exact returns_of_body encodeExtended decodeExtended (fun body => Tagged body.parameters)
      (fun els body => { choice := notificationExtended, rawElements := els, extended := some body }) h hchoice
      (fun _ => extended_reencodes hraw) (fun _ => rfl) fun _ => rfl
  by_cases h6 : choice = notificationComplexEventType
  · subst h6
    refine returns_of_body (fun body => .ok body.values) (fun els => .ok ⟨els⟩)
      (fun body : ComplexEventTypeParams => True ∧ Tagged body.values)
      (fun els body => { choice := notificationComplexEventType, rawElements := els, complexEventType := some body }) h
      hchoice (fun body hbody => ?_) (fun _ => rfl) fun _ => rfl
    cases hbody
    exact kept_reencodes hraw (by simp [eq_comm]) (by simp)
  refine returns_unknown h hraw hchoice fun els => ?_
  simp [decodeNotificationParameters, ApplicationValue.elements, h0, h1, h2, h3, h4, h5, h6, h8, h9, h10, h11]

lemma eq_ctxConstructed {el : Element} (h : isContextConstructed el = true) :
    el = .ctxConstructed el.tagNumber el.value.elements := by
  obtain ⟨context, tag, opening, closing, v⟩ := el
  cases v <;> simp_all [isContextConstructed, ApplicationValue.isConstructed, ApplicationValue.elements]

lemma elements_of_decode {elements : List Element} (h : decodeNotificationParameters elements = .ok p) :
    elements = [.ctxConstructed p.choice p.rawElements] := by
  unfold decodeNotificationParameters at h
  split at h
  swap
  · cases h
  next el =>
  obtain ⟨hcontext, h⟩ := Except.check_eq_ok_iff.mp h
  have hconstructed : isContextConstructed el = true := (show _ ∧ _ by simpa using hcontext).2
  rw [eq_ctxConstructed hconstructed]
  iterate 10
    rcases Except.ite_eq_ok_iff.mp h with ⟨-, h⟩ | ⟨-, h⟩
    · obtain ⟨body, -, rfl⟩ := Except.map_eq_ok_iff.mp h
      rfl
  rcases Except.ite_eq_ok_iff.mp h with ⟨-, h⟩ | ⟨-, h⟩
  · cases h
    rfl
  · cases h
    rfl

lemma returns_of_decode {elements : List Element} (hels : ∀ el ∈ elements, el.Fits wireLimits)
    (h : decodeNotificationParameters elements = .ok p) : Returns p := by
  obtain rfl := elements_of_decode h
  obtain ⟨hchoice, hraw⟩ := fits_ctxConstructed_iff.mp (hels _ (List.mem_singleton_self _))
  exact returns_of_choice h hraw hchoice

end Choices

end GoBacnet.Proofs
