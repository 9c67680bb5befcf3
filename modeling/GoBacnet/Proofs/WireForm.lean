import GoBacnet.ContextField
import GoBacnet.Proofs.ParseBounds

/-!
# The wire form of elements

A sender may group elements in an application element and give a context tag a typed value. On the wire there
are no groups, and a context primitive is its content octets. `forestWire` is the list of elements that a
receiver reads from the encoding of a list, so that a decoder can be followed on elements instead of octets.
-/

namespace GoBacnet

def ObjectIdentifier.Valid (id : ObjectIdentifier) : Prop :=
  id.type ≤ 0x3FF ∧ id.instanceNumber ≤ maxObjectInstance

def BitString.Valid (b : BitString) : Prop := b.unusedBits ≤ 7 ∧ (b.bytes = [] → b.unusedBits = 0)

def ApplicationValue.contentOctets (v : ApplicationValue) : Octets :=
  match contextContentOctets v with
  | .ok octets => octets
  | .error _ => []

def valueElements : ApplicationValue → List Element
  | .constructed elements => elements
  | v => [.app v.tagNumber v]

mutual

def Element.wire : Element → List Element
  | .mk context tag opening closing v =>
    if opening || closing then [.mk true tag opening closing .null]
    else if context then [v.wireUnder tag]
    else v.wire

def ApplicationValue.wire : ApplicationValue → List Element
  | .constructed elements => forestWire elements
  | v => [.app v.tagNumber v]

def ApplicationValue.wireUnder (tag : UInt8) : ApplicationValue → Element
  | .constructed elements => .ctxConstructed tag (forestWire elements)
  | v => .ctx tag v.contentOctets

def forestWire : List Element → List Element
  | [] => []
  | el :: els => el.wire ++ forestWire els

end

mutual

def Element.Plain : Element → Prop
  | .mk _ _ opening closing v => opening = false ∧ closing = false ∧ v.Plain

def ApplicationValue.Plain : ApplicationValue → Prop
  | .constructed elements => forestPlain elements
  | _ => True

def forestPlain : List Element → Prop
  | [] => True
  | el :: els => el.Plain ∧ forestPlain els

end

/-- Elements that a parser with these limits reads. -/
structure WithinLimits (limits : DecodeLimits) (els : List Element) : Prop where
  fits : ∀ el ∈ els, el.Fits limits.normalize
  depth : forestDepth els ≤ limits.normalize.maxConstructedDepth
  count : forestCount els ≤ limits.normalize.maxElements

end GoBacnet

namespace GoBacnet.Proofs

variable {limits : DecodeLimits} {el : Element} {els : List Element} {bytes dst : Octets} {tag : UInt8}

/-! ## Identifiers and bit strings -/

lemma encodeObjectIdentifier_eq_ok_iff {id : ObjectIdentifier} {enc : UInt32} :
    encodeObjectIdentifier id = .ok enc ↔ id.Valid ∧ (id.type.toUInt32 <<< 22) ||| id.instanceNumber = enc := by
  unfold encodeObjectIdentifier ObjectIdentifier.Valid
  simp only [Except.check_eq_ok_iff, UInt16.not_lt, UInt32.not_lt, Except.ok.injEq, and_assoc, gt_iff_lt]

lemma validateBitString_eq_ok_iff {b : BitString} :
    validateBitString b.unusedBits b.bytes.length = .ok () ↔ b.Valid := by
  unfold validateBitString BitString.Valid
  simp only [Except.check_eq_ok_iff, gt_iff_lt, UInt8.not_lt, not_and, ne_eq, not_not, List.length_eq_zero_iff, and_true]

/-! ## Elements that fit -/

@[simp] lemma fits_app_iff {tag : ApplicationTag} {v : ApplicationValue} :
    (Element.app tag v).Fits limits ↔ v.Fits limits := by
  constructor
  · rintro ⟨⟩
    assumption
  · exact .app tag v

@[simp] lemma fits_ctx_iff {octets : Octets} :
    (Element.ctx tag octets).Fits limits ↔
      tag ≠ tagNumberReserved ∧ octets.length ≤ limits.maxOctetStringLength := by
  constructor
  · rintro ⟨⟩
    exact ⟨‹_›, ‹_›⟩
  · exact fun h => .ctx tag octets h.1 h.2

@[simp] lemma fits_ctxConstructed_iff :
    (Element.ctxConstructed tag els).Fits limits ↔ tag ≠ tagNumberReserved ∧ ∀ el ∈ els, el.Fits limits := by
  constructor
  · rintro ⟨⟩
    exact ⟨‹_›, ‹_›⟩
  · exact fun h => .constructed tag els h.1 h.2

/-! ## Lists of elements -/

lemma appendTags_concat (dst : Octets) (es₁ es₂ : List Element) :
    appendTags dst (es₁ ++ es₂) = (appendTags dst es₁).bind fun dst => appendTags dst es₂ := by
  induction es₁ generalizing dst with
  | nil => rfl
  | cons el es₁ ih =>
    simp only [List.cons_append, appendTags, Bind.bind, Except.bind]
    cases appendTag dst el with
    | error e => rfl
    | ok dst => exact ih dst

@[simp] lemma appendTags_singleton (dst : Octets) (el : Element) : appendTags dst [el] = appendTag dst el := by
  simp only [appendTags, Bind.bind, Except.bind]
  cases appendTag dst el <;> rfl

@[simp] lemma forestWire_append (es₁ es₂ : List Element) :
    forestWire (es₁ ++ es₂) = forestWire es₁ ++ forestWire es₂ := by
  induction es₁ with
  | nil => simp [forestWire]
  | cons el es₁ ih => simp [forestWire, ih]

@[simp] lemma forestWithKindTags_append (es₁ es₂ : List Element) :
    forestWithKindTags (es₁ ++ es₂) = forestWithKindTags es₁ ++ forestWithKindTags es₂ := by
  induction es₁ with
  | nil => simp [forestWithKindTags]
  | cons el es₁ ih => simp [forestWithKindTags, ih]

@[simp] lemma forestWire_nil : forestWire [] = [] := rfl

@[simp] lemma forestWire_cons (el : Element) (els : List Element) :
    forestWire (el :: els) = el.wire ++ forestWire els := rfl

@[simp] lemma wire_under (tag : UInt8) (v : ApplicationValue) :
    (Element.mk true tag false false v).wire = [v.wireUnder tag] := by
  unfold Element.wire
  simp

@[simp] lemma wire_app (tag : ApplicationTag) (v : ApplicationValue) : (Element.app tag v).wire = v.wire := by
  unfold Element.wire
  simp

@[simp] lemma wireUnder_context (tag : UInt8) (octets : Octets) :
    (ApplicationValue.context octets).wireUnder tag = .ctx tag octets := by
  unfold ApplicationValue.wireUnder
  rfl

@[simp] lemma wireUnder_constructed (tag : UInt8) (els : List Element) :
    (ApplicationValue.constructed els).wireUnder tag = .ctxConstructed tag (forestWire els) := by
  unfold ApplicationValue.wireUnder
  rfl

lemma wire_of_fits (h : el.Fits limits) : el.wire = [el.withKindTag] := by
  induction h with
  | app tag v hv =>
    rw [wire_app]
    cases v with
    | constructed els => exact hv.elim
    | _ =>
      unfold ApplicationValue.wire
      rfl
  | ctx tag octets => simp [Element.withKindTag, ApplicationValue.withKindTags]
  | constructed tag els htag hels ih =>
    have hforest : forestWire els = forestWithKindTags els := by
      clear hels
      induction els with
      | nil => rfl
      | cons el els ihels =>
        rw [forestWire_cons, ih el List.mem_cons_self, ihels fun e he => ih e (List.mem_cons_of_mem el he)]
        rfl
    simp [Element.withKindTag, ApplicationValue.withKindTags, hforest]

lemma forestWire_of_fits (h : ∀ el ∈ els, el.Fits limits) :
    forestWire els = forestWithKindTags els := by
  induction els with
  | nil => rfl
  | cons el els ih =>
    rw [forestWire_cons, wire_of_fits (h el List.mem_cons_self), ih fun e he => h e (List.mem_cons_of_mem el he)]
    rfl

lemma forestWithKindTags_eq_map (els : List Element) : forestWithKindTags els = els.map Element.withKindTag := by
  induction els with
  | nil => rfl
  | cons el els ih => rw [forestWithKindTags, List.map_cons, ih]

lemma forestWithKindTags_measures
    (h : ∀ el ∈ els, el.withKindTag.depth = el.depth ∧ el.withKindTag.count = el.count) :
    forestDepth (forestWithKindTags els) = forestDepth els ∧ forestCount (forestWithKindTags els) = forestCount els := by
  induction els with
  | nil => exact ⟨rfl, rfl⟩
  | cons el els ih =>
    obtain ⟨hdepth, hcount⟩ := ih fun e he => h e (List.mem_cons_of_mem el he)
    obtain ⟨hd, hc⟩ := h el List.mem_cons_self
    simp only [forestWithKindTags, forestDepth, forestCount, hd, hc, hdepth, hcount, and_self]

lemma withKindTag_measures (h : el.Fits limits) :
    el.withKindTag.depth = el.depth ∧ el.withKindTag.count = el.count := by
  induction h with
  | app tag v hv =>
    cases v with
    | constructed els => exact hv.elim
    | _ => exact ⟨rfl, rfl⟩
  | ctx tag octets htag hlen => exact ⟨rfl, rfl⟩
  | constructed tag els htag hels ih =>
    obtain ⟨hdepth, hcount⟩ := forestWithKindTags_measures ih
    simp only [Element.withKindTag, ApplicationValue.withKindTags, Element.depth, ApplicationValue.depth, Element.count,
      ApplicationValue.count, hdepth, hcount, and_self]

lemma withKindTag_fits (h : el.Fits limits) : el.withKindTag.Fits limits := by
  induction h with
  | app tag v hv =>
    cases v with
    | constructed els => exact hv.elim
    | _ => exact .app _ _ hv
  | ctx tag octets htag hlen => exact .ctx tag octets htag hlen
  | constructed tag els htag hels ih =>
    refine .constructed tag _ htag ?_
    rw [forestWithKindTags_eq_map]
    exact List.forall_mem_map.mpr ih

lemma withinLimits_withKindTags (h : WithinLimits limits els) :
    WithinLimits limits (forestWithKindTags els) := by
  obtain ⟨hdepth, hcount⟩ := forestWithKindTags_measures fun el hel => withKindTag_measures (h.fits el hel)
  refine ⟨?_, by rw [hdepth]; exact h.depth, by rw [hcount]; exact h.count⟩
  rw [forestWithKindTags_eq_map]
  exact List.forall_mem_map.mpr fun el hel => withKindTag_fits (h.fits el hel)

/-! ## The wire form has the same encoding -/

lemma appendTag_typed {v : ApplicationValue}
    (hv : ∀ els, v ≠ .constructed els) (h : appendTag dst (.mk true tag false false v) = .ok bytes) :
    contextContentOctets v = .ok v.contentOctets ∧ appendTag dst (.ctx tag v.contentOctets) = .ok bytes := by
  unfold appendTag at h ⊢
  simp only [Bool.or_true, Bool.true_and, beq_iff_eq, Bool.false_eq_true, if_false, if_true] at h ⊢
  obtain ⟨htag, h⟩ := Except.check_eq_ok_iff.mp h
  have hraw : ∃ raw, contextContentOctets v = .ok raw ∧ appendContextPrimitive dst tag raw = .ok bytes := by
    cases v with
    | constructed els => exact absurd rfl (hv els)
    | _ => exact Except.bind_eq_ok_iff.mp h
  obtain ⟨raw, hcontent, happ⟩ := hraw
  have hoctets : v.contentOctets = raw := by simp [ApplicationValue.contentOctets, hcontent]
  rw [hoctets, if_neg htag]
  exact ⟨hcontent, happ⟩

mutual

lemma appendTag_wire : (el : Element) → (dst bytes : Octets) → appendTag dst el = .ok bytes →
    appendTags dst el.wire = .ok bytes
  | .mk context tag opening closing v, dst, bytes, h => by
    unfold Element.wire
    by_cases hmark : opening || closing
    · rw [if_pos hmark, appendTags_singleton]
      unfold appendTag at h ⊢
      cases opening with
      | true => simpa using h
      | false =>
        obtain rfl : closing = true := by simpa using hmark
        simpa using h
    · obtain ⟨rfl, rfl⟩ : opening = false ∧ closing = false := by simpa using hmark
      cases context with
      | true => exact appendTag_wireUnder v tag dst bytes h
      | false =>
        unfold appendTag at h
        exact appendApplicationValue_wire v dst bytes (by simpa using h)

lemma appendApplicationValue_wire : (v : ApplicationValue) → (dst bytes : Octets) →
    appendApplicationValue dst v = .ok bytes → appendTags dst v.wire = .ok bytes
  | .constructed els, dst, bytes, h => by
    unfold ApplicationValue.wire
    unfold appendApplicationValue at h
    exact appendTags_wire els dst bytes h
  | .null, dst, bytes, h | .boolean _, dst, bytes, h | .unsigned _, dst, bytes, h | .signed _, dst, bytes, h
  | .real _, dst, bytes, h | .double _, dst, bytes, h | .octetString _, dst, bytes, h
  | .characterString _, dst, bytes, h | .bitString _, dst, bytes, h | .enumerated _, dst, bytes, h
  | .date _, dst, bytes, h | .time _, dst, bytes, h | .objectID _, dst, bytes, h | .context _, dst, bytes, h => by
    unfold ApplicationValue.wire
    rw [appendTags_singleton]
    unfold appendTag
    simpa using h

lemma appendTag_wireUnder : (v : ApplicationValue) → (tag : UInt8) → (dst bytes : Octets) →
    appendTag dst (.mk true tag false false v) = .ok bytes → appendTags dst [v.wireUnder tag] = .ok bytes
  | .constructed els, tag, dst, bytes, h => by
    unfold ApplicationValue.wireUnder
    rw [appendTags_singleton, appendTag_ctxConstructed]
    rw [appendTag_ctxConstructed] at h
    unfold appendContextTagged at h ⊢
    by_cases htag : tag = tagNumberReserved
    · simp [htag, throw, throwThe, MonadExceptOf.throw] at h
    · simp only [htag, if_false, Bind.bind, Except.bind, Pure.pure, Except.pure] at h ⊢
      cases hels : appendTags (appendContextOpenClose dst tag true) els with
      | error e => simp [hels] at h
      | ok inner =>
        rw [appendTags_wire els _ _ hels]
        simpa [hels] using h
  | .null, tag, dst, bytes, h | .boolean _, tag, dst, bytes, h | .unsigned _, tag, dst, bytes, h
  | .signed _, tag, dst, bytes, h | .real _, tag, dst, bytes, h | .double _, tag, dst, bytes, h
  | .octetString _, tag, dst, bytes, h | .characterString _, tag, dst, bytes, h | .bitString _, tag, dst, bytes, h
  | .enumerated _, tag, dst, bytes, h | .date _, tag, dst, bytes, h | .time _, tag, dst, bytes, h
  | .objectID _, tag, dst, bytes, h | .context _, tag, dst, bytes, h => by
    unfold ApplicationValue.wireUnder
    rw [appendTags_singleton]
    exact (appendTag_typed (by simp) h).2

lemma appendTags_wire : (els : List Element) → (dst bytes : Octets) → appendTags dst els = .ok bytes →
    appendTags dst (forestWire els) = .ok bytes
  | [], dst, bytes, h => by simpa [forestWire] using h
  | el :: els, dst, bytes, h => by
    unfold forestWire
    unfold appendTags at h
    obtain ⟨dst', hel, hels⟩ := Except.bind_eq_ok_iff.mp h
    rw [appendTags_concat, appendTag_wire el dst dst' hel]
    exact appendTags_wire els dst' bytes hels

end

mutual

lemma withKindTags_wire : (el : Element) → forestWithKindTags el.wire = el.wire
  | .mk context tag opening closing v => by
    unfold Element.wire
    by_cases hmark : opening || closing
    · simp [hmark, forestWithKindTags, Element.withKindTag, ApplicationValue.withKindTags]
    · cases context with
      | true => simpa [hmark, forestWithKindTags] using withKindTag_wireUnder v tag
      | false => simpa [hmark] using withKindTags_wireValue v

lemma withKindTags_wireValue : (v : ApplicationValue) → forestWithKindTags v.wire = v.wire
  | .constructed els => by
    unfold ApplicationValue.wire
    exact forestWithKindTags_wire els
  | .null | .boolean _ | .unsigned _ | .signed _ | .real _ | .double _ | .octetString _ | .characterString _
  | .bitString _ | .enumerated _ | .date _ | .time _ | .objectID _ | .context _ => by
    unfold ApplicationValue.wire
    rfl

lemma withKindTag_wireUnder : (v : ApplicationValue) → (tag : UInt8) →
    (v.wireUnder tag).withKindTag = v.wireUnder tag
  | .constructed els, tag => by
    unfold ApplicationValue.wireUnder
    simp only [Element.withKindTag, ApplicationValue.withKindTags]
    rw [forestWithKindTags_wire els]
  | .null, tag | .boolean _, tag | .unsigned _, tag | .signed _, tag | .real _, tag | .double _, tag
  | .octetString _, tag | .characterString _, tag | .bitString _, tag | .enumerated _, tag | .date _, tag
  | .time _, tag | .objectID _, tag | .context _, tag => by
    unfold ApplicationValue.wireUnder
    simp only [Element.withKindTag, ApplicationValue.withKindTags]

lemma forestWithKindTags_wire : (els : List Element) → forestWithKindTags (forestWire els) = forestWire els
  | [] => rfl
  | el :: els => by
    unfold forestWire
    rw [forestWithKindTags_append, withKindTags_wire el, forestWithKindTags_wire els]

end

lemma parseSequence_wire {es : List Element}
    (hbytes : appendTags [] es = .ok bytes) (hwithin : WithinLimits limits (forestWire es)) :
    parseSequence bytes limits (-1) = .ok (forestWire es, bytes.length) := by
  have hread := parseSequence_appended hwithin.fits hwithin.depth hwithin.count (appendTags_wire es [] bytes hbytes)
  rwa [forestWithKindTags_wire] at hread

lemma withinLimits_of_parse {data : Octets} {closeTag : Int}
    {consumed : Nat} (h : parseSequence data limits closeTag = .ok (els, consumed)) : WithinLimits limits els := by
  obtain ⟨left, hret⟩ := parseSequence_returned h
  have hfits : ∀ el ∈ els, el.Fits limits.normalize := fun el hel => by
    simpa using (hret.fits el hel).1
  exact ⟨hfits, hret.bounds.2, hret.bounds.1⟩

lemma appendTags_within {es : List Element} (hwithin : WithinLimits limits es)
    (hlimits : limits.normalize.Encodable) : ∃ bytes, appendTags [] es = .ok bytes :=
  appendTags_ok_of fun el hel => appendTag_ok hlimits (hwithin.fits el hel)

/-! ## What limits admit the wire form -/

@[simp] lemma forestPlain_append {es₁ es₂ : List Element} :
    forestPlain (es₁ ++ es₂) ↔ forestPlain es₁ ∧ forestPlain es₂ := by
  induction es₁ with
  | nil => simp [forestPlain]
  | cons el es₁ ih => simp [forestPlain, ih, and_assoc]

lemma forestPlain_iff : forestPlain els ↔ ∀ el ∈ els, el.Plain := by
  induction els with
  | nil => simp [forestPlain]
  | cons el els ih => simp [forestPlain, ih]

lemma plain_of_fits (h : el.Fits limits) : el.Plain := by
  induction h with
  | app tag v hv =>
    cases v with
    | constructed els => exact hv.elim
    | _ => simp [Element.Plain, ApplicationValue.Plain]
  | ctx tag octets => simp [Element.Plain, ApplicationValue.Plain]
  | constructed tag els htag hels ih =>
    simp only [Element.Plain, ApplicationValue.Plain, true_and]
    exact forestPlain_iff.mpr ih

lemma length_of_header {context : Bool} {n : Nat} {hdr : Octets}
    (h : encodeTagHeader context tag n = .ok hdr) : n ≤ maxUint32 :=
  not_lt.mp (Except.check_eq_ok_iff.mp h).1

lemma length_of_appendAppPrimitive {value : Octets} {tag : ApplicationTag}
    (h : appendAppPrimitive dst tag value = .ok bytes) : value.length ≤ maxUint32 := by
  obtain ⟨hdr, hhdr, -⟩ := Except.bind_eq_ok_iff.mp h
  exact length_of_header hhdr

lemma of_appendTag_ctx {octets : Octets} (h : appendTag dst (.ctx tag octets) = .ok bytes) :
    tag ≠ tagNumberReserved ∧ octets.length ≤ maxUint32 := by
  unfold appendTag at h
  simp only [Bool.or_true, Bool.true_and, beq_iff_eq, Bool.false_eq_true, if_false, if_true] at h
  obtain ⟨htag, h⟩ := Except.check_eq_ok_iff.mp h
  obtain ⟨raw, hraw, h⟩ := Except.bind_eq_ok_iff.mp h
  obtain rfl : octets = raw := Except.ok.inj hraw
  simp only [appendContextPrimitive, htag, if_false] at h
  obtain ⟨hdr, hhdr, -⟩ := Except.bind_eq_ok_iff.mp h
  exact ⟨htag, length_of_header hhdr⟩

lemma value_fits_of_appended {v : ApplicationValue} (hv : ∀ els, v ≠ .constructed els)
    (h : appendApplicationValue dst v = .ok bytes) : v.Fits wireLimits := by
  unfold appendApplicationValue at h
  cases v with
  | constructed els => exact absurd rfl (hv els)
  | context o => cases h
  | octetString o =>
    have hlen := length_of_appendAppPrimitive h
    simp only [ApplicationValue.Fits, wireLimits]
    omega
  | characterString c =>
    have hlen := length_of_appendAppPrimitive h
    simp only [ApplicationValue.Fits, wireLimits, List.length_cons] at hlen ⊢
    omega
  | bitString b =>
    obtain ⟨_, hvalid, h⟩ := Except.bind_eq_ok_iff.mp h
    have hlen := length_of_appendAppPrimitive h
    obtain ⟨hunused, hempty⟩ := validateBitString_eq_ok_iff.mp hvalid
    simp only [ApplicationValue.Fits, wireLimits, List.length_cons] at hlen ⊢
    refine ⟨hunused, hempty, ?_⟩
    omega
  | objectID id =>
    obtain ⟨enc, henc, -⟩ := Except.bind_eq_ok_iff.mp h
    exact (encodeObjectIdentifier_eq_ok_iff.mp henc).1
  | _ => trivial

lemma fits_of_appendTags_ctxConstructed
    (h : appendTag dst (.ctxConstructed tag els) = .ok bytes) :
    tag ≠ tagNumberReserved ∧ ∃ dst' inner, appendTags dst' els = .ok inner := by
  rw [appendTag_ctxConstructed] at h
  unfold appendContextTagged at h
  by_cases htag : tag = tagNumberReserved
  · simp [htag, throw, throwThe, MonadExceptOf.throw] at h
  · simp only [htag, if_false] at h
    obtain ⟨inner, hinner, -⟩ := Except.bind_eq_ok_iff.mp (by simpa using h)
    exact ⟨htag, _, inner, hinner⟩

mutual

lemma wire_fits_of_appended : (el : Element) → el.Plain → (dst bytes : Octets) → appendTag dst el = .ok bytes →
    ∀ e ∈ el.wire, e.Fits wireLimits
  | .mk context tag opening closing v, hplain, dst, bytes, h => by
    unfold Element.Plain at hplain
    obtain ⟨rfl, rfl, hv⟩ := hplain
    unfold Element.wire
    cases context with
    | true =>
      simp only [Bool.or_self, Bool.false_eq_true, if_false, if_true, List.mem_singleton, forall_eq]
      exact wireUnder_fits_of_appended v hv tag dst bytes h
    | false =>
      unfold appendTag at h
      exact wireValue_fits_of_appended v hv dst bytes (by simpa using h)

lemma wireValue_fits_of_appended : (v : ApplicationValue) → v.Plain → (dst bytes : Octets) →
    appendApplicationValue dst v = .ok bytes → ∀ e ∈ v.wire, e.Fits wireLimits
  | .constructed els, hv, dst, bytes, h => by
    unfold ApplicationValue.wire
    unfold ApplicationValue.Plain at hv
    unfold appendApplicationValue at h
    exact forestWire_fits_of_appended els hv dst bytes h
  | .null, _, dst, bytes, h | .boolean _, _, dst, bytes, h | .unsigned _, _, dst, bytes, h
  | .signed _, _, dst, bytes, h | .real _, _, dst, bytes, h | .double _, _, dst, bytes, h
  | .octetString _, _, dst, bytes, h | .characterString _, _, dst, bytes, h | .bitString _, _, dst, bytes, h
  | .enumerated _, _, dst, bytes, h | .date _, _, dst, bytes, h | .time _, _, dst, bytes, h
  | .objectID _, _, dst, bytes, h | .context _, _, dst, bytes, h => by
    unfold ApplicationValue.wire
    simpa using value_fits_of_appended (by simp) h

lemma wireUnder_fits_of_appended : (v : ApplicationValue) → v.Plain → (tag : UInt8) → (dst bytes : Octets) →
    appendTag dst (.mk true tag false false v) = .ok bytes → (v.wireUnder tag).Fits wireLimits
  | .constructed els, hv, tag, dst, bytes, h => by
    unfold ApplicationValue.wireUnder
    unfold ApplicationValue.Plain at hv
    obtain ⟨htag, dst', inner, hinner⟩ := fits_of_appendTags_ctxConstructed h
    exact .constructed tag _ htag (forestWire_fits_of_appended els hv dst' inner hinner)
  | .null, _, tag, dst, bytes, h | .boolean _, _, tag, dst, bytes, h | .unsigned _, _, tag, dst, bytes, h
  | .signed _, _, tag, dst, bytes, h | .real _, _, tag, dst, bytes, h | .double _, _, tag, dst, bytes, h
  | .octetString _, _, tag, dst, bytes, h | .characterString _, _, tag, dst, bytes, h
  | .bitString _, _, tag, dst, bytes, h | .enumerated _, _, tag, dst, bytes, h | .date _, _, tag, dst, bytes, h
  | .time _, _, tag, dst, bytes, h | .objectID _, _, tag, dst, bytes, h | .context _, _, tag, dst, bytes, h => by
    unfold ApplicationValue.wireUnder
    have hctx := of_appendTag_ctx (appendTag_typed (by simp) h).2
    exact .ctx tag _ hctx.1 (by simpa [wireLimits] using hctx.2)

lemma forestWire_fits_of_appended : (els : List Element) → forestPlain els → (dst bytes : Octets) →
    appendTags dst els = .ok bytes → ∀ e ∈ forestWire els, e.Fits wireLimits
  | [], _, _, _, _ => by simp [forestWire]
  | el :: els, hplain, dst, bytes, h => by
    unfold forestPlain at hplain
    unfold appendTags at h
    obtain ⟨dst', hel, hels⟩ := Except.bind_eq_ok_iff.mp h
    unfold forestWire
    intro e he
    rcases List.mem_append.mp he with he | he
    · exact wire_fits_of_appended el hplain.1 dst dst' hel e he
    · exact forestWire_fits_of_appended els hplain.2 dst' bytes hels e he

end

lemma wellFormed_forest
    (hwf : ∀ el ∈ els, ∀ enc, appendTag [] el = .ok enc → ∀ rest res, WellFormed rest res →
      WellFormed (enc ++ rest) (el.withKindTag :: res)) {enc : Octets} (henc : appendTags [] els = .ok enc)
    {rest : Octets} {res : List Element} (hrest : WellFormed rest res) :
    WellFormed (enc ++ rest) (forestWithKindTags els ++ res) := by
  induction els generalizing enc with
  | nil =>
    obtain rfl : [] = enc := Except.ok.inj henc
    simpa [forestWithKindTags] using hrest
  | cons el els ih =>
    unfold appendTags at henc
    obtain ⟨enc₁, h₁, henc⟩ := Except.bind_eq_ok_iff.mp henc
    rw [appendTags_append] at henc
    obtain ⟨enc₂, h₂, rfl⟩ := Except.map_eq_ok_iff.mp henc
    have htail := ih (fun e he => hwf e (List.mem_cons_of_mem el he)) h₂
    have hhead := hwf el List.mem_cons_self enc₁ h₁ _ _ htail
    simpa [forestWithKindTags] using hhead

lemma fits_mono {limits' : DecodeLimits} (hoctets : limits.maxOctetStringLength ≤ limits'.maxOctetStringLength)
    (hchars : limits.maxCharacterLength ≤ limits'.maxCharacterLength)
    (hbits : limits.maxBitStringBits ≤ limits'.maxBitStringBits) (h : el.Fits limits) :
    el.Fits limits' := by
  induction h with
  | app tag v hv =>
    refine .app tag v ?_
    cases v with
    | octetString o => exact le_trans hv hoctets
    | characterString c => exact le_trans hv hchars
    | bitString b => exact ⟨hv.1, hv.2.1, le_trans hv.2.2 hbits⟩
    | _ => exact hv
  | ctx tag octets htag hlen => exact .ctx tag octets htag (hlen.trans hoctets)
  | constructed tag els htag hels ih => exact .constructed tag els htag ih

lemma wellFormed_element (h : el.Fits limits.normalize) {enc : Octets}
    (henc : appendTag [] el = .ok enc) {rest : Octets} {res : List Element} (hrest : WellFormed rest res) :
    WellFormed (enc ++ rest) (el.withKindTag :: res) := by
  induction h generalizing enc rest res with
  | app tag v hv =>
    have hparse := parseTag_app hv henc []
    rw [List.append_nil] at hparse
    exact .primitive limits hparse rfl rfl hrest
  | ctx tag octets htag hlen =>
    have hparse := parseTag_ctx htag hlen henc []
    rw [List.append_nil] at hparse
    exact .primitive limits hparse rfl rfl hrest
  | constructed tag els htag hels ih =>
    rw [appendTag_constructed htag] at henc
    obtain ⟨inner, hinner, rfl⟩ := Except.map_eq_ok_iff.mp henc
    have hopen := parseTag_openClose htag true [] limits
    have hclose := parseTag_openClose htag false [] limits
    rw [List.append_nil] at hopen hclose
    have hcontent := wellFormed_forest (fun el hel enc he rest res hr => ih el hel he hr) hinner .nil
    rw [List.append_nil, List.append_nil] at hcontent
    simpa [Element.withKindTag, ApplicationValue.withKindTags] using
      WellFormed.constructed limits hopen hcontent hclose hrest

lemma parseSequence_wire_iff {es : List Element} {n : Nat}
    (hplain : forestPlain es) (hbytes : appendTags [] es = .ok bytes) :
    parseSequence bytes limits (-1) = .ok (els, n) ↔
      WithinLimits limits (forestWire es) ∧ els = forestWire es ∧ n = bytes.length := by
  constructor
  · intro hparse
    have hfits := forestWire_fits_of_appended es hplain [] bytes hbytes
    have hfits' : ∀ el ∈ forestWire es, el.Fits wireLimits.normalize := fun el hel =>
      fits_mono (by decide) (by decide) (by decide) (hfits el hel)
    have hwf : WellFormed bytes (forestWire es) := by
      have h := wellFormed_forest
        (fun el hel enc he rest res hr => wellFormed_element (hfits' el hel) he hr) (appendTags_wire es [] bytes hbytes) .nil
      rwa [List.append_nil, List.append_nil, forestWithKindTags_wire] at h
    have hread := wellFormed_read hwf limits.normalize (-1) 0 [] limits.normalize.maxElements [] 0
    rw [List.append_nil, parseLoop_nil (by decide)] at hread
    rw [parseSequence_eq] at hparse
    obtain ⟨⟨els', n', left⟩, hloop, heq⟩ := Except.map_eq_ok_iff.mp hparse
    obtain ⟨rfl, rfl⟩ := Prod.mk.inj heq
    rcases hread with ⟨e, herr, -⟩ | ⟨-, -, hread⟩
    · rw [hloop] at herr
      cases herr
    · rw [hloop] at hread
      simp only [List.nil_append, Nat.zero_add, Except.ok.injEq, Prod.mk.injEq] at hread
      obtain ⟨rfl, rfl, -⟩ := hread
      exact ⟨withinLimits_of_parse (by rw [parseSequence_eq, hloop]; rfl), rfl, rfl⟩
  · rintro ⟨hwithin, rfl, rfl⟩
    exact parseSequence_wire hbytes hwithin

end GoBacnet.Proofs
