import GoBacnet.Proofs.TagHeader

/-!
# Round trip of tag sequences

`parseSequence` reads back what `appendTags` wrote, for element forests of any shape within
the decode limits.
-/

namespace GoBacnet

mutual

def Element.depth : Element → Nat
  | .mk _ _ _ _ v => v.depth

def ApplicationValue.depth : ApplicationValue → Nat
  | .constructed elements => forestDepth elements + 1
  | _ => 0

def forestDepth : List Element → Nat
  | [] => 0
  | el :: els => max el.depth (forestDepth els)

end

mutual

def Element.count : Element → Nat
  | .mk _ _ _ _ v => v.count + 1

def ApplicationValue.count : ApplicationValue → Nat
  | .constructed elements => forestCount elements
  | _ => 0

def forestCount : List Element → Nat
  | [] => 0
  | el :: els => el.count + forestCount els

end

mutual

def Element.withKindTag : Element → Element
  | .mk true t opening closing v => .mk true t opening closing v.withKindTags
  | .mk false _ opening closing v => .mk false v.tagNumber opening closing v

def ApplicationValue.withKindTags : ApplicationValue → ApplicationValue
  | .constructed elements => .constructed (forestWithKindTags elements)
  | v => v

def forestWithKindTags : List Element → List Element
  | [] => []
  | el :: els => el.withKindTag :: forestWithKindTags els

end

def ApplicationValue.Fits (limits : DecodeLimits) : ApplicationValue → Prop
  | .octetString o => o.length ≤ limits.maxOctetStringLength
  | .characterString c => c.value.length ≤ limits.maxCharacterLength
  | .bitString b => b.unusedBits ≤ 7 ∧ (b.bytes = [] → b.unusedBits = 0) ∧
      b.bytes.length * 8 ≤ limits.maxBitStringBits
  | .objectID id => id.type ≤ 0x3FF ∧ id.instanceNumber ≤ maxObjectInstance
  | .constructed _ => False
  | .context _ => False
  | _ => True

/-- An element built from application primitives, context primitives and constructed values,
with its strings within the limits. -/
inductive Element.Fits (limits : DecodeLimits) : Element → Prop
  | app (tag : ApplicationTag) (v : ApplicationValue) (hv : v.Fits limits) : Fits limits (.app tag v)
  | ctx (tag : UInt8) (octets : Octets) (htag : tag ≠ tagNumberReserved)
      (hlen : octets.length ≤ limits.maxOctetStringLength) : Fits limits (.ctx tag octets)
  | constructed (tag : UInt8) (elements : List Element) (htag : tag ≠ tagNumberReserved)
      (hels : ∀ el ∈ elements, Fits limits el) : Fits limits (.ctxConstructed tag elements)

def DecodeLimits.Encodable (limits : DecodeLimits) : Prop :=
  limits.maxOctetStringLength ≤ maxUint32 ∧ limits.maxCharacterLength < maxUint32 ∧
    limits.maxBitStringBits < maxUint32 * 8

end GoBacnet

namespace GoBacnet.Proofs

variable {v : ApplicationValue} {enc : Octets}

/-! ## Appending -/

lemma appendAppPrimitive_append (dst : Octets) (tag : ApplicationTag) (value : Octets) :
    appendAppPrimitive dst tag value = (appendAppPrimitive [] tag value).map (dst ++ ·) := by
  unfold appendAppPrimitive
  cases encodeTagHeader false tag value.length <;> simp [Except.map]

lemma appendContextPrimitive_append (dst : Octets) (tag : UInt8) (value : Octets) :
    appendContextPrimitive dst tag value = (appendContextPrimitive [] tag value).map (dst ++ ·) := by
  unfold appendContextPrimitive
  by_cases h : tag = tagNumberReserved
  · simp [h]
    rfl
  · cases encodeTagHeader true tag value.length <;>
      simp [h, Except.map]

lemma appendContextOpenClose_append (dst : Octets) (tag : UInt8) (opening : Bool) :
    appendContextOpenClose dst tag opening = dst ++ appendContextOpenClose [] tag opening := by
  unfold appendContextOpenClose
  by_cases ht : tag < 15 <;> simp [ht]

mutual

lemma appendTag_append (dst : Octets) : (el : Element) → appendTag dst el = (appendTag [] el).map (dst ++ ·)
  | .mk context tag opening closing value => by
    unfold appendTag
    split_ifs
    · rfl
    · simp [Except.map, appendContextOpenClose_append dst]
    · simp [Except.map, appendContextOpenClose_append dst]
    · split
      · rename_i elements
        rw [appendTags_append _ elements, appendTags_append (appendContextOpenClose [] tag true) elements,
          appendContextOpenClose_append dst]
        cases appendTags [] elements with
        | error e => rfl
        | ok enc =>
          simp only [Except.map, Bind.bind, Except.bind, Pure.pure, Except.pure]
          rw [appendContextOpenClose_append, appendContextOpenClose_append (appendContextOpenClose [] tag true ++ enc)]
          simp
      · rename_i v hv
        cases contextContentOctets value with
        | error e => rfl
        | ok raw => exact appendContextPrimitive_append dst tag raw
    · exact appendApplicationValue_append dst value

lemma appendApplicationValue_append (dst : Octets) :
    (v : ApplicationValue) → appendApplicationValue dst v = (appendApplicationValue [] v).map (dst ++ ·)
  | .null | .boolean _ => by simp [appendApplicationValue, Except.map]
  | .unsigned _ | .signed _ | .real _ | .double _ | .octetString _ | .characterString _ | .enumerated _ | .date _
  | .time _ => by
    simp only [appendApplicationValue]
    exact appendAppPrimitive_append dst _ _
  | .bitString b => by
    simp only [appendApplicationValue]
    cases validateBitString b.unusedBits b.bytes.length with
    | error e => rfl
    | ok _ => exact appendAppPrimitive_append dst _ _
  | .objectID id => by
    simp only [appendApplicationValue]
    cases encodeObjectIdentifier id with
    | error e => rfl
    | ok enc => exact appendAppPrimitive_append dst tagObjectIdentifier (BigEndian.octets 4 enc.toNat)
  | .constructed elements => by
    simp only [appendApplicationValue]
    exact appendTags_append dst elements
  | .context _ => by simp [appendApplicationValue, Except.map]

lemma appendTags_append (dst : Octets) :
    (els : List Element) → appendTags dst els = (appendTags [] els).map (dst ++ ·)
  | [] => by simp [appendTags, Except.map]
  | el :: els => by
    simp only [appendTags, Bind.bind, Except.bind]
    rw [appendTag_append dst el]
    cases appendTag [] el with
    | error e => rfl
    | ok enc =>
      simp only [Except.map]
      rw [appendTags_append (dst ++ enc) els, appendTags_append enc els]
      cases appendTags [] els <;> simp [Except.map]

end

lemma validateBitString_ok {b : BitString} (hunused : b.unusedBits ≤ 7)
    (hempty : b.bytes = [] → b.unusedBits = 0) :
    validateBitString b.unusedBits b.bytes.length = .ok () := by
  unfold validateBitString
  rw [if_neg (UInt8.not_lt.mpr hunused), if_neg]
  rintro ⟨hlen, hne⟩
  exact hne (hempty (List.length_eq_zero_iff.mp hlen))

lemma appendApplicationValue_content {limits : DecodeLimits}
    (hv : v.Fits limits) (hbool : ∀ b, v ≠ .boolean b) :
    ∃ content, contextContentOctets v = .ok content ∧
      ∀ dst, appendApplicationValue dst v = appendAppPrimitive dst v.tagNumber content := by
  cases v with
  | boolean b => exact absurd rfl (hbool b)
  | constructed els => exact hv.elim
  | context o => exact hv.elim
  | bitString b =>
    obtain ⟨hunused, hempty, -⟩ := hv
    have hvalid := validateBitString_ok hunused hempty
    refine ⟨b.unusedBits :: b.bytes, ?_, fun dst => ?_⟩
    · simp [contextContentOctets, hvalid, Bind.bind, Except.bind, Pure.pure, Except.pure]
    · simp [appendApplicationValue, hvalid, Bind.bind, Except.bind, ApplicationValue.tagNumber]
  | objectID id =>
    have henc := encodeObjectIdentifier_eq hv.1 hv.2
    refine ⟨BigEndian.octets 4 ((id.type.toUInt32 <<< 22) ||| id.instanceNumber).toNat, ?_, fun dst => ?_⟩
    · simp only [contextContentOctets, henc, Bind.bind, Except.bind, Pure.pure, Except.pure]
    · simp only [appendApplicationValue, henc, Bind.bind, Except.bind, ApplicationValue.tagNumber]
  | null =>
    refine ⟨[], rfl, fun dst => ?_⟩
    have hhdr : encodeTagHeader false tagNull 0 = .ok [tagNull <<< 4] := rfl
    simp [appendApplicationValue, ApplicationValue.tagNumber, appendAppPrimitive, hhdr, Bind.bind,
      Except.bind, Pure.pure, Except.pure]
  | _ =>
    refine ⟨_, rfl, fun dst => ?_⟩
    simp only [appendApplicationValue, ApplicationValue.tagNumber]

lemma decodeApplicationValue_real {data : Octets} (h : data.length = 4) (lvt : UInt8)
    (limits : DecodeLimits) :
    decodeApplicationValue tagReal data lvt limits = .ok (.real (UInt32.ofNat (BigEndian.value data))) :=
  if_neg (not_not.mpr h)

lemma decodeApplicationValue_double {data : Octets} (h : data.length = 8) (lvt : UInt8)
    (limits : DecodeLimits) :
    decodeApplicationValue tagDouble data lvt limits = .ok (.double (UInt64.ofNat (BigEndian.value data))) :=
  if_neg (not_not.mpr h)

lemma decodeApplicationValue_objectID {data : Octets} (h : data.length = 4) (lvt : UInt8)
    (limits : DecodeLimits) :
    decodeApplicationValue tagObjectIdentifier data lvt limits =
      .ok (.objectID (decodeObjectIdentifier (UInt32.ofNat (BigEndian.value data)))) :=
  if_neg (not_not.mpr h)

lemma decodeApplicationValue_content {limits : DecodeLimits} {content : Octets}
    (hv : v.Fits limits) (hbool : ∀ b, v ≠ .boolean b) (hc : contextContentOctets v = .ok content)
    (lvt : UInt8) : decodeApplicationValue v.tagNumber content lvt limits = .ok v := by
  cases v with
  | boolean b => exact absurd rfl (hbool b)
  | constructed els => exact hv.elim
  | context o => exact hv.elim
  | null =>
    cases hc
    rfl
  | unsigned u =>
    cases hc
    change (decodeUnsigned (encodeUnsigned u)).map _ = _
    rw [decodeUnsigned_encodeUnsigned]
    rfl
  | signed s =>
    cases hc
    change (decodeSigned (encodeSigned s)).map _ = _
    rw [decodeSigned_encodeSigned]
    rfl
  | real bits =>
    cases hc
    have hdec := decodeApplicationValue_real (BigEndian.length_octets 4 bits.toNat) lvt limits
    rwa [BigEndian.value_octets_of_lt bits.toNat_lt, UInt32.ofNat_toNat] at hdec
  | double bits =>
    cases hc
    have hdec := decodeApplicationValue_double (BigEndian.length_octets 8 bits.toNat) lvt limits
    rwa [BigEndian.value_octets_of_lt bits.toNat_lt, UInt64.ofNat_toNat] at hdec
  | octetString o =>
    cases hc
    exact if_neg (not_lt.mpr hv)
  | characterString c =>
    cases hc
    exact if_neg (not_lt.mpr hv)
  | bitString b =>
    obtain ⟨hunused, hempty, hbits⟩ := hv
    have hvalid := validateBitString_ok hunused hempty
    simp only [contextContentOctets, hvalid, Bind.bind, Except.bind, Pure.pure, Except.pure] at hc
    cases hc
    change (validateBitString b.unusedBits b.bytes.length >>= _) = _
    rw [hvalid]
    exact if_neg (not_lt.mpr hbits)
  | enumerated e =>
    cases hc
    have hfit : ¬ e.toUInt64.toNat > maxUint32 := by
      have := e.toNat_lt
      simp only [UInt32.toNat_toUInt64, maxUint32]
      omega
    change (decodeUnsigned (encodeUnsigned e.toUInt64) >>= _) = _
    rw [decodeUnsigned_encodeUnsigned]
    exact (if_neg hfit).trans (by rw [UInt32.toUInt32_toUInt64])
  | date d =>
    cases hc
    rfl
  | time t =>
    cases hc
    rfl
  | objectID id =>
    obtain ⟨htype, hinst⟩ := hv
    simp only [contextContentOctets, encodeObjectIdentifier_eq htype hinst, Bind.bind, Except.bind, Pure.pure,
      Except.pure] at hc
    cases hc
    have hdec := decodeApplicationValue_objectID
      (BigEndian.length_octets 4 ((id.type.toUInt32 <<< 22) ||| id.instanceNumber).toNat) lvt limits
    rwa [BigEndian.value_octets_of_lt (UInt32.toNat_lt _), UInt32.ofNat_toNat,
      decodeObjectIdentifier_pack htype hinst] at hdec

/-! ## Reading one element back -/

lemma parseTag_app {limits : DecodeLimits} {tag : ApplicationTag}
    (hv : v.Fits limits.normalize) (henc : appendTag [] (.app tag v) = .ok enc) (rest : Octets) :
    parseTag (enc ++ rest) limits = .ok (.app v.tagNumber v, enc.length) := by
  have happ : appendApplicationValue [] v = .ok enc := by simpa [appendTag] using henc
  by_cases hb : ∃ b, v = .boolean b
  · obtain ⟨b, rfl⟩ := hb
    simp only [appendApplicationValue, List.nil_append] at happ
    cases happ
    exact parseTag_boolean b rest limits
  · push Not at hb
    obtain ⟨content, hcontent, hform⟩ := appendApplicationValue_content hv hb
    have hne : v.tagNumber ≠ tagNumberReserved ∧ v.tagNumber ≠ tagBoolean := by
      cases v with
      | boolean b => exact absurd rfl (hb b)
      | _ => simp only [ApplicationValue.tagNumber]; decide
    rw [hform, appendAppPrimitive] at happ
    cases hhdr : encodeTagHeader false v.tagNumber content.length with
    | error e => simp [hhdr] at happ
    | ok hdr =>
      simp only [hhdr, Bind.bind, Except.bind, Pure.pure, Except.pure, List.nil_append, Except.ok.injEq] at happ
      subst happ
      rw [parseTag_primitive hhdr hne.1 (.inr hne.2)]
      simp [parsePrimitive, decodeApplicationValue_content hv hb hcontent, Except.map]

lemma parseTag_ctx {limits : DecodeLimits} {tag : UInt8} {octets : Octets}
    (htag : tag ≠ tagNumberReserved) (hlen : octets.length ≤ limits.normalize.maxOctetStringLength)
    (henc : appendTag [] (.ctx tag octets) = .ok enc) (rest : Octets) :
    parseTag (enc ++ rest) limits = .ok (.ctx tag octets, enc.length) := by
  have happ : appendContextPrimitive [] tag octets = .ok enc := by
    simpa [appendTag, htag, contextContentOctets, Bind.bind, Except.bind] using henc
  cases hhdr : encodeTagHeader true tag octets.length with
  | error e => simp [appendContextPrimitive, htag, hhdr, Bind.bind, Except.bind] at happ
  | ok hdr =>
    simp only [appendContextPrimitive, htag, hhdr, Bind.bind, Except.bind, Pure.pure, Except.pure,
      List.nil_append, if_false, Except.ok.injEq] at happ
    subst happ
    rw [parseTag_primitive hhdr htag (.inl rfl)]
    simp [parsePrimitive, not_lt.mpr hlen, Except.map]

/-! ## Steps of the loop -/

section Loop

variable {limits : DecodeLimits} {closeTag depth : Int} {data : Octets} {budget : Int} {elements : List Element}
  {off n : Nat}

lemma parseLoop_nil (hclose : closeTag < 0) :
    parseLoop limits closeTag depth [] budget elements off = .ok (elements, off, budget) := by
  rw [parseLoop]
  simp [hclose]

lemma parseLoop_element {el : Element} (hbudget : 0 < budget) (htag : parseTag data limits = .ok (el, n))
    (hopen : el.opening = false) (hclosing : el.closing = false) :
    parseLoop limits closeTag depth data budget elements off =
      parseLoop limits closeTag depth (data.drop n) (budget - 1) (elements ++ [el]) (off + n) := by
  have hdata : data ≠ [] := by
    rintro rfl
    simp [parseTag] at htag
  rw [parseLoop]
  simp only [hdata, dite_false, not_le.mpr hbudget, if_false]
  split
  · simp_all
  · simp_all

lemma parseLoop_closing {tag : UInt8} (hbudget : 0 < budget) (hclose : (tag.toNat : Int) = closeTag)
    (htag : parseTag data limits = .ok (.mk true tag false true .null, n)) :
    parseLoop limits closeTag depth data budget elements off = .ok (elements, off + n, budget) := by
  have hdata : data ≠ [] := by
    rintro rfl
    simp [parseTag] at htag
  rw [parseLoop]
  simp only [hdata, dite_false, not_le.mpr hbudget, if_false]
  split
  · simp_all
  · next hparse =>
    rw [htag] at hparse
    cases hparse
    simp [← hclose]

lemma parseLoop_opening {tag : UInt8} {inner : List Element} {m : Nat} {left : Int} (hbudget : 0 < budget)
    (htag : parseTag data limits = .ok (.mk true tag true false .null, n))
    (hdepth : depth + 1 ≤ limits.maxConstructedDepth)
    (hinner : parseLoop limits tag.toNat (depth + 1) (data.drop n) budget [] 0 = .ok (inner, m, left)) :
    parseLoop limits closeTag depth data budget elements off =
      parseLoop limits closeTag depth (data.drop (n + m)) (left - 1)
        (elements ++ [.ctxConstructed tag inner]) (off + n + m) := by
  have hdata : data ≠ [] := by
    rintro rfl
    simp [parseTag] at htag
  have hcheck : checkDepth limits (depth + 1) = .ok () := if_neg (not_lt.mpr hdepth)
  rw [parseLoop]
  simp only [hdata, dite_false, not_le.mpr hbudget, if_false]
  split
  · simp_all
  · next hparse =>
    rw [htag] at hparse
    cases hparse
    simp [hcheck, hinner]

end Loop

/-! ## The round trip -/

def ReadsBack (limits : DecodeLimits) (enc : Octets) (els : List Element) (cnt dep : Nat) : Prop :=
  ∀ (closeTag depth : Int) (rest : Octets) (budget : Int) (elements : List Element) (off : Nat),
    cnt ≤ budget → depth + dep ≤ limits.maxConstructedDepth →
    parseLoop limits closeTag depth (enc ++ rest) budget elements off =
      parseLoop limits closeTag depth rest (budget - cnt) (elements ++ els) (off + enc.length)

lemma ReadsBack.append {limits : DecodeLimits} {enc₁ enc₂ : Octets} {els₁ els₂ : List Element}
    {cnt₁ cnt₂ dep₁ dep₂ : Nat} (h₁ : ReadsBack limits enc₁ els₁ cnt₁ dep₁)
    (h₂ : ReadsBack limits enc₂ els₂ cnt₂ dep₂) :
    ReadsBack limits (enc₁ ++ enc₂) (els₁ ++ els₂) (cnt₁ + cnt₂) (max dep₁ dep₂) := by
  intro closeTag depth rest budget elements off hcnt hdep
  push_cast at hcnt hdep
  rw [List.append_assoc, h₁ _ _ _ _ _ _ (by omega) (by omega), h₂ _ _ _ _ _ _ (by omega) (by omega)]
  congr 1
  · push_cast
    omega
  · rw [List.append_assoc]
  · rw [List.length_append]
    omega

lemma readsBack_primitive {limits : DecodeLimits} {el : Element}
    (hopen : el.opening = false) (hclosing : el.closing = false)
    (hparse : ∀ rest, parseTag (enc ++ rest) limits = .ok (el, enc.length)) :
    ReadsBack limits enc [el] 1 0 := by
  intro closeTag depth rest budget elements off hcnt _
  rw [parseLoop_element (by omega) (hparse rest) hopen hclosing, List.drop_left]
  rfl

lemma readsBack_constructed {limits : DecodeLimits} {tag : UInt8} {els : List Element}
    {cnt dep : Nat} (htag : tag ≠ tagNumberReserved) (h : ReadsBack limits enc els cnt dep) :
    ReadsBack limits
      (appendContextOpenClose [] tag true ++ enc ++ appendContextOpenClose [] tag false)
      [.ctxConstructed tag els] (cnt + 1) (dep + 1) := by
  intro closeTag depth rest budget elements off hcnt hdep
  push_cast at hcnt hdep
  have hopen := parseTag_openClose htag true (enc ++ (appendContextOpenClose [] tag false ++ rest)) limits
  have hclose := parseTag_openClose htag false rest limits
  -- The closing tag is read before the constructed element is counted, so one unit is left.
  have hinner : parseLoop limits tag.toNat (depth + 1)
      (enc ++ (appendContextOpenClose [] tag false ++ rest)) budget [] 0 =
        .ok (els, enc.length + (appendContextOpenClose [] tag false).length, budget - cnt) := by
    rw [h _ _ _ _ _ _ (by omega) (by omega), parseLoop_closing (by omega) rfl hclose]
    simp
  simp only [List.append_assoc]
  rw [parseLoop_opening (by omega) hopen (by omega) (by rw [List.drop_left]; exact hinner)]
  congr 1
  · rw [List.drop_append, List.drop_of_length_le (by omega), List.nil_append, Nat.add_sub_cancel_left,
      ← List.append_assoc enc, ← List.length_append, List.drop_left]
  · push_cast
    omega
  · simp only [List.length_append]
    omega

lemma readsBack_forest {limits : DecodeLimits} {els : List Element}
    (hback : ∀ el ∈ els, ∀ enc, appendTag [] el = .ok enc →
      ReadsBack limits enc [el.withKindTag] el.count el.depth) :
    ∀ enc, appendTags [] els = .ok enc →
      ReadsBack limits enc (forestWithKindTags els) (forestCount els) (forestDepth els) := by
  induction els with
  | nil =>
    intro enc henc
    cases henc
    intro closeTag depth rest budget elements off _ _
    simp [forestWithKindTags, forestCount]
  | cons el els ih =>
    intro enc henc
    have htail : ∀ e ∈ els, e ∈ el :: els := fun e he => List.mem_cons_of_mem _ he
    simp only [appendTags, Bind.bind, Except.bind] at henc
    cases hel : appendTag [] el with
    | error e => simp [hel] at henc
    | ok enc₁ =>
      rw [hel] at henc
      simp only at henc
      rw [appendTags_append] at henc
      cases hels : appendTags [] els with
      | error e => simp [hels, Except.map] at henc
      | ok enc₂ =>
        simp only [hels, Except.map, Except.ok.injEq] at henc
        subst henc
        exact (hback el List.mem_cons_self enc₁ hel).append
          (ih (fun e he => hback e (htail e he)) enc₂ hels)

lemma appendTag_constructed {tag : UInt8} (htag : tag ≠ tagNumberReserved) (els : List Element) :
    appendTag [] (.ctxConstructed tag els) = (appendTags [] els).map fun enc =>
      appendContextOpenClose [] tag true ++ enc ++ appendContextOpenClose [] tag false := by
  simp only [appendTag_ctxConstructed, appendContextTagged, htag, if_false, Bind.bind, Except.bind, Pure.pure,
    Except.pure]
  rw [appendTags_append]
  cases appendTags [] els with
  | error e => rfl
  | ok enc =>
    simp only [Except.map]
    rw [appendContextOpenClose_append]

lemma flat_of_fits {limits : DecodeLimits} (hv : v.Fits limits) :
    v.depth = 0 ∧ v.count = 0 := by
  cases v with
  | constructed els => exact hv.elim
  | _ => exact ⟨by simp [ApplicationValue.depth], by simp [ApplicationValue.count]⟩

lemma readsBack_element {limits : DecodeLimits} {el : Element} (h : el.Fits limits.normalize)
    (henc : appendTag [] el = .ok enc) :
    ReadsBack limits enc [el.withKindTag] el.count el.depth := by
  induction h generalizing enc with
  | app tag v hv =>
    simp only [Element.withKindTag, Element.count, Element.depth, flat_of_fits hv]
    exact readsBack_primitive rfl rfl (parseTag_app hv henc)
  | ctx tag octets htag hlen =>
    simp only [Element.withKindTag, ApplicationValue.withKindTags, Element.count, Element.depth,
      ApplicationValue.depth, ApplicationValue.count]
    exact readsBack_primitive rfl rfl (parseTag_ctx htag hlen henc)
  | constructed tag els htag hels ih =>
    rw [appendTag_constructed htag] at henc
    cases hinner : appendTags [] els with
    | error e => simp [hinner, Except.map] at henc
    | ok inner =>
      simp only [hinner, Except.map, Except.ok.injEq] at henc
      subst henc
      have hforest := readsBack_forest (fun el hel enc he => ih el hel he) inner hinner
      simp only [Element.withKindTag, ApplicationValue.withKindTags, Element.count, Element.depth,
        ApplicationValue.depth, ApplicationValue.count]
      exact readsBack_constructed htag hforest

lemma appendAppPrimitive_ok {tag : ApplicationTag} {value : Octets} (h : value.length ≤ maxUint32) :
    ∃ enc, appendAppPrimitive [] tag value = .ok enc := by
  unfold appendAppPrimitive
  rw [encodeTagHeader_eq false tag h]
  exact ⟨_, rfl⟩

lemma length_content {limits : DecodeLimits} {content : Octets}
    (hlimits : limits.Encodable) (hv : v.Fits limits) (hc : contextContentOctets v = .ok content) :
    content.length ≤ maxUint32 := by
  obtain ⟨hoctets, hchars, hbits⟩ := hlimits
  cases v with
  | constructed els => exact hv.elim
  | context o => exact hv.elim
  | unsigned u =>
    cases hc
    exact (length_encodeUnsigned u).2.trans (by decide)
  | enumerated e =>
    cases hc
    exact (length_encodeUnsigned _).2.trans (by decide)
  | signed s =>
    cases hc
    exact (length_encodeSigned s).trans (by decide)
  | octetString o =>
    obtain rfl := Except.ok.inj hc
    have hfit : (o.length : Int) ≤ limits.maxOctetStringLength := hv
    omega
  | characterString c =>
    cases hc
    have hfit : (c.value.length : Int) ≤ limits.maxCharacterLength := hv
    simp only [List.length_cons]
    omega
  | bitString b =>
    obtain ⟨hunused, hempty, hfit⟩ := hv
    simp only [contextContentOctets, validateBitString_ok hunused hempty, Bind.bind, Except.bind, Pure.pure,
      Except.pure, Except.ok.injEq] at hc
    subst hc
    simp only [List.length_cons]
    omega
  | objectID id =>
    simp only [contextContentOctets, encodeObjectIdentifier_eq hv.1 hv.2, Bind.bind, Except.bind, Pure.pure,
      Except.pure, Except.ok.injEq] at hc
    subst hc
    rw [BigEndian.length_octets]
    decide
  | _ =>
    cases hc
    simp [maxUint32]

lemma appendTags_ok_of {els : List Element}
    (hok : ∀ el ∈ els, ∃ enc, appendTag [] el = .ok enc) : ∃ enc, appendTags [] els = .ok enc := by
  induction els with
  | nil => exact ⟨[], rfl⟩
  | cons el els ih =>
    have htail : ∀ e ∈ els, e ∈ el :: els := fun e he => List.mem_cons_of_mem _ he
    obtain ⟨enc₁, h₁⟩ := hok el List.mem_cons_self
    obtain ⟨enc₂, h₂⟩ := ih fun e he => hok e (htail e he)
    refine ⟨enc₁ ++ enc₂, ?_⟩
    simp only [appendTags, h₁, Bind.bind, Except.bind]
    rw [appendTags_append, h₂]
    rfl

lemma appendTag_ok {limits : DecodeLimits} {el : Element} (hlimits : limits.Encodable)
    (h : el.Fits limits) : ∃ enc, appendTag [] el = .ok enc := by
  induction h with
  | app tag v hv =>
    simp only [appendTag, Bool.false_or, Bool.false_and, Bool.false_eq_true, if_false]
    by_cases hb : ∃ b, v = .boolean b
    · obtain ⟨b, rfl⟩ := hb
      exact ⟨_, by simp only [appendApplicationValue]; rfl⟩
    · push Not at hb
      obtain ⟨content, hcontent, hform⟩ := appendApplicationValue_content hv hb
      rw [hform]
      exact appendAppPrimitive_ok (length_content hlimits hv hcontent)
  | ctx tag octets htag hlen =>
    have hle : octets.length ≤ maxUint32 := by
      have := hlimits.1
      omega
    simp [appendTag, htag, contextContentOctets, appendContextPrimitive, encodeTagHeader_eq true tag hle,
      Bind.bind, Except.bind, Pure.pure, Except.pure]
  | constructed tag els htag hels ih =>
    obtain ⟨inner, hinner⟩ := appendTags_ok_of ih
    rw [appendTag_constructed htag, hinner]
    exact ⟨_, rfl⟩

lemma parseSequence_appended {limits : DecodeLimits} {es : List Element} {bytes : Octets}
    (hfits : ∀ el ∈ es, el.Fits limits.normalize)
    (hdepth : forestDepth es ≤ limits.normalize.maxConstructedDepth)
    (hcount : forestCount es ≤ limits.normalize.maxElements) (hbytes : appendTags [] es = .ok bytes) :
    parseSequence bytes limits (-1) = .ok (forestWithKindTags es, bytes.length) := by
  have hback : ∀ el ∈ es, ∀ enc, appendTag [] el = .ok enc →
      ReadsBack limits.normalize enc [el.withKindTag] el.count el.depth := by
    intro el hel enc henc
    exact readsBack_element (by simpa using hfits el hel) henc
  have hread := readsBack_forest hback bytes hbytes (-1) 0 [] limits.normalize.maxElements [] 0
    hcount (by omega)
  have hcheck : checkDepth limits.normalize 0 = .ok () := if_neg (by omega)
  rw [List.append_nil, parseLoop_nil (by omega)] at hread
  simp [parseSequence, hcheck, hread, Bind.bind, Except.bind, Pure.pure, Except.pure]

/-- Round trip of the tag codec. Elements whose strings, nesting and number over all levels are
within the limits are read back exactly, to the last octet of their encoding. The encoding exists
when the limits keep every string encodable. -/
theorem parseSequence_appendTags (limits : DecodeLimits) (es : List Element) (hfits : ∀ el ∈ es, el.Fits
    limits.normalize) (hdepth : forestDepth es ≤ limits.normalize.maxConstructedDepth) (hcount : forestCount es ≤
    limits.normalize.maxElements) : (∀ bytes, appendTags [] es = .ok bytes → parseSequence bytes limits (-1) = .ok
    (forestWithKindTags es, bytes.length)) ∧ (limits.normalize.Encodable → ∃ bytes, appendTags [] es = .ok bytes) :=
    by
  refine ⟨fun bytes hbytes => parseSequence_appended hfits hdepth hcount hbytes, fun hlimits => ?_⟩
  exact appendTags_ok_of fun el hel => appendTag_ok hlimits (hfits el hel)

/-- An unsigned integer and a constructed element under an extended tag number. -/
theorem parseSequence_appendTags_nested :
    parseSequence [0x22, 0x01, 0x2C, 0xFE, 20, 0x3A, 7, 9, 0x11, 0xFF, 20] {} (-1) =
      .ok ([.app tagUnsigned (.unsigned 300),
        .ctxConstructed 20 [.ctx 3 [7, 9], .app tagBoolean (.boolean true)]], 11) := by
  refine (parseSequence_appendTags {} [.app tagUnsigned (.unsigned 300),
    .ctxConstructed 20 [.ctx 3 [7, 9], .app tagBoolean (.boolean true)]] ?_ ?_ ?_).1 _ ?_
  · intro el hel
    rcases List.mem_cons.mp hel with rfl | hel
    · exact .app _ _ trivial
    · obtain rfl := List.mem_singleton.mp hel
      refine .constructed _ _ (by decide) fun inner hinner => ?_
      rcases List.mem_cons.mp hinner with rfl | hinner
      · exact .ctx _ _ (by decide) (by decide)
      · obtain rfl := List.mem_singleton.mp hinner
        exact .app _ _ trivial
  · decide
  · decide
  · decide

end GoBacnet.Proofs
