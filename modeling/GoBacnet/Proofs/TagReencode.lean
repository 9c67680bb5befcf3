import GoBacnet.Proofs.ParseBounds

/-!
# Encoding decoded tags again

An accepted sequence can be encoded again, and the encoding is read back with the tag number of its kind on
every application element. A reserved application tag keeps its number when it is decoded and loses it when
it is encoded.
-/

namespace GoBacnet

/-- Whether the tags at the front of `data`, read up to the closing tag of the sequence, hold a reserved
application tag. `depth` constructed elements are open. -/
def reservedTag (depth : Nat) (data : Octets) : Bool :=
  match hframe : parseFrame data with
  | .error _ => false
  | .ok (.mark _ true n) => reservedTag (depth + 1) (data.drop n)
  | .ok (.mark _ false n) =>
    match depth with
    | 0 => false
    | depth + 1 => reservedTag depth (data.drop n)
  | .ok (.boolean _ n) => reservedTag depth (data.drop n)
  | .ok (.primitive context tagNumber _ _ n) =>
    (!context && tagObjectIdentifier < tagNumber) || reservedTag depth (data.drop n)
termination_by data.length
decreasing_by
  all_goals
    have hpos := Proofs.parseFrame_pos hframe
    simp only [TagFrame.size] at hpos
    simp only [List.length_drop]
    omega

end GoBacnet

namespace GoBacnet.Proofs

/-! ## The scan and the parser -/

def reservedAfter (depth : Nat) (data : Octets) : Bool :=
  match depth with
  | 0 => false
  | depth + 1 => reservedTag depth data

def reservedStep (depth : Nat) (data : Octets) : TagFrame → Bool
  | .mark _ true n => reservedTag (depth + 1) (data.drop n)
  | .mark _ false n => reservedAfter depth (data.drop n)
  | .boolean _ n => reservedTag depth (data.drop n)
  | .primitive context tagNumber _ _ n =>
    (!context && tagObjectIdentifier < tagNumber) || reservedTag depth (data.drop n)

lemma reservedTag_of_frame {data : Octets} {f : TagFrame} (h : parseFrame data = .ok f) (depth : Nat) :
    reservedTag depth data = reservedStep depth data f := by
  rw [reservedTag]
  split
  · next heq => rw [h] at heq; cases heq
  all_goals next heq => rw [h] at heq; cases heq; rfl

lemma reservedTag_nil (depth : Nat) : reservedTag depth [] = false := by
  rw [reservedTag]
  rfl

lemma withKindTag_app {tagNumber : ApplicationTag} {v : ApplicationValue}
    (hkind : tagNumber ≤ tagObjectIdentifier → v.tagNumber = tagNumber)
    (hreserved : tagObjectIdentifier < tagNumber → v.tagNumber = tagOctetString) :
    (Element.app tagNumber v).withKindTag ≠ .app tagNumber v ↔ tagObjectIdentifier < tagNumber := by
  simp only [Element.withKindTag, ne_eq, Element.mk.injEq, true_and, and_true]
  refine ⟨fun hne => ?_, fun hlt heq => ?_⟩
  · by_contra hle
    exact hne (hkind (UInt8.not_lt.mp hle))
  · rw [hreserved hlt] at heq
    subst heq
    exact absurd hlt (by decide)

lemma reservedStep_iff {f : TagFrame} {limits : DecodeLimits} {el : Element} (hvalid : f.Valid)
    (h : f.decode limits = .ok el) (depth : Nat) (data : Octets) :
    reservedStep depth data f = true ↔
      if el.opening then reservedTag (depth + 1) (data.drop f.size) = true
      else if el.closing then reservedAfter depth (data.drop f.size) = true
      else el.withKindTag ≠ el ∨ reservedTag depth (data.drop f.size) = true := by
  have hkind := tagKind_decode hvalid h
  cases f with
  | mark tagNumber opening n =>
    cases h
    cases opening <;> simp [reservedStep, TagFrame.size]
  | boolean b n =>
    cases h
    simp [reservedStep, TagFrame.size, Element.withKindTag, ApplicationValue.tagNumber]
  | primitive context tagNumber lvt content n =>
    cases context with
    | true =>
      obtain ⟨-, h⟩ := Except.check_eq_ok_iff.mp h
      cases h
      simp [reservedStep, TagFrame.size, Element.withKindTag, ApplicationValue.withKindTags]
    | false =>
      obtain ⟨v, -, rfl⟩ := Except.map_eq_ok_iff.mp h
      cases hkind with
      | app _ _ _ _ hkind hreserved =>
        rw [withKindTag_app hkind hreserved]
        simp [reservedStep, TagFrame.size]

lemma reservedTag_iff {data : Octets} {limits : DecodeLimits} {el : Element} {n : Nat}
    (h : parseTag data limits = .ok (el, n)) (depth : Nat) :
    reservedTag depth data = true ↔
      if el.opening then reservedTag (depth + 1) (data.drop n) = true
      else if el.closing then reservedAfter depth (data.drop n) = true
      else el.withKindTag ≠ el ∨ reservedTag depth (data.drop n) = true := by
  obtain ⟨f, hf, hd, rfl⟩ := parseTag_ok h
  rw [reservedTag_of_frame hf]
  exact reservedStep_iff (parseFrame_ok hf).1 hd depth data

/-- The scan finds a reserved tag exactly if an element that was read is encoded with another tag number, or
after the closing tag of the sequence. -/
lemma parseLoop_reserved {limits : DecodeLimits} {closeTag depth budget left : Int} {data : Octets}
    {elements els : List Element} {off n : Nat}
    (h : parseLoop limits closeTag depth data budget elements off = .ok (els, n, left)) :
    ∃ new consumed, els = elements ++ new ∧ n = off + consumed ∧ ∀ d, reservedTag d data = true ↔
      forestWithKindTags new ≠ new ∨ (0 ≤ closeTag ∧ reservedAfter d (data.drop consumed) = true) := by
  fun_induction parseLoop limits closeTag depth data budget elements off generalizing els n left with
  | case1 | case3 | case4 | case6 | case7 | case8 => cases h
  | case2 closeTag depth budget elements off hclose =>
    obtain ⟨rfl, rfl, rfl⟩ : elements = els ∧ off = n ∧ budget = left := by simpa using h
    refine ⟨[], 0, by simp, rfl, fun d => ?_⟩
    simp [reservedTag_nil, forestWithKindTags, hclose]
  | case5 closeTag depth data budget elements off hdata hbudget el m hparse hclosing hclose =>
    obtain ⟨rfl, rfl, rfl⟩ : elements = els ∧ off + m = n ∧ budget = left := by simpa using h
    refine ⟨[], m, by simp, rfl, fun d => ?_⟩
    have hopening : el.opening = false := by
      cases parseTag_kind hparse with
      | closing => rfl
      | opening | app | ctx => cases hclosing
    rw [reservedTag_iff hparse]
    simp [forestWithKindTags, hclosing, hopening, hclose.1]
  | case9 closeTag depth data budget elements off hdata hbudget el m hparse hclosing hopening hcheck inner k left'
      hinner ihinner ihrest =>
    obtain ⟨_, k', rfl, rfl, hnested⟩ := ihinner hinner
    obtain ⟨rest, consumed, rfl, rfl, hrest⟩ := ihrest h
    refine ⟨.ctxConstructed el.tagNumber inner :: rest, m + k' + consumed, by simp, by omega, fun d => ?_⟩
    have hconstructed : (Element.ctxConstructed el.tagNumber inner).withKindTag =
        .ctxConstructed el.tagNumber inner ↔ forestWithKindTags inner = inner := by
      simp [Element.withKindTag, ApplicationValue.withKindTags]
    have htail : reservedAfter (d + 1) ((data.drop m).drop k') = true ↔
        forestWithKindTags rest ≠ rest ∨ (0 ≤ closeTag ∧ reservedAfter d (data.drop (m + k' + consumed)) = true) := by
      rw [List.drop_drop]
      have := hrest d
      rwa [List.drop_drop, Nat.zero_add] at this
    rw [reservedTag_iff hparse, if_pos hopening, hnested (d + 1), htail, forestWithKindTags,
      ne_eq (_ :: forestWithKindTags rest), List.cons.injEq, hconstructed]
    have : (0 : Int) ≤ el.tagNumber.toNat := Int.natCast_nonneg _
    tauto
  | case10 closeTag depth data budget elements off hdata hbudget el m hparse hclosing hopening ih =>
    obtain ⟨rest, consumed, rfl, rfl, hrest⟩ := ih h
    refine ⟨el :: rest, m + consumed, by simp, by omega, fun d => ?_⟩
    rw [reservedTag_iff hparse, if_neg hopening, if_neg hclosing, hrest d, List.drop_drop, forestWithKindTags,
      ne_eq (el.withKindTag :: _), List.cons.injEq]
    tauto

/-- Every accepted sequence can be encoded again. The encoding is read back as the elements with the tag number
of their kind, hence as the same elements exactly if the string has no reserved application tag. -/
theorem reencode_stable_iff {limits : DecodeLimits} {data : Octets} {closeTag : Int} {els : List Element}
    {consumed : Nat} (h : parseSequence data limits closeTag = .ok (els, consumed)) :
    (∃ enc, appendTags [] els = .ok enc ∧ parseSequence enc limits (-1) = .ok (els, enc.length)) ↔
      reservedTag 0 data = false := by
  obtain ⟨left, hret⟩ := parseSequence_returned h
  have hfits : ∀ el ∈ els, el.Fits limits.normalize := fun el hel => by
    simpa using (hret.fits el hel).1
  obtain ⟨enc, henc⟩ := appendTags_ok_of fun el hel =>
    appendTag_ok wireLimits_encodable (hret.fits el hel).2
  have hback : parseSequence enc limits (-1) = .ok (forestWithKindTags els, enc.length) :=
    parseSequence_appended hfits hret.bounds.2 hret.bounds.1 henc
  have hreserved : reservedTag 0 data = true ↔ forestWithKindTags els ≠ els := by
    rw [parseSequence_eq] at h
    obtain ⟨⟨els', n, left'⟩, hloop, heq⟩ := Except.map_eq_ok_iff.mp h
    obtain ⟨rfl, rfl⟩ := Prod.mk.inj heq
    obtain ⟨new, k, rfl, -, hscan⟩ := parseLoop_reserved hloop
    simpa [reservedAfter] using hscan 0
  rw [← Bool.not_eq_true, hreserved, not_not]
  refine ⟨fun ⟨enc', henc', hsame⟩ => ?_, fun hsame => ⟨enc, henc, by rw [hback, hsame]⟩⟩
  obtain rfl := Except.ok.inj (henc.symm.trans henc')
  rw [hback] at hsame
  exact (Prod.mk.inj (Except.ok.inj hsame)).1

/-- A non-minimal unsigned integer is stable. -/
theorem reencode_stable_nonMinimal :
    reservedTag 0 [0x22, 0, 7] = false ∧
      ∃ enc, appendTags [] [.app tagUnsigned (.unsigned 7)] = .ok enc ∧
        parseSequence enc {} (-1) = .ok ([.app tagUnsigned (.unsigned 7)], enc.length) := by
  have hparse : parseSequence [0x22, 0, 7] {} (-1) = .ok ([.app tagUnsigned (.unsigned 7)], 3) :=
    parseSequence_single rfl rfl rfl
  have hscan : reservedTag 0 [0x22, 0, 7] = false := by
    have hframe : parseFrame [0x22, 0, 7] = .ok (.primitive false 2 2 [0, 7] 3) := rfl
    rw [reservedTag_of_frame hframe, reservedStep, List.drop_of_length_le (by decide), reservedTag_nil]
    rfl
  exact ⟨hscan, (reencode_stable_iff hparse).mpr hscan⟩

/-- An element under the reserved application tag 13 is accepted, and read back under tag 6. -/
theorem reserved_tag_not_stable :
    parseSequence [0xD1, 7] {} (-1) = .ok ([.app 13 (.octetString [7])], 2) ∧
      appendTags [] [.app 13 (.octetString [7])] = .ok [0x61, 7] ∧
      parseSequence [0x61, 7] {} (-1) = .ok ([.app tagOctetString (.octetString [7])], 2) ∧
      [Element.app 13 (.octetString [7])] ≠ [.app tagOctetString (.octetString [7])] := by
  refine ⟨parseSequence_single rfl rfl rfl, rfl, parseSequence_single rfl rfl rfl, fun heq => ?_⟩
  have htag : (13 : UInt8) = tagOctetString := by simpa using heq
  exact absurd htag (by decide)

end GoBacnet.Proofs
