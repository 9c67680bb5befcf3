import GoBacnet.Proofs.TagFrame

/-!
# Bounds of the sequence parser

What `parseSequence` returns is within the limits, and a well-formed encoding that is not is refused as
such: no other error comes first.
-/

namespace GoBacnet

def Refused {α : Type} (r : Except Err α) : Prop := ∃ e, r = .error e ∧ e.sentinel = .limitExceeded

/-- The syntax of a sequence of tags, with the elements it stands for. A tag is well-formed when some limits
admit it; the number of elements and their nesting are not bounded. -/
inductive WellFormed : Octets → List Element → Prop
  | nil : WellFormed [] []
  | primitive {tag rest : Octets} {el : Element} {els : List Element} (limits : DecodeLimits)
      (htag : parseTag tag limits = .ok (el, tag.length)) (hopening : el.opening = false)
      (hclosing : el.closing = false) (hrest : WellFormed rest els) : WellFormed (tag ++ rest) (el :: els)
  | constructed {opening inner closing rest : Octets} {tagNumber : UInt8} {content els : List Element}
      (limits : DecodeLimits)
      (hopening : parseTag opening limits = .ok (.mk true tagNumber true false .null, opening.length))
      (hinner : WellFormed inner content)
      (hclosing : parseTag closing limits = .ok (.mk true tagNumber false true .null, closing.length))
      (hrest : WellFormed rest els) :
    WellFormed (opening ++ (inner ++ (closing ++ rest))) (.ctxConstructed tagNumber content :: els)

def WellFormedUntil (closeTag : Int) (data : Octets) (els : List Element) : Prop :=
  (closeTag < 0 ∧ WellFormed data els) ∨
    ∃ body closing rest tagNumber limits, data = body ++ (closing ++ rest) ∧ WellFormed body els ∧
      closeTag = (tagNumber : UInt8).toNat ∧
      parseTag closing limits = .ok (.mk true tagNumber false true .null, closing.length)

end GoBacnet

namespace GoBacnet.Proofs

variable {el : Element} {els : List Element}

/-! ## One tag under other limits -/

lemma check_limits {α : Type} {c' c : Prop} [Decidable c'] [Decidable c] {detail : String} {r v : α}
    (h : (if c' then .error (limitExceeded detail) else .ok r : Except Err α) = .ok v) :
    (if c then .error (limitExceeded detail) else .ok r : Except Err α) = .ok v ∨
      Refused (if c then .error (limitExceeded detail) else .ok r : Except Err α) := by
  split_ifs at h
  split
  · exact .inr ⟨_, rfl, rfl⟩
  · exact .inl h

lemma decodeApplicationValue_limits {tag lvt : UInt8} {data : Octets} {v : ApplicationValue}
    {limits' : DecodeLimits} (h : decodeApplicationValue tag data lvt limits' = .ok v) (limits : DecodeLimits) :
    decodeApplicationValue tag data lvt limits = .ok v ∨ Refused (decodeApplicationValue tag data lvt limits) := by
  unfold decodeApplicationValue at h ⊢
  split at h
  all_goals try exact .inl h
  · exact check_limits h
  · cases data with
    | nil => cases h
    | cons encoding value => exact check_limits h
  · cases data with
    | nil => cases h
    | cons unused bytes =>
      simp only [Bind.bind, Except.bind] at h ⊢
      cases hvalid : validateBitString unused bytes.length with
      | error e => simp [hvalid] at h
      | ok _ =>
        simp only [hvalid] at h ⊢
        exact check_limits h
  · exact check_limits h

lemma decode_limits {f : TagFrame} {limits' : DecodeLimits} (h : f.decode limits' = .ok el)
    (limits : DecodeLimits) : f.decode limits = .ok el ∨ Refused (f.decode limits) := by
  cases f with
  | mark | boolean => exact .inl h
  | primitive context tagNumber lvt content n =>
    simp only [TagFrame.decode, parsePrimitive] at h ⊢
    cases context with
    | true => exact check_limits h
    | false =>
      simp only [Bool.false_eq_true, if_false] at h ⊢
      cases hv : decodeApplicationValue tagNumber content lvt limits' with
      | error e => simp [hv] at h
      | ok v =>
        simp only [hv, Except.map, Except.ok.injEq] at h
        rcases decodeApplicationValue_limits hv limits with hok | ⟨e, herr, he⟩
        · exact .inl (by rw [hok, ← h]; rfl)
        · exact .inr ⟨e, by rw [herr]; rfl, he⟩

lemma parseTag_ok {data : Octets} {limits : DecodeLimits} {n : Nat}
    (h : parseTag data limits = .ok (el, n)) :
    ∃ f, parseFrame data = .ok f ∧ f.decode limits.normalize = .ok el ∧ n = f.size := by
  rw [parseTag_eq] at h
  cases hf : parseFrame data with
  | error e => simp [hf, Except.bind] at h
  | ok f =>
    simp only [hf, Except.bind] at h
    cases hd : f.decode limits.normalize with
    | error e => simp [hd, Except.map] at h
    | ok el' =>
      simp only [hd, Except.map, Except.ok.injEq, Prod.mk.injEq] at h
      exact ⟨f, rfl, by rw [hd, h.1], h.2.symm⟩

lemma parseTag_limits {tag : Octets} {limits' : DecodeLimits} {n : Nat}
    (h : parseTag tag limits' = .ok (el, n)) (limits : DecodeLimits) (rest : Octets) :
    parseTag (tag ++ rest) limits = .ok (el, n) ∨ Refused (parseTag (tag ++ rest) limits) := by
  obtain ⟨f, hf, hd, rfl⟩ := parseTag_ok h
  obtain ⟨-, -, hext⟩ := parseFrame_ok hf
  rw [parseTag_eq, hext]
  rcases decode_limits hd limits.normalize with hok | ⟨e, herr, he⟩
  · exact .inl (by simp [Except.bind, hok, Except.map])
  · exact .inr ⟨e, by simp [Except.bind, herr, Except.map], he⟩

lemma parseTag_le {data : Octets} {limits : DecodeLimits} {n : Nat}
    (h : parseTag data limits = .ok (el, n)) : n ≤ data.length := by
  obtain ⟨f, hf, -, rfl⟩ := parseTag_ok h
  exact (parseFrame_ok hf).2.1

lemma parseTag_kind {data : Octets} {limits : DecodeLimits} {n : Nat}
    (h : parseTag data limits = .ok (el, n)) : TagKind limits.normalize el := by
  obtain ⟨f, hf, hd, -⟩ := parseTag_ok h
  exact tagKind_decode (parseFrame_ok hf).1 hd

lemma primitive_of_parseTag {data : Octets} {limits : DecodeLimits} {n : Nat}
    (h : parseTag data limits = .ok (el, n)) (hopening : el.opening = false) (hclosing : el.closing = false) :
    el.count = 1 ∧ el.depth = 0 ∧ el.Fits limits.normalize ∧ el.Fits wireLimits := by
  cases parseTag_kind h with
  | opening => cases hopening
  | closing => cases hclosing
  | app tag v hfits hwire =>
    have hflat := flat_of_fits hfits
    exact ⟨by rw [Element.count, hflat.2], by rw [Element.depth, hflat.1], .app tag v hfits, .app tag v hwire⟩
  | ctx tag octets hreserved hfits hwire =>
    exact ⟨rfl, rfl, .ctx tag octets hreserved hfits, .ctx tag octets hreserved (Int.ofNat_le.mpr hwire)⟩

/-! ## What is returned -/

structure Returned (limits : DecodeLimits) (closeTag depth budget : Int) (size consumed : Nat) (left : Int)
    (els : List Element) : Prop where
  within : consumed ≤ size
  spent : left = budget - forestCount els
  left_nonneg : 0 ≤ budget → 0 ≤ left
  left_pos : 0 ≤ closeTag → 0 < left
  nesting : depth ≤ limits.maxConstructedDepth → depth + forestDepth els ≤ limits.maxConstructedDepth
  fits : ∀ el ∈ els, el.Fits limits.normalize ∧ el.Fits wireLimits

lemma Returned.cons {limits : DecodeLimits} {closeTag depth budget left : Int} {size n consumed : Nat} (hn : n ≤ size) (hbudget : 0 ≤ budget - el.count)
    (hdepth : depth ≤ limits.maxConstructedDepth → depth + el.depth ≤ limits.maxConstructedDepth)
    (hfits : el.Fits limits.normalize ∧ el.Fits wireLimits)
    (h : Returned limits closeTag depth (budget - el.count) (size - n) consumed left els) :
    Returned limits closeTag depth budget size (n + consumed) left (el :: els) where
  within := by
    have := h.within
    omega
  spent := by
    rw [h.spent, forestCount]
    push_cast
    omega
  left_nonneg _ := h.left_nonneg hbudget
  left_pos := h.left_pos
  nesting hd := by
    have h₁ := hdepth hd
    have h₂ := h.nesting hd
    rw [forestDepth]
    omega
  fits := List.forall_mem_cons.mpr ⟨hfits, h.fits⟩

lemma parseLoop_returned {limits : DecodeLimits} {closeTag depth budget left : Int} {data : Octets}
    {elements : List Element} {off n : Nat}
    (h : parseLoop limits closeTag depth data budget elements off = .ok (els, n, left)) :
    ∃ new consumed, els = elements ++ new ∧ n = off + consumed ∧
      Returned limits closeTag depth budget data.length consumed left new := by
  fun_induction parseLoop limits closeTag depth data budget elements off generalizing els n left with
  | case1 | case3 | case4 | case6 | case7 | case8 => cases h
  | case2 closeTag depth budget elements off hclose =>
    -- The data ends.
    obtain ⟨rfl, rfl, rfl⟩ : elements = els ∧ off = n ∧ budget = left := by simpa using h
    exact ⟨[], 0, by simp, rfl, le_rfl, by simp [forestCount], id, fun hc => absurd hc hclose,
      by simp [forestDepth], by simp⟩
  | case5 closeTag depth data budget elements off hdata hbudget el m hparse hclosing hclose =>
    -- A closing tag ends the sequence.
    obtain ⟨rfl, rfl, rfl⟩ : elements = els ∧ off + m = n ∧ budget = left := by simpa using h
    exact ⟨[], m, by simp, rfl, parseTag_le hparse, by simp [forestCount], id, fun _ => not_le.mp hbudget,
      by simp [forestDepth], by simp⟩
  | case9 closeTag depth data budget elements off hdata hbudget el m hparse hclosing hopening hcheck inner k left'
      hinner ihinner ihrest =>
    obtain ⟨_, k', rfl, rfl, hnested⟩ := ihinner hinner
    obtain ⟨rest, consumed, rfl, rfl, hrest⟩ := ihrest h
    have hm := parseTag_le hparse
    have hwithin := hnested.within
    rw [List.length_drop] at hwithin
    cases parseTag_kind hparse with
    | opening tag hreserved =>
      have hleft := hnested.left_pos (Int.natCast_nonneg _)
      have hspent : left' - 1 = budget - ((Element.ctxConstructed tag inner).count : Int) := by
        rw [hnested.spent]
        simp only [Element.count, ApplicationValue.count]
        push_cast
        omega
      rw [hspent, List.length_drop] at hrest
      refine ⟨.ctxConstructed tag inner :: rest, _, by simp, ?_, hrest.cons (by omega) (by omega) (fun _ => ?_) ?_⟩
      · omega
      · have hmax : depth + 1 ≤ limits.maxConstructedDepth := not_lt.mp (Except.check_eq_ok_iff.mp hcheck).1
        have := hnested.nesting hmax
        simp only [Element.depth, ApplicationValue.depth]
        omega
      · exact ⟨.constructed tag inner hreserved fun el hel => (hnested.fits el hel).1,
          .constructed tag inner hreserved fun el hel => (hnested.fits el hel).2⟩
    | closing | app | ctx => cases hopening
  | case10 closeTag depth data budget elements off hdata hbudget el m hparse hclosing hopening ih =>
    obtain ⟨rest, consumed, rfl, rfl, hrest⟩ := ih h
    have hm := parseTag_le hparse
    rw [List.length_drop] at hrest
    obtain ⟨hcount, hdepth, hfits⟩ := primitive_of_parseTag hparse (by simpa using hopening) (by simpa using hclosing)
    refine ⟨el :: rest, m + consumed, by simp, by omega, Returned.cons hm ?_ (fun hd => ?_) hfits ?_⟩
    · rw [hcount]
      omega
    · rw [hdepth]
      omega
    · rw [hcount]
      exact hrest

/-! ## What is refused -/

section Loop

variable {limits : DecodeLimits} {closeTag depth : Int} {data : Octets} {budget : Int} {elements : List Element}
  {off n : Nat}

lemma parseLoop_refused_budget (hdata : data ≠ []) (hbudget : budget ≤ 0) :
    Refused (parseLoop limits closeTag depth data budget elements off) := by
  rw [parseLoop, dif_neg hdata, if_pos hbudget]
  exact ⟨_, rfl, rfl⟩

lemma parseLoop_refused_tag (hdata : data ≠ []) (h : Refused (parseTag data limits)) :
    Refused (parseLoop limits closeTag depth data budget elements off) := by
  obtain ⟨e, herr, he⟩ := h
  by_cases hbudget : budget ≤ 0
  · exact parseLoop_refused_budget hdata hbudget
  rw [parseLoop, dif_neg hdata, if_neg hbudget]
  split
  · next hparse =>
    rw [herr] at hparse
    obtain rfl := Except.error.inj hparse
    exact ⟨_, rfl, he⟩
  · next hparse =>
    rw [herr] at hparse
    cases hparse

lemma parseLoop_refused_opening {tag : UInt8} (hbudget : 0 < budget)
    (htag : parseTag data limits = .ok (.mk true tag true false .null, n))
    (h : limits.maxConstructedDepth < depth + 1 ∨
      Refused (parseLoop limits tag.toNat (depth + 1) (data.drop n) budget [] 0)) :
    Refused (parseLoop limits closeTag depth data budget elements off) := by
  have hdata : data ≠ [] := by
    rintro rfl
    simp [parseTag] at htag
  rw [parseLoop, dif_neg hdata, if_neg (by omega)]
  split
  · simp_all
  · next hparse =>
    rw [htag] at hparse
    cases hparse
    simp only [Element.closing_mk, Element.opening_mk, Element.tagNumber_mk, Bool.false_eq_true, if_false, if_true]
    by_cases hdepth : limits.maxConstructedDepth < depth + 1
    · rw [checkDepth, if_pos hdepth]
      exact ⟨_, rfl, rfl⟩
    · rw [checkDepth, if_neg hdepth]
      obtain ⟨e, herr, he⟩ := h.resolve_left hdepth
      rw [herr]
      exact ⟨e, rfl, he⟩

end Loop

lemma wellFormed_read {data : Octets} (h : WellFormed data els) (limits : DecodeLimits)
    (closeTag depth : Int) (rest : Octets) (budget : Int) (elements : List Element) (off : Nat) :
    Refused (parseLoop limits closeTag depth (data ++ rest) budget elements off) ∨
      ((0 ≤ budget → forestCount els ≤ budget) ∧
        (depth ≤ limits.maxConstructedDepth → depth + forestDepth els ≤ limits.maxConstructedDepth) ∧
        parseLoop limits closeTag depth (data ++ rest) budget elements off =
          parseLoop limits closeTag depth rest (budget - forestCount els) (elements ++ els) (off + data.length)) := by
  induction h generalizing closeTag depth rest budget elements off with
  | nil =>
    refine .inr ⟨by simp [forestCount], by simp [forestDepth], ?_⟩
    simp [forestCount]
  | @primitive tag tail el els limits' htag hopening hclosing _ ih =>
    have hpos := parseTag_pos htag
    have hdata : tag ++ (tail ++ rest) ≠ [] := by simp [List.length_pos_iff.mp hpos]
    rw [List.append_assoc]
    by_cases hbudget : budget ≤ 0
    · exact .inl (parseLoop_refused_budget hdata hbudget)
    rcases parseTag_limits htag limits (tail ++ rest) with hok | href
    swap
    · exact .inl (parseLoop_refused_tag hdata href)
    obtain ⟨hone, hflat, -⟩ := primitive_of_parseTag htag hopening hclosing
    rw [parseLoop_element (by omega) hok hopening hclosing, List.drop_left]
    rcases ih closeTag depth rest (budget - 1) (elements ++ [el]) (off + tag.length) with href | ⟨hcount, hdepth, heq⟩
    · exact .inl href
    · refine .inr ⟨fun _ => ?_, fun hd => ?_, ?_⟩
      · have := hcount (by omega)
        rw [forestCount, hone]
        push_cast
        omega
      · have := hdepth hd
        rw [forestDepth, hflat]
        omega
      · rw [heq, forestCount, hone, List.length_append]
        congr 1
        · push_cast
          omega
        · simp
        · omega
  | @constructed opening inner closing tail tagNumber content els limits' hopening _ hclosing _ ihinner ihrest =>
    have hpos := parseTag_pos hopening
    have hcpos := parseTag_pos hclosing
    have hdata : opening ++ (inner ++ (closing ++ (tail ++ rest))) ≠ [] := by
      simp [List.length_pos_iff.mp hpos]
    have hcdata : closing ++ (tail ++ rest) ≠ [] := by simp [List.length_pos_iff.mp hcpos]
    simp only [List.append_assoc]
    by_cases hbudget : budget ≤ 0
    · exact .inl (parseLoop_refused_budget hdata hbudget)
    rcases parseTag_limits hopening limits (inner ++ (closing ++ (tail ++ rest))) with hopen | href
    swap
    · exact .inl (parseLoop_refused_tag hdata href)
    by_cases hmax : limits.maxConstructedDepth < depth + 1
    · exact .inl (parseLoop_refused_opening (by omega) hopen (.inl hmax))
    have hdrop : (opening ++ (inner ++ (closing ++ (tail ++ rest)))).drop opening.length =
        inner ++ (closing ++ (tail ++ rest)) := List.drop_left
    -- The content and the closing tag are read, or what refuses them refuses the opening tag.
    have hinner : Refused (parseLoop limits tagNumber.toNat (depth + 1)
          ((opening ++ (inner ++ (closing ++ (tail ++ rest)))).drop opening.length) budget [] 0) ∨
        (forestCount content + 1 ≤ budget ∧ depth + 1 + forestDepth content ≤ limits.maxConstructedDepth ∧
          parseLoop limits tagNumber.toNat (depth + 1)
            ((opening ++ (inner ++ (closing ++ (tail ++ rest)))).drop opening.length) budget [] 0 =
            .ok (content, inner.length + closing.length, budget - forestCount content)) := by
      rw [hdrop]
      rcases ihinner tagNumber.toNat (depth + 1) (closing ++ (tail ++ rest)) budget [] 0 with
        href | ⟨-, hdepth, heq⟩
      · exact .inl href
      rw [heq]
      by_cases hleft : budget - forestCount content ≤ 0
      · exact .inl (parseLoop_refused_budget hcdata hleft)
      rcases parseTag_limits hclosing limits (tail ++ rest) with hclose | href
      · refine .inr ⟨by omega, hdepth (by omega), ?_⟩
        rw [parseLoop_closing (by omega) rfl hclose]
        simp
      · exact .inl (parseLoop_refused_tag hcdata href)
    rcases hinner with href | ⟨hcount, hdepth, hread⟩
    · exact .inl (parseLoop_refused_opening (by omega) hopen (.inr href))
    have hrest : (opening ++ (inner ++ (closing ++ (tail ++ rest)))).drop
        (opening.length + (inner.length + closing.length)) = tail ++ rest := by
      rw [← List.append_assoc inner, ← List.append_assoc opening, ← List.length_append, ← List.length_append,
        List.drop_left]
    rw [parseLoop_opening (by omega) hopen (by omega) hread, hrest]
    rcases ihrest closeTag depth rest (budget - forestCount content - 1)
      (elements ++ [.ctxConstructed tagNumber content]) (off + opening.length + (inner.length + closing.length)) with
      href | ⟨hcount', hdepth', heq⟩
    · exact .inl href
    refine .inr ⟨fun _ => ?_, fun hd => ?_, ?_⟩
    · have := hcount' (by omega)
      simp only [forestCount, Element.count, ApplicationValue.count]
      push_cast
      omega
    · have := hdepth' hd
      simp only [forestDepth, Element.depth, ApplicationValue.depth]
      omega
    · rw [heq]
      simp only [forestCount, Element.count, ApplicationValue.count, List.length_append]
      congr 1
      · push_cast
        omega
      · simp
      · omega

lemma parseSequence_eq (limits : DecodeLimits) (data : Octets) (closeTag : Int) :
    parseSequence data limits closeTag =
      (parseLoop limits.normalize closeTag 0 data limits.normalize.maxElements [] 0).map fun r => (r.1, r.2.1) := by
  have hdepth := limits.normalize_maxConstructedDepth_pos
  have hcheck : checkDepth limits.normalize 0 = .ok () := if_neg (by omega)
  simp only [parseSequence, hcheck, Bind.bind, Except.bind, Pure.pure, Except.pure]
  cases parseLoop limits.normalize closeTag 0 data limits.normalize.maxElements [] 0 <;> rfl

lemma parseSequence_single {limits : DecodeLimits} {data : Octets}
    (h : parseTag data limits.normalize = .ok (el, data.length)) (hopening : el.opening = false)
    (hclosing : el.closing = false) : parseSequence data limits (-1) = .ok ([el], data.length) := by
  rw [parseSequence_eq, parseLoop_element limits.normalize_maxElements_pos h hopening hclosing, List.drop_length,
    parseLoop_nil (by decide)]
  simp

lemma parseSequence_returned {limits : DecodeLimits} {data : Octets} {closeTag : Int}
    {consumed : Nat} (h : parseSequence data limits closeTag = .ok (els, consumed)) :
    ∃ left, Returned limits.normalize closeTag 0 limits.normalize.maxElements data.length consumed left els := by
  rw [parseSequence_eq] at h
  obtain ⟨⟨els', n, left⟩, hloop, heq⟩ := Except.map_eq_ok_iff.mp h
  obtain ⟨rfl, rfl⟩ := Prod.mk.inj heq
  obtain ⟨new, consumed, rfl, rfl, hret⟩ := parseLoop_returned hloop
  exact ⟨left, by simpa using hret⟩

lemma Returned.bounds {limits : DecodeLimits} {closeTag left : Int} {size consumed : Nat}
    (h : Returned limits.normalize closeTag 0 limits.normalize.maxElements size consumed left els) :
    forestCount els ≤ limits.normalize.maxElements ∧ forestDepth els ≤ limits.normalize.maxConstructedDepth := by
  have hcount := limits.normalize_maxElements_pos
  have hdepth := limits.normalize_maxConstructedDepth_pos
  have hspent := h.spent
  have hleft := h.left_nonneg (by omega)
  have hnest := h.nesting (by omega)
  exact ⟨by omega, by omega⟩

/-- What `parseSequence` returns is within the data and the limits, and every well-formed encoding that exceeds
the number of elements or the nesting is refused for a limit. -/
theorem parseSequence_bounded (limits : DecodeLimits) (data : Octets) (closeTag : Int) :
    (∀ els consumed, parseSequence data limits closeTag = .ok (els, consumed) →
      consumed ≤ data.length ∧ forestCount els ≤ limits.normalize.maxElements ∧
        forestDepth els ≤ limits.normalize.maxConstructedDepth) ∧
    (∀ els, WellFormedUntil closeTag data els →
      limits.normalize.maxElements < forestCount els ∨ limits.normalize.maxConstructedDepth < forestDepth els →
      Refused (parseSequence data limits closeTag)) := by
  have hcount := limits.normalize_maxElements_pos
  have hdepth := limits.normalize_maxConstructedDepth_pos
  refine ⟨fun els consumed h => ?_, fun els hwf hexceeds => ?_⟩
  · obtain ⟨left, hret⟩ := parseSequence_returned h
    exact ⟨hret.within, hret.bounds⟩
  · -- The loop cannot have read the encoding to its end, since that takes the budget and the depth.
    have hrefused : Refused (parseLoop limits.normalize closeTag 0 data limits.normalize.maxElements [] 0) := by
      rcases hwf with ⟨-, hwf⟩ | ⟨body, closing, rest, tagNumber, limits', rfl, hwf, -, -⟩
      · rcases wellFormed_read hwf limits.normalize closeTag 0 [] limits.normalize.maxElements [] 0 with href | ⟨hc, hd, -⟩
        · rwa [List.append_nil] at href
        · have := hc (by omega)
          have := hd (by omega)
          omega
      · rcases wellFormed_read hwf limits.normalize closeTag 0 (closing ++ rest) limits.normalize.maxElements [] 0 with
          href | ⟨hc, hd, -⟩
        · exact href
        · have := hc (by omega)
          have := hd (by omega)
          omega
    obtain ⟨e, herr, he⟩ := hrefused
    exact ⟨e, by rw [parseSequence_eq, herr]; rfl, he⟩

/-- Two unsigned integers where one element is admitted, and one of them alone. -/
theorem parseSequence_bounded_twoElements :
    Refused (parseSequence [0x21, 5, 0x21, 6] { maxElements := 1 } (-1)) ∧
      parseSequence [0x21, 5] { maxElements := 1 } (-1) = .ok ([.app tagUnsigned (.unsigned 5)], 2) ∧
      forestCount [.app tagUnsigned (.unsigned 5)] ≤ ({ maxElements := 1 } : DecodeLimits).normalize.maxElements := by
  have hone : parseSequence [0x21, 5] { maxElements := 1 } (-1) = .ok ([.app tagUnsigned (.unsigned 5)], 2) :=
    parseSequence_single rfl rfl rfl
  have hsix : WellFormed ([0x21, 6] ++ []) [.app tagUnsigned (.unsigned 6)] := .primitive {} rfl rfl rfl .nil
  have htwo : WellFormed ([0x21, 5] ++ [0x21, 6]) [.app tagUnsigned (.unsigned 5), .app tagUnsigned (.unsigned 6)] :=
    .primitive {} rfl rfl rfl hsix
  exact ⟨(parseSequence_bounded _ _ _).2 _ (.inl ⟨by decide, htwo⟩) (.inl (by decide)), hone,
    ((parseSequence_bounded _ _ _).1 _ _ hone).2.1⟩

end GoBacnet.Proofs
