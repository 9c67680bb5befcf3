import GoBacnet.Proofs.LogRecords

/-!
# What the items of an answer to ReadRange keep

An item is kept without its own tag unless it is a context primitive: of an application item the value stays, of a
constructed item its elements.
-/

namespace GoBacnet.Service

def isItemData (el : Element) : Bool := el.tagNumber = 5 ∧ isContextConstructed el

/-- The elements between the tags of itemData. -/
def itemStream (payload : Octets) (limits : DecodeLimits) : List Element :=
  match parsePayload payload limits "ReadRangeACK" with
  | .ok els => (els.filter isItemData).flatMap (·.value.elements)
  | .error _ => []

/-- The element without its tag number, unless it is a context primitive. -/
def withoutItemTag (el : Element) : Element :=
  if el.context && !isContextConstructed el then el else .mk el.context 0 el.opening el.closing el.value

end GoBacnet.Service

namespace GoBacnet.Proofs

open Service

variable {limits : DecodeLimits}

def ReadRangeReader.read (r : ReadRangeReader) : List ItemValue := r.items.elim [] Prod.snd

lemma readRangeStep_read {r r' : ReadRangeReader} {el : Element} (h : readRangeStep r el = .ok r') (hfits : el.Fits limits) :
    ReadRangeReader.read r' =
      ReadRangeReader.read r ++ (([el].filter isItemData).flatMap (·.value.elements)).map itemOf := by
  by_cases hel : el.tagNumber = 5 ∧ isContextConstructed el
  · cases hfits with
    | app tag v hv => simp [isContextConstructed] at hel
    | ctx tag octets htag hlen => exact absurd hel.2 (by simp)
    | constructed tag els htag hels =>
      obtain rfl : tag = 5 := hel.1
      cases hr : r.items with
      | some read => simp [readRangeStep, readField, hr] at h
      | none =>
        rw [readRangeStep_items r hr (mapM_decodeItem hels)] at h
        cases h
        simp [ReadRangeReader.read, hr, isItemData, hel.2, ApplicationValue.elements]
  · have hsame : r'.items = r.items := by
      simp only [readRangeStep, if_neg hel, Except.ite_eq_ok_iff, Except.map_eq_ok_iff] at h
      rcases h with ⟨-, f, -, rfl⟩ | ⟨-, ⟨-, f, -, rfl⟩ | ⟨-, ⟨-, f, -, rfl⟩ | ⟨-, ⟨-, f, -, rfl⟩ | ⟨-, ⟨-, f, -, rfl⟩ |
        ⟨-, ⟨-, f, -, rfl⟩ | ⟨-, h⟩⟩⟩⟩⟩⟩
      all_goals first | rfl | cases h
    simp [ReadRangeReader.read, hsame, isItemData, hel]

lemma foldlM_read {els : List Element} (hfits : ∀ el ∈ els, el.Fits limits)
    {r r' : ReadRangeReader} (h : els.foldlM readRangeStep r = .ok r') :
    ReadRangeReader.read r' =
      ReadRangeReader.read r ++ ((els.filter isItemData).flatMap (·.value.elements)).map itemOf := by
  induction els generalizing r with
  | nil =>
    cases h
    simp
  | cons el els ih =>
    obtain ⟨s, hstep, hrest⟩ := Except.foldlM_cons_eq_ok_iff.mp h
    have hel := readRangeStep_read hstep (hfits el List.mem_cons_self)
    rw [ih (fun e he => hfits e (List.mem_cons_of_mem el he)) hrest, hel]
    by_cases hdata : isItemData el
    · simp [hdata]
    · simp [hdata]

lemma itemData_of_finish {r : ReadRangeReader} {ack : ReadRangeACK} (h : r.finish = .ok ack) :
    ack.itemData = ReadRangeReader.read r := by
  unfold ReadRangeReader.finish at h
  split at h
  · rename_i hitems
    simp only [Except.check_eq_ok_iff, Except.bind_eq_ok_iff] at h
    obtain ⟨-, -, records, -, h⟩ := h
    cases h
    simp [ReadRangeReader.read, hitems]
  · cases h

lemma decodeReadRangeACK_items {payload : Octets} {ack : ReadRangeACK}
    (h : decodeReadRangeACK payload limits = .ok ack) :
    ack.itemData = (itemStream payload limits).map itemOf ∧
      ∀ el ∈ itemStream payload limits, el.Fits limits.normalize := by
  obtain ⟨els, hparse, h⟩ := Except.bind_eq_ok_iff.mp h
  obtain ⟨r, hfold, hfinish⟩ := Except.bind_eq_ok_iff.mp h
  obtain ⟨⟨parsed, n⟩, hsequence, hall⟩ := Except.bind_eq_ok_iff.mp hparse
  obtain ⟨-, hall⟩ := Except.check_eq_ok_iff.mp hall
  cases hall
  have hfits := (withinLimits_of_parse hsequence).fits
  refine ⟨?_, ?_⟩
  · rw [itemData_of_finish hfinish, foldlM_read hfits hfold, itemStream, hparse]
    rfl
  · intro el hel
    simp only [itemStream, hparse, List.mem_flatMap, List.mem_filter] at hel
    obtain ⟨data, ⟨hdata, -⟩, hel⟩ := hel
    have hfit := hfits data hdata
    cases hfit with
    | app tag v hv => cases v <;> first | exact hv.elim | simp [ApplicationValue.elements] at hel
    | ctx tag octets htag hlen => simp [ApplicationValue.elements] at hel
    | constructed tag els htag hels => exact hels el hel

lemma itemOf_app {tag : ApplicationTag} {v : ApplicationValue} (hv : v.Fits limits) :
    itemOf (.app tag v) = .value v := by
  cases v with
  | constructed els => exact hv.elim
  | _ => rfl

@[simp] lemma itemOf_ctx (tag : UInt8) (octets : Octets) : itemOf (.ctx tag octets) = .primitive (.ctx tag octets) := rfl

@[simp] lemma itemOf_ctxConstructed (tag : UInt8) (els : List Element) :
    itemOf (.ctxConstructed tag els) = .value (.constructed els) := rfl

@[simp] lemma withoutItemTag_app (tag : ApplicationTag) (v : ApplicationValue) :
    withoutItemTag (.app tag v) = .app 0 v := rfl

@[simp] lemma withoutItemTag_ctx (tag : UInt8) (octets : Octets) :
    withoutItemTag (.ctx tag octets) = .ctx tag octets := rfl

@[simp] lemma withoutItemTag_constructed (tag : UInt8) (els : List Element) :
    withoutItemTag (.ctxConstructed tag els) = .ctxConstructed 0 els := rfl

lemma itemOf_eq_iff {limits' : DecodeLimits} {el el' : Element} (h : el.Fits limits) (h' : el'.Fits limits') :
    itemOf el = itemOf el' ↔ withoutItemTag el = withoutItemTag el' := by
  have hne : ∀ {lim : DecodeLimits} {v : ApplicationValue} {els : List Element}, v.Fits lim → v ≠ .constructed els :=
    fun hv hels => by simp [hels, ApplicationValue.Fits] at hv
  cases h with
  | app tag v hv =>
    cases h' with
    | app tag' v' hv' => simp [itemOf_app hv, itemOf_app hv']
    | ctx tag' octets' htag' hlen' => simp [itemOf_app hv]
    | constructed tag' els' htag' hels' => simp [itemOf_app hv, hne hv]
  | ctx tag octets htag hlen =>
    cases h' with
    | app tag' v' hv' => simp [itemOf_app hv']
    | _ => simp
  | constructed tag els htag hels =>
    cases h' with
    | app tag' v' hv' => simp [itemOf_app hv', (hne hv').symm]
    | _ => simp

lemma map_itemOf_eq_iff {limits' : DecodeLimits} {els els' : List Element} (h : ∀ el ∈ els, el.Fits limits)
    (h' : ∀ el ∈ els', el.Fits limits') :
    els.map itemOf = els'.map itemOf ↔ els.map withoutItemTag = els'.map withoutItemTag := by
  induction els generalizing els' with
  | nil => simp
  | cons el els ih =>
    cases els' with
    | nil => simp
    | cons el' els' =>
      rw [List.forall_mem_cons] at h h'
      simp only [List.map_cons, List.cons.injEq, itemOf_eq_iff h.1 h'.1, ih h.2 h'.2]

/-- The items of two answers differ exactly if their elements differ in more than the tag numbers that are not kept. -/
theorem readRangeACK_items_differ_iff {payload payload' : Octets} {limits limits' : DecodeLimits}
    {ack ack' : ReadRangeACK} (h : decodeReadRangeACK payload limits = .ok ack)
    (h' : decodeReadRangeACK payload' limits' = .ok ack') :
    ack.itemData ≠ ack'.itemData ↔
      (itemStream payload limits).map withoutItemTag ≠ (itemStream payload' limits').map withoutItemTag := by
  obtain ⟨hitems, hfits⟩ := decodeReadRangeACK_items h
  obtain ⟨hitems', hfits'⟩ := decodeReadRangeACK_items h'
  rw [hitems, hitems', ne_eq, map_itemOf_eq_iff hfits hfits']

/-- An answer with one item, between the tags `tag`, whose only element is the number `n`. -/
def oneItemAnswer (tag n : UInt8) : Octets :=
  [0x0C, 0x02, 0, 0, 1, 0x19, 85, 0x3A, 5, 0xE0, 0x49, 1, 0x5E, tag <<< 4 ||| 0x0E, 0x21, n, tag <<< 4 ||| 0x0F, 0x5F]

def oneItemElements (tag n : UInt8) : List Element :=
  [.ctx 0 [0x02, 0, 0, 1], .ctx 1 [85], .ctx 3 [5, 0xE0], .ctx 4 [1],
    .ctxConstructed 5 [.ctxConstructed tag [.app tagUnsigned (.unsigned n.toUInt64)]]]

lemma parse_oneItemAnswer {tag n : UInt8} (h : (tag, n) ∈ [(0, 1), (1, 1), (0, 2)]) :
    parsePayload (oneItemAnswer tag n) {} "ReadRangeACK" = .ok (oneItemElements tag n) := by
  simp only [List.mem_cons, List.not_mem_nil, or_false, Prod.mk.injEq] at h
  have hwithin : WithinLimits {} (oneItemElements tag n) := by
    refine ⟨?_, ?_, ?_⟩
    · rcases h with ⟨rfl, rfl⟩ | ⟨rfl, rfl⟩ | ⟨rfl, rfl⟩ <;>
        simp [oneItemElements, ApplicationValue.Fits] <;> decide +kernel
    · rcases h with ⟨rfl, rfl⟩ | ⟨rfl, rfl⟩ | ⟨rfl, rfl⟩ <;> decide +kernel
    · rcases h with ⟨rfl, rfl⟩ | ⟨rfl, rfl⟩ | ⟨rfl, rfl⟩ <;> decide +kernel
  have hbytes : appendTags [] (oneItemElements tag n) = .ok (oneItemAnswer tag n) := by
    rcases h with ⟨rfl, rfl⟩ | ⟨rfl, rfl⟩ | ⟨rfl, rfl⟩ <;> rfl
  rw [parsePayload_appended hwithin hbytes]
  rfl

lemma decode_oneItemAnswer {tag n : UInt8} (h : (tag, n) ∈ [(0, 1), (1, 1), (0, 2)]) :
    decodeReadRangeACK (oneItemAnswer tag n) {} = .ok {
      object := ⟨8, 1⟩, property := ⟨85, none⟩, resultFlags := ⟨5, [0xE0]⟩, itemCount := 1, logRecords := []
      firstSequence := none, itemData := [.value (.constructed [.app tagUnsigned (.unsigned n.toUInt64)])] } := by
  simp only [decodeReadRangeACK, parse_oneItemAnswer h]
  rfl

/-- Answers whose items stand between different tags are read alike. -/
theorem readRangeACK_drops_item_tag :
    ∃ ack ack', decodeReadRangeACK (oneItemAnswer 0 1) {} = .ok ack ∧
      decodeReadRangeACK (oneItemAnswer 1 1) {} = .ok ack' ∧
      ack.property.identifier ≠ propertyLogBuffer ∧ ack'.property.identifier ≠ propertyLogBuffer ∧
      itemStream (oneItemAnswer 0 1) {} ≠ itemStream (oneItemAnswer 1 1) {} ∧ ack.itemData = ack'.itemData := by
  refine ⟨_, _, decode_oneItemAnswer (by decide), decode_oneItemAnswer (by decide), by decide, by decide, ?_, rfl⟩
  rw [itemStream, itemStream, parse_oneItemAnswer (by decide), parse_oneItemAnswer (by decide)]
  simp [oneItemElements, isItemData, ApplicationValue.elements]

theorem readRangeACK_items_differ_iff_content :
    ∃ ack ack', decodeReadRangeACK (oneItemAnswer 0 1) {} = .ok ack ∧
      decodeReadRangeACK (oneItemAnswer 0 2) {} = .ok ack' ∧ ack.itemData ≠ ack'.itemData := by
  have hone := decode_oneItemAnswer (show ((0 : UInt8), (1 : UInt8)) ∈ _ by decide)
  have htwo := decode_oneItemAnswer (show ((0 : UInt8), (2 : UInt8)) ∈ _ by decide)
  refine ⟨_, _, hone, htwo, (readRangeACK_items_differ_iff hone htwo).mpr ?_⟩
  rw [itemStream, itemStream, parse_oneItemAnswer (by decide), parse_oneItemAnswer (by decide)]
  simp [oneItemElements, isItemData, ApplicationValue.elements]

end GoBacnet.Proofs
