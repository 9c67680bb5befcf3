import GoBacnet.Proofs.WireForm
import GoBacnet.Server.TrendLog

/-!
# How many items an answer to ReadRange carries

An answer with more items is longer, so the binary search finds the longest one that fits the budget.
-/

namespace GoBacnet

open Service

/-! ### The size of an answer -/

namespace Proofs

def contextPrimitive (tag : UInt8) (value : Octets) : Octets :=
  initialOctet true tag (lengthField value.length) :: (extendedTag tag ++ extendedLength value.length) ++ value

lemma appendContextPrimitive_eq (dst : Octets) {tag : UInt8} (htag : tag ≠ tagNumberReserved) {value : Octets}
    (hlen : value.length ≤ maxUint32) :
    appendContextPrimitive dst tag value = .ok (dst ++ contextPrimitive tag value) := by
  simp [appendContextPrimitive, htag, encodeTagHeader_eq true tag hlen, contextPrimitive]

lemma appendContextUnsigned_eq (dst : Octets) {tag : UInt8} (htag : tag ≠ tagNumberReserved) (v : UInt64) :
    appendContextUnsigned dst tag v = .ok (dst ++ contextPrimitive tag (encodeUnsigned v)) := by
  refine appendContextPrimitive_eq dst htag ?_
  have := (length_encodeUnsigned v).2
  simp only [maxUint32]
  omega

def ackSequence : Option Nat → Octets
  | none => []
  | some seq => contextPrimitive 6 (encodeUnsigned (UInt64.ofNat seq))

lemma validate_resultFlags (first last more : Bool) :
    validateBitString (encodeResultFlags first last more).unusedBits (encodeResultFlags first last more).bytes.length =
      .ok () := by
  cases first <;> cases last <;> cases more <;> rfl

lemma appendResultFlags_eq (dst : Octets) (first last more : Bool) :
    appendContextBitString dst 3 (encodeResultFlags first last more) =
      .ok (dst ++ contextPrimitive 3 ((encodeResultFlags first last more).unusedBits ::
        (encodeResultFlags first last more).bytes)) := by
  simp only [appendContextBitString, validate_resultFlags, Bind.bind, Except.bind]
  exact appendContextPrimitive_eq dst (by decide) (by simp [encodeResultFlags, maxUint32])

lemma appendContextTagged_eq (dst : Octets) {tag : UInt8} (htag : tag ≠ tagNumberReserved) (body : List Element) :
    appendContextTagged dst tag body = (appendTags [] body).map fun items =>
      dst ++ (appendContextOpenClose [] tag true ++ items ++ appendContextOpenClose [] tag false) := by
  simp only [appendContextTagged, htag, if_false, Bind.bind, Except.bind, Pure.pure, Except.pure]
  rw [appendTags_append]
  cases appendTags [] body with
  | error e => rfl
  | ok items =>
    simp only [Except.map]
    rw [appendContextOpenClose_append, appendContextOpenClose_append dst]
    simp

lemma encodeReadRangeACK_eq {ack : ReadRangeACK} {first last more : Bool}
    (hflags : ack.resultFlags = encodeResultFlags first last more) :
    encodeReadRangeACK ack = do
      let head ← encodeReadRangeHead ack.object ack.property
      let body ← ack.body
      let items ← appendTags [] body
      return head ++ contextPrimitive 3 (ack.resultFlags.unusedBits :: ack.resultFlags.bytes) ++
        contextPrimitive 4 (encodeUnsigned (UInt64.ofNat ack.itemCount)) ++
        (appendContextOpenClose [] 5 true ++ items ++ appendContextOpenClose [] 5 false) ++
        ackSequence ack.firstSequence := by
  have htag4 : (4 : UInt8) ≠ tagNumberReserved := by decide
  have htag5 : (5 : UInt8) ≠ tagNumberReserved := by decide
  have htag6 : (6 : UInt8) ≠ tagNumberReserved := by decide
  unfold encodeReadRangeACK
  cases encodeReadRangeHead ack.object ack.property with
  | error e => rfl
  | ok head =>
    simp only [Except.bind, Bind.bind, hflags, appendResultFlags_eq, appendContextUnsigned_eq _ htag4,
      appendContextTagged_eq _ htag5]
    cases ack.body with
    | error e => rfl
    | ok body =>
      cases hitems : appendTags [] body with
      | error e => simp [hitems]
      | ok items =>
        cases ack.firstSequence with
        | none => simp [hitems, ackSequence]
        | some seq => simp [hitems, ackSequence, appendContextUnsigned_eq _ htag6]

end Proofs

namespace Server

open Proofs

variable {budget : Int} {r : ReadRangeRequest} {sel : RangeResult}

lemma encodeLogRecords_take (records : List LogRecord) (k : Nat) {body : List Element}
    (h : encodeLogRecords records = .ok body) :
    ∃ pre rest, encodeLogRecords (records.take k) = .ok pre ∧ body = pre ++ rest := by
  induction records generalizing k body with
  | nil => exact ⟨body, [], by simpa using h, by simp⟩
  | cons record records ih =>
    rw [encodeLogRecords_cons] at h
    obtain ⟨els, hels, h⟩ := Except.bind_eq_ok_iff.mp h
    obtain ⟨tail, htail, rfl⟩ := Except.map_eq_ok_iff.mp h
    cases k with
    | zero => exact ⟨[], els ++ tail, rfl, rfl⟩
    | succ k =>
      obtain ⟨pre, rest, hpre, rfl⟩ := ih k htail
      refine ⟨els ++ pre, rest, ?_, by simp⟩
      rw [List.take_succ_cons, encodeLogRecords_cons, hels, hpre]
      rfl

lemma body_take {i j : Nat} (hij : i ≤ j) {body : List Element} (h : (buildACK r sel j).body = .ok body) :
    ∃ pre rest, (buildACK r sel i).body = .ok pre ∧ body = pre ++ rest := by
  by_cases hrecords : sel.records = []
  · have hitems : ∀ k, (buildACK r sel k).body = .ok ((sel.items.take k).map (Element.app 0)) := by
      intro k
      simp [ReadRangeACK.body, buildACK, hrecords, Function.comp_def, ItemValue.element]
    rw [hitems] at h ⊢
    cases h
    refine ⟨_, ((sel.items.take j).drop i).map (Element.app 0), rfl, ?_⟩
    rw [← List.map_append]
    congr 1
    conv_lhs => rw [← List.take_append_drop i (sel.items.take j)]
    rw [List.take_take, Nat.min_eq_left hij]
  · have hbody : ∀ k, (buildACK r sel k).body = encodeLogRecords (sel.records.take k) :=
      fun k => ReadRangeACK.body_of_records (by simp [buildACK, hrecords])
    rw [hbody] at h ⊢
    obtain ⟨pre, rest, hpre, hsplit⟩ := encodeLogRecords_take _ i h
    rw [List.take_take, Nat.min_eq_left hij] at hpre
    exact ⟨pre, rest, hpre, hsplit⟩

lemma length_contextPrimitive_mono (tag : UInt8) {v w : Octets} (h : v.length ≤ w.length) (hw : w.length < 254) :
    (contextPrimitive tag v).length ≤ (contextPrimitive tag w).length := by
  have hextended : (extendedLength v.length).length ≤ (extendedLength w.length).length := by
    unfold extendedLength
    split_ifs <;> simp <;> omega
  simp only [contextPrimitive, List.cons_append, List.length_cons, List.length_append]
  omega

lemma length_ackSequence_mono {i j : Nat} (hij : i ≤ j) :
    (ackSequence (buildACK r sel i).firstSequence).length ≤ (ackSequence (buildACK r sel j).firstSequence).length := by
  rcases Nat.eq_zero_or_pos i with rfl | hi
  · simp [buildACK, ackSequence]
  · simp [buildACK, hi, show 0 < j by omega]

lemma encode_fewer {i j : Nat} (hij : i ≤ j) (hj : j < 2 ^ 64) {payload : Octets}
    (h : encodeReadRangeACK (buildACK r sel j) = .ok payload) :
    ∃ payload', encodeReadRangeACK (buildACK r sel i) = .ok payload' ∧ payload'.length ≤ payload.length := by
  rw [encodeReadRangeACK_eq rfl] at h
  obtain ⟨head, hhead, h⟩ := Except.bind_eq_ok_iff.mp h
  obtain ⟨body, hbody, h⟩ := Except.bind_eq_ok_iff.mp h
  obtain ⟨items, hitems, h⟩ := Except.bind_eq_ok_iff.mp h
  obtain ⟨pre, rest, hpre, rfl⟩ := body_take hij hbody
  rw [appendTags_concat] at hitems
  obtain ⟨first, hfirst, hitems⟩ := Except.bind_eq_ok_iff.mp hitems
  rw [appendTags_append] at hitems
  obtain ⟨others, -, rfl⟩ := Except.map_eq_ok_iff.mp hitems
  cases h
  have hhead' : encodeReadRangeHead (buildACK r sel i).object (buildACK r sel i).property = .ok head := hhead
  rw [encodeReadRangeACK_eq rfl, hhead', hpre]
  simp only [Bind.bind, Except.bind, hfirst, Pure.pure, Except.pure]
  refine ⟨_, rfl, ?_⟩
  have hcount : (contextPrimitive 4 (encodeUnsigned (UInt64.ofNat (buildACK r sel i).itemCount))).length ≤
      (contextPrimitive 4 (encodeUnsigned (UInt64.ofNat (buildACK r sel j).itemCount))).length := by
    refine length_contextPrimitive_mono 4 (length_encodeUnsigned_mono ?_) ?_
    · rw [UInt64.le_iff_toNat_le]
      simp only [buildACK, UInt64.toNat_ofNat']
      rw [Nat.mod_eq_of_lt (by omega), Nat.mod_eq_of_lt hj]
      exact hij
    · exact lt_of_le_of_lt (length_encodeUnsigned _).2 (by decide)
  have hseq := @length_ackSequence_mono r sel _ _ hij
  have hflags : ∀ k, (contextPrimitive 3 ((buildACK r sel k).resultFlags.unusedBits ::
      (buildACK r sel k).resultFlags.bytes)).length = (contextPrimitive 3 [0, 0]).length := by
    intro k
    simp [contextPrimitive, buildACK, encodeResultFlags]
  simp only [List.length_append, hflags]
  omega

lemma exceeds_mono {i j : Nat} (hij : i ≤ j) (hj : j < 2 ^ 64) (h : exceeds budget (buildACK r sel i) = true) :
    exceeds budget (buildACK r sel j) = true := by
  unfold exceeds at h ⊢
  cases hlong : encodeReadRangeACK (buildACK r sel j) with
  | error e => rfl
  | ok payload =>
    obtain ⟨payload', hshort, hlen⟩ := encode_fewer hij hj hlong
    simp only [hshort, decide_eq_true_eq] at h ⊢
    omega

/-- The answer has the first `k` of the selected items: all of them if they fit the budget, and otherwise as many as
the search finds. -/
lemma rangeReply_answer {ack : ReadRangeACK} {payload : Octets} (h : rangeReply budget r sel = .ok (ack, payload)) :
    ∃ k, ack = buildACK r sel k ∧ (∃ all, encodeReadRangeACK (buildACK r sel sel.size) = .ok all) ∧
      if exceeds budget (buildACK r sel sel.size) then
        k = Search.search (sel.size + 1) (fun k => exceeds budget (buildACK r sel k)) - 1
      else k = sel.size := by
  unfold rangeReply at h
  cases hall : encodeReadRangeACK (buildACK r sel sel.size) with
  | error e => simp [hall, Except.mapError] at h
  | ok all =>
    simp only [hall, Except.mapError, Bind.bind, Except.bind] at h
    have hexceeds : exceeds budget (buildACK r sel sel.size) = decide ((all.length : Int) > budget) := by
      simp [exceeds, hall]
    by_cases hlong : (all.length : Int) > budget
    · rw [if_pos hlong] at h
      refine ⟨_, ?_, ⟨all, rfl⟩, by rw [hexceeds, if_pos (decide_eq_true hlong)]⟩
      split at h
      · cases h
      · exact (congrArg Prod.fst (Except.ok.inj h)).symm
    · rw [if_neg hlong] at h
      exact ⟨_, (congrArg Prod.fst (Except.ok.inj h)).symm, ⟨all, rfl⟩, by
        rw [hexceeds, if_neg (by simpa using hlong)]⟩

/-! ### Selections whose items all encode -/

/-- Every item has an encoding. -/
structure RangeResult.Encodes (sel : RangeResult) : Prop where
  records : ∀ record ∈ sel.records, ∃ els, encodeLogRecord record = .ok els
  items : ∀ v ∈ sel.items, ∃ bytes, appendApplicationValue [] v = .ok bytes

/-- The items stand one after the other from `position` on in a list of `total` items. -/
structure RangeResult.Placed (sel : RangeResult) : Prop where
  total_lt : sel.total < 2 ^ 32
  position : 0 < sel.size → 1 ≤ sel.position
  le_total : 0 < sel.size → sel.position + sel.size ≤ sel.total + 1

lemma RangeResult.Placed.size_lt (h : sel.Placed) : sel.size < 2 ^ 32 := by
  have htotal := h.total_lt
  have hposition := h.position
  have hle := h.le_total
  omega

lemma encodeLogRecord_read {record : LogRecord} {els : List Element} (h : encodeLogRecord record = .ok els) :
    ∃ raw n, parseSequence raw defaultDecodeLimits (-1) = .ok (els, n) := by
  have hread : ∀ raw : Octets, (do
      let read ← parseSequence raw defaultDecodeLimits (-1)
      if read.2 ≠ raw.length then throw (trailingData "LogRecord encode trailing")
      return read.1) = .ok els → ∃ n, parseSequence raw defaultDecodeLimits (-1) = .ok (els, n) := by
    intro raw h
    obtain ⟨⟨read, n⟩, hparse, h⟩ := Except.bind_eq_ok_iff.mp h
    simp only at h
    split_ifs at h
    · exact nomatch h
    · exact ⟨n, hparse.trans (by rw [Except.ok.inj h])⟩
  unfold encodeLogRecord at h
  obtain ⟨ts, -, h⟩ := Except.bind_eq_ok_iff.mp h
  obtain ⟨body, -, h⟩ := Except.bind_eq_ok_iff.mp h
  obtain ⟨datum, -, h⟩ := Except.bind_eq_ok_iff.mp h
  cases hflags : record.statusFlags with
  | none =>
    rw [hflags] at h
    exact ⟨_, hread _ h⟩
  | some flags =>
    rw [hflags] at h
    obtain ⟨raw, -, h⟩ := Except.bind_eq_ok_iff.mp h
    exact ⟨raw, hread raw h⟩

lemma encodeLogRecord_encodes {record : LogRecord} {els : List Element} (h : encodeLogRecord record = .ok els) :
    ∀ el ∈ els, ∃ enc, appendTag [] el = .ok enc := by
  obtain ⟨raw, n, hparse⟩ := encodeLogRecord_read h
  obtain ⟨left, hreturned⟩ := parseSequence_returned hparse
  exact fun el hel => appendTag_ok wireLimits_encodable (hreturned.fits el hel).2

lemma encodeLogRecords_encodes {records : List LogRecord}
    (h : ∀ record ∈ records, ∃ els, encodeLogRecord record = .ok els) :
    ∃ body, encodeLogRecords records = .ok body ∧ ∀ el ∈ body, ∃ enc, appendTag [] el = .ok enc := by
  induction records with
  | nil => exact ⟨[], rfl, by simp⟩
  | cons record records ih =>
    obtain ⟨els, hels⟩ := h record List.mem_cons_self
    obtain ⟨body, hbody, hencodes⟩ := ih fun r hr => h r (List.mem_cons_of_mem _ hr)
    refine ⟨els ++ body, ?_, ?_⟩
    · rw [encodeLogRecords_cons, hels, hbody]
      rfl
    · exact List.forall_mem_append.mpr ⟨encodeLogRecord_encodes hels, hencodes⟩

lemma body_encodes (h : sel.Encodes) (k : Nat) :
    ∃ body, (buildACK r sel k).body = .ok body ∧ ∀ el ∈ body, ∃ enc, appendTag [] el = .ok enc := by
  by_cases hrecords : sel.records = []
  · refine ⟨(sel.items.take k).map (Element.app 0), by simp [ReadRangeACK.body, buildACK, hrecords, Function.comp_def, ItemValue.element], ?_⟩
    intro el hel
    obtain ⟨v, hv, rfl⟩ := List.mem_map.mp hel
    obtain ⟨bytes, hbytes⟩ := h.items v (List.mem_of_mem_take hv)
    exact ⟨bytes, by simpa [appendTag] using hbytes⟩
  · rw [ReadRangeACK.body_of_records (by simp [buildACK, hrecords])]
    exact encodeLogRecords_encodes fun record hmem => h.records record (List.mem_of_mem_take hmem)

lemma encodeReadRangeHead_ok {object : ObjectIdentifier} (hobject : object.Valid) (property : PropertyReference) :
    ∃ head, encodeReadRangeHead object property = .ok head := by
  have htag0 : (0 : UInt8) ≠ tagNumberReserved := by decide
  have htag1 : (1 : UInt8) ≠ tagNumberReserved := by decide
  have htag2 : (2 : UInt8) ≠ tagNumberReserved := by decide
  have hid := encodeObjectIdentifier_eq_ok_iff.mpr ⟨hobject, rfl⟩
  have hlen : (BigEndian.octets 4 ((object.type.toUInt32 <<< 22) ||| object.instanceNumber).toNat).length ≤ maxUint32 := by
    simp [maxUint32]
  unfold encodeReadRangeHead appendContextObjectID
  simp only [hid, Bind.bind, Except.bind, appendContextPrimitive_eq _ htag0 hlen, appendContextUnsigned_eq _ htag1]
  cases property.arrayIndex with
  | none => exact ⟨_, rfl⟩
  | some idx => exact ⟨_, appendContextUnsigned_eq _ htag2 _⟩

lemma buildACK_encodes (hobject : r.object.Valid) (h : sel.Encodes) (k : Nat) :
    ∃ payload, encodeReadRangeACK (buildACK r sel k) = .ok payload := by
  obtain ⟨head, hhead⟩ := encodeReadRangeHead_ok hobject r.property
  obtain ⟨body, hbody, hencodes⟩ := @body_encodes r sel h k
  obtain ⟨items, hitems⟩ := appendTags_ok_of hencodes
  have hhead' : encodeReadRangeHead (buildACK r sel k).object (buildACK r sel k).property = .ok head := hhead
  rw [encodeReadRangeACK_eq rfl, hhead', hbody]
  simp only [Bind.bind, Except.bind, hitems]
  exact ⟨_, rfl⟩

structure Carries (sel : RangeResult) (k : Nat) (ack : ReadRangeACK) : Prop where
  itemCount : ack.itemCount = k
  logRecords : ack.logRecords = sel.records.take k
  itemData : ack.itemData = (sel.items.take k).map .value
  firstItem : ack.firstItem = true ↔ ∃ i < k, sel.position + i = 1
  lastItem : ack.lastItem = true ↔ ∃ i < k, sel.position + i = sel.total
  moreItems : ack.moreItems = true ↔ k < sel.size

lemma buildACK_carries (hone : sel.records = [] ∨ sel.items = []) (hplaced : sel.Placed) {k : Nat} (hk : k ≤ sel.size) :
    Carries sel k (buildACK r sel k) := by
  have htotal := hplaced.total_lt
  have hposition := hplaced.position
  have hle := hplaced.le_total
  refine ⟨rfl, rfl, ?_, ?_, ?_, by simp [ReadRangeACK.moreItems, buildACK]⟩
  · by_cases hrecords : sel.records = []
    · simp [buildACK, hrecords]
    · simp [buildACK, hrecords, hone.resolve_left hrecords]
  · simp only [ReadRangeACK.firstItem, buildACK, bit_encodeResultFlags_first, Bool.and_eq_true, decide_eq_true_eq]
    constructor
    · rintro ⟨hpos, hfirst⟩
      exact ⟨0, hpos, hfirst⟩
    · rintro ⟨i, hi, hfirst⟩
      omega
  · simp only [ReadRangeACK.lastItem, buildACK, bit_encodeResultFlags_last, Bool.and_eq_true, decide_eq_true_eq]
    constructor
    · rintro ⟨hpos, hlast⟩
      exact ⟨k - 1, by omega, by omega⟩
    · rintro ⟨i, hi, hlast⟩
      refine ⟨by omega, ?_⟩
      rw [Nat.mod_eq_of_lt (by omega)]
      omega

/-- The answer carries the longest run of the first selected items that fits the budget, none if even that does not
fit, and its flags say whether it has the first and the last item of the list and whether items were left out. -/
theorem rangeReply_longest (budget : Int) (r : ReadRangeRequest) (hobject : r.object.Valid) (sel : RangeResult)
    (hone : sel.records = [] ∨ sel.items = []) (hplaced : sel.Placed) (hencodes : sel.Encodes) :
    (∀ i j, i ≤ j → j ≤ sel.size →
      exceeds budget (buildACK r sel i) = true → exceeds budget (buildACK r sel j) = true) ∧
      ∃ k payload, k ≤ sel.size ∧ rangeReply budget r sel = .ok (buildACK r sel k, payload) ∧
        encodeReadRangeACK (buildACK r sel k) = .ok payload ∧
        ((payload.length : Int) ≤ budget ∨ k = 0) ∧
        (∀ j, k < j → j ≤ sel.size → ∃ longer, encodeReadRangeACK (buildACK r sel j) = .ok longer ∧
          budget < longer.length) ∧
        Carries sel k (buildACK r sel k) := by
  have hsize := hplaced.size_lt
  have hmono : ∀ i j, i ≤ j → j < sel.size + 1 →
      exceeds budget (buildACK r sel i) = true → exceeds budget (buildACK r sel j) = true :=
    fun i j hij hj => exceeds_mono hij (by omega)
  have hok := buildACK_encodes hobject hencodes
  refine ⟨fun i j hij hj => hmono i j hij (by omega), ?_⟩
  obtain ⟨all, hall⟩ := hok sel.size
  by_cases hlong : (all.length : Int) > budget
  · have hb := Search.search_boundary (sel.size + 1) fun k => exceeds budget (buildACK r sel k)
    generalize hk : Search.search (sel.size + 1) (fun k => exceeds budget (buildACK r sel k)) = b at hb
    have hall' : exceeds budget (buildACK r sel sel.size) = true := by simp [exceeds, hall, hlong]
    have hle : b ≤ sel.size := by
      by_contra hgt
      have hfalse := (hb.false_iff hmono (Nat.lt_succ_self sel.size)).mpr (by omega)
      simp [hall'] at hfalse
    obtain ⟨payload, hpayload⟩ := hok (b - 1)
    refine ⟨b - 1, payload, by omega, ?_, hpayload, ?_, fun j hj hjn => ?_, buildACK_carries hone hplaced (by omega)⟩
    · unfold rangeReply
      simp only [hall, Except.mapError, Bind.bind, Except.bind, hlong, if_true, hk, hpayload]
      rfl
    · rcases Nat.eq_zero_or_pos b with rfl | hpos
      · exact .inr rfl
      · have hfits := (hb.false_iff hmono (show b - 1 < sel.size + 1 by omega)).mpr (by omega)
        simp only [exceeds, hpayload, decide_eq_false_iff_not, not_lt] at hfits
        exact .inl hfits
    · obtain ⟨longer, hlonger⟩ := hok j
      refine ⟨longer, hlonger, ?_⟩
      have htrue : exceeds budget (buildACK r sel j) = true := by
        by_contra hfalse
        have := (hb.false_iff hmono (show j < sel.size + 1 by omega)).mp (by simpa using hfalse)
        omega
      simpa [exceeds, hlonger] using htrue
  · refine ⟨sel.size, all, le_refl _, ?_, hall, .inl (not_lt.mp hlong), fun j hj hjn => absurd hjn (by omega),
      buildACK_carries hone hplaced (le_refl _)⟩
    unfold rangeReply
    simp only [hall, Except.mapError, Bind.bind, Except.bind, hlong, if_false]
    rfl

def lastThree : RangeResult where
  position := 2
  total := 4
  sequenced := false
  items := [.unsigned 7, .unsigned 8, .unsigned 9]

def lastThreeRequest : ReadRangeRequest where
  object := { type := 15, instanceNumber := 1 }
  property := { identifier := 102 }
  rangeBy := .position
  referenceIndex := 2
  count := 3

/-- In 18 octets there is room for two of the three. -/
theorem rangeReply_longest_lastThree :
    (∃ k payload, k ≤ 3 ∧ rangeReply 18 lastThreeRequest lastThree = .ok (buildACK lastThreeRequest lastThree k, payload) ∧
        Carries lastThree k (buildACK lastThreeRequest lastThree k)) ∧
      (rangeReply 18 lastThreeRequest lastThree).toOption.map (fun a => (a.1.itemCount, a.1.moreItems, a.2.length)) =
        some (2, true, 18) := by
  refine ⟨?_, by decide +kernel⟩
  have hitems : ∀ v ∈ lastThree.items, ∃ bytes, appendApplicationValue [] v = .ok bytes := by
    simp only [lastThree, List.forall_mem_cons]
    exact ⟨⟨_, rfl⟩, ⟨_, rfl⟩, ⟨_, rfl⟩, by simp⟩
  obtain ⟨-, k, payload, hk, hreply, -, -, -, hcarries⟩ := rangeReply_longest 18 lastThreeRequest
    ⟨by decide, by decide⟩ lastThree (.inl rfl) ⟨by decide, by decide, by decide⟩ ⟨by simp [lastThree], hitems⟩
  exact ⟨k, payload, hk, hreply, hcarries⟩

end Server

end GoBacnet
