import GoBacnet.Client.ReadPropertyBatched
import GoBacnet.Proofs.RangeReply

/-!
# The object list, entry by entry

Every attempt counts against a limit of one attempt for each entry. Batches of two entries or more leave room for the
halvings before them; once a batch of one entry follows a halving, the limit is too low.
-/

namespace GoBacnet.Client

open Service Proofs

/-! ## The size of a batch -/

/-- The size `e` of a batch out of `m` units: `p j` says whether a request for `j` of them fits. -/
structure IsBatch (p : Nat → Bool) (batchSize m e : Nat) : Prop where
  pos : 1 ≤ e
  le : e ≤ m
  taken : ∀ j, 1 < j → j ≤ e → p j = true ∧ j ≤ batchSize
  stopped : e < m → batchSize ≤ e ∨ p (e + 1) = false

lemma growBatch_isBatch {fits : List PropertyUnit → Except Err Bool} {us : List PropertyUnit} {p : Nat → Bool}
    (hfits : ∀ k, 1 ≤ k → k < us.length → fits (us.take (k + 1)) = .ok (p (k + 1))) (batchSize : Nat) {left count : Nat}
    (hlen : count + left = us.length) (hpos : 1 ≤ count) (htaken : ∀ j, 1 < j → j ≤ count → p j = true ∧ j ≤ batchSize) :
    ∃ e, growBatch fits batchSize us left count = .ok e ∧ IsBatch p batchSize us.length e := by
  induction left generalizing count with
  | zero => exact ⟨count, rfl, hpos, by omega, htaken, by omega⟩
  | succ left ih =>
    unfold growBatch
    by_cases hsize : count < batchSize
    · rw [if_pos hsize, hfits count hpos (by omega)]
      cases hp : p (count + 1) with
      | false => exact ⟨count, rfl, hpos, by omega, htaken, fun _ => .inr hp⟩
      | true =>
        refine ih (by omega) (by omega) fun j hj hle => ?_
        rcases Nat.lt_or_ge count j with hlt | hge
        · obtain rfl : j = count + 1 := by omega
          exact ⟨hp, hsize⟩
        · exact htaken j hj hge
    · rw [if_neg hsize]
      exact ⟨count, rfl, hpos, by omega, htaken, fun _ => .inl (by omega)⟩

namespace IsBatch

variable {p p' : Nat → Bool} {batchSize m m' e e' : Nat}

lemma le_of_fits (h : IsBatch p batchSize m e) (h' : IsBatch p' batchSize m' e') (hm : m' ≤ m)
    (hfits : ∀ j, 1 < j → j ≤ m' → p' j = true → p j = true) : e' ≤ e := by
  by_contra hlt
  have hpos := h.pos
  have hle := h'.le
  obtain ⟨hnext, -⟩ := h'.taken (e + 1) (by omega) (by omega)
  obtain ⟨-, hsize⟩ := h'.taken e' (by omega) (Nat.le_refl _)
  rcases h.stopped (by omega) with hstop | hstop
  · omega
  · simp [hfits (e + 1) (by omega) (by omega) hnext] at hstop

lemma unique (h : IsBatch p batchSize m e) (h' : IsBatch p batchSize m e') : e' = e :=
  Nat.le_antisymm (h.le_of_fits h' (Nat.le_refl _) fun _ _ _ hj => hj)
    (h'.le_of_fits h (Nat.le_refl _) fun _ _ _ hj => hj)

lemma smaller (h : IsBatch p batchSize m e) (hpos : 1 ≤ e') (hle : e' ≤ e) : IsBatch p e' m e' where
  pos := hpos
  le := hle.trans h.le
  taken j hj hje := ⟨(h.taken j hj (hje.trans hle)).1, hje⟩
  stopped _ := .inl (Nat.le_refl _)

lemma two_le (h : IsBatch p batchSize m e) (hsize : 2 ≤ batchSize) (hm : 2 ≤ m) (hp : p 2 = true) : 2 ≤ e := by
  by_contra hlt
  have hpos := h.pos
  obtain rfl : e = 1 := by omega
  rcases h.stopped (by omega) with hstop | hstop
  · omega
  · simp [hp] at hstop

lemma eq_one (h : IsBatch p 1 m e) : e = 1 := by
  by_contra hne
  have hpos := h.pos
  have hle := (h.taken e (by omega) (Nat.le_refl _)).2
  omega

end IsBatch

/-! ## Requests for entries -/

def entryRefs (i m : Nat) : List PropertyReference := (List.range' i m).map fun k => indexed (k + 1)

def entryUnits (i m : Nat) : List PropertyUnit := (entryRefs i m).map (PropertyUnit.mk 0)

def entryLength (k : Nat) : Nat := 3 + (encodeUnsigned (UInt32.ofNat (k + 1)).toUInt64).length

def entriesLength (i m : Nat) : Nat := ((List.range' i m).map entryLength).sum

@[simp] lemma length_entryUnits (i m : Nat) : (entryUnits i m).length = m := by simp [entryUnits, entryRefs]

@[simp] lemma length_entryRefs (i m : Nat) : (entryRefs i m).length = m := by simp [entryRefs]

lemma isEmpty_entryRefs {i m : Nat} (h : 1 ≤ m) : (entryRefs i m).isEmpty = false := by
  rw [List.isEmpty_eq_false_iff_exists_mem]
  exact ⟨indexed (i + 1), by simp [entryRefs]; exact ⟨i, by omega, rfl⟩⟩

lemma entryRefs_append (i k l : Nat) : entryRefs i (k + l) = entryRefs i k ++ entryRefs (i + k) l := by
  rw [entryRefs, ← List.range'_append_1, List.map_append]
  rfl

lemma take_entryUnits {i m k : Nat} (h : k ≤ m) : (entryUnits i m).take k = entryUnits i k := by
  obtain ⟨l, rfl⟩ := Nat.exists_eq_add_of_le h
  rw [entryUnits, entryRefs_append, List.map_append]
  exact List.take_left' (length_entryUnits i k)

lemma drop_entryUnits {i m k : Nat} (h : k ≤ m) : (entryUnits i m).drop k = entryUnits (i + k) (m - k) := by
  obtain ⟨l, rfl⟩ := Nat.exists_eq_add_of_le h
  rw [entryUnits, entryRefs_append, List.map_append, Nat.add_sub_cancel_left]
  exact List.drop_left' (length_entryUnits i k)

lemma entryRefs_succ (i m : Nat) : entryRefs i (m + 1) = entryRefs i m ++ [indexed (i + m + 1)] := by
  rw [entryRefs_append]
  rfl

lemma group_entryUnits (object : Nat → ObjectIdentifier) (i m : Nat) :
    group object (entryUnits i (m + 1)) = [(0, ⟨object 0, entryRefs i (m + 1)⟩)] := by
  induction m with
  | zero => simp [group, entryUnits, entryRefs, addUnit]
  | succ m ih =>
    rw [entryRefs_succ, entryUnits, entryRefs_succ, List.map_append, group, List.foldl_append]
    have hgroup := ih
    rw [group, entryUnits] at hgroup
    rw [hgroup]
    simp [addUnit]

lemma toNat_index {k : Nat} (h : k < maxUint32) : (UInt32.ofNat (k + 1)).toUInt64.toNat = k + 1 := by
  rw [UInt32.toNat_toUInt64, UInt32.toNat_ofNat_of_lt' (by simp only [maxUint32, UInt32.size] at *; omega)]

lemma entryLength_mono {k k' : Nat} (h : k ≤ k') (hk : k' < maxUint32) : entryLength k ≤ entryLength k' := by
  refine Nat.add_le_add_left (length_encodeUnsigned_mono ?_) 3
  rw [UInt64.le_iff_toNat_le, toNat_index (by omega), toNat_index hk]
  omega

lemma length_index (k : Nat) : (encodeUnsigned (UInt32.ofNat (k + 1)).toUInt64).length ≤ 4 := by
  have hle : (UInt32.ofNat (k + 1)).toUInt64 ≤ 0xFFFFFFFF := by
    have := (UInt32.ofNat (k + 1)).toNat_lt
    simp only [UInt64.le_iff_toNat_le, UInt32.toNat_toUInt64]
    exact Nat.le_of_lt_succ this
  exact (length_encodeUnsigned_mono hle).trans (by decide)

lemma entriesLength_le {i m : Nat} (h : i + m ≤ maxUint32) : entriesLength 0 m ≤ entriesLength i m := by
  rw [entriesLength, entriesLength, List.range'_eq_map_range, List.range'_eq_map_range, List.map_map, List.map_map]
  refine List.sum_le_sum fun k hk => ?_
  have hlt := List.mem_range.mp hk
  simp only [Function.comp_apply]
  exact entryLength_mono (by omega) (by omega)

lemma entriesLength_two (i : Nat) : entriesLength i 2 ≤ 14 := by
  have h := length_index i
  have h' := length_index (i + 1)
  simp only [entriesLength, List.range', List.map_cons, List.map_nil, List.sum_cons, List.sum_nil, entryLength]
  omega

lemma length_contextPrimitive {tag : UInt8} (htag : tag < 15) {value : Octets} (h : value.length < 5) :
    (contextPrimitive tag value).length = 1 + value.length := by
  simp [contextPrimitive, extendedTag, htag, extendedLength, h]
  omega

lemma appendPropertyReference_entry (dst : Octets) (k : Nat) :
    ∃ bytes, appendPropertyReference 0 1 dst (indexed (k + 1)) = .ok bytes ∧
      bytes.length = dst.length + entryLength k := by
  have hindex := length_index k
  have hid : (encodeUnsigned propertyObjectList.toUInt64).length = 1 := by decide
  have happend : appendPropertyReference 0 1 dst (indexed (k + 1)) = .ok (dst ++
      contextPrimitive 0 (encodeUnsigned propertyObjectList.toUInt64) ++
      contextPrimitive 1 (encodeUnsigned (UInt32.ofNat (k + 1)).toUInt64)) := by
    rw [appendPropertyReference, indexed, appendContextUnsigned_eq dst (by decide)]
    exact @appendContextUnsigned_eq _ 1 (by decide) _
  refine ⟨_, happend, ?_⟩
  rw [List.length_append, List.length_append, length_contextPrimitive (by decide) (by omega),
    length_contextPrimitive (by decide) (by omega), hid, entryLength]
  omega

lemma foldlM_entries (dst : Octets) (i m : Nat) :
    ∃ bytes, (entryRefs i m).foldlM (appendPropertyReference 0 1) dst = .ok bytes ∧
      bytes.length = dst.length + entriesLength i m := by
  induction m generalizing i dst with
  | zero => exact ⟨dst, rfl, rfl⟩
  | succ m ih =>
    obtain ⟨first, hfirst, hlen⟩ := appendPropertyReference_entry dst i
    obtain ⟨bytes, hbytes, hlen'⟩ := ih first (i + 1)
    refine ⟨bytes, ?_, ?_⟩
    · rw [entryRefs, List.range'_succ, List.map_cons, List.foldlM_cons, hfirst]
      exact hbytes
    · simp only [entriesLength, List.range'_succ, List.map_cons, List.sum_cons] at hlen' ⊢
      omega

lemma encode_entries {object : ObjectIdentifier} (hobject : object.Valid) (i m : Nat) :
    ∃ bytes, encodeReadPropertyMultiple [⟨object, entryRefs i m⟩] = .ok bytes ∧
      bytes.length = 7 + entriesLength i m := by
  obtain ⟨enc, henc⟩ : ∃ enc, encodeObjectIdentifier object = .ok enc :=
    ⟨_, encodeObjectIdentifier_eq_ok_iff.mpr ⟨hobject, rfl⟩⟩
  have hid : appendContextObjectID [] 0 object = .ok (contextPrimitive 0 (BigEndian.octets 4 enc.toNat)) := by
    rw [appendContextObjectID, henc]
    exact @appendContextPrimitive_eq [] 0 (by decide) (BigEndian.octets 4 enc.toNat) (by simp [maxUint32])
  obtain ⟨bytes, hbytes, hlen⟩ := foldlM_entries (contextPrimitive 0 (BigEndian.octets 4 enc.toNat) ++ [0x1E]) i m
  refine ⟨bytes ++ [0x1F], ?_, ?_⟩
  · simp [encodeReadPropertyMultiple, appendAccess, hid, hbytes]
  · rw [List.length_append, hlen, List.length_append, length_contextPrimitive (by decide) (by simp)]
    simp
    omega

def entriesFit (budget : Int) (i j : Nat) : Bool := decide (11 + (entriesLength i j : Int) ≤ budget)

lemma fits_entryUnits {object : Nat → ObjectIdentifier} (hobject : (object 0).Valid) (budget : Int) (i m : Nat) :
    fits object budget (entryUnits i (m + 1)) = .ok (entriesFit budget i (m + 1)) := by
  obtain ⟨bytes, hbytes, hlen⟩ := encode_entries hobject i (m + 1)
  simp only [fits, group_entryUnits, List.map_cons, List.map_nil, hbytes, entriesFit]
  simp
  omega

/-! ## Reading the entries -/

def entryValues (ids : List ObjectIdentifier) : List (Except RequestError ApplicationValue) :=
  ids.map fun id => .ok (.objectID id)

/-- A device that answers requests for at most `atMost` entries of its object list and refuses larger ones. -/
structure ListDevice (readProperty : PropertyReference → Except RequestError ApplicationValue) (exchange : RPMExchange)
    (object : ObjectIdentifier) (ids : List ObjectIdentifier) (atMost : Nat) : Prop where
  valid : object.Valid
  length : ∃ count, readProperty (indexed 0) = .ok (.unsigned count) ∧ count.toNat = ids.length
  one : 1 ≤ atMost
  answers : ∀ before i m, i + m ≤ ids.length → m ≤ atMost →
    ∃ got rs, exchange before [⟨object, entryRefs i m⟩] = .ok [⟨got, rs⟩] ∧ object.matches got ∧
      rs.map PropertyResult.value = entryValues ((ids.drop i).take m)
  refuses : ∀ before i m, atMost < m →
    ∃ reason, exchange before [⟨object, entryRefs i m⟩] = .error (.abort reason) ∧ responseTooLarge reason

/-- The read ended well, and its results are the entries `ids`. -/
def BatchedRead.ReadAll (r : BatchedRead) (ids : List ObjectIdentifier) : Prop :=
  r.err = none ∧ ∃ o rs, r.out = [⟨o, rs⟩] ∧ rs.map PropertyResult.value = entryValues ids

/-- Later entries have longer numbers, so that later batches are no larger than the first. -/
lemma later_batch_le {budget : Int} {batchSize n e : Nat} (hn : n ≤ maxUint32)
    (h : IsBatch (entriesFit budget 0) batchSize n e) {i m e' : Nat} (him : i + m = n)
    (h' : IsBatch (entriesFit budget i) batchSize m e') : e' ≤ e := by
  refine h.le_of_fits h' (by omega) fun j _ hj hfit => ?_
  have hle := @entriesLength_le i j (by omega)
  simp only [entriesFit, decide_eq_true_eq] at hfit ⊢
  omega

section

variable {readProperty : PropertyReference → Except RequestError ApplicationValue} {exchange : RPMExchange}
  {object : Nat → ObjectIdentifier} {ids : List ObjectIdentifier} {atMost : Nat}
  (hdev : ListDevice readProperty exchange (object 0) ids atMost) (budget maxBatches : Int)

include hdev

/-- One attempt: the batch it makes, and what follows if the device answers it or refuses it. -/
lemma readBatches_attempt (left batchSize : Nat) {i m : Nat} (hm : i + (m + 1) ≤ ids.length)
    (sent : List (List ReadAccessSpecification)) : ∃ e, IsBatch (entriesFit budget i) batchSize (m + 1) e ∧
    (e ≤ atMost → ∀ o rs, ∃ got rs' sent', rs'.map PropertyResult.value = entryValues ((ids.drop i).take e) ∧
      readBatches exchange object budget maxBatches (left + 1) batchSize (entryUnits i (m + 1)) [⟨o, rs⟩] sent =
        readBatches exchange object budget maxBatches left batchSize (entryUnits (i + e) (m + 1 - e))
          [⟨got, rs ++ rs'⟩] sent') ∧
    (atMost < e → ∀ out, ∃ sent',
      readBatches exchange object budget maxBatches (left + 1) batchSize (entryUnits i (m + 1)) out sent =
        readBatches exchange object budget maxBatches left (e / 2) (entryUnits i (m + 1)) out sent') := by
  have hfits : ∀ k, 1 ≤ k → k < (entryUnits i (m + 1)).length →
      fits object budget ((entryUnits i (m + 1)).take (k + 1)) = .ok (entriesFit budget i (k + 1)) := fun k _ hk => by
    rw [length_entryUnits] at hk
    rw [take_entryUnits (by omega), fits_entryUnits hdev.valid]
  obtain ⟨e, hgrow, hbatch⟩ := growBatch_isBatch hfits batchSize (show 1 + m = _ by simp; omega) (Nat.le_refl 1)
    fun j hj hle => by omega
  rw [length_entryUnits] at hbatch
  have hpos := hbatch.pos
  obtain ⟨k, rfl⟩ : ∃ k, e = k + 1 := ⟨e - 1, by omega⟩
  obtain ⟨bytes, hencode, -⟩ := encode_entries hdev.valid i (k + 1)
  have hcons : entryUnits i (m + 1) = ⟨0, indexed (i + 1)⟩ :: entryUnits (i + 1) m := by
    simp [entryUnits, entryRefs, List.range'_succ]
  have htake : (entryUnits i (m + 1)).take (k + 1) = entryUnits i (k + 1) := take_entryUnits hbatch.le
  have hdrop : (entryUnits i (m + 1)).drop (k + 1) = entryUnits (i + (k + 1)) (m + 1 - (k + 1)) :=
    drop_entryUnits hbatch.le
  rw [hcons] at hgrow htake hdrop
  refine ⟨k + 1, hbatch, fun hle o rs => ?_, fun hlt out => ?_⟩
  · obtain ⟨got, rs', hanswer, hmatch, hvalues⟩ := hdev.answers sent.length i (k + 1)
      (by have := hbatch.le; omega) hle
    refine ⟨got, rs', sent ++ [[⟨object 0, entryRefs i (k + 1)⟩]], hvalues, ?_⟩
    rw [hcons, readBatches, length_entryUnits]
    simp only [hgrow, htake, hdrop, group_entryUnits, List.map_cons, List.map_nil, readPropertyMultiple, hencode, hanswer]
    simp [joinResults, hmatch]
  · obtain ⟨reason, hrefused, hreason⟩ := hdev.refuses sent.length i (k + 1) hlt
    have hone := hdev.one
    refine ⟨sent ++ [[⟨object 0, entryRefs i (k + 1)⟩]], ?_⟩
    rw [hcons, readBatches, length_entryUnits]
    simp only [hgrow, htake, group_entryUnits, List.map_cons, List.map_nil, readPropertyMultiple, hencode, hrefused]
    rw [if_pos (by simp [RequestError.asAbort, hreason]; omega), Nat.max_eq_right (by omega)]

/-- Batches of two entries or more, none of them refused, need half as many attempts as there are entries. -/
lemma readBatches_unrefused {batchSize : Nat} (hsize : 2 ≤ batchSize) (hbudget : 50 ≤ budget) {left i m : Nat}
    (hm : i + m ≤ ids.length)
    (hnone : ∀ i' m' e, i' + m' = i + m → IsBatch (entriesFit budget i') batchSize m' e → e ≤ atMost)
    (hleft : (m + 1) / 2 ≤ left) {o : ObjectIdentifier} {rs : List PropertyResult}
    (hrs : rs.map PropertyResult.value = entryValues (ids.take i)) (sent : List (List ReadAccessSpecification)) :
    (readBatches exchange object budget maxBatches left batchSize (entryUnits i m) [⟨o, rs⟩] sent).ReadAll
      (ids.take (i + m)) := by
  induction left generalizing i m o rs sent with
  | zero =>
    obtain rfl : m = 0 := by omega
    exact ⟨rfl, o, rs, rfl, hrs⟩
  | succ left ih =>
    cases m with
    | zero => exact ⟨rfl, o, rs, rfl, hrs⟩
    | succ m =>
      obtain ⟨e, hbatch, hanswered, -⟩ := readBatches_attempt hdev budget maxBatches left batchSize hm sent
      obtain ⟨got, rs', sent', hvalues, hstep⟩ := hanswered (hnone i (m + 1) e rfl hbatch) o rs
      have hle := hbatch.le
      have hpos := hbatch.pos
      have htwo : 2 ≤ m + 1 → 2 ≤ e := fun h => hbatch.two_le hsize h (by
        have := entriesLength_two i
        simp only [entriesFit, decide_eq_true_eq]
        omega)
      have hmore : (rs ++ rs').map PropertyResult.value = entryValues (ids.take (i + e)) := by
        rw [List.map_append, hrs, hvalues, entryValues, entryValues, ← List.map_append, ← List.take_add]
        rfl
      have hend : i + e + (m + 1 - e) = i + (m + 1) := by omega
      rw [hstep, ← hend]
      exact ih (by omega) (fun i' m' e' hsum => hnone i' m' e' (hsum.trans hend)) (by omega) hmore sent'

section FirstBatch

variable {n : Nat} (hn : n ≤ ids.length) (hmax : n ≤ maxUint32) (sent : List (List ReadAccessSpecification))

include hn hmax

lemma readBatches_halved (hbudget : 50 ≤ budget) {batchSize e h left : Nat} (hsize : 2 ≤ batchSize)
    (hbatch : IsBatch (entriesFit budget 0) batchSize n e) (hhalf : e ≤ atMost ∨ 2 ≤ e / 2 ^ h ∧ e / 2 ^ h ≤ atMost)
    (hleft : h + (n + 1) / 2 ≤ left) (o : ObjectIdentifier) :
    (readBatches exchange object budget maxBatches left batchSize (entryUnits 0 n) [⟨o, []⟩] sent).ReadAll
      (ids.take n) := by
  induction h generalizing batchSize e left sent with
  | zero =>
    have hle : e ≤ atMost := hhalf.elim id fun h => by simpa using h.2
    have hrun := @readBatches_unrefused _ _ _ _ _ hdev budget maxBatches batchSize hsize hbudget left 0 n (by omega)
      (fun i' m' e' hsum hbatch' => (later_batch_le hmax hbatch (by omega) hbatch').trans hle) (by omega) o []
      (by simp [entryValues]) sent
    rwa [Nat.zero_add] at hrun
  | succ h ih =>
    rcases Nat.lt_or_ge atMost e with hlt | hle
    · obtain ⟨htwo, hsmall⟩ := hhalf.resolve_left (by omega)
      rw [pow_succ', ← Nat.div_div_eq_div_mul] at htwo hsmall
      have hhalf' : 2 ≤ e / 2 := htwo.trans (Nat.div_le_self _ _)
      obtain ⟨m, rfl⟩ : ∃ m, n = m + 1 := ⟨n - 1, by have := hbatch.pos; have := hbatch.le; omega⟩
      obtain ⟨l, rfl⟩ : ∃ l, left = l + 1 := ⟨left - 1, by omega⟩
      obtain ⟨e', hbatch', -, hrefused⟩ := readBatches_attempt hdev budget maxBatches l batchSize
        (show 0 + (m + 1) ≤ ids.length by omega) sent
      obtain rfl := hbatch.unique hbatch'
      obtain ⟨sent', hstep⟩ := hrefused hlt [⟨o, []⟩]
      rw [hstep]
      exact ih sent' hhalf' (hbatch.smaller (by omega) (Nat.div_le_self _ _)) (.inr ⟨htwo, hsmall⟩) (by omega)
    · exact ih sent hsize hbatch (.inl hle) (by omega)

omit hmax hn in
lemma readBatches_single {left i m : Nat} (hm : i + m ≤ ids.length) (hleft : left < m) (o : ObjectIdentifier)
    (rs : List PropertyResult) :
    (readBatches exchange object budget maxBatches left 1 (entryUnits i m) [⟨o, rs⟩] sent).err =
      some (.err (limitExceeded ("RPM batch limit " ++ toString maxBatches))) := by
  induction left generalizing i m o rs sent with
  | zero =>
    obtain ⟨m, rfl⟩ : ∃ k, m = k + 1 := ⟨m - 1, by omega⟩
    rfl
  | succ left ih =>
    obtain ⟨m, rfl⟩ : ∃ k, m = k + 1 := ⟨m - 1, by omega⟩
    obtain ⟨e, hbatch, hanswered, -⟩ := readBatches_attempt hdev budget maxBatches left 1 hm sent
    obtain rfl := hbatch.eq_one
    obtain ⟨got, rs', sent', -, hstep⟩ := hanswered hdev.one o rs
    rw [hstep]
    exact ih sent' (by omega) (by omega) got _

omit hmax in
lemma readBatches_exhausted {e : Nat} (he : 2 ≤ e) (hhalf : ∀ h, ¬(2 ≤ e / 2 ^ h ∧ e / 2 ^ h ≤ atMost))
    {batchSize left : Nat} (hbatch : IsBatch (entriesFit budget 0) batchSize n e) (hleft : left ≤ n)
    (o : ObjectIdentifier) :
    (readBatches exchange object budget maxBatches left batchSize (entryUnits 0 n) [⟨o, []⟩] sent).err =
      some (.err (limitExceeded ("RPM batch limit " ++ toString maxBatches))) := by
  induction e using Nat.strong_induction_on generalizing batchSize left sent with
  | _ e ih =>
    obtain ⟨m, rfl⟩ : ∃ m, n = m + 1 := ⟨n - 1, by have := hbatch.le; omega⟩
    cases left with
    | zero => rfl
    | succ left =>
      have hlt : atMost < e := by
        have := hhalf 0
        rw [pow_zero, Nat.div_one] at this
        omega
      obtain ⟨e', hbatch', -, hrefused⟩ := readBatches_attempt hdev budget maxBatches left batchSize
        (show 0 + (m + 1) ≤ ids.length by omega) sent
      obtain rfl := hbatch.unique hbatch'
      obtain ⟨sent', hstep⟩ := hrefused hlt [⟨o, []⟩]
      rw [hstep]
      rcases Nat.lt_or_ge (e' / 2) 2 with hone | htwo
      · obtain hhalved : e' / 2 = 1 := by omega
        rw [hhalved]
        exact readBatches_single hdev budget maxBatches sent' (by omega) (by omega) o []
      · refine ih (e' / 2) (by omega) sent' htwo (fun h => ?_) (hbatch.smaller (by omega) (Nat.div_le_self _ _))
          (by omega)
        have := hhalf (h + 1)
        rwa [pow_succ', ← Nat.div_div_eq_div_mul] at this

end FirstBatch

end

/-- The size of the first batch of a list of `n` entries. -/
def firstBatch (object : ObjectIdentifier) (remoteMaxAPDU : UInt16) (n : Nat) : Nat :=
  ((growBatch (fits (fun _ => object) (batchBudget remoteMaxAPDU { safetyMargin := 16 })) 32 (entryUnits 0 n) (n - 1)
    1).toOption).getD 0

lemma readEntries_entryValues (describe : Err → String) (out ids : List ObjectIdentifier) :
    readEntries describe out (entryValues ids) = (out ++ ids, none) := by
  induction ids generalizing out with
  | nil => simp [entryValues, readEntries]
  | cons id ids ih =>
    have hrest := ih (out ++ [id])
    rw [entryValues] at hrest
    simp [entryValues, readEntries, readEntry, addObjectID, asObjectID, hrest]

lemma readBatched_entries (exchange : RPMExchange) (object : ObjectIdentifier) (remoteMaxAPDU : UInt16) {n : Nat}
    (hpos : 1 ≤ n) :
    readPropertyMultipleBatched exchange remoteMaxAPDU [⟨object, entryRefs 0 n⟩] { maxBatches := n } =
      readBatches exchange (objectOf [⟨object, entryRefs 0 n⟩]) (batchBudget remoteMaxAPDU { safetyMargin := 16 }) n n 32
        (entryUnits 0 n) [⟨object, []⟩] [] := by
  have hrefs := @isEmpty_entryRefs 0 n hpos
  have hbatches : orDefault (n : Int) 64 = n := by
    rw [orDefault, if_neg (by omega)]
  simp [readPropertyMultipleBatched, hrefs, RPMBatchOptions.normalize, hbatches, propertyUnits, entryUnits]
  rfl

section

variable {readProperty : PropertyReference → Except RequestError ApplicationValue} {exchange : RPMExchange}
  {object : ObjectIdentifier} {ids : List ObjectIdentifier} {atMost : Nat}

lemma firstBatch_isBatch (hobject : object.Valid) (remoteMaxAPDU : UInt16) {n : Nat} (hn : 1 ≤ n) :
    IsBatch (entriesFit (batchBudget remoteMaxAPDU { safetyMargin := 16 }) 0) 32 n
      (firstBatch object remoteMaxAPDU n) := by
  have hfits : ∀ k, 1 ≤ k → k < (entryUnits 0 n).length →
      fits (fun _ => object) (batchBudget remoteMaxAPDU { safetyMargin := 16 }) ((entryUnits 0 n).take (k + 1)) =
        .ok (entriesFit (batchBudget remoteMaxAPDU { safetyMargin := 16 }) 0 (k + 1)) := fun k _ hk => by
    rw [length_entryUnits] at hk
    rw [take_entryUnits (by omega), @fits_entryUnits (fun _ => object) hobject]
  obtain ⟨e, hgrow, hbatch⟩ := growBatch_isBatch hfits 32 (show 1 + (n - 1) = _ by simp; omega) (Nat.le_refl 1)
    fun j hj hle => by omega
  rw [length_entryUnits] at hbatch
  rwa [firstBatch, hgrow]

/-- The first batch can be halved to one of two entries or more that the device answers. -/
def Halves (object : ObjectIdentifier) (remoteMaxAPDU : UInt16) (n atMost : Nat) : Prop :=
  ∃ h, 2 ≤ firstBatch object remoteMaxAPDU n / 2 ^ h ∧ firstBatch object remoteMaxAPDU n / 2 ^ h ≤ atMost

variable (hdev : ListDevice readProperty exchange object ids atMost) (remoteMaxAPDU : UInt16) {n : Nat}
  (hn : n ≤ ids.length) (hpos : 1 ≤ n)

include hn hpos hdev

lemma readBatched_complete (hmax : n ≤ maxUint32) (h : n = 1 ∨ Halves object remoteMaxAPDU n atMost) :
    (readPropertyMultipleBatched exchange remoteMaxAPDU [⟨object, entryRefs 0 n⟩] { maxBatches := n }).ReadAll
      (ids.take n) := by
  have hbatch := firstBatch_isBatch hdev.valid remoteMaxAPDU hpos
  have hle := hbatch.le
  have hone := hdev.one
  have hbudget : 50 ≤ batchBudget remoteMaxAPDU { safetyMargin := 16 } := le_max_right _ _
  rw [readBatched_entries exchange object remoteMaxAPDU hpos]
  rcases h with rfl | ⟨h, htwo, hsmall⟩
  · exact readBatches_halved hdev _ _ hn hmax [] hbudget (by decide) hbatch (h := 0) (.inl (by omega)) (by decide) object
  · have hpow := (Nat.le_div_iff_mul_le (Nat.two_pow_pos h)).mp htwo
    have hlt := Nat.lt_two_pow_self (n := h)
    exact readBatches_halved hdev _ _ hn hmax [] hbudget (by decide) hbatch (.inr ⟨htwo, hsmall⟩) (by omega) object

lemma readBatched_exhausted (htwo : 2 ≤ n) (h : ¬Halves object remoteMaxAPDU n atMost) :
    (readPropertyMultipleBatched exchange remoteMaxAPDU [⟨object, entryRefs 0 n⟩] { maxBatches := n }).err =
      some (.err (limitExceeded ("RPM batch limit " ++ toString (n : Int)))) := by
  have hbatch := firstBatch_isBatch hdev.valid remoteMaxAPDU hpos
  rw [readBatched_entries exchange object remoteMaxAPDU hpos]
  refine readBatches_exhausted hdev _ _ hn [] (hbatch.two_le (by decide) htwo ?_) (fun k hk => h ⟨k, hk⟩) hbatch
    (Nat.le_refl n) object
  have hlen := entriesLength_two 0
  have hbudget : 50 ≤ batchBudget remoteMaxAPDU { safetyMargin := 16 } := le_max_right _ _
  simp only [entriesFit, decide_eq_true_eq]
  omega

end

lemma objectListLength_of_le {count : UInt64} {maxItems : Int} (h : (count.toNat : Int) ≤ maxItems) :
    objectListLength count maxItems = min count.toNat (maxUint32 - 1) := by
  unfold objectListLength
  split <;> omega

/-- All entries are read exactly if the first batch can be halved to one of two entries or more that the device answers,
or there is at most one entry. -/
theorem readObjectListByIndex_complete_iff (describe : Err → String)
    {readProperty : PropertyReference → Except RequestError ApplicationValue} {exchange : RPMExchange}
    {object : ObjectIdentifier} {ids : List ObjectIdentifier} {atMost : Nat}
    (hdev : ListDevice readProperty exchange object ids atMost) (remoteMaxAPDU : UInt16) (limits : DecodeLimits)
    (maxItems : Int) (hitems : (ids.length : Int) ≤ if maxItems ≤ 0 then limits.maxElements else maxItems) :
    readObjectListByIndex describe readProperty exchange remoteMaxAPDU limits object maxItems = (ids, none) ↔
      ids.length < maxUint32 ∧ (ids.length ≤ 1 ∨ Halves object remoteMaxAPDU ids.length atMost) := by
  obtain ⟨count, hread, hcount⟩ := hdev.length
  have hlength := objectListLength_of_le (hcount ▸ hitems)
  rw [hcount] at hlength
  generalize hn : min ids.length (maxUint32 - 1) = n at hlength
  have hle : n ≤ ids.length := by omega
  have hmax : n < maxUint32 := by
    have : 0 < maxUint32 := by decide
    omega
  have hentries : ((List.range n).map fun i => indexed (i + 1)) = entryRefs 0 n := by
    rw [entryRefs, List.range_eq_range']
  unfold readObjectListByIndex
  simp only [hread, asUnsigned, hlength, hentries, length_entryRefs]
  rcases Nat.eq_zero_or_pos n with rfl | hpos
  · obtain rfl : ids = [] := List.eq_nil_of_length_eq_zero (by simp only [maxUint32] at hn; omega)
    simp [entryRefs, maxUint32]
  · rw [isEmpty_entryRefs hpos, if_neg Bool.false_ne_true]
    by_cases hgood : n = 1 ∨ Halves object remoteMaxAPDU n atMost
    · obtain ⟨herr, o, rs, hout, hvalues⟩ := readBatched_complete hdev remoteMaxAPDU hle hpos hmax.le hgood
      have htaken : (ids.take n, none) = ((ids, none) : _ × Option RequestError) ↔ ids.length < maxUint32 := by
        rw [Prod.mk.injEq, List.take_eq_self_iff]
        simp only [and_true]
        omega
      simp only [herr, hout, List.head?_cons, Option.elim, hvalues, readEntries_entryValues, List.nil_append]
      rw [htaken, iff_self_and]
      intro hlt
      obtain rfl : n = ids.length := by omega
      exact hgood.imp_left Nat.le_of_eq
    · have herr := readBatched_exhausted hdev remoteMaxAPDU hle hpos (by omega) (not_or.mp hgood).2
      simp only [herr, RequestError.asReject]
      refine iff_of_false (by simp) ?_
      rintro ⟨hlt, hsmall⟩
      refine hgood ?_
      obtain rfl : n = ids.length := by omega
      exact hsmall.imp_left fun h => by omega

def deviceObject : ObjectIdentifier := ⟨8, 1⟩

def twoObjects : List ObjectIdentifier := [⟨8, 1⟩, ⟨0, 1⟩]

/-- A device with two objects that answers requests for at most `atMost` entries of its object list. -/
def limitedDevice (atMost : Nat) : RPMExchange := fun _ specs =>
  if (specs.map fun s => s.properties.length).sum ≤ atMost then
    .ok (specs.map fun s => ⟨s.object, s.properties.map fun p =>
      ⟨p, .value (.objectID (twoObjects.getD ((p.arrayIndex.elim 0 UInt32.toNat) - 1) deviceObject))⟩⟩)
  else .error (.abort abortReasonAPDUTooLong)

lemma limitedDevice_listDevice {atMost : Nat} (h : 1 ≤ atMost) :
    ListDevice (fun _ => .ok (.unsigned 2)) (limitedDevice atMost) deviceObject twoObjects atMost where
  valid := ⟨by decide, by decide⟩
  length := ⟨2, rfl, rfl⟩
  one := h
  answers before i m hm hle := by
    refine ⟨deviceObject, _, by simp [limitedDevice, hle]; rfl, by decide, ?_⟩
    have hlen : twoObjects.length = 2 := rfl
    have hi : i ≤ 2 := by omega
    have hm' : m ≤ 2 := by omega
    interval_cases i <;> interval_cases m <;> first | rfl | omega
  refuses before i m hlt := ⟨abortReasonAPDUTooLong, by simp [limitedDevice]; omega, by decide⟩

/-- Two entries, from a device that answers one at a time. -/
theorem readObjectListByIndex_two_refused :
    ListDevice (fun _ => .ok (.unsigned 2)) (limitedDevice 1) deviceObject twoObjects 1 ∧
      ∃ detail, readObjectListByIndex Err.detail (fun _ => .ok (.unsigned 2)) (limitedDevice 1) 1476 {} deviceObject 100 =
        ([], some (.err (limitExceeded detail))) := ⟨limitedDevice_listDevice (Nat.le_refl 1), _, rfl⟩

theorem readObjectListByIndex_two_answered :
    readObjectListByIndex Err.detail (fun _ => .ok (.unsigned 2)) (limitedDevice 2) 1476 {} deviceObject 100 =
      (twoObjects, none) :=
  (readObjectListByIndex_complete_iff Err.detail (limitedDevice_listDevice (by decide)) 1476 {} 100 (by decide)).mpr
    ⟨by decide, .inr ⟨0, by decide +kernel, by decide +kernel⟩⟩

end GoBacnet.Client
