import GoBacnet.Proofs.EventNotification
import GoBacnet.Proofs.PropertyAccess
import GoBacnet.Service.ReadRangeReader

/-!
# Log records without delimiters

A record begins with a constructed element under context tag 0 and its status flags are a primitive under context
tag 2, so the reader of a record stops where the next one begins. The stream is then read in one way only, and the
records of an answer are read back from its encoding.
-/

namespace GoBacnet.Service

/-! ## The elements of an answer -/

def logDatumOctets : ApplicationValue → Octets
  | .bitString b => b.octets
  | .boolean b => [if b then 1 else 0]
  | .real bits => BigEndian.octets 4 bits.toNat
  | .enumerated e => encodeUnsigned e.toUInt64
  | .unsigned u => encodeUnsigned u
  | .signed s => encodeSigned s
  | _ => []

def ItemValue.datumElement (tag : UInt8) : ItemValue → Element
  | .value (.constructed els) => .ctxConstructed tag els
  | .value v => .ctx tag (logDatumOctets v)
  | .primitive el => .ctxConstructed tag [el]

def LogRecord.elements (r : LogRecord) : List Element :=
  .ctxConstructed 0 r.timestamp.elements :: .ctxConstructed 1 [r.datum.datumElement r.datumChoice.tag] ::
    (r.statusFlags.map fun b => Element.ctx 2 b.octets).toList

def ReadRangeACK.elements (ack : ReadRangeACK) (body : List Element) : List Element :=
  .ctx 0 ack.object.octets :: (referenceElements 1 2 ack.property ++
    (.ctx 3 ack.resultFlags.octets :: .ctx 4 (encodeUnsigned (UInt64.ofNat ack.itemCount)) ::
      .ctxConstructed 5 body ::
        (ack.firstSequence.map fun seq => Element.ctx 6 (encodeUnsigned (UInt64.ofNat seq))).toList))

/-! ## Valid records -/

/-- The datum is of the kind that the choice names; a failure and any other value are kept as their elements. -/
inductive LogDatumChoice.Takes : LogDatumChoice → ItemValue → Prop
  | logStatus (b : BitString) : Takes .logStatus (.value (.bitString b))
  | boolean (b : Bool) : Takes .boolean (.value (.boolean b))
  | real (bits : UInt32) : Takes .real (.value (.real bits))
  | enumerated (e : UInt32) : Takes .enumerated (.value (.enumerated e))
  | unsigned (u : UInt64) : Takes .unsigned (.value (.unsigned u))
  | signed (s : Int64) : Takes .signed (.value (.signed s))
  | bitString (b : BitString) : Takes .bitString (.value (.bitString b))
  | null : Takes .null (.value .null)
  | failure (els : List Element) : Takes .failure (.value (.constructed els))
  | timeChange (bits : UInt32) : Takes .timeChange (.value (.real bits))
  | anyValue (els : List Element) : Takes .anyValue (.value (.constructed els))

structure LogRecord.BitStringsValid (r : LogRecord) : Prop where
  datum : ∀ b, r.datum = .value (.bitString b) → b.Valid
  statusFlags : ∀ b ∈ r.statusFlags, b.Valid

def ItemValue.withKindTags : ItemValue → ItemValue
  | .value v => .value v.withKindTags
  | .primitive el => .primitive el.withKindTag

def LogRecord.withKindTags (r : LogRecord) : LogRecord := { r with datum := r.datum.withKindTags }

end GoBacnet.Service

namespace GoBacnet.Proofs

open GoBacnet.Service

variable {limits : DecodeLimits} {els : List Element} {records : List LogRecord}

/-! ## Reading records -/

lemma ofTag_tag (choice : LogDatumChoice) : LogDatumChoice.ofTag choice.tag = some choice := by
  cases choice <;> rfl

lemma decodeLogDatumValue_real (bits : UInt32) (tag : UInt8) :
    decodeLogDatumValue .real (.ctx tag (BigEndian.octets 4 bits.toNat)) = .ok (.value (.real bits)) := by
  have hvalue : UInt32.ofNat (BigEndian.value (BigEndian.octets 4 bits.toNat)) = bits := by
    rw [BigEndian.value_octets_of_lt bits.toNat_lt, UInt32.ofNat_toNat]
  simp [decodeLogDatumValue, ApplicationValue.octets, hvalue]

lemma decodeLogDatumValue_bitString {b : BitString} (h : b.Valid) (tag : UInt8) :
    decodeLogDatumValue .bitString (.ctx tag b.octets) = .ok (.value (.bitString b)) := by
  simp [decodeLogDatumValue, contextBitString_ctx h]

lemma decodeLogDatumValue_element {choice : LogDatumChoice} {v : ItemValue} (h : choice.Takes v)
    (hbits : ∀ b, v = .value (.bitString b) → b.Valid) (tag : UInt8) :
    decodeLogDatumValue choice (v.datumElement tag) = .ok v := by
  cases h with
  | logStatus b => exact decodeLogDatumValue_bitString (hbits b rfl) tag
  | bitString b => exact decodeLogDatumValue_bitString (hbits b rfl) tag
  | boolean b => simp [decodeLogDatumValue, ItemValue.datumElement, logDatumOctets, contextBool_ctx]
  | real bits => exact decodeLogDatumValue_real bits tag
  | timeChange bits => exact decodeLogDatumValue_real bits tag
  | enumerated e => simp [decodeLogDatumValue, ItemValue.datumElement, logDatumOctets]
  | unsigned u => simp [decodeLogDatumValue, ItemValue.datumElement, logDatumOctets]
  | signed s => simp [decodeLogDatumValue, ItemValue.datumElement, logDatumOctets, contextSigned_ctx]
  | null => rfl
  | failure els => rfl
  | anyValue els => rfl

lemma datumElement_tag (v : ItemValue) (tag : UInt8) :
    (v.datumElement tag).context = true ∧ (v.datumElement tag).tagNumber = tag := by
  cases v with
  | value v => cases v <;> exact ⟨rfl, rfl⟩
  | primitive el => exact ⟨rfl, rfl⟩

/-- What may stand behind a record: the end, or the time stamp of the next one. -/
def NextRecord (rest : List Element) : Prop := ∀ el ∈ rest.head?, isContextConstructed el = true

lemma nextRecord_elements (records : List LogRecord) : NextRecord (records.flatMap LogRecord.elements) := by
  cases records with
  | nil => simp [NextRecord]
  | cons r records => simp [NextRecord, LogRecord.elements]

lemma decodeLogFlags_elements {flags : Option BitString} (hflags : ∀ b ∈ flags, b.Valid) {rest : List Element}
    (hnext : NextRecord rest) :
    decodeLogFlags ((flags.map fun b => Element.ctx 2 b.octets).toList ++ rest) = .ok flags := by
  cases flags with
  | some b => simp [decodeLogFlags, contextBitString_ctx (hflags b rfl)]
  | none =>
    cases rest with
    | nil => rfl
    | cons el rest =>
      have hel : isContextConstructed el = true := hnext el rfl
      simp [decodeLogFlags, hel]

lemma decodeLogDatum_element {choice : LogDatumChoice} {v : ItemValue} (h : choice.Takes v)
    (hbits : ∀ b, v = .value (.bitString b) → b.Valid) :
    decodeLogDatum (.ctxConstructed 1 [v.datumElement choice.tag]) = .ok (choice, v) := by
  obtain ⟨hcontext, htag⟩ := datumElement_tag v choice.tag
  simp [decodeLogDatum, ApplicationValue.elements, hcontext, htag, ofTag_tag, decodeLogDatumValue_element h hbits]

lemma decodeLogRecord_elements {r : LogRecord} (htakes : r.datumChoice.Takes r.datum) (hbits : r.BitStringsValid)
    {rest : List Element} (hnext : NextRecord rest) :
    decodeLogRecord (r.elements ++ rest) = .ok (r, r.elements.length) := by
  obtain ⟨timestamp, choice, datum, flags⟩ := r
  have hts : decodeLogTimestamp (.ctxConstructed 0 timestamp.elements) = .ok timestamp := rfl
  have hdatum := decodeLogDatum_element htakes hbits.datum
  have hflags := decodeLogFlags_elements hbits.statusFlags hnext
  simp only [LogRecord.elements, List.cons_append, decodeLogRecord, hts, hdatum, hflags, Bind.bind, Except.bind,
    Pure.pure, Except.pure]
  cases flags <;> rfl

lemma readLogRecords_elements (htakes : ∀ r ∈ records, r.datumChoice.Takes r.datum)
    (hbits : ∀ r ∈ records, r.BitStringsValid) :
    readLogRecords records.length (records.flatMap LogRecord.elements) = .ok (records, []) := by
  induction records with
  | nil => rfl
  | cons r records ih =>
    have hr := decodeLogRecord_elements (htakes r List.mem_cons_self) (hbits r List.mem_cons_self)
      (nextRecord_elements records)
    have hrest := ih (fun s hs => htakes s (List.mem_cons_of_mem r hs)) fun s hs => hbits s (List.mem_cons_of_mem r hs)
    simp only [List.length_cons, List.flatMap_cons, readLogRecords, hr, List.drop_left, hrest, Bind.bind, Except.bind,
      Pure.pure, Except.pure]

lemma length_elements_ge (records : List LogRecord) :
    2 * records.length ≤ (records.flatMap LogRecord.elements).length := by
  induction records with
  | nil => simp
  | cons r records ih =>
    simp only [List.flatMap_cons, List.length_append, List.length_cons, LogRecord.elements]
    omega

lemma decodeLogRecords_elements (htakes : ∀ r ∈ records, r.datumChoice.Takes r.datum)
    (hbits : ∀ r ∈ records, r.BitStringsValid) :
    decodeLogRecords (records.flatMap LogRecord.elements) records.length = .ok records := by
  have hlength := length_elements_ge records
  have hread := readLogRecords_elements htakes hbits
  unfold decodeLogRecords
  rw [if_neg (by omega)]
  cases records with
  | nil => rfl
  | cons r records =>
    rw [if_neg (by simp; omega), if_neg (by omega), Int.toNat_natCast, hread]
    rfl

/-! ## The stream is read in one way -/

lemma decodeLogRecord_nil : ∀ r n, decodeLogRecord [] ≠ .ok (r, n) := fun _ _ h => nomatch h

lemma readLogRecords_count {n m : Nat} {rs rs' : List LogRecord}
    (h : readLogRecords n els = .ok (rs, [])) (h' : readLogRecords m els = .ok (rs', [])) : n = m := by
  induction n generalizing els m rs rs' with
  | zero =>
    cases h
    cases m with
    | zero => rfl
    | succ m =>
      obtain ⟨⟨r, k⟩, hr, -⟩ := Except.bind_eq_ok_iff.mp h'
      exact absurd hr (decodeLogRecord_nil r k)
  | succ n ih =>
    obtain ⟨⟨r, k⟩, hr, h⟩ := Except.bind_eq_ok_iff.mp h
    obtain ⟨⟨tail, left⟩, htail, h⟩ := Except.bind_eq_ok_iff.mp h
    obtain ⟨-, rfl⟩ := Prod.mk.inj (Except.ok.inj h)
    cases m with
    | zero =>
      obtain ⟨-, rfl⟩ := Prod.mk.inj (Except.ok.inj h')
      exact absurd hr (decodeLogRecord_nil r k)
    | succ m =>
      obtain ⟨⟨r', k'⟩, hr', h'⟩ := Except.bind_eq_ok_iff.mp h'
      obtain ⟨rfl, rfl⟩ := Prod.mk.inj (Except.ok.inj (hr.symm.trans hr'))
      obtain ⟨⟨tail', left'⟩, htail', h'⟩ := Except.bind_eq_ok_iff.mp h'
      obtain ⟨-, rfl⟩ := Prod.mk.inj (Except.ok.inj h')
      rw [ih htail htail']

lemma readLogRecords_of_decode {n : Int} {rs : List LogRecord}
    (h : decodeLogRecords els n = .ok rs) : 0 ≤ n ∧ readLogRecords n.toNat els = .ok (rs, []) := by
  unfold decodeLogRecords at h
  obtain ⟨hneg, hcases⟩ := Except.check_eq_ok_iff.mp h
  refine ⟨not_lt.mp hneg, ?_⟩
  rcases Except.ite_eq_ok_iff.mp hcases with ⟨hzero, hnone⟩ | ⟨-, hsome⟩
  · cases els with
    | nil =>
      cases hnone
      rw [hzero]
      rfl
    | cons el els => cases hnone
  · obtain ⟨-, hloop⟩ := Except.check_eq_ok_iff.mp hsome
    obtain ⟨⟨records, left⟩, hread, hleft⟩ := Except.bind_eq_ok_iff.mp hloop
    cases left with
    | nil =>
      cases hleft
      exact hread
    | cons el left => cases hleft

lemma decodeLogRecords_count {n m : Int} {rs rs' : List LogRecord}
    (h : decodeLogRecords els n = .ok rs) (h' : decodeLogRecords els m = .ok rs') : n = m := by
  obtain ⟨hn, hread⟩ := readLogRecords_of_decode h
  obtain ⟨hm, hread'⟩ := readLogRecords_of_decode h'
  have := readLogRecords_count hread hread'
  omega

/-! ## Writing records -/

lemma primitiveDatum_eq_ok_iff {tag : UInt8} (htag : tag ≠ tagNumberReserved) {octets : Octets} :
    (appendContextPrimitive [] tag octets >>= parseOneElement) = .ok els ↔
      octets.length ≤ defaultDecodeLimits.maxOctetStringLength ∧ els = [.ctx tag octets] := by
  rw [Except.bind_eq_ok_iff]
  constructor
  · rintro ⟨raw, hraw, h⟩
    obtain ⟨⟨el, n⟩, htag, h⟩ := Except.bind_eq_ok_iff.mp h
    obtain ⟨hlen, rfl, rfl⟩ := (parseTag_default_iff hraw).mp htag
    exact ⟨hlen, by simpa [eq_comm] using h⟩
  · rintro ⟨hlen, rfl⟩
    obtain ⟨raw, hraw⟩ := appendContextPrimitive_ok htag (length_of_default hlen)
    refine ⟨raw, hraw, ?_⟩
    simp [parseOneElement, (parseTag_default_iff hraw).mpr ⟨hlen, rfl, rfl⟩]

lemma bitStringDatum_eq_ok_iff {tag : UInt8} (htag : tag ≠ tagNumberReserved) {b : BitString} :
    (appendContextBitString [] tag b >>= parseOneElement) = .ok els ↔
      b.Valid ∧ b.octets.length ≤ defaultDecodeLimits.maxOctetStringLength ∧ els = [.ctx tag b.octets] := by
  rw [← primitiveDatum_eq_ok_iff htag, ← validateBitString_eq_ok_iff]
  unfold appendContextBitString
  cases validateBitString b.unusedBits b.bytes.length with
  | error e => simp
  | ok u => simp [BitString.octets]

/-- What it takes to write a datum of the right kind: a bit string must have an encoding, and the encoder's own
parser must admit the octets. -/
lemma encodeLogDatum_eq_ok_iff {choice : LogDatumChoice} {v : ItemValue} (h : choice.Takes v) :
    encodeLogDatum choice v = .ok els ↔ (∀ b, v = .value (.bitString b) → b.Valid) ∧
      (∀ w, v = .value w → (logDatumOctets w).length ≤ defaultDecodeLimits.maxOctetStringLength) ∧
        els = [v.datumElement choice.tag] := by
  have hnonneg : 0 ≤ defaultDecodeLimits.maxOctetStringLength := by decide
  cases h with
  | logStatus b | bitString b =>
    refine (bitStringDatum_eq_ok_iff (by decide)).trans ?_
    simp [ItemValue.datumElement, logDatumOctets, LogDatumChoice.tag]
  | boolean b | real bits | timeChange bits | enumerated e | unsigned u | signed s | null =>
    refine (primitiveDatum_eq_ok_iff (by decide)).trans ?_
    simp [ItemValue.datumElement, logDatumOctets, LogDatumChoice.tag]
  | failure els | anyValue els => simp [encodeLogDatum, ItemValue.datumElement, logDatumOctets, hnonneg, eq_comm]

def appendLogRecord (r : LogRecord) (body : List Element) (dst : Octets) : Except Err Octets := do
  let dst ← appendContextTagged dst 0 r.timestamp.elements
  let dst ← appendContextTagged dst 1 body
  appendOptional (appendContextBitString · 2 ·) dst r.statusFlags

lemma writes_logRecord (r : LogRecord) (body : List Element) :
    Writes (appendLogRecord r body) (∀ b ∈ r.statusFlags, b.Valid)
      (.ctxConstructed 0 r.timestamp.elements :: .ctxConstructed 1 body ::
        (r.statusFlags.map fun b => Element.ctx 2 b.octets).toList) := by
  have hflags := Writes.optional (writes_bitString 2) r.statusFlags
  exact ((Writes.constructed 0 r.timestamp.elements).bind ((Writes.constructed 1 body).bind hflags)).congr (by simp)

lemma appendContextTagged_append (dst : Octets) (tag : UInt8) (body : List Element) :
    appendContextTagged dst tag body = (appendContextTagged [] tag body).map (dst ++ ·) := by
  simp only [← appendTag_ctxConstructed, ← appendTags_singleton]
  exact appendTags_append dst _

lemma encodeLogRecord_eq {r : LogRecord} {body : List Element} (h : encodeLogDatum r.datumChoice r.datum = .ok body) :
    encodeLogRecord r = (do
      let raw ← appendLogRecord r body []
      let (els, n) ← parseSequence raw defaultDecodeLimits (-1)
      if n ≠ raw.length then throw (trailingData "LogRecord encode trailing")
      return els) := by
  unfold encodeLogRecord appendLogRecord
  rw [h]
  change (appendContextTagged [] 0 r.timestamp.elements >>= _) = _
  cases appendContextTagged [] 0 r.timestamp.elements with
  | error e => rfl
  | ok ts =>
    simp only [Bind.bind, Except.bind]
    rw [appendContextTagged_append ts]
    cases appendContextTagged [] 1 body with
    | error e => rfl
    | ok datum => cases r.statusFlags <;> rfl

lemma encodeLogRecord_inv {r : LogRecord} (htakes : r.datumChoice.Takes r.datum)
    (hfits : ∀ el ∈ r.elements, el.Fits limits) (h : encodeLogRecord r = .ok els) :
    r.BitStringsValid ∧ els = forestWithKindTags r.elements := by
  have hdatum : ∃ body, encodeLogDatum r.datumChoice r.datum = .ok body := by
    unfold encodeLogRecord at h
    obtain ⟨ts, -, h⟩ := Except.bind_eq_ok_iff.mp h
    obtain ⟨body, hbody, -⟩ := Except.bind_eq_ok_iff.mp h
    exact ⟨body, hbody⟩
  obtain ⟨body, hbody⟩ := hdatum
  obtain ⟨hbits, -, hel⟩ := (encodeLogDatum_eq_ok_iff htakes).mp hbody
  rw [encodeLogRecord_eq hbody] at h
  obtain ⟨raw, hraw, h⟩ := Except.bind_eq_ok_iff.mp h
  obtain ⟨⟨read, n⟩, hparse, h⟩ := Except.bind_eq_ok_iff.mp h
  obtain ⟨hflags, happ⟩ := (writes_logRecord r body [] raw).mp hraw
  rw [hel] at happ
  have hplain : forestPlain r.elements := forestPlain_iff.mpr fun el hel => plain_of_fits (hfits el hel)
  obtain ⟨-, rfl, rfl⟩ := (parseSequence_wire_iff hplain happ).mp hparse
  refine ⟨⟨hbits, hflags⟩, ?_⟩
  rw [← forestWire_of_fits hfits]
  simpa [eq_comm] using h

lemma encodeLogRecord_ok {r : LogRecord} (htakes : r.datumChoice.Takes r.datum) (hbits : r.BitStringsValid)
    (hwithin : WithinLimits defaultDecodeLimits r.elements) : ∃ els, encodeLogRecord r = .ok els := by
  have hoctets : ∀ w, r.datum = .value w → (logDatumOctets w).length ≤ defaultDecodeLimits.maxOctetStringLength := by
    intro w hw
    have hel := hwithin.fits (.ctxConstructed 1 [r.datum.datumElement r.datumChoice.tag]) (by simp [LogRecord.elements])
    have hdatum := (fits_ctxConstructed_iff.mp hel).2 _ (List.mem_singleton_self _)
    rw [hw] at hdatum
    cases w with
    | constructed els => simp [logDatumOctets, defaultDecodeLimits]
    | _ => exact (fits_ctx_iff.mp hdatum).2
  have hbody := (encodeLogDatum_eq_ok_iff htakes).mpr ⟨hbits.datum, hoctets, rfl⟩
  obtain ⟨raw, happ⟩ := appendTags_within hwithin defaultLimits_encodable
  have hraw := (writes_logRecord r _ [] raw).mpr ⟨hbits.statusFlags, happ⟩
  have hparse := parseSequence_appended hwithin.fits hwithin.depth hwithin.count happ
  rw [encodeLogRecord_eq hbody]
  simp [hraw, hparse]

lemma encodeLogRecords_inv
    (htakes : ∀ r ∈ records, r.datumChoice.Takes r.datum) (hfits : ∀ r ∈ records, ∀ el ∈ r.elements, el.Fits limits)
    {body : List Element} (h : encodeLogRecords records = .ok body) :
    (∀ r ∈ records, r.BitStringsValid) ∧ body = forestWithKindTags (records.flatMap LogRecord.elements) := by
  induction records generalizing body with
  | nil =>
    cases h
    exact ⟨by simp, rfl⟩
  | cons r records ih =>
    rw [encodeLogRecords_cons] at h
    obtain ⟨els, hels, h⟩ := Except.bind_eq_ok_iff.mp h
    obtain ⟨rest, hrest, rfl⟩ := Except.map_eq_ok_iff.mp h
    obtain ⟨hr, rfl⟩ := encodeLogRecord_inv (htakes r List.mem_cons_self) (hfits r List.mem_cons_self) hels
    obtain ⟨hrs, rfl⟩ := ih (fun s hs => htakes s (List.mem_cons_of_mem r hs))
      (fun s hs => hfits s (List.mem_cons_of_mem r hs)) hrest
    exact ⟨List.forall_mem_cons.mpr ⟨hr, hrs⟩, by simp⟩

lemma encodeLogRecords_ok (h : ∀ r ∈ records, ∃ els, encodeLogRecord r = .ok els) :
    ∃ body, encodeLogRecords records = .ok body := by
  induction records with
  | nil => exact ⟨[], rfl⟩
  | cons r records ih =>
    obtain ⟨els, hels⟩ := h r List.mem_cons_self
    obtain ⟨body, hbody⟩ := ih fun s hs => h s (List.mem_cons_of_mem r hs)
    exact ⟨els ++ body, by rw [encodeLogRecords_cons, hels, hbody]; rfl⟩

/-! ## The answer -/

lemma writes_readRangeHead (object : ObjectIdentifier) (property : PropertyReference) :
    Writes (fun dst => appendContextObjectID dst 0 object >>= fun dst => appendPropertyReference 1 2 dst property)
      object.Valid (.ctx 0 object.octets :: referenceElements 1 2 property) :=
  ((Writes.objectID 0 object).bind (writes_reference 1 2 property)).congr (by simp)

lemma encodeReadRangeHead_eq (object : ObjectIdentifier) (property : PropertyReference) :
    encodeReadRangeHead object property =
      appendContextObjectID [] 0 object >>= fun dst => appendPropertyReference 1 2 dst property := by
  obtain ⟨id, _ | idx⟩ := property <;> rfl

lemma encodeReadRangeACK_eq_ok_iff {ack : ReadRangeACK} {bytes : Octets} :
    encodeReadRangeACK ack = .ok bytes ↔ ∃ body, ack.body = .ok body ∧ (ack.object.Valid ∧ ack.resultFlags.Valid) ∧
      appendTags [] (ack.elements body) = .ok bytes := by
  have hwrites (body : List Element) := (writes_readRangeHead ack.object ack.property).bind
    ((writes_bitString 3 ack.resultFlags).bind ((Writes.unsigned 4 (UInt64.ofNat ack.itemCount)).bind
      ((Writes.constructed 5 body).bind
        (Writes.optional (fun seq : Nat => Writes.unsigned 6 (UInt64.ofNat seq)) ack.firstSequence))))
  cases hbody : ack.body with
  | error e =>
    unfold encodeReadRangeACK
    simp [Except.bind_eq_ok_iff, hbody]
  | ok body =>
    have h := hwrites body [] bytes
    have hencode : encodeReadRangeACK ack = (appendContextObjectID [] 0 ack.object >>= fun dst =>
        appendPropertyReference 1 2 dst ack.property) >>= fun dst => appendContextBitString dst 3 ack.resultFlags >>=
          fun dst => appendContextUnsigned dst 4 (UInt64.ofNat ack.itemCount) >>= fun dst =>
            appendContextTagged dst 5 body >>= fun dst =>
              appendOptional (fun dst seq => appendContextUnsigned dst 6 (UInt64.ofNat seq)) dst ack.firstSequence := by
      unfold encodeReadRangeACK
      rw [encodeReadRangeHead_eq, hbody]
      cases ack.firstSequence <;> rfl
    rw [hencode]
    refine h.trans ?_
    simp [ReadRangeACK.elements]

def logBufferACK (object : ObjectIdentifier) (arrayIndex : Option UInt32) (flags : BitString)
    (firstSequence : Option UInt32) (records : List LogRecord) : ReadRangeACK where
  object := object
  property := ⟨propertyLogBuffer, arrayIndex⟩
  resultFlags := flags
  itemCount := records.length
  logRecords := records
  firstSequence := firstSequence.map UInt32.toNat

def itemOf (el : Element) : ItemValue :=
  match el.value with
  | .constructed els => .value (.constructed els)
  | _ => if el.context then .primitive el else .value el.value

section ReadRangeSteps

variable (r : ReadRangeReader)

lemma readRangeStep_object (hr : r.object = none) {id : ObjectIdentifier} (hid : id.Valid) :
    readRangeStep r (.ctx 0 id.octets) = .ok { r with object := some id } := by
  simp [readRangeStep, readField, hr, contextObjectID_ctx hid]

lemma readRangeStep_identifier (hr : r.identifier = none) (u : UInt32) :
    readRangeStep r (.ctx 1 (encodeUnsigned u.toUInt64)) = .ok { r with identifier := some u } := by
  simp [readRangeStep, readField, hr]

lemma readRangeStep_arrayIndex (hr : r.arrayIndex = none) (u : UInt32) :
    readRangeStep r (.ctx 2 (encodeUnsigned u.toUInt64)) = .ok { r with arrayIndex := some u } := by
  simp [readRangeStep, readField, hr]

lemma readRangeStep_resultFlags (hr : r.resultFlags = none) {b : BitString} (hb : b.Valid) (hunused : b.unusedBits = 5)
    (hlen : b.bytes.length = 1) : readRangeStep r (.ctx 3 b.octets) = .ok { r with resultFlags := some b } := by
  simp [readRangeStep, readField, hr, decodeResultFlags, contextBitString_ctx hb, hunused, hlen]

lemma readRangeStep_itemCount (hr : r.itemCount = none) (u : UInt32) :
    readRangeStep r (.ctx 4 (encodeUnsigned u.toUInt64)) = .ok { r with itemCount := some u } := by
  simp [readRangeStep, readField, hr]

lemma readRangeStep_items (hr : r.items = none) {els : List Element} {items : List ItemValue}
    (h : els.mapM decodeItem = .ok items) :
    readRangeStep r (.ctxConstructed 5 els) = .ok { r with items := some (els, items) } := by
  simp [readRangeStep, readField, hr, ApplicationValue.elements, h]

lemma readRangeStep_firstSequence (hr : r.firstSequence = none) (u : UInt32) :
    readRangeStep r (.ctx 6 (encodeUnsigned u.toUInt64)) = .ok { r with firstSequence := some u } := by
  simp [readRangeStep, readField, hr]

end ReadRangeSteps

lemma decodeItem_of_fits {el : Element} (h : el.Fits limits) :
    decodeItem el = .ok (itemOf el) := by
  cases h with
  | app tag v hv =>
    cases v with
    | constructed els => exact hv.elim
    | _ => rfl
  | ctx tag octets htag hlen => rfl
  | constructed tag els htag hels => rfl

lemma mapM_decodeItem (h : ∀ el ∈ els, el.Fits limits) :
    els.mapM decodeItem = .ok (els.map itemOf) := by
  induction els with
  | nil => rfl
  | cons el els ih =>
    rw [List.mapM_cons, decodeItem_of_fits (h el List.mem_cons_self), ih fun e he => h e (List.mem_cons_of_mem el he)]
    rfl

lemma ofNat_eq_toUInt64 {n : Nat} (h : n < 2 ^ 32) : UInt64.ofNat n = (UInt32.ofNat n).toUInt64 := by
  apply UInt64.toNat.inj
  rw [UInt64.toNat_ofNat_of_lt' (by simp [UInt64.size]; omega), UInt32.toNat_toUInt64,
    UInt32.toNat_ofNat_of_lt' (by simpa [UInt32.size] using h)]

lemma read_logBufferACK {object : ObjectIdentifier} {arrayIndex firstSequence : Option UInt32} {flags : BitString} (hobject : object.Valid) (hflags : flags.Valid) (hunused : flags.unusedBits = 5)
    (hlen : flags.bytes.length = 1) (hcount : records.length < 2 ^ 32) {body : List Element} {items : List ItemValue}
    (hitems : body.mapM decodeItem = .ok items) :
    ((logBufferACK object arrayIndex flags firstSequence records).elements body).foldlM readRangeStep {} =
      .ok {
        object := some object, identifier := some propertyLogBuffer, arrayIndex := arrayIndex
        resultFlags := some flags, itemCount := some (UInt32.ofNat records.length), items := some (body, items)
        firstSequence := firstSequence } := by
  have hseq : (firstSequence.map UInt32.toNat).map (fun seq => Element.ctx 6 (encodeUnsigned (UInt64.ofNat seq))) =
      firstSequence.map fun u => .ctx 6 (encodeUnsigned u.toUInt64) := by
    cases firstSequence with
    | none => rfl
    | some u => simp [ofNat_eq_toUInt64 u.toNat_lt]
  unfold ReadRangeACK.elements logBufferACK referenceElements
  simp only [ofNat_eq_toUInt64 hcount, hseq, List.cons_append, Except.foldlM_cons_eq_ok_iff,
    Except.foldlM_append_eq_ok_iff]
  exact ⟨_, readRangeStep_object {} rfl hobject, _, readRangeStep_identifier _ rfl propertyLogBuffer, _,
    Except.foldlM_optional (fun (r : ReadRangeReader) u => { r with arrayIndex := u }) rfl
      fun u _ => readRangeStep_arrayIndex _ rfl u, _,
    readRangeStep_resultFlags _ rfl hflags hunused hlen, _, readRangeStep_itemCount _ rfl _, _,
    readRangeStep_items _ rfl hitems,
    Except.foldlM_optional (fun (r : ReadRangeReader) u => { r with firstSequence := u }) rfl
      fun u _ => readRangeStep_firstSequence _ rfl u⟩

/-! ## Round trips -/

lemma withKindTags_logRecord (r : LogRecord) : forestWithKindTags r.elements = r.withKindTags.elements := by
  obtain ⟨timestamp, choice, datum, flags⟩ := r
  have hdatum : (datum.datumElement choice.tag).withKindTag = datum.withKindTags.datumElement choice.tag := by
    cases datum with
    | value v =>
      cases v <;> rfl
    | primitive el => rfl
  cases flags <;>
    simp [LogRecord.elements, LogRecord.withKindTags, DateTime.elements, forestWithKindTags, Element.withKindTag,
      ApplicationValue.withKindTags, ApplicationValue.tagNumber, hdatum]

lemma takes_withKindTags {r : LogRecord} (h : r.datumChoice.Takes r.datum) :
    r.withKindTags.datumChoice.Takes r.withKindTags.datum := by
  obtain ⟨timestamp, choice, datum, flags⟩ := r
  cases h <;> constructor

lemma bitStringsValid_withKindTags {r : LogRecord} (htakes : r.datumChoice.Takes r.datum) (h : r.BitStringsValid) :
    r.withKindTags.BitStringsValid := by
  obtain ⟨timestamp, choice, datum, flags⟩ := r
  refine ⟨fun b hb => h.datum b ?_, h.statusFlags⟩
  cases htakes <;> first | exact hb | cases hb

lemma withKindTags_ackElements (ack : ReadRangeACK) (body : List Element) :
    forestWithKindTags (ack.elements body) = ack.elements (forestWithKindTags body) := by
  cases hseq : ack.firstSequence <;>
    simp [ReadRangeACK.elements, withKindTags_reference, forestWithKindTags, Element.withKindTag,
      ApplicationValue.withKindTags, hseq]

lemma finish_logBuffer {object : ObjectIdentifier} {arrayIndex firstSequence : Option UInt32} {flags : BitString} (htakes : ∀ r ∈ records, r.datumChoice.Takes r.datum)
    (hbits : ∀ r ∈ records, r.BitStringsValid) (hcount : records.length < 2 ^ 32) :
    ReadRangeReader.finish {
      object := some object, identifier := some propertyLogBuffer, arrayIndex := arrayIndex, resultFlags := some flags
      itemCount := some (UInt32.ofNat records.length)
      items := some (records.flatMap LogRecord.elements, (records.flatMap LogRecord.elements).map itemOf)
      firstSequence := firstSequence } =
    .ok { logBufferACK object arrayIndex flags firstSequence records with
      itemData := (records.flatMap LogRecord.elements).map itemOf } := by
  have hnat : (UInt32.ofNat records.length).toNat = records.length :=
    UInt32.toNat_ofNat_of_lt' (by simpa [UInt32.size] using hcount)
  have hread : decodeItemRecords propertyLogBuffer (records.flatMap LogRecord.elements) (UInt32.ofNat records.length) =
      .ok records := by
    rw [decodeItemRecords, if_pos rfl, hnat, decodeLogRecords_elements htakes hbits]
  have hempty : ((records.flatMap LogRecord.elements).map itemOf).isEmpty ↔ UInt32.ofNat records.length = 0 := by
    have hlength := length_elements_ge records
    rw [List.isEmpty_iff, ← List.length_eq_zero_iff, List.length_map, ← UInt32.toNat_inj, hnat, UInt32.toNat_zero]
    constructor
    · omega
    · intro h
      rw [List.eq_nil_of_length_eq_zero h]
      rfl
  have hpos : UInt32.ofNat records.length > 0 ↔ UInt32.ofNat records.length ≠ 0 := UInt32.pos_iff_ne_zero
  simp only [ReadRangeReader.finish, hread, hnat]
  rw [if_neg fun h => by simp [hempty.mpr h.1] at h, if_neg fun h => hpos.mp h.1 (hempty.mp h.2)]
  rfl

/-- An answer about a log is read back with its records, and a stream of elements holds one number of records only. -/
theorem logBuffer_roundTrip :
    (∀ (limits : DecodeLimits) (object : ObjectIdentifier) (arrayIndex firstSequence : Option UInt32)
      (flags : BitString) (records : List LogRecord), flags.unusedBits = 5 → flags.bytes.length = 1 →
      records.length < 2 ^ 32 → (∀ r ∈ records, r.datumChoice.Takes r.datum) →
      WithinLimits limits
        ((logBufferACK object arrayIndex flags firstSequence records).elements (records.flatMap LogRecord.elements)) →
      RoundTrip limits (encodeReadRangeACK (logBufferACK object arrayIndex flags firstSequence records))
        (object.Valid ∧ ∀ r ∈ records, r.BitStringsValid ∧ WithinLimits defaultDecodeLimits r.elements)
        decodeReadRangeACK
        { logBufferACK object arrayIndex flags firstSequence (records.map LogRecord.withKindTags) with
          itemData := ((records.map LogRecord.withKindTags).flatMap LogRecord.elements).map itemOf }) ∧
    ∀ (els : List Element) (n m : Int) (rs rs' : List LogRecord), decodeLogRecords els n = .ok rs →
      decodeLogRecords els m = .ok rs' → n = m := by
  refine ⟨fun limits object arrayIndex firstSequence flags records hunused hlen hcount htakes hwithin => ?_,
    fun els n m rs rs' h h' => decodeLogRecords_count h h'⟩
  have hflags : flags.Valid := ⟨by rw [hunused]; decide, fun h => by simp [h] at hlen⟩
  have hbody : (logBufferACK object arrayIndex flags firstSequence records).body = encodeLogRecords records :=
    ReadRangeACK.body_of_records rfl
  have hfits : ∀ el ∈ records.flatMap LogRecord.elements, el.Fits limits.normalize := by
    have hel := hwithin.fits (.ctxConstructed 5 (records.flatMap LogRecord.elements)) (by simp [ReadRangeACK.elements])
    exact (fits_ctxConstructed_iff.mp hel).2
  have hwithin' := withinLimits_withKindTags hwithin
  rw [withKindTags_ackElements] at hwithin'
  have htags : forestWithKindTags (records.flatMap LogRecord.elements) =
      (records.map LogRecord.withKindTags).flatMap LogRecord.elements := withKindTags_flatMap withKindTags_logRecord records
  constructor
  · intro bytes hbytes
    obtain ⟨body, hencode, ⟨hobject, -⟩, happ⟩ := encodeReadRangeACK_eq_ok_iff.mp hbytes
    rw [hbody] at hencode
    obtain ⟨hbits, rfl⟩ := encodeLogRecords_inv htakes
      (fun r hr el hel => hfits el (List.mem_flatMap.mpr ⟨r, hr, hel⟩)) hencode
    have hparse := parsePayload_appended hwithin' happ "ReadRangeACK"
    -- The records were parsed once by the encoder, so a second time changes nothing.
    rw [withKindTags_ackElements, ← forestWire_of_fits hfits, forestWithKindTags_wire, forestWire_of_fits hfits, htags]
      at hparse
    have hfits' : ∀ el ∈ (records.map LogRecord.withKindTags).flatMap LogRecord.elements, el.Fits limits.normalize := by
      rw [← htags, forestWithKindTags_eq_map]
      exact List.forall_mem_map.mpr fun el hel => withKindTag_fits (hfits el hel)
    have hfold := @read_logBufferACK records object arrayIndex firstSequence flags hobject hflags hunused hlen hcount _ _
      (mapM_decodeItem hfits')
    have hfinish := @finish_logBuffer (records.map LogRecord.withKindTags) object arrayIndex firstSequence flags
      (List.forall_mem_map.mpr fun r hr => takes_withKindTags (htakes r hr))
      (List.forall_mem_map.mpr fun r hr => bitStringsValid_withKindTags (htakes r hr) (hbits r hr))
      (by rwa [List.length_map])
    rw [List.length_map] at hfinish
    simp only [decodeReadRangeACK, hparse, hfold, hfinish, Bind.bind, Except.bind]
  · rintro ⟨hobject, hrecords⟩ hlimits
    obtain ⟨body, hencode⟩ := encodeLogRecords_ok fun r hr =>
      encodeLogRecord_ok (htakes r hr) (hrecords r hr).1 (hrecords r hr).2
    obtain ⟨-, rfl⟩ := encodeLogRecords_inv htakes (fun r hr el hel => hfits el (List.mem_flatMap.mpr ⟨r, hr, hel⟩))
      hencode
    obtain ⟨bytes, happ⟩ := appendTags_within hwithin' hlimits
    exact ⟨bytes, encodeReadRangeACK_eq_ok_iff.mpr ⟨_, hbody.trans hencode, ⟨hobject, hflags⟩, happ⟩⟩

def twoRecords : List LogRecord :=
  [{ timestamp := ⟨⟨126, 11, 16, 1⟩, ⟨8, 0, 0, 0⟩⟩, datumChoice := .real, datum := .value (.real 0x41A00000),
     statusFlags := some ⟨4, [0]⟩ },
   { timestamp := ⟨⟨126, 11, 16, 1⟩, ⟨8, 15, 0, 0⟩⟩, datumChoice := .failure,
     datum := .value (.constructed [.app tagEnumerated (.enumerated 1), .app tagEnumerated (.enumerated 2)]) }]

theorem logBuffer_roundTrip_twoRecords :
    ∃ bytes ack, encodeReadRangeACK (logBufferACK ⟨20, 3⟩ none ⟨5, [0xC0]⟩ (some 7) twoRecords) = .ok bytes ∧
      decodeReadRangeACK bytes {} = .ok ack ∧ ack.logRecords = twoRecords := by
  have hwithin : WithinLimits {} ((logBufferACK ⟨20, 3⟩ none ⟨5, [0xC0]⟩ (some 7) twoRecords).elements
      (twoRecords.flatMap LogRecord.elements)) := by
    constructor
    · simp [twoRecords, LogRecord.elements, ReadRangeACK.elements, logBufferACK, referenceElements, DateTime.elements,
        ItemValue.datumElement, ApplicationValue.Fits]
      decide +kernel
    · decide +kernel
    · decide +kernel
  have hrecords : ∀ r ∈ twoRecords, r.BitStringsValid ∧ WithinLimits defaultDecodeLimits r.elements := by
    simp only [twoRecords, List.forall_mem_cons, List.not_mem_nil, false_implies, implies_true, and_true]
    refine ⟨⟨⟨by simp, by simp; exact ⟨by decide, by decide⟩⟩, ?_, by decide +kernel, by decide +kernel⟩,
      ⟨by simp, by simp⟩, ?_, by decide +kernel, by decide +kernel⟩
    · simp [LogRecord.elements, DateTime.elements, ItemValue.datumElement, ApplicationValue.Fits]
      decide +kernel
    · simp [LogRecord.elements, DateTime.elements, ItemValue.datumElement, ApplicationValue.Fits]
      decide +kernel
  obtain ⟨hread, hexists⟩ := logBuffer_roundTrip.1 {} ⟨20, 3⟩ none (some 7) ⟨5, [0xC0]⟩ twoRecords rfl rfl (by decide)
    (by simp [twoRecords, LogDatumChoice.Takes.real, LogDatumChoice.Takes.failure]) hwithin
  obtain ⟨bytes, hbytes⟩ := hexists ⟨⟨by decide, by decide⟩, hrecords⟩ ⟨by decide, by decide, by decide⟩
  exact ⟨bytes, _, hbytes, hread bytes hbytes, rfl⟩

end GoBacnet.Proofs
