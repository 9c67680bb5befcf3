import GoBacnet.Proofs.ContextField

/-!
# Round trips of the property access services

Each encoder writes a list of elements, and the decoder reads the message back from them. An item ends where
the identifier of the next one is read, so a decoder holds the last item back; what it stands for is the list
of items it would return if the message ended.
-/

namespace GoBacnet.Service

/-! ## The elements of a message -/

def referenceElements (idTag indexTag : UInt8) (p : PropertyReference) : List Element :=
  .ctx idTag (encodeUnsigned p.identifier.toUInt64) ::
    (p.arrayIndex.map fun idx => Element.ctx indexTag (encodeUnsigned idx.toUInt64)).toList

def Access.elements {ι : Type} (items : ι → List Element) (a : Access ι) : List Element :=
  [.ctx 0 a.object.octets, .ctxConstructed 1 (a.properties.flatMap items)]

def PropertyOutcome.element : PropertyOutcome → Element
  | .value v => .ctxConstructed 4 (valueElements v)
  | .errorResponse cls code =>
    .ctxConstructed 5 [.app tagEnumerated (.enumerated cls.toUInt32), .app tagEnumerated (.enumerated code.toUInt32)]
  | .error _ => .ctxConstructed 5 []

def PropertyResult.elements (p : PropertyResult) : List Element :=
  referenceElements 2 3 p.property ++ [p.outcome.element]

def PropertyValue.elements (pv : PropertyValue) : List Element :=
  referenceElements 0 1 pv.property ++ .ctxConstructed 2 (valueElements pv.value) ::
    (pv.priority.map fun p => Element.ctx 3 (encodeUnsigned p.toUInt64)).toList

def COVNotification.elements (note : COVNotification) : List Element :=
  [.ctx 0 (encodeUnsigned note.processIdentifier.toUInt64), .ctx 1 note.initiatingDevice.octets,
    .ctx 2 note.monitoredObject.octets, .ctx 3 (encodeUnsigned note.timeRemaining.toUInt64),
    .ctxConstructed 4 (note.values.flatMap PropertyValue.elements)]

/-! ## What can be encoded -/

def ValidPriority (p : UInt8) : Prop := 1 ≤ p ∧ p ≤ 16

def PropertyValue.Valid (pv : PropertyValue) : Prop := ∀ p ∈ pv.priority, ValidPriority p

def PropertyOutcome.Valid : PropertyOutcome → Prop
  | .error _ => False
  | _ => True

def Access.Valid {ι : Type} (item : ι → Prop) (a : Access ι) : Prop :=
  a.object.Valid ∧ ∀ p ∈ a.properties, item p

/-! ## Normal form -/

def NormalValue : ApplicationValue → Prop
  | .constructed [el] => el.context = true
  | _ => True

def PropertyOutcome.Normal : PropertyOutcome → Prop
  | .value v => NormalValue v
  | _ => True

/-! ## Tag numbers

The tag number of an application element inside a constructed value is not written. It is read as the number of
the element's kind. -/

def PropertyOutcome.withKindTags : PropertyOutcome → PropertyOutcome
  | .value v => .value v.withKindTags
  | outcome => outcome

def PropertyResult.withKindTags (p : PropertyResult) : PropertyResult := { p with outcome := p.outcome.withKindTags }

def PropertyValue.withKindTags (pv : PropertyValue) : PropertyValue := { pv with value := pv.value.withKindTags }

def Access.map {ι : Type} (f : ι → ι) (a : Access ι) : Access ι := { a with properties := a.properties.map f }

def COVNotification.withKindTags (note : COVNotification) : COVNotification :=
  { note with values := note.values.map PropertyValue.withKindTags }

/-- A message is read back from its encoding, and it has one if it is valid and its strings are not longer than
a tag can say. -/
def RoundTrip {α : Type} (limits : DecodeLimits) (encoded : Except Err Octets) (valid : Prop)
    (decode : Octets → DecodeLimits → Except Err α) (message : α) : Prop :=
  (∀ bytes, encoded = .ok bytes → decode bytes limits = .ok message) ∧
    (valid → limits.normalize.Encodable → ∃ bytes, encoded = .ok bytes)

end GoBacnet.Service

namespace GoBacnet.Proofs

open GoBacnet.Service

variable {limits : DecodeLimits} {bytes : Octets}

/-! ## Writing -/

lemma writes_reference (idTag indexTag : UInt8) (p : PropertyReference) :
    Writes (fun dst => appendPropertyReference idTag indexTag dst p) True (referenceElements idTag indexTag p) := by
  have hindex := Writes.optional (fun idx : UInt32 => Writes.unsigned indexTag idx.toUInt64) p.arrayIndex
  exact ((Writes.unsigned idTag p.identifier.toUInt64).bind hindex).congr (by simp)

lemma writes_access {ι : Type} {appendItem : Octets → ι → Except Err Octets} {valid : ι → Prop}
    {items : ι → List Element} (h : ∀ x, Writes (fun dst => appendItem dst x) (valid x) (items x)) (a : Access ι) :
    Writes (fun dst => appendAccess appendItem dst a) (a.Valid valid) (a.elements items) :=
  (Writes.objectID 0 a.object).bind ((Writes.foldlM h a.properties).enclosed 1 (by decide))

lemma writes_error (cls code : UInt16) :
    Writes (fun dst => encodeBACnetError dst cls code) True
      [.app tagEnumerated (.enumerated cls.toUInt32), .app tagEnumerated (.enumerated code.toUInt32)] :=
  ((Writes.value (.enumerated cls.toUInt32)).bind (Writes.value (.enumerated code.toUInt32))).congr (by simp)

lemma writes_result (p : PropertyResult) :
    Writes (fun dst => appendPropertyResult dst p) p.outcome.Valid p.elements := by
  obtain ⟨property, outcome⟩ := p
  have hreference := writes_reference 2 3 property
  cases outcome with
  | value v => exact (hreference.bind ((Writes.value v).enclosed 4 (by decide))).congr (by simp [PropertyOutcome.Valid])
  | errorResponse cls code =>
    exact (hreference.bind ((writes_error cls code).enclosed 5 (by decide))).congr (by simp [PropertyOutcome.Valid])
  | error text =>
    intro dst bytes
    simp [appendPropertyResult, PropertyOutcome.Valid, Except.bind_eq_ok_iff]

lemma writes_priority (tag : UInt8) (what : String) (p : UInt8) :
    Writes (fun dst => appendPriority tag what dst p) (ValidPriority p) [.ctx tag (encodeUnsigned p.toUInt64)] :=
  ((Writes.unsigned tag p.toUInt64).check).congr (by
    simp only [ValidPriority, not_or, gt_iff_lt, UInt8.not_lt, and_true])

lemma writes_writeValue (pv : WritePropertyValue) :
    Writes (fun dst => appendWritePropertyValue dst pv) pv.Valid pv.elements := by
  have hbody := Writes.enclosedValue 2 (by decide) pv.value
  have hpriority := Writes.optional (writes_priority 3 "WritePropertyMultiple") pv.priority
  have h := (writes_reference 0 1 pv.property).bind (hbody.bind hpriority)
  refine (h.congr (by simp [PropertyValue.Valid])).of_eq fun dst => ?_
  simp [appendWritePropertyValue]
  rfl

lemma writes_writeAccess (spec : WriteAccessSpecification) :
    Writes (fun dst => appendWriteAccess dst spec) (spec.properties ≠ [] ∧ spec.Valid PropertyValue.Valid)
      (spec.elements PropertyValue.elements) :=
  ((writes_access writes_writeValue spec).check).congr (by simp)

lemma writes_propertyValue (what : String) (pv : PropertyValue) :
    Writes (fun dst => appendPropertyValue what dst pv) pv.Valid pv.elements := by
  have hpriority := Writes.optional (writes_priority 3 what) pv.priority
  have h := (writes_reference 0 1 pv.property).bind ((Writes.tagged 2 (by decide) pv.value).bind hpriority)
  exact h.congr (by simp [PropertyValue.Valid])

lemma writes_covNotification (note : COVNotification) :
    encodeCOVNotification note = .ok bytes ↔
      (note.values ≠ [] ∧ note.initiatingDevice.Valid ∧ note.monitoredObject.Valid ∧
        ∀ pv ∈ note.values, pv.Valid) ∧ appendTags [] note.elements = .ok bytes := by
  have hvalues := (Writes.foldlM (writes_propertyValue "COV notification") note.values).enclosed 4 (by decide)
  have h := (Writes.unsigned 0 note.processIdentifier.toUInt64).bind
    ((Writes.objectID 1 note.initiatingDevice).bind ((Writes.objectID 2 note.monitoredObject).bind
      ((Writes.unsigned 3 note.timeRemaining.toUInt64).bind
        (hvalues.check (c := note.values.isEmpty) (e := malformed "COV notification without values")))))
  refine (h [] bytes).trans (and_congr_left fun _ => ?_)
  simp
  tauto

/-! ## Reading -/

lemma propertyValue_valueElements {v : ApplicationValue} (h : NormalValue v) : propertyValue (valueElements v) = v := by
  cases v with
  | constructed els =>
    match els, h with
    | [], _ => rfl
    | [el], h =>
      have hcontext : el.context = true := h
      simp [valueElements, propertyValue, hcontext]
    | _ :: _ :: _, _ => rfl
  | _ => rfl

def Stands {ι : Type} (r : AccessReader ι) (done : List (Access ι)) : Prop :=
  r.read = done ∧ (done = [] ∨ r.haveProps = true)

structure Regular {ι : Type} (f : AccessFormat ι) : Prop where
  object : ∀ r, r.read = [] ∨ r.haveProps = true → f.beforeObject r = .ok ()
  list : ∀ r, r.haveProps = false → f.beforeList r = .ok ()

lemma read_access {ι : Type} {f : AccessFormat ι} (hf : Regular f) {items : ι → List Element} {a : Access ι}
    (hid : a.object.Valid) (hitems : f.readList (a.properties.flatMap items) = .ok a.properties)
    {r : AccessReader ι} {done : List (Access ι)} (hr : Stands r done) :
    ∃ t, (a.elements items).foldlM f.step r = .ok t ∧ Stands t (a :: done) := by
  obtain ⟨rfl, hprops⟩ := hr
  have hobject : f.step r (.ctx 0 a.object.octets) = .ok ⟨⟨a.object, []⟩ :: r.read, false⟩ := by
    simp [AccessFormat.step, hf.object r hprops, contextObjectID_ctx hid]
  have hlist : f.step ⟨⟨a.object, []⟩ :: r.read, false⟩ (.ctxConstructed 1 (a.properties.flatMap items)) =
      .ok ⟨a :: r.read, true⟩ := by
    simp [AccessFormat.step, hf.list, ApplicationValue.elements, hitems]
  refine ⟨⟨a :: r.read, true⟩, ?_, rfl, .inr rfl⟩
  simp [Access.elements, hobject, hlist]

lemma read_accesses {ι : Type} {f : AccessFormat ι} (hf : Regular f) {items : ι → List Element}
    {xs : List (Access ι)} (hid : ∀ a ∈ xs, a.object.Valid)
    (hitems : ∀ a ∈ xs, f.readList (a.properties.flatMap items) = .ok a.properties) :
    ∃ t, (xs.flatMap (Access.elements items)).foldlM f.step {} = .ok t ∧ t.read = xs.reverse ∧
      (xs = [] ∨ t.haveProps = true) := by
  have hstart : Stands ({} : AccessReader ι) [] := ⟨rfl, .inl rfl⟩
  obtain ⟨t, hfold, hread, hprops⟩ := Except.foldlM_flatMap_ok Stands
    (fun a ha r done hr => read_access hf (hid a ha) (hitems a ha) hr) hstart
  refine ⟨t, hfold, by simpa using hread, by simpa using hprops⟩

/-! ### Property references -/

lemma read_reference (p : PropertyReference) (done : List PropertyReference) :
    (referenceElements 0 1 p).foldlM propertyReferenceStep done = .ok (p :: done) := by
  obtain ⟨id, _ | idx⟩ := p <;>
    simp [referenceElements, propertyReferenceStep]

lemma decodePropertyReferences_elements {ps : List PropertyReference} (hne : ps ≠ []) :
    decodePropertyReferences (ps.flatMap (referenceElements 0 1)) = .ok ps := by
  obtain ⟨t, hfold, rfl⟩ := Except.foldlM_flatMap_ok (fun read done => read = done)
    (fun p (_ : p ∈ ps) read done hread => ⟨p :: done, by rw [hread]; exact read_reference p done, rfl⟩)
    (rfl : ([] : List PropertyReference) = [])
  simp [decodePropertyReferences, hfold, hne]

/-! ### Results -/

lemma decodeBACnetError_elements (cls code : UInt16) :
    decodeBACnetError [.app tagEnumerated (.enumerated cls.toUInt32), .app tagEnumerated (.enumerated code.toUInt32)] =
      .ok (cls, code) := by
  have hfield (u : UInt16) : errorFieldUint (.app tagEnumerated (.enumerated u.toUInt32)) = .ok u := by
    have h := u.toNat_lt
    have hle : ¬ u.toUInt32.toNat > 0xFFFF := by
      simp
      omega
    simp only [errorFieldUint, Element.value_mk, if_neg hle]
    simp
  simp [decodeBACnetError, isContextConstructed, decodeBACnetErrorApplication, hfield]

lemma read_result {p : PropertyResult} (hvalid : p.outcome.Valid) (hnormal : p.outcome.Normal) {r : ResultReader}
    {done : List PropertyResult} (hr : r.flush = .ok { out := done }) :
    ∃ t, p.elements.foldlM propertyResultStep r = .ok t ∧ t.flush = .ok { out := p :: done } := by
  obtain ⟨⟨id, index⟩, outcome⟩ := p
  have hreference : (referenceElements 2 3 ⟨id, index⟩).foldlM propertyResultStep r =
      .ok { out := done, property := some ⟨id, index⟩ } := by
    cases index <;>
      simp [referenceElements, propertyResultStep, hr]
  have houtcome : propertyResultStep { out := done, property := some ⟨id, index⟩ } outcome.element =
      .ok { out := done, property := some ⟨id, index⟩, outcome := some outcome } := by
    cases outcome with
    | error text => exact hvalid.elim
    | value v =>
      simp [PropertyOutcome.element, propertyResultStep, ResultReader.readOutcome, ApplicationValue.elements,
        propertyValue_valueElements hnormal]
    | errorResponse cls code =>
      simp [PropertyOutcome.element, propertyResultStep, ResultReader.readOutcome, ApplicationValue.elements,
        decodeBACnetError_elements]
  refine ⟨{ out := done, property := some ⟨id, index⟩, outcome := some outcome },
    Except.foldlM_append_eq_ok_iff.mpr ⟨_, hreference, ?_⟩, rfl⟩
  exact Except.foldlM_cons_eq_ok_iff.mpr ⟨_, houtcome, rfl⟩

lemma decodeRPMPropertyResults_elements {ps : List PropertyResult} (hvalid : ∀ p ∈ ps, p.outcome.Valid)
    (hnormal : ∀ p ∈ ps, p.outcome.Normal) :
    decodeRPMPropertyResults (ps.flatMap PropertyResult.elements) = .ok ps := by
  obtain ⟨t, hfold, hflush⟩ := Except.foldlM_flatMap_ok
    (fun (r : ResultReader) done => r.flush = .ok { out := done })
    (fun p hp r done hr => read_result (hvalid p hp) (hnormal p hp) hr)
    (rfl : ResultReader.flush {} = .ok { out := [] })
  simp [decodeRPMPropertyResults, hfold, hflush]

/-! ### Property values -/

lemma read_writeValue {pv : PropertyValue} (hvalid : pv.Valid) (hnormal : NormalValue pv.value) {r : ValueReader}
    {done : List PropertyValue} (hr : r.flushWrite = .ok { out := done }) :
    ∃ t, pv.elements.foldlM writePropertyValueStep r = .ok t ∧ t.flushWrite = .ok { out := pv :: done } := by
  obtain ⟨⟨id, index⟩, v, priority⟩ := pv
  have hreference : (referenceElements 0 1 ⟨id, index⟩).foldlM writePropertyValueStep r =
      .ok { out := done, property := some ⟨id, index⟩ } := by
    cases index <;>
      simp [referenceElements, writePropertyValueStep, hr]
  have hvalue : writePropertyValueStep { out := done, property := some ⟨id, index⟩ }
      (.ctxConstructed 2 (valueElements v)) = .ok { out := done, property := some ⟨id, index⟩, value := some v } := by
    simp [writePropertyValueStep, ApplicationValue.elements, propertyValue_valueElements hnormal]
  refine ⟨{ out := done, property := some ⟨id, index⟩, value := some v, priority := priority },
    Except.foldlM_append_eq_ok_iff.mpr ⟨_, hreference, Except.foldlM_cons_eq_ok_iff.mpr ⟨_, hvalue, ?_⟩⟩, rfl⟩
  cases priority with
  | none => rfl
  | some p =>
    simp [writePropertyValueStep, contextPriority_ctx (hvalid p rfl)]

lemma decodeWPMPropertyValues_elements {ps : List PropertyValue} (hvalid : ∀ pv ∈ ps, pv.Valid)
    (hnormal : ∀ pv ∈ ps, NormalValue pv.value) :
    decodeWPMPropertyValues (ps.flatMap PropertyValue.elements) = .ok ps := by
  obtain ⟨t, hfold, hflush⟩ := Except.foldlM_flatMap_ok
    (fun (r : ValueReader) done => r.flushWrite = .ok { out := done })
    (fun pv hpv r done hr => read_writeValue (hvalid pv hpv) (hnormal pv hpv) hr)
    (rfl : ValueReader.flushWrite {} = .ok { out := [] })
  simp [decodeWPMPropertyValues, hfold, hflush]

lemma read_covValue {pv : PropertyValue} (hvalid : pv.Valid) (hnormal : NormalValue pv.value) {r : ValueReader}
    {done : List PropertyValue} (hr : r.flushCOV = .ok { out := done }) :
    ∃ t, pv.elements.foldlM covValueStep r = .ok t ∧ t.flushCOV = .ok { out := pv :: done } := by
  obtain ⟨⟨id, index⟩, v, priority⟩ := pv
  have hreference : (referenceElements 0 1 ⟨id, index⟩).foldlM covValueStep r =
      .ok { out := done, property := some ⟨id, index⟩ } := by
    cases index <;>
      simp [referenceElements, covValueStep, hr]
  have hvalue : covValueStep { out := done, property := some ⟨id, index⟩ } (.ctxConstructed 2 (valueElements v)) =
      .ok { out := done, property := some ⟨id, index⟩, value := some v } := by
    simp [covValueStep, ApplicationValue.elements, propertyValue_valueElements hnormal]
  refine ⟨{ out := done, property := some ⟨id, index⟩, value := some v, priority := priority },
    Except.foldlM_append_eq_ok_iff.mpr ⟨_, hreference, Except.foldlM_cons_eq_ok_iff.mpr ⟨_, hvalue, ?_⟩⟩, rfl⟩
  cases priority with
  | none => rfl
  | some p =>
    simp [covValueStep, contextPriority_ctx (hvalid p rfl)]

lemma decodeCOVValues_elements {ps : List PropertyValue} (hvalid : ∀ pv ∈ ps, pv.Valid)
    (hnormal : ∀ pv ∈ ps, NormalValue pv.value) :
    decodeCOVValues (ps.flatMap PropertyValue.elements) = .ok ps := by
  obtain ⟨t, hfold, hflush⟩ := Except.foldlM_flatMap_ok
    (fun (r : ValueReader) done => r.flushCOV = .ok { out := done })
    (fun pv hpv r done hr => read_covValue (hvalid pv hpv) (hnormal pv hpv) hr)
    (rfl : ValueReader.flushCOV {} = .ok { out := [] })
  simp [decodeCOVValues, hfold, hflush]

/-! ## Round trips -/

lemma parseAll_appended {es : List Element}
    (hwithin : WithinLimits limits es) (hbytes : appendTags [] es = .ok bytes) (trailing : String) :
    parseAll bytes limits trailing = .ok (forestWithKindTags es) := by
  have hparse := parseSequence_appended hwithin.fits hwithin.depth hwithin.count hbytes
  simp [parseAll, hparse]

lemma parsePayload_appended {es : List Element}
    (hwithin : WithinLimits limits es) (hbytes : appendTags [] es = .ok bytes) (what : String) :
    parsePayload bytes limits what = .ok (forestWithKindTags es) := parseAll_appended hwithin hbytes _

lemma withKindTags_flatMap {ι : Type} {parts : ι → List Element} {f : ι → ι}
    (h : ∀ x, forestWithKindTags (parts x) = parts (f x)) (xs : List ι) :
    forestWithKindTags (xs.flatMap parts) = (xs.map f).flatMap parts := by
  induction xs with
  | nil => rfl
  | cons x xs ih => simp [List.flatMap_cons, h x, ih]

lemma withKindTags_reference (idTag indexTag : UInt8) (p : PropertyReference) :
    forestWithKindTags (referenceElements idTag indexTag p) = referenceElements idTag indexTag p := by
  obtain ⟨id, _ | idx⟩ := p <;> rfl

lemma withKindTags_access {ι : Type} {items : ι → List Element} {f : ι → ι}
    (h : ∀ x, forestWithKindTags (items x) = items (f x)) (a : Access ι) :
    forestWithKindTags (a.elements items) = (a.map f).elements items := by
  simp only [Access.elements, Access.map, forestWithKindTags, Element.withKindTag, ApplicationValue.withKindTags,
    withKindTags_flatMap h]

lemma withKindTags_valueElements (v : ApplicationValue) :
    forestWithKindTags (valueElements v) = valueElements v.withKindTags := by
  cases v <;> simp [valueElements, ApplicationValue.withKindTags, forestWithKindTags, Element.withKindTag]

lemma withKindTags_result (p : PropertyResult) : forestWithKindTags p.elements = p.withKindTags.elements := by
  obtain ⟨property, outcome⟩ := p
  have houtcome : outcome.element.withKindTag = outcome.withKindTags.element := by
    cases outcome with
    | value v =>
      simp [PropertyOutcome.element, PropertyOutcome.withKindTags, Element.withKindTag,
        ApplicationValue.withKindTags, withKindTags_valueElements]
    | _ => rfl
  simp [PropertyResult.elements, PropertyResult.withKindTags, withKindTags_reference, forestWithKindTags, houtcome]

lemma withKindTags_propertyValue (pv : PropertyValue) :
    forestWithKindTags pv.elements = pv.withKindTags.elements := by
  obtain ⟨property, v, _ | p⟩ := pv <;>
    simp [PropertyValue.elements, PropertyValue.withKindTags, withKindTags_reference, forestWithKindTags,
      Element.withKindTag, ApplicationValue.withKindTags, withKindTags_valueElements]

lemma normalValue_withKindTags {v : ApplicationValue} (h : NormalValue v) : NormalValue v.withKindTags := by
  cases v with
  | constructed els =>
    match els, h with
    | [], _ => trivial
    | [.mk context tag opening closing v], h =>
      obtain rfl : context = true := h
      rfl
    | _ :: _ :: _, _ => trivial
  | _ => trivial

lemma normal_withKindTags {p : PropertyResult} (h : p.outcome.Normal) : p.withKindTags.outcome.Normal := by
  obtain ⟨property, outcome⟩ := p
  cases outcome with
  | value v => exact normalValue_withKindTags h
  | _ => trivial

lemma valid_withKindTags {p : PropertyResult} (h : p.outcome.Valid) : p.withKindTags.outcome.Valid := by
  obtain ⟨property, outcome⟩ := p
  cases outcome with
  | error text => exact h.elim
  | _ => trivial

lemma regular_readPropertyMultiple : Regular readPropertyMultipleFormat where
  object r hr := by rcases hr with hr | hr <;> simp [readPropertyMultipleFormat, hr]
  list r hr := by simp [readPropertyMultipleFormat, hr]

lemma regular_readPropertyMultipleACK : Regular readPropertyMultipleACKFormat where
  object _ _ := rfl
  list _ _ := rfl

lemma regular_writePropertyMultiple : Regular writePropertyMultipleFormat where
  object _ _ := rfl
  list r hr := by simp [writePropertyMultipleFormat, hr]

lemma read_payload {ι : Type} {f : AccessFormat ι} (hf : Regular f) {items : ι → List Element} {tagged : ι → ι}
    (htags : ∀ x, forestWithKindTags (items x) = items (tagged x)) {xs : List (Access ι)} (hwithin : WithinLimits limits (xs.flatMap (Access.elements items)))
    (hbytes : appendTags [] (xs.flatMap (Access.elements items)) = .ok bytes) (hid : ∀ a ∈ xs, a.object.Valid)
    (hitems : ∀ a ∈ xs, f.readList ((a.properties.map tagged).flatMap items) = .ok (a.properties.map tagged))
    (what : String) :
    ∃ els t, parsePayload bytes limits what = .ok els ∧ els.foldlM f.step {} = .ok t ∧
      t.read = (xs.map (Access.map tagged)).reverse ∧ (xs = [] ∨ t.haveProps = true) := by
  have hparse := parsePayload_appended hwithin hbytes what
  rw [withKindTags_flatMap (withKindTags_access htags)] at hparse
  have hid' : ∀ a ∈ xs.map (Access.map tagged), a.object.Valid := List.forall_mem_map.mpr hid
  have hitems' : ∀ a ∈ xs.map (Access.map tagged), f.readList (a.properties.flatMap items) = .ok a.properties :=
    List.forall_mem_map.mpr hitems
  obtain ⟨t, hfold, hread, hlast⟩ := read_accesses hf hid' hitems'
  exact ⟨_, t, hparse, hfold, hread, by simpa using hlast⟩

lemma readPropertyMultiple_roundTrip {specs : List ReadAccessSpecification}
    (hne : specs ≠ []) (hprops : ∀ s ∈ specs, s.properties ≠ [])
    (hwithin : WithinLimits limits (specs.flatMap (Access.elements (referenceElements 0 1)))) :
    RoundTrip limits (encodeReadPropertyMultiple specs) (∀ s ∈ specs, s.object.Valid) decodeReadPropertyMultiple
      specs := by
  have hwrites := fun bytes => Writes.foldlM (writes_access (writes_reference 0 1)) specs [] bytes
  constructor
  · intro bytes hbytes
    obtain ⟨hvalid, happ⟩ := (hwrites bytes).mp hbytes
    have hsame : ∀ p, forestWithKindTags (referenceElements 0 1 p) = referenceElements 0 1 (id p) :=
      withKindTags_reference 0 1
    obtain ⟨els, t, hparse, hfold, hread, hlast⟩ := read_payload regular_readPropertyMultiple hsame hwithin happ
      (fun s hs => (hvalid s hs).1)
      (fun s hs => by simpa [readPropertyMultipleFormat] using decodePropertyReferences_elements (hprops s hs))
      "ReadPropertyMultiple"
    have hmap : (Access.map id : ReadAccessSpecification → ReadAccessSpecification) = id := by
      funext s
      simp [Access.map]
    rw [hmap, List.map_id] at hread
    simp [decodeReadPropertyMultiple, hparse, hfold, hread, hne, hlast.resolve_left hne]
  · intro hvalid hlimits
    obtain ⟨bytes, happ⟩ := appendTags_within hwithin hlimits
    exact ⟨bytes, (hwrites bytes).mpr ⟨fun s hs => ⟨hvalid s hs, fun _ _ => trivial⟩, happ⟩⟩

lemma readPropertyMultipleACK_roundTrip {results : List ReadAccessResult}
    (hnormal : ∀ r ∈ results, ∀ p ∈ r.properties, p.outcome.Normal)
    (hwithin : WithinLimits limits (results.flatMap (Access.elements PropertyResult.elements))) :
    RoundTrip limits (encodeReadPropertyMultipleACK results)
      (∀ r ∈ results, r.Valid fun p => p.outcome.Valid) decodeReadPropertyMultipleACK
      (results.map (Access.map PropertyResult.withKindTags)) := by
  have hwrites := fun bytes => Writes.foldlM (writes_access writes_result) results [] bytes
  constructor
  · intro bytes hbytes
    obtain ⟨hvalid, happ⟩ := (hwrites bytes).mp hbytes
    have hitems : ∀ r ∈ results, decodeRPMPropertyResults
        ((r.properties.map PropertyResult.withKindTags).flatMap PropertyResult.elements) =
          .ok (r.properties.map PropertyResult.withKindTags) := fun r hr =>
      decodeRPMPropertyResults_elements
        (List.forall_mem_map.mpr fun p hp => valid_withKindTags ((hvalid r hr).2 p hp))
        (List.forall_mem_map.mpr fun p hp => normal_withKindTags (hnormal r hr p hp))
    obtain ⟨els, t, hparse, hfold, hread, -⟩ := read_payload regular_readPropertyMultipleACK withKindTags_result
      hwithin happ (fun r hr => (hvalid r hr).1) hitems "RPM ACK"
    simp [decodeReadPropertyMultipleACK, hparse, hfold, hread]
  · intro hvalid hlimits
    obtain ⟨bytes, happ⟩ := appendTags_within hwithin hlimits
    exact ⟨bytes, (hwrites bytes).mpr ⟨hvalid, happ⟩⟩

lemma writePropertyMultiple_roundTrip {specs : List WriteAccessSpecification}
    (hne : specs ≠ []) (hnormal : ∀ s ∈ specs, ∀ p ∈ s.properties, NormalValue p.value)
    (hwithin : WithinLimits limits (specs.flatMap (Access.elements PropertyValue.elements))) :
    RoundTrip limits (encodeWritePropertyMultiple specs)
      (∀ s ∈ specs, s.properties ≠ [] ∧ s.Valid PropertyValue.Valid) decodeWritePropertyMultiple
      (specs.map (Access.map PropertyValue.withKindTags)) := by
  have hwrites (bytes : Octets) : encodeWritePropertyMultiple specs = .ok bytes ↔
      (∀ s ∈ specs, s.properties ≠ [] ∧ s.Valid PropertyValue.Valid) ∧
        appendTags [] (specs.flatMap (Access.elements PropertyValue.elements)) = .ok bytes := by
    simp only [encodeWritePropertyMultiple, List.isEmpty_iff, hne, if_false]
    exact Writes.foldlM writes_writeAccess specs [] bytes
  constructor
  · intro bytes hbytes
    obtain ⟨hvalid, happ⟩ := (hwrites bytes).mp hbytes
    have hitems : ∀ s ∈ specs, decodeWPMPropertyValues
        ((s.properties.map PropertyValue.withKindTags).flatMap PropertyValue.elements) =
          .ok (s.properties.map PropertyValue.withKindTags) := fun s hs =>
      decodeWPMPropertyValues_elements (List.forall_mem_map.mpr fun p hp => (hvalid s hs).2.2 p hp)
        (List.forall_mem_map.mpr fun p hp => normalValue_withKindTags (hnormal s hs p hp))
    obtain ⟨els, t, hparse, hfold, hread, -⟩ := read_payload regular_writePropertyMultiple withKindTags_propertyValue
      hwithin happ (fun s hs => (hvalid s hs).2.1) hitems "WritePropertyMultiple"
    have hlists : t.read.any (·.properties.isEmpty) = false := by
      rw [hread, List.any_reverse, List.any_map, List.any_eq_false]
      exact fun s hs => by simpa [Access.map] using (hvalid s hs).1
    have hsome : t.read.isEmpty = false := by simpa [hread] using hne
    simp only [decodeWritePropertyMultiple, hparse, hfold, hlists, hsome, Bind.bind, Except.bind, Bool.false_eq_true,
      if_false]
    rw [hread, List.reverse_reverse]
  · intro hvalid hlimits
    obtain ⟨bytes, happ⟩ := appendTags_within hwithin hlimits
    exact ⟨bytes, (hwrites bytes).mpr ⟨hvalid, happ⟩⟩

lemma read_covNotification {note : COVNotification} (hdevice : note.initiatingDevice.Valid)
    (hobject : note.monitoredObject.Valid)
    (hvalues : decodeCOVValues (note.values.flatMap PropertyValue.elements) = .ok note.values) :
    note.elements.foldlM covNotificationStep {} =
      .ok ⟨some note.processIdentifier, some note.initiatingDevice, some note.monitoredObject,
        some note.timeRemaining, some note.values⟩ := by
  obtain ⟨pid, device, object, time, values⟩ := note
  have h0 : covNotificationStep {} (.ctx 0 (encodeUnsigned pid.toUInt64)) = .ok ⟨some pid, none, none, none, none⟩ := by
    simp [covNotificationStep, readField]
  have h1 : covNotificationStep ⟨some pid, none, none, none, none⟩ (.ctx 1 device.octets) =
      .ok ⟨some pid, some device, none, none, none⟩ := by
    simp [covNotificationStep, readField, contextObjectID_ctx hdevice]
  have h2 : covNotificationStep ⟨some pid, some device, none, none, none⟩ (.ctx 2 object.octets) =
      .ok ⟨some pid, some device, some object, none, none⟩ := by
    simp [covNotificationStep, readField, contextObjectID_ctx hobject]
  have h3 : covNotificationStep ⟨some pid, some device, some object, none, none⟩
      (.ctx 3 (encodeUnsigned time.toUInt64)) = .ok ⟨some pid, some device, some object, some time, none⟩ := by
    simp [covNotificationStep, readField]
  have h4 : covNotificationStep ⟨some pid, some device, some object, some time, none⟩
      (.ctxConstructed 4 (values.flatMap PropertyValue.elements)) =
        .ok ⟨some pid, some device, some object, some time, some values⟩ := by
    simp [covNotificationStep, readField, ApplicationValue.elements, hvalues]
  simp only [COVNotification.elements, List.foldlM_cons, List.foldlM_nil, h0, h1, h2, h3, h4, Bind.bind, Except.bind,
    Pure.pure, Except.pure]

lemma covNotification_roundTrip {note : COVNotification} (hne : note.values ≠ [])
    (hnormal : ∀ pv ∈ note.values, NormalValue pv.value) (hwithin : WithinLimits limits note.elements) :
    RoundTrip limits (encodeCOVNotification note)
      (note.initiatingDevice.Valid ∧ note.monitoredObject.Valid ∧ ∀ pv ∈ note.values, pv.Valid)
      decodeCOVNotification note.withKindTags := by
  constructor
  · intro bytes hbytes
    obtain ⟨⟨-, hdevice, hobject, hvalid⟩, happ⟩ := (writes_covNotification note).mp hbytes
    have hparse := parsePayload_appended hwithin happ "COV notification"
    have htags : forestWithKindTags note.elements = note.withKindTags.elements := by
      simp [COVNotification.elements, COVNotification.withKindTags, forestWithKindTags, Element.withKindTag,
        ApplicationValue.withKindTags, withKindTags_flatMap withKindTags_propertyValue]
    have hvalues : decodeCOVValues (note.withKindTags.values.flatMap PropertyValue.elements) =
        .ok note.withKindTags.values :=
      decodeCOVValues_elements (List.forall_mem_map.mpr fun pv hpv => hvalid pv hpv)
        (List.forall_mem_map.mpr fun pv hpv => normalValue_withKindTags (hnormal pv hpv))
    have hfold := @read_covNotification note.withKindTags hdevice hobject hvalues
    rw [htags] at hparse
    simp only [decodeCOVNotification, hparse, hfold, Bind.bind, Except.bind]
  · intro hvalid hlimits
    obtain ⟨bytes, happ⟩ := appendTags_within hwithin hlimits
    exact ⟨bytes, (writes_covNotification note).mpr ⟨⟨hne, hvalid⟩, happ⟩⟩

/-- The property access codecs round trip: requests and results of ReadPropertyMultiple, WritePropertyMultiple
requests and COV notifications are read back from their encoding. -/
theorem propertyAccess_roundTrip (limits : DecodeLimits) :
    (∀ specs : List ReadAccessSpecification, specs ≠ [] → (∀ s ∈ specs, s.properties ≠ []) →
      WithinLimits limits (specs.flatMap (Access.elements (referenceElements 0 1))) →
      RoundTrip limits (encodeReadPropertyMultiple specs) (∀ s ∈ specs, s.object.Valid) decodeReadPropertyMultiple
        specs) ∧
    (∀ results : List ReadAccessResult, (∀ r ∈ results, ∀ p ∈ r.properties, p.outcome.Normal) →
      WithinLimits limits (results.flatMap (Access.elements PropertyResult.elements)) →
      RoundTrip limits (encodeReadPropertyMultipleACK results)
        (∀ r ∈ results, r.Valid fun p => p.outcome.Valid) decodeReadPropertyMultipleACK
        (results.map (Access.map PropertyResult.withKindTags))) ∧
    (∀ specs : List WriteAccessSpecification, specs ≠ [] →
      (∀ s ∈ specs, ∀ p ∈ s.properties, NormalValue p.value) →
      WithinLimits limits (specs.flatMap (Access.elements PropertyValue.elements)) →
      RoundTrip limits (encodeWritePropertyMultiple specs)
        (∀ s ∈ specs, s.properties ≠ [] ∧ s.Valid PropertyValue.Valid) decodeWritePropertyMultiple
        (specs.map (Access.map PropertyValue.withKindTags))) ∧
    ∀ note : COVNotification, note.values ≠ [] → (∀ pv ∈ note.values, NormalValue pv.value) →
      WithinLimits limits note.elements →
      RoundTrip limits (encodeCOVNotification note)
        (note.initiatingDevice.Valid ∧ note.monitoredObject.Valid ∧ ∀ pv ∈ note.values, pv.Valid)
        decodeCOVNotification note.withKindTags :=
  ⟨fun _ hne hprops hwithin => readPropertyMultiple_roundTrip hne hprops hwithin,
    fun _ hnormal hwithin => readPropertyMultipleACK_roundTrip hnormal hwithin,
    fun _ hne hnormal hwithin => writePropertyMultiple_roundTrip hne hnormal hwithin,
    fun _ hne hnormal hwithin => covNotification_roundTrip hne hnormal hwithin⟩

/-- Two values of an analog output, one of them an array element with a priority, are read back from their
encoding. -/
theorem propertyAccess_roundTrip_twoWrites :
    decodeWritePropertyMultiple
        [0x0C, 0, 0x40, 0, 3, 0x1E, 0x09, 87, 0x19, 8, 0x2E, 0x21, 5, 0x2F, 0x39, 8, 0x09, 28, 0x2E, 0x2F, 0x1F] {} =
      .ok [⟨⟨1, 3⟩, [⟨⟨87, some 8⟩, .unsigned 5, some 8⟩, ⟨⟨28, none⟩, .constructed [], none⟩]⟩] := by
  refine ((propertyAccess_roundTrip {}).2.2.1
    [⟨⟨1, 3⟩, [⟨⟨87, some 8⟩, .unsigned 5, some 8⟩, ⟨⟨28, none⟩, .constructed [], none⟩]⟩] ?_ ?_ ?_).1 _ ?_
  · simp
  · simp [NormalValue]
  · constructor
    · simp [Access.elements, PropertyValue.elements, referenceElements, valueElements, ApplicationValue.Fits,
        ApplicationValue.tagNumber]
      decide +kernel
    · decide +kernel
    · decide +kernel
  · decide +kernel

end GoBacnet.Proofs
