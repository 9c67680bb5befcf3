import GoBacnet.Proofs.StateTexts
import GoBacnet.Proofs.WriteBack

/-!
# Writing lists back

Every list and array property of the built-in objects that can be written takes back what was read from it, unless its
encoding is not read as a list. That is so for the texts of a multi-state object with one state: the request then holds
one text and no list.
-/

namespace GoBacnet.Server

/-- The values that are written are like decoded ones: their tags come with constructed values. -/
def PointOp.Plain : PointOp → Prop
  | .writeProperty w => w.value.Plain
  | _ => True

end GoBacnet.Server

namespace GoBacnet.Proofs

open GoBacnet.Server GoBacnet.Service Transition

variable {limits : DecodeLimits}

/-! ## What the request is read as -/

lemma propertyValue_of_length {els : List Element} (h : els.length ≠ 1) : propertyValue els = .constructed els := by
  match els with
  | [] => rfl
  | [el] => simp at h
  | _ :: _ :: _ => rfl

lemma propertyValue_context {els : List Element} (h : ∀ el ∈ els, el.context = true) :
    propertyValue els = .constructed els := by
  match els with
  | [] => rfl
  | [el] => simp [propertyValue, h el]
  | _ :: _ :: _ => rfl

lemma propertyValue_flatMap {ι : Type} {parts : ι → List Element} {xs : List ι}
    (h : ∀ x, ∀ el ∈ parts x, el.context = true) : propertyValue (xs.flatMap parts) = .constructed (xs.flatMap parts) := by
  refine propertyValue_context fun el hel => ?_
  obtain ⟨x, -, hx⟩ := List.mem_flatMap.mp hel
  exact h x el hx

/-! ## Calendar -/

lemma dateList_writesBack {c : Calendar} (hkeep : c.Keeping CalendarState.Valid)
    (hlookup : c.props.lookup propertyDateList = some dateListProperty) :
    c.WritesBack limits propertyDateList ↔ c.Sendable limits propertyDateList := by
  have hentries := hkeep.state.entries
  have hvalue : propertyValue c.state.dateList.wire = .constructed (c.state.entries.map (·.wireElement)) := by
    have hwire : c.state.dateList.wire = c.state.entries.flatMap fun e => [e.wireElement] :=
      (wire_constructed _).trans (forestWire_map fun e he => entryElement_wire (hentries e he))
    rw [hwire, ← List.map_eq_flatMap, propertyValue_context]
    simp [wireElement_context]
  refine writesBack_iff_sendable hlookup rfl rfl rfl (forestPlain_map fun e he => entryElement_plain (hentries e he))
    fun _ => ?_
  have hset : CalendarState.writeDateList ⟨⟨propertyDateList, none⟩, propertyValue c.state.dateList.wire, 0⟩ c.state =
      .ok (c.state.setEntries (c.state.entries.map (·.normal))) := by
    refine scalarSetter_eq_ok_iff.mpr ⟨rfl, ?_⟩
    simp only [hvalue, listElements, parseEntries_wire hentries, List.length_map, gt_iff_lt, if_neg (not_lt.mpr hkeep.state.length)]
  refine ⟨_, hset, ?_⟩
  rw [setEntries_fst]
  simp only [CalendarState.dateList, List.map_map]
  congr 1
  exact List.map_congr_left fun e he => entryElement_normal (hentries e he)

/-! ## Schedule -/

section Schedule

variable {o : Schedule}

lemma weekly_writesBack (ho : ScheduleTable o) :
    o.WritesBack limits propertyWeeklySchedule ↔ o.Sendable limits propertyWeeklySchedule := by
  have hvalues : ∀ d ∈ o.state.weekly.toList, ∀ tv ∈ d.daySchedule, primitive tv.value = true :=
    fun d hd tv htv => (ho.keeping.state.weekly d hd tv htv).1
  have hvalue : propertyValue (encodeWeeklySchedule o.state.weekly).wire =
      .constructed (o.state.weekly.toList.map (·.wireElement)) := by
    rw [encodeWeeklySchedule_wire hvalues, propertyValue_of_length (by simp)]
  have hplain : (encodeWeeklySchedule o.state.weekly).Plain := by
    refine forestPlain_map fun d hd => ?_
    simp [Element.Plain, encodeDailySchedule_plain (hvalues d hd)]
  refine writesBack_iff_sendable ho.weekly rfl rfl rfl hplain fun _ => ?_
  have hcheck : checkWeek o.state.kind o.state.weekly = .ok o.state.kind :=
    foldlM_unchanged fun d hd => checkTimeValues_of_valuesOf (ho.keeping.state.weekly d hd)
  refine ⟨(o.state, [propertyWeeklySchedule]), ?_, rfl⟩
  simp [ScheduleState.writeWeekly, ScheduleState.nextWeek, hvalue, decodeWeeklySchedule_wire, hcheck,
    ApplicationValue.kind]

lemma exceptions_writesBack (ho : ScheduleTable o) :
    o.WritesBack limits propertyExceptionSchedule ↔ o.Sendable limits propertyExceptionSchedule := by
  have hevents : ∀ e ∈ o.state.exceptions, e.Valid := fun e he => (ho.keeping.state.exceptions e he).1
  refine writesBack_iff_sendable ho.exceptions rfl rfl rfl
    (forestPlain_map fun e he => specialEventElement_plain (hevents e he)) fun hsend => ?_
  obtain ⟨dst, bytes, happ⟩ := encoding_of_sendable (readProperty_state ho.exceptions rfl) hsend
  have hids : ∀ e ∈ o.state.exceptions, ∀ id ∈ e.periodObject, id.Valid := fun e he =>
    valid_of_event (encodable_of_appendTags happ _ (List.mem_map_of_mem he))
  have hvalue : propertyValue o.state.exceptionSchedule.wire =
      .constructed (o.state.exceptions.flatMap (·.wireElements)) := by
    have hwire : o.state.exceptionSchedule.wire = o.state.exceptions.flatMap (·.wireElements) :=
      (wire_constructed _).trans (forestWire_map fun e he => specialEventElement_wire (hevents e he) (hids e he))
    rw [hwire, propertyValue_of_length]
    exact length_events_ne_one _
  have hcheck : (o.state.exceptions.map (·.normal)).foldlM checkEvent o.state.kind = .ok o.state.kind := by
    refine foldlM_unchanged fun e he => ?_
    obtain ⟨e', he', rfl⟩ := List.mem_map.mp he
    exact checkEvent_of_eventOf (eventOf_normal (ho.keeping.state.exceptions e' he'))
  refine ⟨({ o.state with exceptions := o.state.exceptions.map (·.normal) }, [propertyExceptionSchedule]), ?_, ?_⟩
  · simp [ScheduleState.writeExceptions, ScheduleState.nextExceptions, hvalue, ApplicationValue.kind,
    ApplicationValue.elements, parseSpecialEvents_wire hevents hids, not_lt.mpr ho.keeping.state.length, hcheck]
  · simp only [ScheduleState.exceptionSchedule, List.map_map]
    congr 1
    exact List.map_congr_left fun e he => specialEventElement_normal (hevents e he)

lemma references_writesBack (ho : ScheduleTable o) :
    o.WritesBack limits propertyListOfObjectPropertyReferences ↔
      o.Sendable limits propertyListOfObjectPropertyReferences ∧ ∀ r ∈ o.state.refs, r.Accepted := by
  have hparse (hsend : o.Sendable limits propertyListOfObjectPropertyReferences)
      (out : List DeviceObjectPropertyReference) :
      parseReferences (listElements (propertyValue o.state.references.wire)) = .ok out ↔
        (∀ r ∈ o.state.refs, r.Accepted) ∧ out = o.state.refs := by
    obtain ⟨dst, bytes, happ⟩ := encoding_of_sendable (readProperty_state ho.references rfl) hsend
    have hrefs : ∀ r ∈ o.state.refs, r.Valid := fun r hr =>
      valid_of_reference (encodable_of_appendTags happ _ (List.mem_map_of_mem hr))
    have hwire : o.state.references.wire = o.state.refs.flatMap (·.wireElements) :=
      (wire_constructed _).trans (forestWire_map fun r hr => referenceElement_wire (hrefs r hr))
    rw [hwire, propertyValue_flatMap fun r => reference_context]
    exact parseReferences_wire hrefs
  refine writesBack_setter_iff ho.references rfl rfl rfl (forestPlain_map fun r _ => referenceElement_plain r)
    (fun hsend hacc => ⟨(o.state, [propertyListOfObjectPropertyReferences]), ?_, rfl⟩) fun hsend r hr => ?_
  · refine scalarSetter_eq_ok_iff.mpr ⟨rfl, ?_⟩
    simp [(hparse hsend _).mpr ⟨hacc, rfl⟩, not_lt.mpr ho.keeping.state.references]
  · obtain ⟨refs, hrefs, -⟩ := Except.bind_eq_ok_iff.mp (scalarSetter_eq_ok_iff.mp hr).2
    exact ((hparse hsend refs).mp hrefs).1

end Schedule

/-! ## Notification Class -/

lemma recipientList_writesBack {nc : NotificationClass} (hnc : NotificationClassTable nc) :
    nc.WritesBack limits propertyRecipientList ↔
      nc.Sendable limits propertyRecipientList ∧ ∀ d ∈ nc.state.recipients, d.Accepted := by
  obtain ⟨hkeep, hlookup⟩ := hnc
  have hplain : nc.state.recipientList.Plain := by
    refine forestPlain_iff.mpr fun el hel => ?_
    obtain ⟨d, -, hd⟩ := List.mem_flatMap.mp hel
    exact forestPlain_iff.mp (destination_plain d) el hd
  have hvalue : propertyValue nc.state.recipientList.wire =
      .constructed (forestWire (nc.state.recipients.flatMap (·.elements))) := by
    rw [NotificationClassState.recipientList, wire_constructed, propertyValue_of_length]
    rw [length_destinations]
    omega
  refine writesBack_setter_iff hlookup rfl rfl rfl hplain (fun _ hacc => ?_) fun _ r hr => ?_
  · have hparse := parseDestinations_wire.mpr ⟨hacc, rfl⟩
    refine ⟨({ nc.state with recipients := nc.state.recipients.map (·.normal) }, [propertyRecipientList]),
      scalarSetter_eq_ok_iff.mpr ⟨rfl, ?_⟩, ?_⟩
    · simp [hvalue, ApplicationValue.kind, ApplicationValue.elements, hparse, not_lt.mpr hkeep.state]
    · simp only [NotificationClassState.recipientList, List.flatMap_map]
      congr 1
      exact List.flatMap_congr fun d hd => elements_normal (hacc d hd)
  · obtain ⟨-, hr⟩ := scalarSetter_eq_ok_iff.mp hr
    obtain ⟨-, hr⟩ := Except.check_eq_ok_iff.mp hr
    rw [hvalue] at hr
    split at hr
    · cases hr
    · next ds hds => exact (parseDestinations_wire.mp hds).1

/-! ## Structured View -/

section StructuredView

variable {o : StructuredView}

lemma subordinates_writesBack (ho : StructuredViewTable o) :
    o.WritesBack limits propertySubordinateList ↔ o.Sendable limits propertySubordinateList := by
  refine writesBack_iff_sendable ho.subordinates rfl rfl rfl (forestPlain_map fun r _ => subordinateElement_plain r)
    fun hsend => ?_
  obtain ⟨dst, bytes, happ⟩ := encoding_of_sendable (readProperty_state ho.subordinates rfl) hsend
  have hsubs : ∀ r ∈ o.state.subs, r.Valid := fun r hr =>
    valid_of_subordinate (encodable_of_appendTags happ _ (List.mem_map_of_mem hr))
  have hvalue : propertyValue o.state.subordinateList.wire =
      .constructed (o.state.subs.flatMap (·.wireElements)) := by
    have hwire : o.state.subordinateList.wire = o.state.subs.flatMap (·.wireElements) :=
      (wire_constructed _).trans (forestWire_map fun r hr => subordinateElement_wire (hsubs r hr))
    rw [hwire, propertyValue_flatMap fun r => subordinate_context]
  have hset : StructuredViewState.writeSubordinates ⟨⟨propertySubordinateList, none⟩,
      propertyValue o.state.subordinateList.wire, 0⟩ o.state = .ok (o.state.setSubordinates o.state.subs) := by
    simp [StructuredViewState.writeSubordinates, hvalue, ApplicationValue.kind, ApplicationValue.elements,
      parseSubordinates_wire hsubs ho.keeping.state.devices, not_lt.mpr ho.keeping.state.length]
  refine ⟨_, hset, ?_⟩
  unfold StructuredViewState.setSubordinates
  split
  · split_ifs <;> rfl
  · rfl

lemma mapM_textOf (texts : List Octets) :
    (listElements (propertyValue (texts.map fun text => Element.app tagCharacterString (charString text)))).mapM
      (fun el => StructuredViewState.textOf el.context el.value) = .ok texts := by
  have hitems (tag : ApplicationTag) (texts : List Octets) :
      (texts.map fun text => Element.app tag (charString text)).mapM
        (fun el => StructuredViewState.textOf el.context el.value) = .ok texts := by
    induction texts with
    | nil => rfl
    | cons text texts ih => exact Except.mapM_cons_eq_ok_iff.mpr ⟨text, texts, rfl, ih, rfl⟩
  by_cases hone : texts.length = 1
  · obtain ⟨text, rfl⟩ := List.length_eq_one_iff.mp hone
    exact hitems 0 [text]
  · rw [propertyValue_of_length (by simpa using hone)]
    exact hitems _ texts

lemma annotations_writesBack (ho : StructuredViewTable o) :
    o.WritesBack limits propertySubordinateAnnotations ↔ o.Sendable limits propertySubordinateAnnotations := by
  rcases ho.annotations with hnone | ⟨hlookup, hannotated⟩
  · have hread (v : ApplicationValue) : o.readProperty ⟨propertySubordinateAnnotations, none⟩ ≠ .ok v := by
      simp [Base.readProperty, hnone]
    refine iff_of_false ?_ ?_ <;>
    · rintro ⟨v, _, _, hv, _⟩
      exact hread v hv
  · obtain ⟨texts, htexts⟩ := Option.isSome_iff_exists.mp hannotated.state
    have hlist : o.state.annotationList = .constructed (texts.map fun text => .app 0 (charString text)) := by
      simp [StructuredViewState.annotationList, htexts]
    have hwire : o.state.annotationList.wire = texts.map fun text => .app tagCharacterString (charString text) := by
      have hitem (text : Octets) : (Element.app 0 (charString text)).wire = [.app tagCharacterString (charString text)] :=
        (wire_app _ _).trans (wire_primitive rfl)
      rw [hlist, wire_constructed, forestWire_map fun text _ => hitem text, ← List.map_eq_flatMap]
    refine writesBack_iff_sendable hlookup rfl rfl rfl ?_ fun _ =>
      ⟨({ o.state with annotations := some texts }, [propertySubordinateAnnotations]), ?_, ?_⟩
    · rw [hlist]
      exact forestPlain_map fun text _ => by simp [Element.Plain, charString, ApplicationValue.Plain]
    · have hlength := ho.keeping.state.annotations texts htexts
      simp [StructuredViewState.writeAnnotations, hwire, mapM_textOf, hlength]
    · simp [StructuredViewState.annotationList, htexts]

end StructuredView

/-! ## State_Text -/

section StateText

variable {p : Point} {els : List Element}

def PlainTexts (els : List Element) : Prop := ∀ el ∈ els, Element.IsText el ∧ el.Plain

def textElement (el : Element) : Element := .app tagCharacterString el.value

lemma wire_text {el : Element} (h : Element.IsText el ∧ el.Plain) : el.wire = [textElement el] := by
  obtain ⟨context, tag, opening, closing, v⟩ := el
  obtain ⟨⟨rfl, hkind⟩, rfl, rfl, -⟩ := h
  have hprim : primitive v = true := by
    simp only [Element.value] at hkind
    simp [primitive, hkind]
  have htag : v.tagNumber = tagCharacterString := by
    cases v with
    | characterString c => rfl
    | _ => cases hkind
  unfold Element.wire
  simp [wire_primitive hprim, htag, textElement, Element.value]

lemma forestWire_texts (h : PlainTexts els) : forestWire els = els.map textElement := by
  have hmap : forestWire (els.map id) = els.flatMap fun el => [textElement el] :=
    forestWire_map fun el hel => wire_text (h el hel)
  rwa [List.map_id, ← List.map_eq_flatMap] at hmap

lemma encode_texts (h : PlainTexts els) (dst : Octets) : appendTags dst (els.map textElement) = appendTags dst els := by
  induction els generalizing dst with
  | nil => rfl
  | cons el els ih =>
    have hel : appendTag dst (textElement el) = appendTag dst el := by
      obtain ⟨context, tag, opening, closing, v⟩ := el
      obtain ⟨⟨⟨rfl, -⟩, rfl, rfl, -⟩, -⟩ := List.forall_mem_cons.mp h
      rw [textElement, appendTag_app, appendTag_app]
      rfl
    simp only [List.map_cons, appendTags, hel]
    congr 1
    funext mid
    exact ih (List.forall_mem_cons.mp h).2 mid

lemma arrayItem_texts (h : PlainTexts els) (idx : UInt32) :
    arrayItem (.constructed (els.map textElement)) idx = arrayItem (.constructed els) idx := by
  unfold arrayItem
  simp only [ApplicationValue.elements, List.length_map, List.getElem?_map]
  cases hel : els[idx.toNat - 1]? with
  | none => rfl
  | some el =>
    have hcontext : el.context = false := (h el (List.mem_of_getElem? hel)).1.1
    simp [textElement, Element.value, hcontext]

lemma writeProperty_stateText {w : Write} (hw : w.property.identifier = propertyStateText)
    (hlookup : p.props.lookup propertyStateText = some (stateTexts els)) :
    Base.writeProperty p w = match (stateTexts els).store w with
      | .error e => (p, .error e, [])
      | .ok q => ({ p with props := p.props.insert propertyStateText q }, .ok (), p.report [propertyStateText]) := by
  unfold Base.writeProperty Base.writeLocked
  rw [hw, hlookup]
  cases hstore : (stateTexts els : Property PointState).store w with
  | error e =>
    rw [stateTexts] at hstore
    simp [stateTexts, hstore]
  | ok q =>
    rw [stateTexts] at hstore
    simp [stateTexts, hstore]

lemma stateText_writesBack (hlookup : p.props.lookup propertyStateText = some (stateTexts els)) (htexts : PlainTexts els) :
    p.WritesBack limits propertyStateText ↔ p.Sendable limits propertyStateText ∧ els.length ≠ 1 := by
  have hread : p.readProperty ⟨propertyStateText, none⟩ = .ok (.constructed els) := by
    simp [Base.readProperty, hlookup, Base.valueOf, stateTexts]
  rw [writesBack_iff hread (forestPlain_iff.mpr fun el hel => (htexts el hel).2)]
  refine and_congr_right fun _ => ?_
  rw [wire_constructed, forestWire_texts htexts]
  constructor
  · rintro ⟨p', changes, hwrite, -⟩ hone
    obtain ⟨el, rfl⟩ := List.length_eq_one_iff.mp hone
    obtain ⟨⟨-, hkind⟩, -⟩ := htexts el (by simp)
    have hrefused : (stateTexts [el] : Property PointState).store
        ⟨⟨propertyStateText, none⟩, propertyValue ([el].map textElement), 0⟩ = .error .invalidDataType := by
      rw [show propertyValue ([el].map textElement) = el.value from rfl]
      cases hv : el.value with
      | constructed els => simp [hv, ApplicationValue.kind] at hkind
      | _ => rfl
    rw [writeProperty_stateText rfl hlookup, hrefused] at hwrite
    cases hwrite
  · intro hlength
    have htaken : (stateTexts els : Property PointState).store
        ⟨⟨propertyStateText, none⟩, propertyValue (els.map textElement), 0⟩ =
          .ok (stateTexts (els.map textElement)) := by
      rw [propertyValue_of_length (by simpa using hlength)]
      refine Except.check_eq_ok_iff.mpr ⟨fun hany => ?_, rfl⟩
      obtain ⟨el', hel', hbad⟩ := List.any_eq_true.mp hany
      obtain ⟨el, hel, rfl⟩ := List.mem_map.mp hel'
      simp [textElement, kindAllowed, stateTexts, (htexts el hel).1.2] at hbad
    refine ⟨_, _, (writeProperty_stateText rfl hlookup).trans (by rw [htaken]), fun idx => ?_⟩
    cases idx with
    | none =>
      simp [Base.readEncoded, Base.readProperty, hlookup, Base.valueOf, stateTexts, appendApplicationValue,
        encode_texts htexts]
    | some idx =>
      simp [Base.readEncoded, Base.readProperty, hlookup, Base.valueOf, stateTexts, arrayItem_texts htexts]

lemma stateText_writesBack_iff (hp : p.Texts PlainTexts) :
    p.WritesBack limits propertyStateText ↔ p.Sendable limits propertyStateText ∧
      ∀ v, p.readProperty ⟨propertyStateText, none⟩ = .ok v → v.elements.length ≠ 1 := by
  cases hlookup : p.props.lookup propertyStateText with
  | none =>
    have hread (v : ApplicationValue) : p.readProperty ⟨propertyStateText, none⟩ ≠ .ok v := by
      simp [Base.readProperty, hlookup]
    refine iff_of_false ?_ ?_
    · rintro ⟨v, _, _, hv, _⟩
      exact hread v hv
    · rintro ⟨⟨v, _, _, hv, _⟩, -⟩
      exact hread v hv
  | some q =>
    obtain ⟨els, rfl, htexts⟩ := hp q hlookup
    rw [stateText_writesBack hlookup htexts]
    simp [Base.readProperty, hlookup, Base.valueOf, stateTexts, ApplicationValue.elements]

end StateText

/-! ## All objects -/

lemma plainTexts_replaced {w : Write} {els els' : List Element} (hplain : w.value.Plain) (htexts : PlainTexts els)
    (h : ReplacesTexts w els els') : PlainTexts els' := by
  intro el hel
  cases h with
  | whole hindex hvalue htexts' =>
    rw [hvalue] at hplain
    exact ⟨htexts' el hel, forestPlain_iff.mp hplain el hel⟩
  | item i hkind =>
    rcases List.mem_or_eq_of_mem_set hel with hel | rfl
    · exact htexts el hel
    · exact ⟨⟨rfl, hkind⟩, rfl, rfl, hplain⟩

lemma plainTexts_reachable {zone : Zone} {new : PointConfig → Except ObjectErr Point} (hnew : new ∈ pointConstructors zone)
    {cfg : PointConfig} {p₀ p : Point} (h : new cfg = .ok p₀) {notify : Bool}
    (hp : ReachableWhere { p₀ with notify } (Point.step zone) (fun _ op => op.Plain) p) : p.Texts PlainTexts := by
  have hcfg (texts : List Octets) : PlainTexts (texts.map fun text => .app 0 (charString text)) := by
    intro el hel
    obtain ⟨text, -, rfl⟩ := List.mem_map.mp hel
    exact ⟨⟨rfl, rfl⟩, rfl, rfl, trivial⟩
  obtain ⟨t, kind, input, commandable, heq⟩ := newPoint_of_constructor hnew cfg
  have htexts : p₀.Texts PlainTexts := texts_newPoint (heq.symm.trans h) fun _ texts _ => hcfg texts
  have hinit : Point.Texts PlainTexts { p₀ with notify } := htexts
  refine hp.invariant (Point.Texts PlainTexts) hinit fun p op p' hp hop hstep => ?_
  cases hstep
  refine texts_perform hp fun w els els' heq _ hels hreplaces => ?_
  subst heq
  exact plainTexts_replaced hop hels hreplaces

/-- A list or array property of a built-in object takes back what was read from it in every state that the object
reaches, provided that the value can be sent at all, that State_Text has more or fewer texts than one, and that references
and recipients which the application configured would be accepted from the network. -/
theorem listProperties_writesBack_iff (limits : DecodeLimits) (notify : Bool) :
    (∀ zone, ∀ new ∈ pointConstructors zone, ∀ cfg p₀, new cfg = .ok p₀ →
      ∀ p : Point, ReachableWhere { p₀ with notify } (Point.step zone) (fun _ op => op.Plain) p →
        (p.WritesBack limits propertyStateText ↔ p.Sendable limits propertyStateText ∧
          ∀ v, p.readProperty ⟨propertyStateText, none⟩ = .ok v → v.elements.length ≠ 1)) ∧
    (∀ today cfg c₀, newCalendar today cfg = .ok c₀ → ∀ c, Reachable { c₀ with notify } Calendar.step c →
      (c.WritesBack limits propertyDateList ↔ c.Sendable limits propertyDateList)) ∧
    (∀ describe cfg o₀, newSchedule describe cfg = .ok o₀ → ∀ o, Reachable { o₀ with notify } Schedule.step o →
      (o.WritesBack limits propertyWeeklySchedule ↔ o.Sendable limits propertyWeeklySchedule) ∧
      (o.WritesBack limits propertyExceptionSchedule ↔ o.Sendable limits propertyExceptionSchedule) ∧
      (o.WritesBack limits propertyListOfObjectPropertyReferences ↔
        o.Sendable limits propertyListOfObjectPropertyReferences ∧ ∀ r ∈ o.state.refs, r.Accepted)) ∧
    (∀ cfg nc₀, newNotificationClass cfg = .ok nc₀ → ∀ nc, Reachable { nc₀ with notify } NotificationClass.step nc →
      (nc.WritesBack limits propertyRecipientList ↔
        nc.Sendable limits propertyRecipientList ∧ ∀ d ∈ nc.state.recipients, d.Accepted)) ∧
    ∀ typeText cfg o₀, newStructuredView typeText cfg = .ok o₀ → ∀ o, Reachable { o₀ with notify } StructuredView.step o →
      (o.WritesBack limits propertySubordinateList ↔ o.Sendable limits propertySubordinateList) ∧
      (o.WritesBack limits propertySubordinateAnnotations ↔ o.Sendable limits propertySubordinateAnnotations) := by
  refine ⟨fun zone new hnew cfg p₀ hp₀ p hp => ?_, fun today cfg c₀ hc₀ c hc => ?_, fun describe cfg o₀ ho₀ o ho => ?_,
    fun cfg nc₀ hnc₀ nc hnc => ?_, fun typeText cfg o₀ ho₀ o ho => ?_⟩
  · exact stateText_writesBack_iff (plainTexts_reachable hnew hp₀ hp)
  · obtain ⟨hkeep, hlookup⟩ := calendar_reachable hc₀ hc
    exact dateList_writesBack hkeep hlookup
  · have htable := schedule_reachable ho₀ ho
    exact ⟨weekly_writesBack htable, exceptions_writesBack htable, references_writesBack htable⟩
  · exact recipientList_writesBack (notificationClass_reachable hnc₀ hnc)
  · have htable := structuredView_reachable ho₀ ho
    exact ⟨subordinates_writesBack htable, annotations_writesBack htable⟩

def oneTextConfig : PointConfig := { instanceNumber := 1, name := [77], numberOfStates := 1, stateText := some [[79, 110]] }

/-- The text is read as a list of one text; the request to write it back is decoded as a text, which is refused. -/
theorem stateText_one_refused : ∃ p₀ bytes req, newMultiStateValue noZone oneTextConfig = .ok p₀ ∧
    p₀.readProperty ⟨propertyStateText, none⟩ = .ok (.constructed [.app 0 (charString [79, 110])]) ∧
    encodeWriteProperty (p₀.writeRequest propertyStateText (.constructed [.app 0 (charString [79, 110])])) = .ok bytes ∧
    decodeWriteProperty bytes defaultDecodeLimits = .ok req ∧ req.value = charString [79, 110] ∧
      (Base.writeProperty p₀ ⟨req.property, req.value, req.priority.getD 0⟩).2.1 = .error .invalidDataType := by
  have hplain : (ApplicationValue.constructed [.app 0 (charString [79, 110])]).Plain := ⟨⟨rfl, rfl, trivial⟩, trivial⟩
  obtain ⟨r, hr⟩ := Except.exists_of_isOk (by decide +kernel :
    (parseSequence [0x0C, 0x04, 0xC0, 0, 1, 0x19, 110, 0x3E, 0x73, 0, 79, 110, 0x3F] defaultDecodeLimits (-1)).isOk = true)
  have hdec := @decodeWriteProperty_wire _ ⟨objectTypeMultiStateValue, 1⟩ propertyStateText _ _ _ hplain rfl hr
  have htexts : PlainTexts [.app 0 (charString [79, 110])] := by simpa [PlainTexts] using ⟨⟨rfl, rfl⟩, rfl, rfl, trivial⟩
  rw [wire_constructed, forestWire_texts htexts] at hdec
  exact ⟨_, _, _, rfl, rfl, rfl, hdec, rfl, rfl⟩

/-- A Calendar with one entry, the first of January of every year. -/
def oneEntryConfig : CalendarConfig := { instanceNumber := 1, name := [77], dateList := [{ date := ⟨0xFF, 1, 1, 0xFF⟩ }] }

/-- A Calendar takes its list of one entry back. -/
theorem dateList_one_writesBack : ∃ c₀, newCalendar ⟨126, 11, 17, 2⟩ oneEntryConfig = .ok c₀ ∧
    c₀.WritesBack defaultDecodeLimits propertyDateList := by
  refine ⟨_, rfl, ?_⟩
  obtain ⟨r, hr⟩ := Except.exists_of_isOk (by decide +kernel :
    (parseSequence [0x0C, 0x01, 0x80, 0, 1, 0x19, 23, 0x3E, 0x0C, 0xFF, 1, 1, 0xFF, 0x3F] defaultDecodeLimits (-1)).isOk =
      true)
  refine ((listProperties_writesBack_iff defaultDecodeLimits false).2.1 ⟨126, 11, 17, 2⟩ oneEntryConfig _ rfl _ .init).mpr ?_
  exact ⟨_, _, r, rfl, rfl, hr⟩

end GoBacnet.Proofs
