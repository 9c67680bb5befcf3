import GoBacnet.Proofs.NotificationParameters
import GoBacnet.Service.EventNotification

/-!
# Encoding a decoded event notification again

The fields of a notification are written in the order of their tags and read back in any order, so that what is
read from the encoding of a decoded notification differs from it at most in its parameters.
-/

namespace GoBacnet.Service

def TimeStamp.element : TimeStamp → Element
  | .time t => .ctx 0 [t.hour, t.minute, t.second, t.hundredths]
  | .sequence n => .ctx 1 (encodeUnsigned n.toUInt64)
  | .dateTime dt => .ctxConstructed 2 [.app tagDate (.date dt.date), .app tagTime (.time dt.time)]

def EventNotification.header (note : EventNotification) : List Element :=
  .ctx 0 (encodeUnsigned note.processIdentifier.toUInt64) :: .ctx 1 note.initiatingDevice.octets ::
  .ctx 2 note.eventObject.octets :: .ctxConstructed 3 [note.timeStamp.element] ::
  .ctx 4 (encodeUnsigned note.notificationClass.toUInt64) :: .ctx 5 (encodeUnsigned note.priority.toUInt64) ::
  .ctx 6 (encodeUnsigned note.eventType.toUInt64) ::
  ((note.messageText.map fun s => Element.ctx 7 (s.encoding :: s.value)).toList ++
  .ctx 8 (encodeUnsigned note.notifyType.toUInt64) ::
  ((note.ackRequired.map fun b => Element.ctx 9 [if b then 1 else 0]).toList ++
  ((note.fromState.map fun s => Element.ctx 10 (encodeUnsigned (UInt32.toUInt64 s))).toList ++
  [.ctx 11 (encodeUnsigned note.toState.toUInt64)])))

def EventNotification.body (note : EventNotification) : Except Err (List Element) :=
  match note.parameters with
  | some p => (encodeNotificationParameters p).map fun out => [.ctxConstructed 12 out]
  | none => .ok []

/-- The same fields and the same parameters; the received elements count where no typed body stands for them. -/
structure EventNotification.Same (note' note : EventNotification) : Prop where
  fields : note' = { note with notificationParams := note'.notificationParams, parameters := note'.parameters }
  parameters : Option.Rel NotificationParameters.Same note'.parameters note.parameters
  received : (∀ p ∈ note.parameters, p.Unknown) → note'.notificationParams = note.notificationParams

def EventNotification.Reencodable (limits : DecodeLimits) (note : EventNotification) : Prop :=
  (∀ p ∈ note.parameters, p.Reencodable) ∧
    ∃ els, note.body = .ok els ∧ WithinLimits limits (forestWire (note.header ++ els))

/-- The parameters were received in the form that the encoder gives them. -/
def EventNotification.Canonical (note : EventNotification) : Prop :=
  ∀ p ∈ note.parameters, ∃ out, encodeNotificationParameters p = .ok out ∧
    note.notificationParams = some (.constructed (forestWire out))

/-- What holds of the fields while the elements of a payload are read. -/
structure EventReader.Sound (r : EventReader) : Prop where
  device : ∀ id ∈ r.initiatingDevice, id.Valid
  object : ∀ id ∈ r.eventObject, id.Valid
  text : ∀ s ∈ r.messageText, (s.encoding :: s.value).length ≤ maxUint32
  parameters : ∀ q ∈ r.parameters, (∀ el ∈ q.1, el.Fits Proofs.wireLimits) ∧ decodeNotificationParameters q.1 = .ok q.2

def EventNotification.reader (note : EventNotification) : EventReader where
  processIdentifier := some note.processIdentifier
  initiatingDevice := some note.initiatingDevice
  eventObject := some note.eventObject
  timeStamp := some note.timeStamp
  notificationClass := some note.notificationClass
  priority := some note.priority
  eventType := some note.eventType
  messageText := note.messageText
  notifyType := some note.notifyType
  ackRequired := note.ackRequired
  fromState := note.fromState
  toState := some note.toState

def EventNotification.readBody (note : EventNotification) (els : List Element) : Except Err EventNotification :=
  els.foldlM eventNotificationStep note.reader >>= EventReader.finish

structure EventNotification.Decoded (note : EventNotification) : Prop where
  device : note.initiatingDevice.Valid
  object : note.eventObject.Valid
  text : ∀ s ∈ note.messageText, (s.encoding :: s.value).length ≤ maxUint32
  none : note.parameters = none → note.notificationParams = none
  parameters : ∀ p ∈ note.parameters, ∃ els, note.notificationParams = some (.constructed els) ∧
    (∀ el ∈ els, el.Fits Proofs.wireLimits) ∧ decodeNotificationParameters els = .ok p

end GoBacnet.Service

namespace GoBacnet.Proofs

open GoBacnet.Service

/-! ## Writing -/

lemma encodeTimeStamp_eq (ts : TimeStamp) : encodeTimeStamp ts = appendTags [] [ts.element] := by
  cases ts with
  | time t => exact appendContextPrimitive_eq_appendTags [] 0 _
  | sequence n => exact appendContextPrimitive_eq_appendTags [] 1 _
  | dateTime dt =>
    rw [TimeStamp.element, appendTags_singleton, appendTag_ctxConstructed]
    simp [encodeTimeStamp, appendContextTagged, appendTags, appendTag_app]

lemma writes_timeStamp (tag : UInt8) (htag : tag < 15) (ts : TimeStamp) :
    Writes (fun dst => appendTimeStampField dst tag ts) True [.ctxConstructed tag [ts.element]] := by
  intro dst bytes
  rw [appendTags_enclosed dst _ tag htag, appendTags_append (dst ++ _)]
  unfold appendTimeStampField
  rw [encodeTimeStamp_eq]
  cases appendTags [] [ts.element] <;> simp

lemma appendParameters_eq_ok_iff {note : EventNotification} (hnone : note.parameters = none → note.notificationParams = none) (dst bytes : Octets) :
    appendParameters dst note = .ok bytes ↔ ∃ els, note.body = .ok els ∧ appendTags dst els = .ok bytes := by
  unfold appendParameters EventNotification.body
  cases hp : note.parameters with
  | none =>
    rw [hnone hp]
    simp [appendTags]
  | some p =>
    simp only [Except.bind_eq_ok_iff, Except.map_eq_ok_iff]
    constructor
    · rintro ⟨out, hout, happ⟩
      exact ⟨_, ⟨out, hout, rfl⟩, by rwa [appendTags_singleton, appendTag_ctxConstructed]⟩
    · rintro ⟨_, ⟨out, hout, rfl⟩, happ⟩
      exact ⟨out, hout, by rwa [appendTags_singleton, appendTag_ctxConstructed] at happ⟩

def appendHeader (note : EventNotification) (dst : Octets) : Except Err Octets := do
  let dst ← appendContextUnsigned dst 0 note.processIdentifier.toUInt64
  let dst ← appendContextObjectID dst 1 note.initiatingDevice
  let dst ← appendContextObjectID dst 2 note.eventObject
  let dst ← appendTimeStampField dst 3 note.timeStamp
  let dst ← appendContextUnsigned dst 4 note.notificationClass.toUInt64
  let dst ← appendContextUnsigned dst 5 note.priority.toUInt64
  let dst ← appendContextUnsigned dst 6 note.eventType.toUInt64
  let dst ← appendOptional (appendContextCharacterString · 7 ·) dst note.messageText
  let dst ← appendContextUnsigned dst 8 note.notifyType.toUInt64
  let dst ← appendOptional (appendContextBool · 9 ·) dst note.ackRequired
  let dst ← appendOptional (fun dst state => appendContextUnsigned dst 10 (UInt32.toUInt64 state)) dst note.fromState
  appendContextUnsigned dst 11 note.toState.toUInt64

lemma writes_header (note : EventNotification) :
    Writes (appendHeader note) (note.initiatingDevice.Valid ∧ note.eventObject.Valid) note.header := by
  have htext := Writes.optional (fun s : CharacterString => Writes.primitive 7 (s.encoding :: s.value)) note.messageText
  have hack := Writes.optional (fun b : Bool => Writes.primitive 9 [if b then 1 else 0]) note.ackRequired
  have hfrom := Writes.optional (fun s : UInt32 => Writes.unsigned 10 s.toUInt64) note.fromState
  have h := (Writes.unsigned 0 note.processIdentifier.toUInt64).bind ((Writes.objectID 1 note.initiatingDevice).bind
    ((Writes.objectID 2 note.eventObject).bind ((writes_timeStamp 3 (by decide) note.timeStamp).bind
      ((Writes.unsigned 4 note.notificationClass.toUInt64).bind ((Writes.unsigned 5 note.priority.toUInt64).bind
        ((Writes.unsigned 6 note.eventType.toUInt64).bind (htext.bind
          ((Writes.unsigned 8 note.notifyType.toUInt64).bind (hack.bind (hfrom.bind
            (Writes.unsigned 11 note.toState.toUInt64)))))))))))
  exact h.congr (by simp)

lemma encodeEventNotification_eq_ok_iff {note : EventNotification} (hdevice : note.initiatingDevice.Valid)
    (hobject : note.eventObject.Valid) (hnone : note.parameters = none → note.notificationParams = none) {bytes : Octets} :
    encodeEventNotification note = .ok bytes ↔
      ∃ els, note.body = .ok els ∧ appendTags [] (note.header ++ els) = .ok bytes := by
  have heq : encodeEventNotification note = appendHeader note [] >>= fun dst => appendParameters dst note := by
    simp [encodeEventNotification, appendHeader, bind_assoc]
  rw [heq, Except.bind_eq_ok_iff]
  simp only [writes_header note [], hdevice, hobject, and_true, true_and, appendParameters_eq_ok_iff hnone]
  constructor
  · rintro ⟨dst, hheader, els, hels, happ⟩
    refine ⟨els, hels, ?_⟩
    rw [appendTags_concat, hheader]
    exact happ
  · rintro ⟨els, hels, happ⟩
    rw [appendTags_concat] at happ
    obtain ⟨dst, hheader, happ⟩ := Except.bind_eq_ok_iff.mp happ
    exact ⟨dst, hheader, els, hels, happ⟩

/-! ## Reading -/

lemma readField_eq_ok_iff {α : Type} {old f : Option α} {what : String} {read : Except Err α} :
    readField old what read = .ok f ↔ old = none ∧ ∃ a, read = .ok a ∧ f = some a := by
  unfold readField
  rw [Except.check_eq_ok_iff, Except.map_eq_ok_iff]
  simp only [Option.not_isSome_iff_eq_none, eq_comm (a := f)]

lemma valid_of_contextObjectID {el : Element} {id : ObjectIdentifier} (h : contextObjectID el = .ok id) : id.Valid := by
  obtain ⟨octets, -, h⟩ := Except.bind_eq_ok_iff.mp h
  obtain ⟨-, h⟩ := Except.check_eq_ok_iff.mp h
  rw [← Except.ok.inj h]
  exact decodeObjectIdentifier_range _

lemma length_of_contextCharacterString {el : Element} (hel : el.Fits wireLimits) (hc : isContextConstructed el = false)
    {s : CharacterString} (h : contextCharacterString el = .ok s) : (s.encoding :: s.value).length ≤ maxUint32 := by
  obtain ⟨octets, hoctets, h⟩ := Except.bind_eq_ok_iff.mp h
  have hcontext : el.context = true := by
    have hprimitive := (Except.check_eq_ok_iff.mp hoctets).1
    simp only [Bool.or_eq_true, not_or] at hprimitive
    simpa using hprimitive.1.1.1
  obtain ⟨octets', heq, -, hlen⟩ := primitive_of_fits hel hcontext hc
  rw [heq, contextOctets_ctx] at hoctets
  obtain rfl := Except.ok.inj hoctets
  cases octets' with
  | nil => cases h
  | cons encoding value =>
    cases h
    simpa [wireLimits] using hlen

lemma sound_of_read {α : Type} {old : Option α} {what : String} {read : Except Err α} {set : Option α → EventReader}
    {r' : EventReader} (h : (readField old what read).map set = .ok r')
    (hset : ∀ a, read = .ok a → (set (some a)).Sound) : r'.Sound := by
  obtain ⟨f, hf, rfl⟩ := Except.map_eq_ok_iff.mp h
  obtain ⟨-, a, ha, rfl⟩ := readField_eq_ok_iff.mp hf
  exact hset a ha

lemma eventNotificationStep_sound {r r' : EventReader} {el : Element} (hr : r.Sound) (hel : el.Fits wireLimits)
    (h : eventNotificationStep r el = .ok r') : r'.Sound := by
  obtain ⟨hdevice, hobject, htext, hparams⟩ := hr
  unfold eventNotificationStep at h
  rcases Except.ite_eq_ok_iff.mp h with ⟨-, h⟩ | ⟨-, h⟩
  · exact sound_of_read h fun _ _ => ⟨hdevice, hobject, htext, hparams⟩
  rcases Except.ite_eq_ok_iff.mp h with ⟨-, h⟩ | ⟨-, h⟩
  · exact sound_of_read h fun id hid => ⟨by simpa using valid_of_contextObjectID hid, hobject, htext, hparams⟩
  rcases Except.ite_eq_ok_iff.mp h with ⟨-, h⟩ | ⟨-, h⟩
  · exact sound_of_read h fun id hid => ⟨hdevice, by simpa using valid_of_contextObjectID hid, htext, hparams⟩
  iterate 4
    rcases Except.ite_eq_ok_iff.mp h with ⟨-, h⟩ | ⟨-, h⟩
    · exact sound_of_read h fun _ _ => ⟨hdevice, hobject, htext, hparams⟩
  rcases Except.ite_eq_ok_iff.mp h with ⟨⟨-, hc⟩, h⟩ | ⟨-, h⟩
  · refine sound_of_read h fun s hs => ⟨hdevice, hobject, ?_, hparams⟩
    simpa using length_of_contextCharacterString hel (by simpa using hc) hs
  iterate 4
    rcases Except.ite_eq_ok_iff.mp h with ⟨-, h⟩ | ⟨-, h⟩
    · exact sound_of_read h fun _ _ => ⟨hdevice, hobject, htext, hparams⟩
  rcases Except.ite_eq_ok_iff.mp h with ⟨⟨-, hc⟩, h⟩ | ⟨-, h⟩
  · refine sound_of_read h fun q hq => ⟨hdevice, hobject, htext, ?_⟩
    obtain ⟨p, hp, rfl⟩ := Except.map_eq_ok_iff.mp hq
    obtain ⟨inner, heq, -, hinner⟩ := constructed_of_fits hel hc
    have helements : el.value.elements = inner := by
      rw [heq]
      rfl
    rw [helements] at hp
    simpa [helements] using ⟨hinner, hp⟩
  · cases h

lemma foldlM_sound {els : List Element} (hels : ∀ el ∈ els, el.Fits wireLimits) {r r' : EventReader} (hr : r.Sound)
    (h : els.foldlM eventNotificationStep r = .ok r') : r'.Sound := by
  induction els generalizing r with
  | nil =>
    cases h
    exact hr
  | cons el els ih =>
    obtain ⟨mid, hmid, h⟩ := Except.foldlM_cons_eq_ok_iff.mp h
    exact ih (fun el' hel' => hels el' (by simp [hel'])) (eventNotificationStep_sound hr (hels el (by simp)) hmid) h

lemma decodeTimeStamp_element (ts : TimeStamp) : decodeTimeStamp ts.element = .ok ts := by
  cases ts with
  | time t => rfl
  | sequence n => simp [TimeStamp.element, decodeTimeStamp]
  | dateTime dt => rfl

lemma decodeTimeStampField_element (ts : TimeStamp) :
    decodeTimeStampField (.ctxConstructed 3 [ts.element]) = .ok ts := decodeTimeStamp_element ts

lemma contextNumber8_ctx (tag : UInt8) (u : UInt8) (what : String) :
    contextNumber8 (.ctx tag (encodeUnsigned u.toUInt64)) what = .ok u := by
  have h := u.toNat_lt
  have hle : ¬ u.toUInt64.toNat > 0xFF := by
    simp
    omega
  simp only [contextNumber8, contextUnsigned_ctx, Bind.bind, Except.bind, if_neg hle, UInt8.toUInt8_toUInt64]

section Steps

variable (r : EventReader)

lemma step_processIdentifier (hr : r.processIdentifier = none) (u : UInt32) :
    eventNotificationStep r (.ctx 0 (encodeUnsigned u.toUInt64)) = .ok { r with processIdentifier := some u } := by
  simp [eventNotificationStep, readField, hr]

lemma step_initiatingDevice (hr : r.initiatingDevice = none) {id : ObjectIdentifier} (hid : id.Valid) :
    eventNotificationStep r (.ctx 1 id.octets) = .ok { r with initiatingDevice := some id } := by
  simp [eventNotificationStep, readField, contextObjectID_ctx hid, hr]

lemma step_eventObject (hr : r.eventObject = none) {id : ObjectIdentifier} (hid : id.Valid) :
    eventNotificationStep r (.ctx 2 id.octets) = .ok { r with eventObject := some id } := by
  simp [eventNotificationStep, readField, contextObjectID_ctx hid, hr]

lemma step_timeStamp (hr : r.timeStamp = none) (ts : TimeStamp) :
    eventNotificationStep r (.ctxConstructed 3 [ts.element]) = .ok { r with timeStamp := some ts } := by
  simp [eventNotificationStep, readField, decodeTimeStampField_element, hr]

lemma step_notificationClass (hr : r.notificationClass = none) (u : UInt32) :
    eventNotificationStep r (.ctx 4 (encodeUnsigned u.toUInt64)) = .ok { r with notificationClass := some u } := by
  simp [eventNotificationStep, readField, hr]

lemma step_priority (hr : r.priority = none) (u : UInt8) :
    eventNotificationStep r (.ctx 5 (encodeUnsigned u.toUInt64)) = .ok { r with priority := some u } := by
  simp [eventNotificationStep, readField, contextNumber8_ctx, hr]

lemma step_eventType (hr : r.eventType = none) (u : UInt32) :
    eventNotificationStep r (.ctx 6 (encodeUnsigned u.toUInt64)) = .ok { r with eventType := some u } := by
  simp [eventNotificationStep, readField, hr]

lemma step_messageText (hr : r.messageText = none) (s : CharacterString) :
    eventNotificationStep r (.ctx 7 (s.encoding :: s.value)) = .ok { r with messageText := some s } := by
  simp [eventNotificationStep, readField, contextCharacterString, hr]

lemma step_notifyType (hr : r.notifyType = none) (u : UInt32) :
    eventNotificationStep r (.ctx 8 (encodeUnsigned u.toUInt64)) = .ok { r with notifyType := some u } := by
  simp [eventNotificationStep, readField, hr]

lemma step_ackRequired (hr : r.ackRequired = none) (b : Bool) :
    eventNotificationStep r (.ctx 9 [if b then 1 else 0]) = .ok { r with ackRequired := some b } := by
  simp [eventNotificationStep, readField, contextBool_ctx, hr]

lemma step_fromState (hr : r.fromState = none) (u : UInt32) :
    eventNotificationStep r (.ctx 10 (encodeUnsigned u.toUInt64)) = .ok { r with fromState := some u } := by
  simp [eventNotificationStep, readField, hr]

lemma step_toState (hr : r.toState = none) (u : UInt32) :
    eventNotificationStep r (.ctx 11 (encodeUnsigned u.toUInt64)) = .ok { r with toState := some u } := by
  simp [eventNotificationStep, readField, hr]

lemma step_parameters (hr : r.parameters = none) (els : List Element) :
    eventNotificationStep r (.ctxConstructed 12 els) =
      (decodeNotificationParameters els).map fun p => { r with parameters := some (els, p) } := by
  simp only [eventNotificationStep, readField, hr]
  cases hp : decodeNotificationParameters els <;> simp [ApplicationValue.elements, hp]

end Steps

lemma read_header {note : EventNotification} (hdevice : note.initiatingDevice.Valid)
    (hobject : note.eventObject.Valid) :
    note.header.foldlM eventNotificationStep {} = .ok note.reader := by
  unfold EventNotification.header
  simp only [Except.foldlM_cons_eq_ok_iff, Except.foldlM_append_eq_ok_iff]
  exact ⟨_, step_processIdentifier _ rfl _, _, step_initiatingDevice _ rfl hdevice, _, step_eventObject _ rfl hobject,
    _, step_timeStamp _ rfl _, _, step_notificationClass _ rfl _, _, step_priority _ rfl _, _, step_eventType _ rfl _,
    _, Except.foldlM_optional (fun r text => { r with messageText := text }) rfl fun text _ => step_messageText _ rfl text,
    _, step_notifyType _ rfl _,
    _, Except.foldlM_optional (fun r ack => { r with ackRequired := ack }) rfl fun ack _ => step_ackRequired _ rfl ack,
    _, Except.foldlM_optional (fun r state => { r with fromState := state }) rfl fun state _ => step_fromState _ rfl state,
    _, step_toState _ rfl _, rfl⟩

/-! ## Encoding again -/

lemma forestWire_header (note : EventNotification) : forestWire note.header = note.header := by
  obtain ⟨pid, device, object, ts, cls, priority, type, text, notify, ack, fromState, toState, params, typed⟩ := note
  have hts : ts.element.wire = [ts.element] := by
    cases ts with
    | dateTime dt => simp [TimeStamp.element, ApplicationValue.wire, ApplicationValue.tagNumber]
    | _ => simp [TimeStamp.element]
  cases text <;> cases ack <;> cases fromState <;> simp [EventNotification.header, hts]

lemma timeStamp_fits (ts : TimeStamp) : ts.element.Fits wireLimits := by
  cases ts with
  | time t => exact .ctx 0 _ (by decide) (by simp [wireLimits, maxUint32])
  | sequence n => exact unsigned_fits (by decide) _
  | dateTime dt => simp [TimeStamp.element, ApplicationValue.Fits, tagNumberReserved]

lemma header_fits {note : EventNotification}
    (htext : ∀ s ∈ note.messageText, (s.encoding :: s.value).length ≤ maxUint32) :
    ∀ el ∈ note.header, el.Fits wireLimits := by
  have hid (tag : UInt8) (htag : tag ≠ tagNumberReserved) (id : ObjectIdentifier) :
      (Element.ctx tag id.octets).Fits wireLimits :=
    .ctx tag _ htag (by simp [ObjectIdentifier.octets, wireLimits, maxUint32])
  unfold EventNotification.header
  simp only [List.forall_mem_cons, List.forall_mem_append]
  refine ⟨unsigned_fits (by decide) _, hid 1 (by decide) _, hid 2 (by decide) _,
    .constructed 3 _ (by decide) (by simpa using timeStamp_fits note.timeStamp), unsigned_fits (by decide) _,
    unsigned_fits (by decide) _, unsigned_fits (by decide) _, ?_, unsigned_fits (by decide) _, ?_, ?_,
    unsigned_fits (by decide) _, by simp⟩
  · intro el hel
    obtain ⟨s, hs, rfl⟩ : ∃ s ∈ note.messageText, Element.ctx 7 (s.encoding :: s.value) = el := by simpa using hel
    exact .ctx 7 _ (by decide) (by simpa [wireLimits] using htext s hs)
  · intro el hel
    obtain ⟨b, -, rfl⟩ : ∃ b ∈ note.ackRequired, Element.ctx 9 [if b then 1 else 0] = el := by simpa using hel
    exact .ctx 9 _ (by decide) (by simp [wireLimits, maxUint32])
  · intro el hel
    obtain ⟨state, -, rfl⟩ : ∃ state ∈ note.fromState, Element.ctx 10 (encodeUnsigned state.toUInt64) = el := by
      simpa using hel
    exact unsigned_fits (by decide) _

lemma decodeEventNotification_encoded {note : EventNotification} (hdevice : note.initiatingDevice.Valid)
    (hobject : note.eventObject.Valid) {els : List Element} (hplain : forestPlain (note.header ++ els)) {bytes : Octets}
    (hbytes : appendTags [] (note.header ++ els) = .ok bytes) {limits : DecodeLimits} {note' : EventNotification} :
    decodeEventNotification bytes limits = .ok note' ↔
      WithinLimits limits (forestWire (note.header ++ els)) ∧
        note.readBody (forestWire els) = .ok note' := by
  have hread : (forestWire (note.header ++ els)).foldlM eventNotificationStep {} >>= EventReader.finish =
      note.readBody (forestWire els) := by
    rw [forestWire_append, forestWire_header, List.foldlM_append, read_header hdevice hobject]
    rfl
  unfold decodeEventNotification
  rw [Except.bind_eq_ok_iff]
  constructor
  · rintro ⟨elements, hparse, h⟩
    obtain ⟨⟨elements', n⟩, hseq, hn⟩ := Except.bind_eq_ok_iff.mp hparse
    obtain ⟨hwithin, rfl, rfl⟩ := (parseSequence_wire_iff hplain hbytes).mp hseq
    obtain rfl := Except.ok.inj (Except.check_eq_ok_iff.mp hn).2
    exact ⟨hwithin, by rw [← hread]; exact h⟩
  · rintro ⟨hwithin, h⟩
    refine ⟨forestWire (note.header ++ els), ?_, by rw [← hread] at h; exact h⟩
    have hseq := (parseSequence_wire_iff hplain hbytes).mpr ⟨hwithin, rfl, rfl⟩
    simp [parsePayload, parseAll, hseq, Bind.bind, Except.bind]

lemma readBody_nil (note : EventNotification) :
    note.readBody [] = .ok { note with notificationParams := none, parameters := none } := rfl

lemma readBody_parameters (note : EventNotification) (els : List Element) :
    note.readBody [.ctxConstructed 12 els] = (decodeNotificationParameters els).map fun p =>
      { note with notificationParams := some (.constructed els), parameters := some p } := by
  rw [EventNotification.readBody, List.foldlM_cons, step_parameters note.reader rfl els]
  cases decodeNotificationParameters els <;> rfl

lemma decoded_of_decode {payload : Octets} {limits : DecodeLimits} {note : EventNotification}
    (h : decodeEventNotification payload limits = .ok note) : note.Decoded := by
  obtain ⟨elements, hparse, h⟩ := Except.bind_eq_ok_iff.mp h
  obtain ⟨r, hfold, hfinish⟩ := Except.bind_eq_ok_iff.mp h
  have hels : ∀ el ∈ elements, el.Fits wireLimits := by
    obtain ⟨⟨elements', n⟩, hseq, hn⟩ := Except.bind_eq_ok_iff.mp hparse
    obtain rfl := Except.ok.inj (Except.check_eq_ok_iff.mp hn).2
    obtain ⟨left, hret⟩ := parseSequence_returned hseq
    exact fun el hel => (hret.fits el hel).2
  have hstart : ({} : EventReader).Sound := ⟨by simp, by simp, by simp, by simp⟩
  obtain ⟨hdevice, hobject, htext, hparams⟩ := foldlM_sound hels hstart hfold
  unfold EventReader.finish at hfinish
  split at hfinish
  · next _ hd ho _ _ _ _ _ _ =>
    cases hfinish
    refine ⟨hdevice _ hd, hobject _ ho, htext, fun hnone => ?_, fun p hp => ?_⟩
    · simpa using hnone
    · obtain ⟨q, hq, rfl⟩ := Option.map_eq_some_iff.mp hp
      exact ⟨q.1, by simp [hq], hparams q hq⟩
  · cases hfinish

section Again

variable {note note' : EventNotification} {limits : DecodeLimits} {els : List Element} {bytes : Octets}

lemma returns_of_decoded (hnote : note.Decoded) {p : NotificationParameters} (hp : note.parameters = some p) :
    Returns p := by
  obtain ⟨els, -, hels, hdec⟩ := hnote.parameters p hp
  exact returns_of_decode hels hdec

lemma body_plain (hnote : note.Decoded) (hbody : note.body = .ok els) : forestPlain els := by
  unfold EventNotification.body at hbody
  cases hp : note.parameters with
  | none =>
    rw [hp] at hbody
    cases hbody
    trivial
  | some p =>
    rw [hp] at hbody
    obtain ⟨out, hout, rfl⟩ := Except.map_eq_ok_iff.mp hbody
    simpa [forestPlain, Element.Plain, ApplicationValue.Plain] using (returns_of_decoded hnote hp).plain out hout

lemma decode_encode (hnote : note.Decoded) (henc : encodeEventNotification note = .ok bytes)
    (hdec : decodeEventNotification bytes limits = .ok note') :
    ∃ els, note.body = .ok els ∧ WithinLimits limits (forestWire (note.header ++ els)) ∧
      note.readBody (forestWire els) = .ok note' := by
  obtain ⟨els, hbody, happ⟩ := (encodeEventNotification_eq_ok_iff hnote.device hnote.object hnote.none).mp henc
  have hplain : forestPlain (note.header ++ els) := forestPlain_append.mpr
    ⟨forestPlain_iff.mpr fun el hel => plain_of_fits (header_fits hnote.text el hel), body_plain hnote hbody⟩
  exact ⟨els, hbody, (decodeEventNotification_encoded hnote.device hnote.object hplain happ).mp hdec⟩

lemma encode_decode (hnote : note.Decoded) (hbody : note.body = .ok els) (hfits : ∀ el ∈ els, el.Fits wireLimits)
    (hwithin : WithinLimits limits (forestWire (note.header ++ els)))
    (hread : note.readBody (forestWire els) = .ok note') :
    ∃ bytes, encodeEventNotification note = .ok bytes ∧ decodeEventNotification bytes limits = .ok note' := by
  have hall := List.forall_mem_append.mpr ⟨header_fits hnote.text, hfits⟩
  obtain ⟨bytes, happ⟩ := appendTags_ok_of fun el hel => appendTag_ok wireLimits_encodable (hall el hel)
  have hplain : forestPlain (note.header ++ els) := forestPlain_iff.mpr fun el hel => plain_of_fits (hall el hel)
  exact ⟨bytes, (encodeEventNotification_eq_ok_iff hnote.device hnote.object hnote.none).mpr ⟨els, hbody, happ⟩,
    (decodeEventNotification_encoded hnote.device hnote.object hplain happ).mpr ⟨hwithin, hread⟩⟩

lemma readBody_some {out : List Element} (hread : note.readBody (forestWire [.ctxConstructed 12 out]) = .ok note') :
    ∃ p, decodeNotificationParameters (forestWire out) = .ok p ∧
      note' = { note with notificationParams := some (.constructed (forestWire out)), parameters := some p } := by
  have hwire : forestWire [.ctxConstructed 12 out] = [.ctxConstructed 12 (forestWire out)] := by simp
  rw [hwire, readBody_parameters] at hread
  obtain ⟨p, hp, rfl⟩ := Except.map_eq_ok_iff.mp hread
  exact ⟨p, hp, rfl⟩

lemma reencodable_of_same (hnote : note.Decoded) (henc : encodeEventNotification note = .ok bytes)
    (hdec : decodeEventNotification bytes limits = .ok note') (hsame : note'.Same note) : note.Reencodable limits := by
  obtain ⟨els, hbody, hwithin, hread⟩ := decode_encode hnote henc hdec
  refine ⟨fun p hp => ?_, els, hbody, hwithin⟩
  have hp : note.parameters = some p := hp
  simp only [EventNotification.body, hp] at hbody
  obtain ⟨out, hout, rfl⟩ := Except.map_eq_ok_iff.mp hbody
  obtain ⟨p', hp', rfl⟩ := readBody_some hread
  have hrel : Option.Rel NotificationParameters.Same (some p') (some p) := hp ▸ hsame.parameters
  cases hrel with
  | some h => exact (returns_of_decoded hnote hp).only out p' hout hp' h

lemma back_of_reencodable (hnote : note.Decoded) (hre : note.Reencodable limits) :
    ∃ bytes note', encodeEventNotification note = .ok bytes ∧ decodeEventNotification bytes limits = .ok note' ∧
      note'.Same note ∧ (note.Canonical → note' = note) := by
  obtain ⟨hparams, els, hbody, hwithin⟩ := hre
  cases hp : note.parameters with
  | none =>
    simp only [EventNotification.body, hp] at hbody
    cases hbody
    obtain ⟨bytes, henc, hdec⟩ :=
      encode_decode hnote (by simp [EventNotification.body, hp]) (by simp) hwithin (readBody_nil note)
    have hsame : ({ note with notificationParams := none, parameters := none } : EventNotification) = note := by
      rw [← hnote.none hp, ← hp]
    refine ⟨bytes, _, henc, hdec, ⟨rfl, ?_, fun _ => (hnote.none hp).symm⟩, fun _ => hsame⟩
    rw [hp]
    exact .none
  | some p =>
    obtain ⟨out, p', hout, hfits, hp', hsame⟩ := (returns_of_decoded hnote hp).back (hparams p hp)
    simp only [EventNotification.body, hp, hout, Except.map] at hbody
    cases hbody
    have hread : note.readBody (forestWire [.ctxConstructed 12 out]) =
        .ok { note with notificationParams := some (.constructed (forestWire out)), parameters := some p' } := by
      simp [readBody_parameters, hp']
    obtain ⟨bytes, henc, hdec⟩ := encode_decode hnote (by simp [EventNotification.body, hp, hout])
      (by simpa [tagNumberReserved] using hfits) hwithin hread
    obtain ⟨els, hels, -, hdecoded⟩ := hnote.parameters p hp
    refine ⟨bytes, _, henc, hdec, ⟨rfl, ?_, fun hunknown => ?_⟩, fun hcanonical => ?_⟩
    · rw [hp]
      exact .some hsame
    · have hchoice : p'.choice = p.choice := by rw [hsame.body]
      rw [hels, elements_of_decode hp', elements_of_decode hdecoded, hsame.unknown (hunknown p hp), hchoice]
    · obtain ⟨out', hout', hreceived⟩ := hcanonical p hp
      obtain rfl := Except.ok.inj (hout.symm.trans hout')
      obtain rfl : els = forestWire out := by simpa [hels] using hreceived
      obtain rfl := Except.ok.inj (hp'.symm.trans hdecoded)
      rw [← hels, ← hp]

lemma same_refl (note : EventNotification) : note.Same note := by
  refine ⟨rfl, ?_, fun _ => rfl⟩
  cases note.parameters with
  | none => exact .none
  | some p => exact .some ⟨rfl, fun _ => rfl⟩

lemma canonical_of_decode (hnote : note.Decoded) (henc : encodeEventNotification note = .ok bytes)
    (hdec : decodeEventNotification bytes limits = .ok note) : note.Canonical := by
  obtain ⟨els, hbody, -, hread⟩ := decode_encode hnote henc hdec
  intro p hp
  have hp : note.parameters = some p := hp
  simp only [EventNotification.body, hp] at hbody
  obtain ⟨out, hout, rfl⟩ := Except.map_eq_ok_iff.mp hbody
  obtain ⟨p', -, heq⟩ := readBody_some hread
  exact ⟨out, hout, congrArg EventNotification.notificationParams heq⟩

end Again

/-- A decoded notification is encoded and read back as the same one exactly if its parameters can be encoded again
and the limits admit what the encoder writes; it is read back with the received elements as well exactly if these
have the encoder's form. -/
theorem eventNotification_reencodes {payload : Octets} {limits : DecodeLimits} {note : EventNotification}
    (h : decodeEventNotification payload limits = .ok note) :
    ((∃ bytes note', encodeEventNotification note = .ok bytes ∧ decodeEventNotification bytes limits = .ok note' ∧
        note'.Same note) ↔ note.Reencodable limits) ∧
      ((∃ bytes, encodeEventNotification note = .ok bytes ∧ decodeEventNotification bytes limits = .ok note) ↔
        note.Reencodable limits ∧ note.Canonical) := by
  have hnote := decoded_of_decode h
  refine ⟨⟨?_, fun hre => ?_⟩, ?_, fun ⟨hre, hcanonical⟩ => ?_⟩
  · rintro ⟨bytes, note', henc, hdec, hsame⟩
    exact reencodable_of_same hnote henc hdec hsame
  · obtain ⟨bytes, note', henc, hdec, hsame, -⟩ := back_of_reencodable hnote hre
    exact ⟨bytes, note', henc, hdec, hsame⟩
  · rintro ⟨bytes, henc, hdec⟩
    exact ⟨reencodable_of_same hnote henc hdec (same_refl note), canonical_of_decode hnote henc hdec⟩
  · obtain ⟨bytes, note', henc, hdec, -, hsame⟩ := back_of_reencodable hnote hre
    exact ⟨bytes, henc, hsame hcanonical ▸ hdec⟩

def samplePayload (parameters : Octets) : Octets :=
  [0x09, 1, 0x1C, 2, 0, 0, 1, 0x2C, 0, 0, 0, 1, 0x3E, 0x19, 1, 0x3F, 0x49, 1, 0x59, 1, 0x69, 2, 0x89, 0, 0xB9, 0, 0xCE] ++
    parameters ++ [0xCF]

lemma decoded_of_bind {payload : Octets} {limits : DecodeLimits} {result : Except Err Octets}
    (haccepted : (decodeEventNotification payload limits).isOk = true)
    (hresult : (decodeEventNotification payload limits >>= encodeEventNotification) = result) :
    ∃ note, decodeEventNotification payload limits = .ok note ∧ encodeEventNotification note = result := by
  cases hdec : decodeEventNotification payload limits with
  | error e =>
    rw [hdec] at haccepted
    cases haccepted
  | ok note =>
    rw [hdec] at hresult
    exact ⟨note, rfl, hresult⟩

/-- A choice that is not known is kept. -/
theorem eventNotification_reencodes_unknown :
    ∃ note, decodeEventNotification (samplePayload [0xDE, 0x09, 5, 0xDF]) defaultDecodeLimits = .ok note ∧
      note.Reencodable defaultDecodeLimits ∧ note.Canonical := by
  obtain ⟨note, hdec, henc⟩ := @decoded_of_bind (samplePayload [0xDE, 0x09, 5, 0xDF]) defaultDecodeLimits
    (.ok (samplePayload [0xDE, 0x09, 5, 0xDF])) (by decide +kernel) (by decide +kernel)
  exact ⟨note, hdec, (eventNotification_reencodes hdec).2.mp ⟨_, henc, hdec⟩⟩

/-- The new value of a change of value is accepted as a context primitive; the encoder refuses what the decoder
made of it. -/
theorem primitive_newValue_not_encoded :
    ∃ note, decodeEventNotification (samplePayload [0x2E, 0x09, 5, 0x1A, 4, 0, 0x2F]) defaultDecodeLimits = .ok note ∧
      encodeEventNotification note = .error (unsupported "change-of-value new-value kind 14") :=
  decoded_of_bind (by decide +kernel) (by decide +kernel)

end GoBacnet.Proofs
