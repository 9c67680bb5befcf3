import GoBacnet.Proofs.ListValues

/-!
# Constructed datatypes over the wire

A value is encoded, its elements are written one after another, read by a parser with any limits and decoded. Groups
and the types of context primitives are lost on the way; each decoder recovers them.
-/

namespace GoBacnet

/-- The elements have an encoding. Every parser whose limits admit the elements that it carries reads it, and what a
parser reads is decoded to `x`. -/
def Transfers {ε α : Type} (es : List Element) (decode : List Element → Except ε α) (x : α) : Prop :=
  ∃ bytes, appendTags [] es = .ok bytes ∧ ∀ limits : DecodeLimits,
    (∀ els n, parseSequence bytes limits (-1) = .ok (els, n) → n = bytes.length ∧ decode els = .ok x) ∧
    ((∃ r, parseSequence bytes limits (-1) = .ok r) ↔ WithinLimits limits (forestWire es))

/-- A destination as a parser returns it: a valid device or an address, and no bits beyond the seven days and the three
transitions. -/
structure Server.Destination.Valid (d : Destination) : Prop where
  accepted : d.Accepted
  normal : d.normal = d

/-- Only the fields of the choice are set, and the name is not too long for a tag. -/
structure HostNPort.Valid (h : HostNPort) : Prop where
  none : h.none = true → h.name = [] ∧ h.ip = .replicate 4 0
  name : h.name ≠ [] → h.ip = .replicate 4 0
  length : h.name.length < maxUint32

/-- The value of each entry is a primitive that has an encoding. -/
def DailySchedule.Valid (d : DailySchedule) : Prop := ∀ tv ∈ d.daySchedule, tv.value.Fits Proofs.wireLimits

end GoBacnet

namespace GoBacnet.Proofs

open GoBacnet.Server

/-! ## Encodings -/

lemma transfers_of_wire {ε α : Type} {es : List Element} {decode : List Element → Except ε α} {x : α}
    (hplain : forestPlain es) (hok : ∀ el ∈ es, ∃ enc, appendTag [] el = .ok enc)
    (hdecode : decode (forestWire es) = .ok x) : Transfers es decode x := by
  obtain ⟨bytes, hbytes⟩ := appendTags_ok_of hok
  refine ⟨bytes, hbytes, fun limits => ⟨fun els n hparse => ?_, ?_⟩⟩
  · obtain ⟨-, rfl, rfl⟩ := (parseSequence_wire_iff hplain hbytes).mp hparse
    exact ⟨rfl, hdecode⟩
  · constructor
    · rintro ⟨⟨els, n⟩, hparse⟩
      exact ((parseSequence_wire_iff hplain hbytes).mp hparse).1
    · intro hwithin
      exact ⟨_, parseSequence_wire hbytes hwithin⟩

lemma appendTag_fits {el : Element} (h : el.Fits wireLimits) : ∃ enc, appendTag [] el = .ok enc :=
  appendTag_ok wireLimits_encodable h

lemma appendTag_context {tag : UInt8} {v : ApplicationValue} {raw : Octets} (hv : ∀ els, v ≠ .constructed els)
    (htag : tag ≠ tagNumberReserved) (hraw : contextContentOctets v = .ok raw) (hlen : raw.length ≤ maxUint32) :
    ∃ enc, appendTag [] (.mk true tag false false v) = .ok enc := by
  obtain ⟨enc, henc⟩ := appendTag_fits (.ctx tag raw htag (by simpa [wireLimits] using hlen))
  have hctx : contextContentOctets (.context raw) = .ok raw := rfl
  refine ⟨enc, ?_⟩
  rw [← henc]
  unfold appendTag
  cases v with
  | constructed els => exact absurd rfl (hv els)
  | _ => simp only [hraw, hctx, if_true]

lemma appendTag_enclosed {tag : UInt8} (htag : tag ≠ tagNumberReserved) {els : List Element}
    (hok : ∀ el ∈ els, ∃ enc, appendTag [] el = .ok enc) : ∃ enc, appendTag [] (.ctxConstructed tag els) = .ok enc := by
  obtain ⟨inner, hinner⟩ := appendTags_ok_of hok
  rw [appendTag_constructed htag, hinner]
  exact ⟨_, rfl⟩

lemma appendTag_group {tag : ApplicationTag} {els : List Element}
    (hok : ∀ el ∈ els, ∃ enc, appendTag [] el = .ok enc) :
    ∃ enc, appendTag [] (.app tag (.constructed els)) = .ok enc := by
  obtain ⟨inner, hinner⟩ := appendTags_ok_of hok
  refine ⟨inner, ?_⟩
  rw [appendTag_app]
  unfold appendApplicationValue
  exact hinner

/-! ## Destinations -/

lemma recipient_fits {d : Destination} (h : d.Accepted) : d.recipient.Fits wireLimits := by
  cases hdevice : d.device with
  | some id =>
    have hid : id.Valid := by simpa [Destination.Accepted, hdevice] using h
    have hlength : id.octets.length = 4 := BigEndian.length_octets 4 _
    rw [recipient_device hdevice hid]
    exact .ctx 0 id.octets (by decide) (by rw [hlength]; decide)
  | none =>
    have hmac : d.mac.length ≤ maxMACLength := by simpa [Destination.Accepted, hdevice] using h
    have hwire : (d.mac.length : Int) ≤ wireLimits.maxOctetStringLength := by
      simp only [maxMACLength] at hmac
      simp only [wireLimits, maxUint32]
      omega
    rw [recipient_address hdevice]
    refine .constructed 1 _ (by decide) (List.forall_mem_cons.mpr ⟨.app _ _ trivial, ?_⟩)
    exact List.forall_mem_singleton.mpr (.app _ _ hwire)

lemma maskBits_fits (n : Nat) (hn : 1 ≤ n) (mask : UInt8) : (maskBits n mask).Fits wireLimits := by
  have hunused : UInt8.ofNat (8 - n) ≤ 7 := by
    rw [UInt8.le_iff_toNat_le, UInt8.toNat_ofNat']
    exact (Nat.mod_le _ _).trans (by simp; omega)
  rw [maskBits_eq]
  exact ⟨hunused, by simp, by simp [wireLimits, maxUint32]⟩

lemma destination_fits {d : Destination} (h : d.Accepted) : ∀ el ∈ d.elements, el.Fits wireLimits := by
  have happ (v : ApplicationValue) (hv : v.Fits wireLimits) : (Element.app 0 v).Fits wireLimits := .app 0 v hv
  simp only [Destination.elements, List.forall_mem_cons, List.not_mem_nil, false_implies, implies_true, and_true]
  exact ⟨happ _ (maskBits_fits 7 (by decide) _), happ _ trivial, happ _ trivial, recipient_fits h, happ _ trivial,
    happ _ trivial, happ _ (maskBits_fits 3 (by decide) _)⟩

/-- A list of destinations is read back from the seven elements of each. -/
theorem destinations_roundTrip (ds : List Destination) (hvalid : ∀ d ∈ ds, d.Valid) :
    Transfers (ds.flatMap (·.elements)) parseDestinations ds := by
  refine transfers_of_wire ?_ ?_ ?_
  · refine forestPlain_iff.mpr fun el hel => ?_
    obtain ⟨d, -, hel⟩ := List.mem_flatMap.mp hel
    exact forestPlain_iff.mp (destination_plain d) el hel
  · intro el hel
    obtain ⟨d, hd, hel⟩ := List.mem_flatMap.mp hel
    exact appendTag_fits (destination_fits (hvalid d hd).accepted el hel)
  · refine parseDestinations_wire.mpr ⟨fun d hd => (hvalid d hd).accepted, ?_⟩
    exact ((List.map_congr_left fun d hd => (hvalid d hd).normal).trans (List.map_id' ds)).symm

/-- Weekdays from 8 to 17 o'clock to Device 5, and at all times to a station with a MAC of one octet. -/
def twoDestinations : List Destination :=
  [{ validDays := 0x1F, fromTime := ⟨8, 0, 0, 0⟩, toTime := ⟨17, 0, 0, 0⟩, device := some ⟨8, 5⟩, processID := 1
     confirmed := true, transitions := 7 },
    { validDays := 0x7F, fromTime := ⟨0, 0, 0, 0⟩, toTime := ⟨23, 59, 59, 99⟩, network := 2, mac := [9], transitions := 1 }]

theorem destinations_roundTrip_two :
    Transfers (twoDestinations.flatMap (·.elements)) parseDestinations twoDestinations := by
  refine destinations_roundTrip twoDestinations ?_
  refine List.forall_mem_cons.mpr ⟨⟨?_, rfl⟩, List.forall_mem_singleton.mpr ⟨?_, rfl⟩⟩
  · exact ⟨by decide, by decide⟩
  · exact (by decide : [9].length ≤ maxMACLength)

/-! ## Calendar entries and schedules -/

/-- A decoder applied to the elements of a constructed value. -/
def decodeElements {α : Type} (decode : ApplicationValue → Except Err α) (els : List Element) : Except Err α :=
  decode (.constructed els)

lemma dateRange_transfers (dr : DateRange) :
    Transfers (encodeDateRange dr).elements (decodeElements decodeDateRange) dr := by
  have hdate (d : Date) : (ApplicationValue.date d).wire = [.app tagDate (.date d)] := wire_primitive rfl
  refine transfers_of_wire ?_ ?_ ?_
  · simp [encodeDateRange, ApplicationValue.elements, forestPlain, Element.Plain, ApplicationValue.Plain]
  · refine List.forall_mem_cons.mpr ⟨appendTag_fits (.app _ _ trivial), List.forall_mem_singleton.mpr ?_⟩
    exact appendTag_fits (.app _ _ trivial)
  · simp [encodeDateRange, ApplicationValue.elements, hdate, decodeElements, decodeDateRange, asDate, Bind.bind,
      Except.bind, Pure.pure, Except.pure]

lemma entryElement_encoded {e : CalendarEntry} (h : e.Valid) : ∃ enc, appendTag [] (entryElement e) = .ok enc := by
  obtain ⟨choice, date, range, week⟩ := e
  obtain rfl | rfl | rfl := choice_cases h
  · exact appendTag_context (by simp) (by decide) rfl (by simp [maxUint32])
  · refine appendTag_fits (.constructed 1 _ (by decide) ?_)
    exact List.forall_mem_cons.mpr ⟨.app _ _ trivial, List.forall_mem_singleton.mpr (.app _ _ trivial)⟩
  · exact appendTag_fits (.ctx 2 _ (by decide) (by simp [wireLimits, maxUint32]))

lemma encodeCalendarEntry_valid {e : CalendarEntry} (h : e.Valid) :
    encodeCalendarEntry e = .ok (.constructed [entryElement e]) := by
  obtain ⟨choice, date, range, week⟩ := e
  obtain rfl | rfl | rfl := choice_cases h <;> rfl

lemma decodeCalendarEntry_wire {e : CalendarEntry} (h : e.Valid) :
    decodeCalendarEntry (.constructed [e.wireElement]) = .ok e.normal := by
  obtain ⟨choice, date, range, week⟩ := e
  obtain rfl | rfl | rfl := choice_cases h <;> rfl

lemma calendarEntry_transfers {e : CalendarEntry} (h : e.Valid) :
    Transfers [entryElement e] (decodeElements decodeCalendarEntry) e.normal := by
  refine transfers_of_wire ?_ ?_ ?_
  · simp [forestPlain, entryElement_plain h]
  · exact List.forall_mem_singleton.mpr (entryElement_encoded h)
  · rw [forestWire_cons, entryElement_wire h, forestWire_nil, List.append_nil]
    exact decodeCalendarEntry_wire h

lemma primitive_of_valueFits {v : ApplicationValue} (h : v.Fits wireLimits) : primitive v = true := by
  cases v with
  | constructed els => exact h.elim
  | context octets => exact h.elim
  | _ => rfl

lemma dailySchedule_encoded {d : DailySchedule} (h : d.Valid) :
    ∀ el ∈ (encodeDailySchedule d).elements, ∃ enc, appendTag [] el = .ok enc := by
  rw [encodeDailySchedule_eq, ApplicationValue.elements]
  refine List.forall_mem_singleton.mpr (appendTag_enclosed (by decide) (List.forall_mem_map.mpr fun tv htv => ?_))
  refine appendTag_group (List.forall_mem_cons.mpr ⟨appendTag_fits (.app _ _ trivial), ?_⟩)
  exact List.forall_mem_singleton.mpr (appendTag_fits (.app _ _ (h tv htv)))

lemma dailySchedule_transfers {d : DailySchedule} (h : d.Valid) :
    Transfers (encodeDailySchedule d).elements (decodeElements decodeDailySchedule) d := by
  have hprimitive : ∀ tv ∈ d.daySchedule, primitive tv.value = true := fun tv htv => primitive_of_valueFits (h tv htv)
  have hwire := encodeDailySchedule_wire hprimitive
  have hplain := encodeDailySchedule_plain hprimitive
  refine transfers_of_wire ?_ (dailySchedule_encoded h) ?_
  · simpa [encodeDailySchedule_eq, ApplicationValue.Plain, ApplicationValue.elements] using hplain
  · have hforest : forestWire (encodeDailySchedule d).elements = [d.wireElement] := by
      simpa [encodeDailySchedule_eq, ApplicationValue.elements] using hwire
    rw [hforest]
    exact decodeDailySchedule_wire d

lemma weeklySchedule_transfers {w : WeeklySchedule} (h : ∀ d ∈ w.toList, d.Valid) :
    Transfers (encodeWeeklySchedule w).elements (decodeElements decodeWeeklySchedule) w := by
  have hprimitive : ∀ d ∈ w.toList, ∀ tv ∈ d.daySchedule, primitive tv.value = true :=
    fun d hd tv htv => primitive_of_valueFits (h d hd tv htv)
  have hwire := encodeWeeklySchedule_wire hprimitive
  refine transfers_of_wire ?_ ?_ ?_
  · refine forestPlain_map fun d hd => ?_
    simp [Element.Plain, encodeDailySchedule_plain (hprimitive d hd)]
  · refine List.forall_mem_map.mpr fun d hd => ?_
    have henc := dailySchedule_encoded (h d hd)
    rw [encodeDailySchedule_eq] at henc ⊢
    exact appendTag_group henc
  · have hforest : forestWire (encodeWeeklySchedule w).elements = w.toList.map (·.wireElement) := by
      rw [← hwire, encodeWeeklySchedule, wire_constructed, ApplicationValue.elements]
    rw [hforest]
    exact decodeWeeklySchedule_wire w

/-! ## Hosts -/

def hostElement (h : HostNPort) : Element :=
  if h.none then .ctx 0 []
  else if h.name ≠ [] then .mk true 2 false false (.characterString ⟨0, h.name⟩)
  else .mk true 1 false false (.octetString h.ip.toList)

/-- The element that is read for the host. -/
def hostWire (h : HostNPort) : Element :=
  if h.none then .ctx 0 [] else if h.name ≠ [] then .ctx 2 (0 :: h.name) else .ctx 1 h.ip.toList

section Host

variable {h : HostNPort}

lemma hostElement_wire (h : HostNPort) : (hostElement h).wire = [hostWire h] := by
  unfold hostElement hostWire
  split_ifs
  · simp
  · rw [wire_under, wireUnder_primitive (by simp)]
    rfl
  · rw [wire_under, wireUnder_primitive (by simp)]
    rfl

lemma hostElement_plain (h : HostNPort) : (hostElement h).Plain := by
  unfold hostElement
  split_ifs <;> simp [Element.Plain, ApplicationValue.Plain]

lemma hostElement_encoded (hvalid : h.Valid) : ∃ enc, appendTag [] (hostElement h) = .ok enc := by
  unfold hostElement
  split_ifs
  · exact appendTag_fits (.ctx 0 [] (by decide) (by simp [wireLimits, maxUint32]))
  · exact appendTag_context (by simp) (by decide) rfl hvalid.length
  · exact appendTag_context (by simp) (by decide) rfl (by simp [maxUint32])

lemma decodeHost_wire (hvalid : h.Valid) : decodeHost (hostWire h) = .ok { h with port := 0 } := by
  obtain ⟨ip, name, none, port⟩ := h
  cases none with
  | true =>
    obtain ⟨rfl, rfl⟩ := hvalid.none rfl
    rfl
  | false =>
    by_cases hname : name = []
    · subst hname
      obtain ⟨⟨octets⟩, hoctets⟩ := ip
      match octets, hoctets with
      | [a, b, c, d], _ => rfl
    · obtain rfl := hvalid.name hname
      simp [hostWire, hname, decodeHost, contextCharacterString, contextOctets, ApplicationValue.isConstructed,
        ApplicationValue.octets, Bind.bind, Except.bind]

lemma decodePort_wire (port : UInt16) : decodePort (.ctx 1 (encodeUnsigned port.toUInt64)) = .ok port := by
  have hle : ¬ port.toUInt64 > 0xFFFF := by
    have hlt := port.toNat_lt
    simp only [gt_iff_lt, UInt64.lt_iff_toNat_lt]
    simp
    omega
  simp [decodePort, contextUnsigned_ctx, hle, Bind.bind, Except.bind]

lemma hostWire_context (h : HostNPort) : ∃ tag octets, hostWire h = .ctx tag octets := by
  unfold hostWire
  split_ifs
  · exact ⟨_, _, rfl⟩
  · exact ⟨_, _, rfl⟩
  · exact ⟨_, _, rfl⟩

lemma decodeHostNPort_wire (hvalid : h.Valid) :
    decodeHostNPort (.constructed [.ctxConstructed 0 [hostWire h], .ctx 1 (encodeUnsigned h.port.toUInt64)]) = .ok h := by
  have hhost := decodeHost_wire hvalid
  obtain ⟨tag, octets, hwire⟩ := hostWire_context h
  rw [hwire] at hhost ⊢
  simp [decodeHostNPort, ApplicationValue.elements, ApplicationValue.isConstructed, hhost, decodePort_wire, Bind.bind,
    Except.bind, Pure.pure, Except.pure]

lemma encodeHostNPort_eq (h : HostNPort) : (encodeHostNPort h).elements =
    [.ctxConstructed 0 [hostElement h], .mk true 1 false false (.unsigned h.port.toUInt64)] := rfl

lemma hostNPort_transfers (hvalid : h.Valid) :
    Transfers (encodeHostNPort h).elements (decodeElements decodeHostNPort) h := by
  rw [encodeHostNPort_eq]
  refine transfers_of_wire ?_ ?_ ?_
  · simp [forestPlain, Element.Plain, ApplicationValue.Plain, hostElement_plain]
  · refine List.forall_mem_cons.mpr ⟨appendTag_enclosed (by decide) ?_, List.forall_mem_singleton.mpr ?_⟩
    · exact List.forall_mem_singleton.mpr (hostElement_encoded hvalid)
    · have hlength := (length_encodeUnsigned h.port.toUInt64).2
      exact appendTag_context (by simp) (by decide) rfl (hlength.trans (by simp [maxUint32]))
  · simp only [forestWire_cons, forestWire_nil, wire_under, wireUnder_constructed, wireUnder_unsigned, hostElement_wire,
      List.append_nil, List.cons_append, List.nil_append]
    exact decodeHostNPort_wire hvalid

end Host

/-- Calendar entries, date ranges, daily and weekly schedules and hosts are read back from their elements. -/
theorem constructedTypes_roundTrip :
    (∀ e : CalendarEntry, e.Valid → e.normal = e →
      ∃ v, encodeCalendarEntry e = .ok v ∧ Transfers v.elements (decodeElements decodeCalendarEntry) e) ∧
    (∀ h : HostNPort, h.Valid → Transfers (encodeHostNPort h).elements (decodeElements decodeHostNPort) h) ∧
    (∀ dr : DateRange, Transfers (encodeDateRange dr).elements (decodeElements decodeDateRange) dr) ∧
    (∀ d : DailySchedule, d.Valid →
      Transfers (encodeDailySchedule d).elements (decodeElements decodeDailySchedule) d) ∧
    ∀ w : WeeklySchedule, (∀ d ∈ w.toList, d.Valid) →
      Transfers (encodeWeeklySchedule w).elements (decodeElements decodeWeeklySchedule) w := by
  refine ⟨fun e hvalid hnormal => ?_, fun h hvalid => hostNPort_transfers hvalid, dateRange_transfers,
    fun d hvalid => dailySchedule_transfers hvalid, fun w hvalid => weeklySchedule_transfers hvalid⟩
  refine ⟨_, encodeCalendarEntry_valid hvalid, ?_⟩
  have htransfers := calendarEntry_transfers hvalid
  rwa [hnormal] at htransfers

/-- A range of dates, a named host, and a week with one entry on each day. -/
theorem constructedTypes_roundTrip_values :
    (∃ v, encodeCalendarEntry { choice := calendarEntryDateRange, dateRange := ⟨⟨126, 1, 1, 4⟩, ⟨126, 1, 31, 6⟩⟩ } = .ok v ∧
      Transfers v.elements (decodeElements decodeCalendarEntry)
        { choice := calendarEntryDateRange, dateRange := ⟨⟨126, 1, 1, 4⟩, ⟨126, 1, 31, 6⟩⟩ }) ∧
    Transfers (encodeHostNPort { name := [104], port := 47808 }).elements (decodeElements decodeHostNPort)
      { name := [104], port := 47808 } ∧
    Transfers (encodeWeeklySchedule (.replicate 7 ⟨[⟨⟨8, 0, 0, 0⟩, .real 0x41A80000⟩]⟩)).elements
      (decodeElements decodeWeeklySchedule) (.replicate 7 ⟨[⟨⟨8, 0, 0, 0⟩, .real 0x41A80000⟩]⟩) := by
  obtain ⟨hentry, hhost, -, -, hweek⟩ := constructedTypes_roundTrip
  refine ⟨hentry _ ?_ rfl, hhost _ ⟨by simp, fun _ => rfl, by decide⟩, hweek _ ?_⟩
  · exact (by decide : calendarEntryDateRange ≤ 2)
  · intro d hd tv htv
    obtain rfl : d = ⟨[⟨⟨8, 0, 0, 0⟩, .real 0x41A80000⟩]⟩ := by simpa using hd
    obtain rfl : tv = ⟨⟨8, 0, 0, 0⟩, .real 0x41A80000⟩ := by simpa using htv
    trivial

end GoBacnet.Proofs
