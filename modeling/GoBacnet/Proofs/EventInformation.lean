import GoBacnet.Proofs.EventNotification
import GoBacnet.Proofs.ObjectTable
import GoBacnet.Proofs.RangeReply
import GoBacnet.Server.EventInformation

/-!
# Event information read page by page

The reporting objects have distinct identifiers, so going on after the last one received skips exactly those of the
pages before. A page has at least one summary if the budget has room for any one.
-/

namespace GoBacnet.Server

open Service Proofs

variable {β : Type} {env : EventModel β} {d : ObjectTable β} {budget : Int}

/-- What the objects of a device say about themselves: the status of an object names it, and the Device reports
nothing. -/
structure EventModel.Lawful (env : EventModel β) (d : ObjectTable β) : Prop where
  object : ∀ o info, env.eventInfo o = some info → info.object = o.id
  device : ∀ o, d.objects.lookup d.device = some o → env.eventInfo o = none

def FitsOne (env : EventModel β) (d : ObjectTable β) (budget : Int) : Prop :=
  ∀ info ∈ eventInfos env d, info.listed = true → ∀ more, ∃ payload,
    encodeGetEventInformationACK { summaries := [eventSummary env info], moreEvents := more } = .ok payload ∧
      (payload.length : Int) ≤ budget

lemma stampElement_eq (t : Option DateTime) :
    stampElement t = .ctxConstructed 2
      [.app tagDate (.date (t.getD unspecified).date), .app tagTime (.time (t.getD unspecified).time)] := by
  have hfits : ∀ el ∈ [(TimeStamp.dateTime (t.getD unspecified)).element], el.Fits defaultDecodeLimits.normalize := by
    simp [TimeStamp.element, ApplicationValue.Fits]
    decide
  obtain ⟨raw, hraw⟩ := appendTags_ok_of fun el hel => appendTag_ok defaultLimits_encodable (hfits el hel)
  have hdepth : forestDepth [(TimeStamp.dateTime (t.getD unspecified)).element] = 1 := rfl
  have hcount : forestCount [(TimeStamp.dateTime (t.getD unspecified)).element] = 3 := rfl
  have hparse := parseSequence_appended hfits (by rw [hdepth]; decide) (by rw [hcount]; decide) hraw
  simp only [stampElement, encodeTimeStamp_eq, hraw, Bind.bind, Except.bind, hparse]
  rfl

/-! ## The order of the objects -/

lemma less_iff {a b : ObjectIdentifier} : ObjectIdentifier.less a b = true ↔
    a.type.toNat < b.type.toNat ∨
      a.type.toNat = b.type.toNat ∧ a.instanceNumber.toNat < b.instanceNumber.toNat := by
  unfold ObjectIdentifier.less
  by_cases htype : a.type = b.type
  · simp [htype, UInt32.lt_iff_toNat_lt]
  · have hne : a.type.toNat ≠ b.type.toNat := fun h => htype (UInt16.toNat_inj.mp h)
    simp [htype, hne, UInt16.lt_iff_toNat_lt]

lemma less_of_not_less {a b : ObjectIdentifier} (hne : a ≠ b) (h : ObjectIdentifier.less b a = false) :
    ObjectIdentifier.less a b = true := by
  rw [← Bool.not_eq_true, less_iff] at h
  have hparts : ¬ (a.type.toNat = b.type.toNat ∧ a.instanceNumber.toNat = b.instanceNumber.toNat) := by
    rintro ⟨htype, hinstance⟩
    obtain ⟨ta, ia⟩ := a
    obtain ⟨tb, ib⟩ := b
    obtain rfl : ta = tb := UInt16.toNat_inj.mp htype
    obtain rfl : ia = ib := UInt32.toNat_inj.mp hinstance
    exact hne rfl
  rw [less_iff]
  omega

lemma objectIdentifiers_sorted (d : ObjectTable β) :
    (d.objectIdentifiers.tail).Pairwise fun a b => ObjectIdentifier.less a b = true := by
  have hnodup : (d.objects.keys.filter (· ≠ d.device)).Nodup := d.objects.nodupKeys.filter _
  have hperm := List.mergeSort_perm (d.objects.keys.filter (· ≠ d.device)) fun a b => !ObjectIdentifier.less b a
  have htrans : ∀ a b c : ObjectIdentifier, (!ObjectIdentifier.less b a) = true → (!ObjectIdentifier.less c b) = true →
      (!ObjectIdentifier.less c a) = true := by
    intro a b c hab hbc
    simp only [Bool.not_eq_true', ← Bool.not_eq_true, less_iff] at hab hbc ⊢
    omega
  have htotal : ∀ a b : ObjectIdentifier, (!ObjectIdentifier.less b a || !ObjectIdentifier.less a b) = true := by
    intro a b
    simp only [Bool.or_eq_true, Bool.not_eq_true', ← Bool.not_eq_true, less_iff]
    omega
  have hsorted := List.pairwise_mergeSort htrans htotal (d.objects.keys.filter (· ≠ d.device))
  have hdistinct : (d.objectIdentifiers.tail).Pairwise (· ≠ ·) := hperm.nodup_iff.mpr hnodup
  refine (hsorted.and hdistinct).imp fun {a b} h => less_of_not_less h.2 ?_
  simpa using h.1

lemma mem_objectIdentifiers {id : ObjectIdentifier} :
    id ∈ d.objectIdentifiers ↔ id = d.device ∨ id ∈ d.objects := by
  simp only [ObjectTable.objectIdentifiers, List.mem_cons, List.mem_mergeSort, List.mem_filter, AList.mem_keys]
  by_cases hdevice : id = d.device <;> simp [hdevice]

lemma mem_eventInfos {info : EventInfo} :
    info ∈ eventInfos env d ↔ ∃ id o, d.objects.lookup id = some o ∧ env.eventInfo o = some info := by
  simp only [eventInfos, List.mem_filterMap, mem_objectIdentifiers, Option.bind_eq_some_iff]
  constructor
  · rintro ⟨id, -, o, ho, hinfo⟩
    exact ⟨id, o, ho, hinfo⟩
  · rintro ⟨id, o, ho, hinfo⟩
    exact ⟨id, .inr (Table.mem_iff_lookup.mpr ⟨o, ho⟩), o, ho, hinfo⟩

lemma eventInfos_sorted (hd : d.Sound) (hlaw : env.Lawful d) :
    (eventInfos env d).Pairwise fun a b => ObjectIdentifier.less a.object b.object = true := by
  have hnamed : ∀ id info, (d.objects.lookup id).bind env.eventInfo = some info → info.object = id := by
    intro id info h
    obtain ⟨o, ho, hinfo⟩ := Option.bind_eq_some_iff.mp h
    exact (hlaw.object o info hinfo).trans (hd.keyed id o ho)
  have hdevice : (d.objects.lookup d.device).bind env.eventInfo = none := by
    rw [Option.bind_eq_none_iff]
    exact hlaw.device
  have hlist : eventInfos env d = d.objectIdentifiers.tail.filterMap fun id => (d.objects.lookup id).bind env.eventInfo := by
    simp [eventInfos, ObjectTable.objectIdentifiers, hdevice]
  rw [hlist, List.pairwise_filterMap]
  refine (objectIdentifiers_sorted d).imp fun {a b} hless x hx y hy => ?_
  rw [hnamed a x hx, hnamed b y hy]
  exact hless

/-! ## One page -/

lemma encode_one {s : EventSummary} {more : Bool} {payload : Octets}
    (h : encodeGetEventInformationACK { summaries := [s], moreEvents := more } = .ok payload) :
    ∃ part, encodeEventSummary s = .ok part := by
  obtain ⟨dst, hdst, -⟩ := Except.bind_eq_ok_iff.mp h
  rw [List.foldlM_cons] at hdst
  obtain ⟨mid, hmid, -⟩ := Except.bind_eq_ok_iff.mp hdst
  obtain ⟨part, hpart, -⟩ := Except.bind_eq_ok_iff.mp hmid
  exact ⟨part, hpart⟩

lemma foldlM_summaries_ok {summaries : List EventSummary}
    (h : ∀ s ∈ summaries, ∃ part, encodeEventSummary s = .ok part) (dst : Octets) :
    ∃ out, summaries.foldlM (fun dst s => do return dst ++ (← encodeEventSummary s)) dst = .ok out := by
  induction summaries generalizing dst with
  | nil => exact ⟨dst, rfl⟩
  | cons s summaries ih =>
    obtain ⟨part, hpart⟩ := h s List.mem_cons_self
    obtain ⟨out, hout⟩ := ih (fun s hs => h s (List.mem_cons_of_mem _ hs)) (dst ++ part)
    exact ⟨out, by rw [List.foldlM_cons, hpart]; exact hout⟩

lemma encode_ok {summaries : List EventSummary} (h : ∀ s ∈ summaries, ∃ part, encodeEventSummary s = .ok part)
    (more : Bool) : ∃ payload, encodeGetEventInformationACK { summaries, moreEvents := more } = .ok payload := by
  obtain ⟨out, hout⟩ := foldlM_summaries_ok h [0x0E]
  have hmore := appendContextPrimitive_eq (out ++ [0x0F]) (show (1 : UInt8) ≠ tagNumberReserved by decide)
    (show [if more then (1 : UInt8) else 0].length ≤ maxUint32 by simp [maxUint32])
  exact ⟨_, Except.bind_eq_ok_iff.mpr ⟨out, hout, hmore⟩⟩

lemma eventPage_ok {all : List EventSummary}
    (hone : ∀ s ∈ all, ∀ more, ∃ payload,
      encodeGetEventInformationACK { summaries := [s], moreEvents := more } = .ok payload ∧
        (payload.length : Int) ≤ budget) {m : Nat} (hm : m ≤ all.length) :
    ∃ n payload, n ≤ m ∧ (0 < m → 0 < n) ∧ eventPage budget all m =
      .ok ({ summaries := all.take n, moreEvents := n < all.length }, payload) := by
  have hparts : ∀ s ∈ all, ∃ part, encodeEventSummary s = .ok part := by
    intro s hs
    obtain ⟨payload, hpayload, -⟩ := hone s hs false
    exact encode_one hpayload
  have hencode : ∀ n more, ∃ payload,
      encodeGetEventInformationACK { summaries := all.take n, moreEvents := more } = .ok payload :=
    fun n => encode_ok fun s hs => hparts s (List.mem_of_mem_take hs)
  induction m with
  | zero =>
    obtain ⟨payload, hpayload⟩ := hencode 0 (0 < all.length)
    refine ⟨0, payload, le_refl _, fun h => h, ?_⟩
    simp only [List.take_zero] at hpayload
    simp [eventPage, hpayload]
  | succ m ih =>
    obtain ⟨payload, hpayload⟩ := hencode (m + 1) (m + 1 < all.length)
    by_cases hfits : (payload.length : Int) ≤ budget
    · refine ⟨m + 1, payload, le_refl _, fun h => h, ?_⟩
      simp [eventPage, hpayload, hfits]
    · -- One summary fits, so there were at least two.
      have hmany : 0 < m := by
        by_contra hnone
        obtain rfl : m = 0 := by omega
        obtain ⟨s, rest, rfl⟩ := List.exists_cons_of_length_pos (show 0 < all.length by omega)
        obtain ⟨payload', hpayload', hlen⟩ := hone s List.mem_cons_self (decide (0 + 1 < (s :: rest).length))
        exact hfits (Except.ok.inj (hpayload.symm.trans hpayload') ▸ hlen)
      obtain ⟨n, payload', hn, hpos, hpage⟩ := ih (by omega)
      refine ⟨n, payload', by omega, fun _ => hpos hmany, ?_⟩
      simp [eventPage, hpayload, hfits, hpage]

/-! ## The pages in turn -/

lemma afterLast_append {before after : List EventInfo} {info : EventInfo}
    (hne : ∀ b ∈ before, b.object ≠ info.object) : afterLast (some info.object) (before ++ info :: after) = after := by
  have hdrop : (before ++ info :: after).dropWhile (·.object ≠ info.object) = info :: after := by
    rw [List.dropWhile_append_of_pos (by simpa using hne)]
    simp
  simp only [afterLast, hdrop]
  rfl

lemma split_at_last {infos : List EventInfo} {n : Nat} (hn : 0 < n) (hlt : n < (infos.filter EventInfo.listed).length) :
    ∃ before info after, infos = before ++ info :: after ∧
      (infos.filter EventInfo.listed).take n = before.filter EventInfo.listed ++ [info] ∧
      (infos.filter EventInfo.listed).drop n = after.filter EventInfo.listed := by
  obtain ⟨k, rfl⟩ := Nat.exists_eq_succ_of_ne_zero hn.ne'
  have hk : k < (infos.filter EventInfo.listed).length := by omega
  obtain ⟨info, hinfo⟩ : ∃ info, (infos.filter EventInfo.listed)[k]? = some info := ⟨_, List.getElem?_eq_getElem hk⟩
  have htake : (infos.filter EventInfo.listed).take (k + 1) = (infos.filter EventInfo.listed).take k ++ [info] := by
    rw [List.take_add_one, hinfo]
    rfl
  have hsplit : infos.filter EventInfo.listed = (infos.filter EventInfo.listed).take k ++
      info :: (infos.filter EventInfo.listed).drop (k + 1) := by
    conv_lhs => rw [← List.take_append_drop (k + 1) (infos.filter EventInfo.listed), htake]
    simp
  obtain ⟨l₁, l₂, hinfos, h₁, h₂⟩ := List.filter_eq_append_iff.mp hsplit
  obtain ⟨skipped, after, rfl, hskipped, -, hafter⟩ := List.filter_eq_cons_iff.mp h₂
  have hnone : skipped.filter EventInfo.listed = [] := List.filter_eq_nil_iff.mpr hskipped
  refine ⟨l₁ ++ skipped, info, after, hinfos.trans (by simp), ?_, hafter.symm⟩
  rw [List.filter_append, hnone, h₁, List.append_nil, htake]

/-- What a requester is to receive: pages with summaries and more to come, and a last one with nothing to come. -/
structure Paged (expected : List EventSummary) (pages : List GetEventInformationACK) : Prop where
  all : pages.flatMap GetEventInformationACK.summaries = expected
  full : ∀ page ∈ pages.dropLast, page.summaries ≠ [] ∧ page.moreEvents = true
  ends : ∃ page, pages.getLast? = some page ∧ page.moreEvents = false

lemma Paged.last {ack : GetEventInformationACK} (hmore : ack.moreEvents = false) : Paged ack.summaries [ack] where
  all := by simp
  full := by simp
  ends := ⟨ack, rfl, hmore⟩

lemma Paged.cons {expected : List EventSummary} {pages : List GetEventInformationACK} (h : Paged expected pages)
    {ack : GetEventInformationACK} (hne : ack.summaries ≠ []) (hmore : ack.moreEvents = true) :
    Paged (ack.summaries ++ expected) (ack :: pages) := by
  obtain ⟨page, hpage, hend⟩ := h.ends
  have hpages : pages ≠ [] := by
    rintro rfl
    simp at hpage
  refine ⟨by rw [List.flatMap_cons, h.all], ?_, page, ?_, hend⟩
  · rw [List.dropLast_cons_of_ne_nil hpages, List.forall_mem_cons]
    exact ⟨⟨hne, hmore⟩, h.full⟩
  · rw [List.getLast?_cons, hpage]
    rfl

section Asking

variable {ε : Type} {ask : Option ObjectIdentifier → Except ε GetEventInformationACK} {fuel : Nat}
  {last : Option ObjectIdentifier} {ack : GetEventInformationACK}

lemma eventPages_last (h : ask last = .ok ack) (hmore : ack.moreEvents = false) :
    Client.eventPages ask (fuel + 1) last = .ok [ack] := by
  simp [Client.eventPages, h, hmore]

lemma eventPages_more {s : EventSummary} {pages : List GetEventInformationACK} (h : ask last = .ok ack)
    (hmore : ack.moreEvents = true) (hs : ack.summaries.getLast? = some s)
    (hrest : Client.eventPages ask fuel (some s.object) = .ok pages) :
    Client.eventPages ask (fuel + 1) last = .ok (ack :: pages) := by
  simp [Client.eventPages, h, hmore, hs, hrest]

end Asking

lemma eventPages_from (hnodup : (eventInfos env d).Pairwise fun a b => a.object ≠ b.object)
    (hfits : FitsOne env d budget) :
    ∀ {fuel : Nat} {last : Option ObjectIdentifier} {before left : List EventInfo},
      eventInfos env d = before ++ left → afterLast last (eventInfos env d) = left →
      (left.filter EventInfo.listed).length < fuel →
      ∃ pages, Client.eventPages (fun last => (getEventInformation env d budget last).map Prod.fst) fuel last = .ok pages ∧
        Paged ((left.filter EventInfo.listed).map (eventSummary env)) pages := by
  intro fuel
  induction fuel with
  | zero => exact fun _ _ hfuel => absurd hfuel (Nat.not_lt_zero _)
  | succ fuel ih =>
    intro last before left hinfos hlast hfuel
    have hone : ∀ s ∈ (left.filter EventInfo.listed).map (eventSummary env), ∀ more, ∃ payload,
        encodeGetEventInformationACK { summaries := [s], moreEvents := more } = .ok payload ∧
          (payload.length : Int) ≤ budget := by
      intro s hs more
      obtain ⟨info, hinfo, rfl⟩ := List.mem_map.mp hs
      obtain ⟨hmem, hlisted⟩ := List.mem_filter.mp hinfo
      exact hfits info (hinfos ▸ List.mem_append_right _ hmem) hlisted more
    obtain ⟨n, payload, hn, hpos, hpage⟩ := eventPage_ok hone (le_refl _)
    rw [List.length_map] at hn hpos hpage
    have hask : (getEventInformation env d budget last).map Prod.fst = .ok
        { summaries := ((left.filter EventInfo.listed).take n).map (eventSummary env)
          moreEvents := n < (left.filter EventInfo.listed).length } := by
      simp only [getEventInformation, hlast, List.length_map, hpage, ← List.map_take]
      rfl
    by_cases hmore : n < (left.filter EventInfo.listed).length
    · have hnpos : 0 < n := hpos (by omega)
      obtain ⟨skipped, info, after, hleft, htake, hdrop⟩ := split_at_last hnpos hmore
      have hsplit : eventInfos env d = (before ++ skipped) ++ info :: after := by
        rw [hinfos, hleft, List.append_assoc]
      have hskipped : ∀ b ∈ before ++ skipped, b.object ≠ info.object := by
        rw [hsplit, List.pairwise_append] at hnodup
        exact fun b hb => hnodup.2.2 b hb info List.mem_cons_self
      have hnext : afterLast (some info.object) (eventInfos env d) = after := by
        rw [hsplit]
        exact afterLast_append hskipped
      obtain ⟨pages, hpages, hpaged⟩ := ih (hsplit.trans (List.append_cons ..)) hnext
        (by rw [← hdrop, List.length_drop]; omega)
      have hlastSummary : (((left.filter EventInfo.listed).take n).map (eventSummary env)).getLast? =
          some (eventSummary env info) := by
        rw [htake]
        simp
      refine ⟨_, eventPages_more hask (decide_eq_true hmore) hlastSummary hpages, ?_⟩
      have hexpected : (left.filter EventInfo.listed).map (eventSummary env) =
          ((left.filter EventInfo.listed).take n).map (eventSummary env) ++
            (after.filter EventInfo.listed).map (eventSummary env) := by
        rw [← hdrop, ← List.map_append, List.take_append_drop]
      rw [hexpected]
      have hne : ((left.filter EventInfo.listed).take n).map (eventSummary env) ≠ [] := by
        rw [htake]
        simp
      exact @Paged.cons _ _ hpaged ⟨_, _⟩ hne (decide_eq_true hmore)
    · refine ⟨_, eventPages_last hask (decide_eq_false hmore), ?_⟩
      have hall : (left.filter EventInfo.listed).take n = left.filter EventInfo.listed :=
        List.take_of_length_le (not_lt.mp hmore)
      rw [hall]
      exact @Paged.last ⟨_, _⟩ (decide_eq_false hmore)

/-- Asking on after the last object received gives every object listed exactly once, in the order of the identifiers,
on pages of which only the last may be empty, and ends with a page that has nothing to come. -/
theorem getEventInformation_pages (env : EventModel β) (d : ObjectTable β) (hd : d.Sound) (hlaw : env.Lawful d)
    (budget : Int) (hfits : FitsOne env d budget) (fuel : Nat)
    (hfuel : ((eventInfos env d).filter EventInfo.listed).length < fuel) :
    ∃ pages, Client.eventPages (fun last => (getEventInformation env d budget last).map Prod.fst) fuel none = .ok pages ∧
      (∀ page ∈ pages.dropLast, page.summaries ≠ [] ∧ page.moreEvents = true) ∧
      (∃ page, pages.getLast? = some page ∧ page.moreEvents = false) ∧
      (pages.flatMap GetEventInformationACK.summaries).Pairwise
        (fun a b => ObjectIdentifier.less a.object b.object = true) ∧
      ∀ s, s ∈ pages.flatMap GetEventInformationACK.summaries ↔
        ∃ id o info, d.objects.lookup id = some o ∧ env.eventInfo o = some info ∧ info.listed = true ∧
          s = eventSummary env info := by
  have hsorted := eventInfos_sorted hd hlaw
  have hnodup : (eventInfos env d).Pairwise fun a b => a.object ≠ b.object := by
    refine hsorted.imp fun {a b} hless heq => ?_
    rw [heq, less_iff] at hless
    omega
  have hstart : afterLast none (eventInfos env d) = eventInfos env d := rfl
  obtain ⟨pages, hpages, hpaged⟩ := eventPages_from hnodup hfits (List.nil_append _).symm hstart hfuel
  refine ⟨pages, hpages, hpaged.full, hpaged.ends, ?_, fun s => ?_⟩
  · rw [hpaged.all, List.pairwise_map]
    exact hsorted.filter _
  · rw [hpaged.all, List.mem_map]
    constructor
    · rintro ⟨info, hinfo, rfl⟩
      obtain ⟨hmem, hlisted⟩ := List.mem_filter.mp hinfo
      obtain ⟨id, o, ho, heq⟩ := mem_eventInfos.mp hmem
      exact ⟨id, o, info, ho, heq, hlisted, rfl⟩
    · rintro ⟨id, o, info, ho, heq, hlisted, rfl⟩
      exact ⟨info, List.mem_filter.mpr ⟨mem_eventInfos.mpr ⟨id, o, ho, heq⟩, hlisted⟩, rfl⟩

def alarmObjects : EventModel UInt32 where
  eventInfo o :=
    if o.id.type = objectTypeDevice then none
    else some {
      object := o.id, eventState := o.body, acked := 7, timeStamps := (none, none, none), notifyType := 0
      eventEnable := 7, notificationClass := 1 }
  priorities _ := (255, 255, 255)

def alarmDevice : ObjectTable UInt32 where
  device := ⟨objectTypeDevice, 1⟩
  maxObjects := 65535
  objects := (∅ : Table ObjectIdentifier (Obj UInt32)).insert ⟨objectTypeDevice, 1⟩
    { id := ⟨objectTypeDevice, 1⟩, name := [100], body := 0 }
  names := (∅ : Table Octets ObjectIdentifier).insert [100] ⟨objectTypeDevice, 1⟩

def twoAlarms : ObjectTable UInt32 :=
  ((alarmDevice.add { id := ⟨0, 7⟩, name := [97], body := 3 }).1.add { id := ⟨0, 2⟩, name := [98], body := 4 }).1

lemma ok_of_any {x : Except Err Octets} (h : x.toOption.any (fun p => decide ((p.length : Int) ≤ budget)) = true) :
    ∃ payload, x = .ok payload ∧ (payload.length : Int) ≤ budget := by
  cases x with
  | error e => simp [Except.toOption] at h
  | ok payload => exact ⟨payload, rfl, by simpa [Except.toOption] using h⟩

/-- In 70 octets there is room for one of the two alarms. -/
theorem getEventInformation_pages_twoAlarms :
    ∃ pages, Client.eventPages (fun last => (getEventInformation alarmObjects twoAlarms 70 last).map Prod.fst) 10 none =
        .ok pages ∧ ∃ page, pages.getLast? = some page ∧ page.moreEvents = false := by
  have hdevice : alarmDevice.Sound := ObjectTable.sound_newDevice (show newDevice ⟨1, [100], 0⟩ 0 = .ok alarmDevice from rfl)
  have hsound : twoAlarms.Sound := ObjectTable.sound_add (ObjectTable.sound_add hdevice _) _
  have hlaw : alarmObjects.Lawful twoAlarms := by
    constructor
    · intro o info h
      simp only [alarmObjects] at h
      split_ifs at h
      exact Option.some.inj h ▸ rfl
    · intro o ho
      have hid : o.id.type = objectTypeDevice := hsound.keyed _ o ho ▸ rfl
      exact if_pos hid
  have hobjects : ∀ id o, twoAlarms.objects.lookup id = some o → o.id.type = objectTypeDevice ∨
      o = { id := ⟨0, 7⟩, name := [97], body := 3 } ∨ o = { id := ⟨0, 2⟩, name := [98], body := 4 } := by
    intro id o ho
    have hmem := Table.mem_entries_iff.mpr ho
    have hentries : twoAlarms.objects.entries =
        [⟨⟨0, 2⟩, { id := ⟨0, 2⟩, name := [98], body := 4 }⟩, ⟨⟨0, 7⟩, { id := ⟨0, 7⟩, name := [97], body := 3 }⟩,
          ⟨⟨objectTypeDevice, 1⟩, { id := ⟨objectTypeDevice, 1⟩, name := [100], body := 0 }⟩] := rfl
    simp only [hentries, List.mem_cons, List.not_mem_nil, or_false, Sigma.mk.injEq] at hmem
    rcases hmem with ⟨-, h⟩ | ⟨-, h⟩ | ⟨-, h⟩ <;> obtain rfl := eq_of_heq h
    · exact .inr (.inr rfl)
    · exact .inr (.inl rfl)
    · exact .inl rfl
  have hfits : FitsOne alarmObjects twoAlarms 70 := by
    intro info hinfo hlisted more
    obtain ⟨id, o, ho, h⟩ := mem_eventInfos.mp hinfo
    rcases hobjects id o ho with hdevice | rfl | rfl
    · simp [alarmObjects, hdevice] at h
    · cases h
      cases more <;> exact ok_of_any (by simp only [eventSummary, stampElement_eq]; decide +kernel)
    · cases h
      cases more <;> exact ok_of_any (by simp only [eventSummary, stampElement_eq]; decide +kernel)
  have hfew : ((eventInfos alarmObjects twoAlarms).filter EventInfo.listed).length < 10 := by
    refine lt_of_le_of_lt ((List.length_filter_le _ _).trans (List.length_filterMap_le _ _)) ?_
    rw [ObjectTable.objectIdentifiers, List.length_cons, List.length_mergeSort]
    decide +kernel
  obtain ⟨pages, hpages, -, hends, -⟩ := getEventInformation_pages alarmObjects twoAlarms hsound hlaw 70 hfits 10 hfew
  exact ⟨pages, hpages, hends⟩

end GoBacnet.Server
