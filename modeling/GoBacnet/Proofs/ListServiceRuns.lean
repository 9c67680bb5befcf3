import GoBacnet.Proofs.ObjectRuns

/-!
# The list services of Calendars and Notification Classes

AddListElement and RemoveListElement change a list as a whole or not at all. A removal takes one occurrence of each
element that it names, and a written list may hold an element twice.
-/

namespace GoBacnet.Server

variable {α : Type}

/-- A request failed at the first item that does not fit, or gave the list `result`. -/
structure ListOutcome (items : List α) (fits : List α → α → Prop) (result list' : List α) (r : Except ListError Unit) :
    Prop where
  failed : ∀ e, r = .error e → e.NamesFirst items fits
  succeeded : r = .ok () → list' = result

/-- What the list services do to the Date_List of a Calendar. -/
structure Calendar.ListServices (c : Calendar) : Prop where
  addFailed : ∀ prop els e, (c.addListElements prop els).2.1 = .error e → (c.addListElements prop els).1 = c
  removeFailed : ∀ prop els e, (c.removeListElements prop els).2.1 = .error e → (c.removeListElements prop els).1 = c
  add : ∀ els items, parseEntries els = .ok items →
    ListOutcome items (AddFits c.state.max c.state.entries) (added c.state.entries items)
      (c.addListElements ⟨propertyDateList, none⟩ els).1.state.entries
      (c.addListElements ⟨propertyDateList, none⟩ els).2.1
  remove : ∀ els items, parseEntries els = .ok items →
    ListOutcome items (RemoveFits c.state.entries) (c.state.entries.diff items)
      (c.removeListElements ⟨propertyDateList, none⟩ els).1.state.entries
      (c.removeListElements ⟨propertyDateList, none⟩ els).2.1

/-- What the list services do to the Recipient_List of a Notification Class. -/
structure NotificationClass.ListServices (nc : NotificationClass) : Prop where
  addFailed : ∀ prop els e, (nc.addListElements prop els).2.1 = .error e → (nc.addListElements prop els).1 = nc
  removeFailed : ∀ prop els e, (nc.removeListElements prop els).2.1 = .error e →
    (nc.removeListElements prop els).1 = nc
  add : ∀ els items, parseDestinations els = .ok items →
    ListOutcome items (AddFits nc.state.maxRecipients nc.state.recipients) (added nc.state.recipients items)
      (nc.addListElements ⟨propertyRecipientList, none⟩ els).1.state.recipients
      (nc.addListElements ⟨propertyRecipientList, none⟩ els).2.1
  remove : ∀ els items, parseDestinations els = .ok items →
    ListOutcome items (RemoveFits nc.state.recipients) (nc.state.recipients.diff items)
      (nc.removeListElements ⟨propertyRecipientList, none⟩ els).1.state.recipients
      (nc.removeListElements ⟨propertyRecipientList, none⟩ els).2.1

end GoBacnet.Server

namespace GoBacnet.Proofs

open GoBacnet.Server Transition

section Outcome

variable {σ α : Type} {b : Base σ} {list : UInt32} {els : List Element} {parse : List Element → Except ListError (List α)}

lemma modifyList_unchanged {prop : PropertyReference} {change : σ → List α → Except ListError (σ × List UInt32)}
    {e : ListError} (h : (modifyList b list prop els parse change).2.1 = .error e) :
    (modifyList b list prop els parse change).1 = b := by
  rcases modifyList_cases b list prop els parse change with ⟨_, heq, -⟩ | ⟨_, _, _, -, -, -, heq⟩
  · rw [heq]
  · simp [heq] at h

lemma modifyList_outcome {apply : σ → List α → Except ListError (List α)} {get : σ → List α}
    {put : σ → List α → σ × List UInt32} {items result : List α} {fits : List α → α → Prop} {all : Prop}
    (hput : ∀ s l, get (put s l).1 = l) (hparse : parse els = .ok items)
    (happly : (apply b.state items = .ok result ∧ all) ∨
      ∃ e, apply b.state items = .error e ∧ e.NamesFirst items fits) :
    ListOutcome items fits result
      (get (modifyList b list ⟨list, none⟩ els parse fun s x => (apply s x).map (put s)).1.state)
      (modifyList b list ⟨list, none⟩ els parse fun s x => (apply s x).map (put s)).2.1 := by
  rcases modifyList_cases b list ⟨list, none⟩ els parse fun s x => (apply s x).map (put s) with
    ⟨e, heq, hchange⟩ | ⟨items', s, ch, -, hitems, hs, heq⟩
  · rw [heq]
    refine ⟨fun e' he => ?_, nofun⟩
    obtain rfl := Except.error.inj he
    have hfailed := hchange items rfl hparse
    rcases happly with ⟨hok, -⟩ | ⟨e', herror, hfirst⟩
    · simp [hok] at hfailed
    · simp only [herror, Except.map, Except.error.injEq] at hfailed
      exact hfailed ▸ hfirst
  · rw [heq]
    obtain rfl := Except.ok.inj (hparse.symm.trans hitems)
    obtain ⟨l, hl, hs⟩ := Except.map_eq_ok_iff.mp hs
    refine ⟨nofun, fun _ => ?_⟩
    rcases happly with ⟨hok, -⟩ | ⟨e', herror, -⟩
    · rw [← Except.ok.inj (hl.symm.trans hok), ← hput b.state l, hs]
    · cases hl.symm.trans herror

end Outcome

lemma calendar_listServices (c : Calendar) : c.ListServices where
  addFailed _ _ _ h := modifyList_unchanged h
  removeFailed _ _ _ h := modifyList_unchanged h
  add _ items hparse := modifyList_outcome (fun s l => by rw [setEntries_fst]) hparse
    (addItems_cases (fun _ _ => beq_iff_eq) c.state.max items c.state.entries)
  remove _ items hparse := modifyList_outcome (fun s l => by rw [setEntries_fst]) hparse
    (removeItems_cases (fun _ _ => beq_iff_eq) items c.state.entries)

lemma notificationClass_listServices (nc : NotificationClass) : nc.ListServices where
  addFailed _ _ _ h := modifyList_unchanged h
  removeFailed _ _ _ h := modifyList_unchanged h
  add _ items hparse := modifyList_outcome (fun _ _ => rfl) hparse
    (addItems_cases equal_iff nc.state.maxRecipients items nc.state.recipients)
  remove _ items hparse := modifyList_outcome (fun _ _ => rfl) hparse
    (removeItems_cases equal_iff items nc.state.recipients)

/-- The list services are all or nothing in every state of the list; in every run the lists keep within their maximum,
and the present value of a Calendar says whether its date is in an entry. -/
theorem listServices_allOrNothing :
    (∀ c : Calendar, c.ListServices) ∧ (∀ nc : NotificationClass, nc.ListServices) ∧
    (∀ today cfg c₀, newCalendar today cfg = .ok c₀ → ∀ notify c, Reachable { c₀ with notify } Calendar.step c →
      c.state.entries.length ≤ c.state.max ∧ c.state.pv = c.state.contains c.state.today) ∧
    ∀ cfg nc₀, newNotificationClass cfg = .ok nc₀ → ∀ notify nc,
      Reachable { nc₀ with notify } NotificationClass.step nc → nc.state.recipients.length ≤ nc.state.maxRecipients := by
  refine ⟨calendar_listServices, notificationClass_listServices, fun today cfg c₀ hc₀ notify c hc => ?_,
    fun cfg nc₀ hnc₀ notify nc hnc => (notificationClass_reachable hnc₀ hnc).1.state⟩
  have hvalid := (calendar_reachable hc₀ hc).1.state
  exact ⟨hvalid.length, hvalid.current⟩

def newYear : Element := .ctx 0 [0xFF, 1, 1, 0xFF]

def calendarConfig : CalendarConfig := { instanceNumber := 1, name := [77] }

/-- The date is added to a Calendar without entries. -/
theorem listServices_newYear : ∃ c₀ c : Calendar, newCalendar ⟨126, 1, 1, 4⟩ calendarConfig = .ok c₀ ∧
    Calendar.step c₀ (.addListElements ⟨propertyDateList, none⟩ [newYear, newYear]) = some c ∧
      c.state.entries.length = 1 ∧ c.state.pv = true ∧ c.state.entries.length ≤ c.state.max ∧
        c.state.pv = c.state.contains c.state.today ∧
    ∃ nc₀ : NotificationClass, newNotificationClass { instanceNumber := 1, name := [77] } = .ok nc₀ ∧
      nc₀.state.recipients.length ≤ nc₀.state.maxRecipients := by
  refine ⟨_, _, rfl, rfl, rfl, rfl, ?_, ?_, _, rfl, ?_⟩
  · exact (listServices_allOrNothing.2.2.1 ⟨126, 1, 1, 4⟩ calendarConfig _ rfl false _
      (.step (.addListElements ⟨propertyDateList, none⟩ [newYear, newYear]) .init trivial rfl)).1
  · exact (listServices_allOrNothing.2.2.1 ⟨126, 1, 1, 4⟩ calendarConfig _ rfl false _
      (.step (.addListElements ⟨propertyDateList, none⟩ [newYear, newYear]) .init trivial rfl)).2
  · exact listServices_allOrNothing.2.2.2 { instanceNumber := 1, name := [77] } _ rfl false _ .init

/-! ## Removal -/

lemma notMem_diff_iff {α : Type} [DecidableEq α] {list items : List α} {x : α} :
    x ∉ list.diff items ↔ list.count x ≤ items.count x := by
  rw [← List.count_eq_zero, List.count_diff, Nat.sub_eq_zero_iff_le]

/-- After a successful RemoveListElement that names an element, the element is gone if and only if the list held it at
most as often as the request names it. -/
theorem removed_iff (els : List Element) :
    (∀ (c : Calendar) items e, parseEntries els = .ok items → e ∈ items →
      (c.removeListElements ⟨propertyDateList, none⟩ els).2.1 = .ok () →
        (e ∉ (c.removeListElements ⟨propertyDateList, none⟩ els).1.state.entries ↔
          c.state.entries.count e ≤ items.count e)) ∧
    ∀ (nc : NotificationClass) items d, parseDestinations els = .ok items → d ∈ items →
      (nc.removeListElements ⟨propertyRecipientList, none⟩ els).2.1 = .ok () →
        (d ∉ (nc.removeListElements ⟨propertyRecipientList, none⟩ els).1.state.recipients ↔
          nc.state.recipients.count d ≤ items.count d) := by
  constructor
  · intro c items e hparse _ hok
    rw [((calendar_listServices c).remove els items hparse).succeeded hok]
    exact notMem_diff_iff
  · intro nc items d hparse _ hok
    rw [((notificationClass_listServices nc).remove els items hparse).succeeded hok]
    exact notMem_diff_iff

/-- The date is written twice and removed once: the removal succeeds, and the date is still in the list. -/
theorem newYear_remains : ∃ c₀ c : Calendar, newCalendar ⟨126, 1, 1, 4⟩ calendarConfig = .ok c₀ ∧
    Calendar.step c₀ (.writeProperty ⟨⟨propertyDateList, none⟩, .constructed [newYear, newYear], 0⟩) = some c ∧
      parseEntries [newYear] = .ok [{ date := ⟨0xFF, 1, 1, 0xFF⟩ }] ∧
      (c.removeListElements ⟨propertyDateList, none⟩ [newYear]).2.1 = .ok () ∧
        (c.removeListElements ⟨propertyDateList, none⟩ [newYear]).1.state.entries = [{ date := ⟨0xFF, 1, 1, 0xFF⟩ }] :=
  ⟨_, _, rfl, rfl, rfl, rfl, rfl⟩

/-- One occurrence is removed. -/
theorem removed_iff_newYear : ∃ c₀ : Calendar, newCalendar ⟨126, 1, 1, 4⟩
      { calendarConfig with dateList := [{ date := ⟨0xFF, 1, 1, 0xFF⟩ }] } = .ok c₀ ∧
    (c₀.removeListElements ⟨propertyDateList, none⟩ [newYear]).2.1 = .ok () ∧
      { date := ⟨0xFF, 1, 1, 0xFF⟩ } ∉ (c₀.removeListElements ⟨propertyDateList, none⟩ [newYear]).1.state.entries :=
  ⟨_, rfl, rfl, ((removed_iff [newYear]).1 _ _ _ rfl List.mem_cons_self rfl).mpr (by decide)⟩

end GoBacnet.Proofs
