import GoBacnet.Proofs.AlarmRuns
import GoBacnet.Proofs.LocalTime

/-!
# Acknowledgments

A transition that is to be acknowledged has a time stamp, the one that it was reported with. An acknowledgment with an
older date and time is refused, and the one that was transmitted for the stamp is accepted.
-/

namespace GoBacnet.Server

def Point.lastOf (tr : Fin 3) (reported : List EventTransition) : Option EventTransition :=
  (reported.filter (·.transition = tr)).getLast?

end GoBacnet.Server

namespace GoBacnet.Proofs

open GoBacnet.Server GoBacnet.Service Point

variable {zone : Zone} {p p₀ : Point} {ops : List PointOp}

/-! ## The properties -/

lemma computes_perform {id : UInt32} {f : PointState → ApplicationValue} (h : p.Computes id f) (op : PointOp) :
    (perform zone p op).1.Computes id f := by
  by_cases hwrite : ∃ w, op = .writeProperty w
  · obtain ⟨w, rfl⟩ := hwrite
    exact computes_writeProperty h w
  · rw [perform_eq_effect fun w hw => hwrite ⟨w, hw⟩]
    exact h

/-- The properties that show time stamps and acknowledgments. -/
structure AckTable (zone : Zone) (p : Point) : Prop where
  timeStamps : p.Computes propertyEventTimeStamps fun s => s.intrinsic.timeStamps zone
  acked : p.Computes propertyAckedTransitions fun s => maskBits 3 s.intrinsic.acked

lemma ackTable_define (h : AckTable zone p) {id : UInt32} (hid : id ∉ [propertyEventTimeStamps, propertyAckedTransitions])
    (q : Property PointState) : AckTable zone (p.define id q) := by
  simp only [List.mem_cons, List.not_mem_nil, or_false, not_or] at hid
  exact ⟨computes_define h.timeStamps (Ne.symm hid.1) q, computes_define h.acked (Ne.symm hid.2) q⟩

lemma ackTable_defineEvents (zone : Zone) (p : Point) : AckTable zone (p.defineEvents zone) := by
  have hreporting : AckTable zone (p.defineReporting zone) := by
    unfold Point.defineReporting
    exact ⟨⟨_, by rw [lookup_define, if_pos rfl], rfl⟩,
      computes_define ⟨_, by rw [lookup_define, if_pos rfl], rfl⟩ (by decide) _⟩
  unfold Point.defineEvents Point.defineAlgorithm
  split
  · exact ackTable_define (ackTable_define (ackTable_define (ackTable_define hreporting (by decide) _) (by decide) _)
      (by decide) _) (by decide) _
  · exact ackTable_define hreporting (by decide) _
  · exact ackTable_define (ackTable_define hreporting (by decide) _) (by decide) _

/-! ## Time stamps -/

/-- What a run keeps: each time stamp is that of the last transition reported, every transition that is not acknowledged
has been reported, and every one was reported at the time of an evaluation. -/
structure Stamped (zone : Zone) (p₀ : Point) (ops : List PointOp) : Prop where
  table : p₀.state.reports = true → AckTable zone (p₀.after zone ops)
  reports : (p₀.after zone ops).state.reports = p₀.state.reports
  stamps : ∀ tr : Fin 3, (p₀.after zone ops).state.intrinsic.stamps[tr] =
    (lastOf tr (p₀.reported zone ops)).bind (·.timeStamp)
  unacked : ∀ tr, (p₀.after zone ops).state.intrinsic.acked &&& transitionBit tr = 0 →
    p₀.state.reports = true ∧ (lastOf tr (p₀.reported zone ops)).isSome
  times : ∀ ev ∈ p₀.reported zone ops, ∃ now ackRequired, .evaluateEvents now ackRequired ∈ ops ∧
    ev.timeStamp = some (truncate now)

lemma lastOf_append (tr : Fin 3) (reported : List EventTransition) (ev : EventTransition) :
    lastOf tr (reported ++ [ev]) = if ev.transition = tr then some ev else lastOf tr reported := by
  simp only [lastOf, List.filter_append, List.filter_cons, List.filter_nil, decide_eq_true_iff]
  split_ifs <;> simp

lemma and_eq_zero_of_or {a b c : UInt8} (h : (a ||| b) &&& c = 0) : a &&& c = 0 := by
  have hdistrib : (a ||| b) &&& c = (a &&& c) ||| (b &&& c) := by
    apply UInt8.eq_of_toBitVec_eq
    ext i
    simp [Bool.and_or_distrib_right]
  exact (UInt8.or_eq_zero_iff.mp (hdistrib.symm.trans h)).1

lemma stamped_quiet (h : Stamped zone p₀ ops) {op : PointOp} (hnone : transitions (p₀.after zone ops) op = [])
    (hq : Quiet (p₀.after zone ops) (perform zone (p₀.after zone ops) op).1) : Stamped zone p₀ (ops ++ [op]) := by
  have hreported : p₀.reported zone (ops ++ [op]) = p₀.reported zone ops := by
    rw [reported_concat, hnone, List.append_nil]
  refine ⟨fun hr => ?_, ?_, ?_, fun tr hacked => ?_, fun ev hev => ?_⟩
  · rw [after_concat]
    exact ⟨computes_perform (h.table hr).timeStamps op, computes_perform (h.table hr).acked op⟩
  · rw [after_concat, hq.reports, h.reports]
  · rw [after_concat, hq.stamps, hreported]
    exact h.stamps
  · rw [after_concat] at hacked
    rw [hreported]
    refine h.unacked tr ?_
    rcases hq.acked with heq | ⟨tr', heq⟩ <;> rw [heq] at hacked
    · exact hacked
    · exact and_eq_zero_of_or hacked
  · obtain ⟨now, ackRequired, hmem, htime⟩ := h.times ev (hreported ▸ hev)
    exact ⟨now, ackRequired, List.mem_append_left _ hmem, htime⟩

lemma stamped_reports (h : Stamped zone p₀ ops) {now : Int} {ackRequired : UInt32 → Fin 3 → Bool} {ev : EventTransition}
    (hev : transitions (p₀.after zone ops) (.evaluateEvents now ackRequired) = [ev])
    (hr : Reports ev (truncate now) (p₀.after zone ops)
      (perform zone (p₀.after zone ops) (.evaluateEvents now ackRequired)).1) :
    Stamped zone p₀ (ops ++ [.evaluateEvents now ackRequired]) := by
  have hreported : p₀.reported zone (ops ++ [.evaluateEvents now ackRequired]) = p₀.reported zone ops ++ [ev] := by
    rw [reported_concat, hev]
  have hreports : p₀.state.reports = true := h.reports.symm.trans hr.reports.1
  refine ⟨fun _ => ?_, ?_, fun tr => ?_, fun tr hacked => ?_, fun ev' hev' => ?_⟩
  · rw [after_concat]
    exact ⟨computes_perform (h.table hreports).timeStamps _, computes_perform (h.table hreports).acked _⟩
  · rw [after_concat, hr.reports.2, hreports]
  · simp only [after_concat, hr.stamps, hreported, lastOf_append]
    split_ifs with heq
    · subst heq
      simp [hr.timeStamp]
    · rw [← h.stamps tr]
      simp only [Fin.getElem_fin]
      exact Vector.getElem_set_ne _ _ (fun heq' => heq (Fin.ext heq'))
  · rw [after_concat] at hacked
    rw [hreported, lastOf_append]
    refine ⟨hreports, ?_⟩
    split_ifs with heq
    · rfl
    · refine (h.unacked tr ?_).2
      rcases hr.acked with heq' | heq' <;> rw [heq'] at hacked
      · exact hacked
      · have hother : ∀ a b : Fin 3, a ≠ b → ~~~transitionBit a &&& transitionBit b = transitionBit b := by decide
        rwa [UInt8.and_assoc, hother _ _ heq] at hacked
  · rw [hreported] at hev'
    rcases List.mem_append.mp hev' with hold | hnew
    · obtain ⟨now', ackRequired', hmem, htime⟩ := h.times ev' hold
      exact ⟨now', ackRequired', List.mem_append_left _ hmem, htime⟩
    · rw [List.mem_singleton.mp hnew]
      exact ⟨now, ackRequired, by simp, hr.timeStamp⟩

lemma stamped_run (hsound : p₀.Sound PointState.Written PointBlind) (htable : p₀.state.reports = true → AckTable zone p₀)
    (hinit : p₀.state.intrinsic.acked = 7 ∧ p₀.state.intrinsic.stamps = .replicate 3 none) (ops : List PointOp) :
    Stamped zone p₀ ops := by
  induction ops using List.reverseRecOn with
  | nil =>
    refine ⟨htable, rfl, fun tr => ?_, fun tr hacked => ?_, fun ev hev => by simp [reported] at hev⟩
    · simp [after, hinit.2, reported, lastOf]
    · have hall : ∀ tr : Fin 3, 7 &&& transitionBit tr ≠ 0 := by decide
      exact (hall tr (hinit.1 ▸ hacked)).elim
  | append_singleton ops op ih =>
    rcases perform_cases zone (chained_run hsound ops).sound op with
      ⟨hnone, hquiet⟩ | ⟨now, ackRequired, ev, rfl, hev, hreports⟩
    · exact stamped_quiet ih hnone hquiet
    · exact stamped_reports ih hev hreports

/-! ## Acknowledgments -/

lemma localYear_truncate (offset t : Int) : localYear offset (truncate t) = localYear offset t := by
  have hday : (truncate t + offset * 1000000000 - epoch1900) / nanosPerDay =
      (t + offset * 1000000000 - epoch1900) / nanosPerDay := by
    unfold truncate epoch1900 nanosPerDay
    omega
  rw [localYear, hday, localYear]

lemma acknowledgeAlarm_unacked (hp : p.state.reports = true) {state : UInt32} (hstate : state ≤ EventState.lowLimit)
    (hacked : p.state.intrinsic.acked &&& transitionBit (transitionOf state) = 0) {t : Int}
    (hstamp : p.state.intrinsic.stamps.get (transitionOf state) = some t) (dt : DateTime) :
    (zone.dateTimeToTime dt < t →
      p.acknowledgeAlarm zone state (.dateTime dt) = (p, .error .invalidTimeStamp, [])) ∧
    (zone.dateTimeToTime dt = t → ∃ ev changes, p.acknowledgeAlarm zone state (.dateTime dt) =
      ({ p with state := { p.state with intrinsic := { p.state.intrinsic with
        acked := p.state.intrinsic.acked ||| transitionBit (transitionOf state) } } }, .ok ev, changes)) := by
  have hget : p.state.intrinsic.stamps[transitionOf state] = some t := hstamp
  have hle : ¬state > EventState.lowLimit := UInt32.not_lt.mpr hstate
  unfold Point.acknowledgeAlarm PointState.acknowledgeAlarm
  rw [if_neg (by simp [hp]), if_neg hle]
  constructor
  · intro hlt
    simp [hacked, hget, hlt]
  · rintro rfl
    simp [hacked, hget, Base.update]

/-- In every run, a transition that is not acknowledged was reported, and Event_Time_Stamps has the time stamp of its last
report. An acknowledgment with an older date and time is refused, and with the one of the time stamp it sets the bit of
the transition and nothing else. -/
theorem acknowledged_exactly (offset : Int) {new : PointConfig → Except ObjectErr Point}
    (hnew : new ∈ pointConstructors (fixedZone offset)) {cfg : PointConfig} (h : new cfg = .ok p₀)
    (hyears : ∀ now ackRequired, .evaluateEvents now ackRequired ∈ ops →
      1900 ≤ localYear offset now ∧ localYear offset now ≤ 2154)
    {state : UInt32} (hstate : state ≤ EventState.lowLimit) :
    let zone := fixedZone offset
    let p := p₀.after zone ops
    let tr := transitionOf state
    p.state.intrinsic.acked &&& transitionBit tr = 0 → ∃ ev t, lastOf tr (p₀.reported zone ops) = some ev ∧
      ev.timeStamp = some t ∧
      (∃ els, p.readProperty ⟨propertyEventTimeStamps, none⟩ = .ok (.constructed els) ∧
        els[tr.val]? = some (timeStampElement zone (some t))) ∧
      (∀ dt : DateTime, dt.Valid → dt.Before (zone.dateTimeOf t) →
        p.acknowledgeAlarm zone state (.dateTime dt) = (p, .error .invalidTimeStamp, [])) ∧
      ∃ p' ev' changes, p.acknowledgeAlarm zone state (.dateTime (zone.dateTimeOf t)) = (p', .ok ev', changes) ∧
        p' = { p with state := { p.state with intrinsic := { p.state.intrinsic with
          acked := p.state.intrinsic.acked ||| transitionBit tr } } } ∧
        p'.readProperty ⟨propertyAckedTransitions, none⟩ =
          .ok (maskBits 3 (p.state.intrinsic.acked ||| transitionBit tr)) := by
  intro zone p tr hacked
  obtain ⟨t', kind, input, commandable, heq⟩ := newPoint_of_constructor hnew cfg
  rw [heq] at h
  obtain ⟨initial, -, hinit, -⟩ := lookup_newPoint h
  have htable : p₀.state.reports = true → AckTable zone p₀ := by
    intro hreports
    obtain ⟨initial', -, ⟨hnone, -⟩ | ⟨ev, -, -, rfl⟩⟩ := newPoint_cases h
    · rw [hinit] at hreports
      simp [PointConfig.initialState, hnone] at hreports
    · exact ackTable_defineEvents zone _
  have hstamped : Stamped zone p₀ ops :=
    stamped_run (table_newPoint h).sound htable (by rw [hinit]; exact ⟨rfl, rfl⟩) ops
  obtain ⟨hreports, hlast⟩ := hstamped.unacked tr hacked
  obtain ⟨ev, hev⟩ := Option.isSome_iff_exists.mp hlast
  obtain ⟨now, ackRequired, hmem, htime⟩ := hstamped.times ev (List.mem_of_mem_filter (List.mem_of_getLast? hev))
  have hstamp : p.state.intrinsic.stamps[tr] = some (truncate now) := by
    rw [hstamped.stamps tr, hev]
    exact htime
  have hyear : 1900 ≤ localYear offset (truncate now) ∧ localYear offset (truncate now) ≤ 2154 := by
    rw [localYear_truncate]
    exact hyears now ackRequired hmem
  have hwhole : truncate now - truncate now % 10000000 = truncate now := by
    unfold truncate
    omega
  have hp : p.state.reports = true := hstamped.reports.trans hreports
  have hack := @acknowledgeAlarm_unacked zone p hp state hstate hacked (truncate now) hstamp
  refine ⟨ev, truncate now, hev, htime, ⟨_, readProperty_of_computes (hstamped.table hreports).timeStamps, ?_⟩,
    fun dt hdt hbefore => (hack dt).1 ?_, ?_⟩
  · rw [List.getElem?_map, Vector.getElem?_toList]
    exact congrArg (Option.map _) ((Vector.getElem?_eq_getElem tr.isLt).trans (congrArg some hstamp))
  · rwa [before_dateTimeOf_iff hdt hyear, hwhole] at hbefore
  · obtain ⟨ev', changes, hok⟩ := (hack _).2 ((dateTimeToTime_dateTimeOf hyear).trans hwhole)
    have hcomputes (s : PointState) : Base.Computes { p with state := s } propertyAckedTransitions fun s =>
      maskBits 3 s.intrinsic.acked := (hstamped.table hreports).acked
    exact ⟨_, ev', changes, hok, rfl, readProperty_of_computes (hcomputes _)⟩

/-- An alarm that is reported after ten seconds is acknowledged. -/
theorem acknowledged_exactly_alarm : ∃ p₀ ev t, newBinaryInput (fixedZone 0) alarmConfig = .ok p₀ ∧
    lastOf 0 (p₀.reported (fixedZone 0) (alarmOps ++ [evaluateAt 10])) = some ev ∧ ev.timeStamp = some t ∧
    ∃ p' ev' changes, (p₀.after (fixedZone 0) (alarmOps ++ [evaluateAt 10])).acknowledgeAlarm (fixedZone 0)
      EventState.offnormal (.dateTime ((fixedZone 0).dateTimeOf t)) = (p', .ok ev', changes) := by
  obtain ⟨p₀, hp₀⟩ := Except.exists_of_isOk
    (by decide +kernel : (newBinaryInput (fixedZone 0) alarmConfig).isOk = true)
  have hunacked : ((newBinaryInput (fixedZone 0) alarmConfig).toOption.map fun p₀ =>
      (p₀.after (fixedZone 0) (alarmOps ++ [evaluateAt 10])).state.intrinsic.acked &&&
        transitionBit (transitionOf EventState.offnormal)) = some 0 := by decide +kernel
  rw [hp₀] at hunacked
  have hyears : ∀ now ackRequired, .evaluateEvents now ackRequired ∈ alarmOps ++ [evaluateAt 10] →
      1900 ≤ localYear 0 now ∧ localYear 0 now ≤ 2154 := by
    intro now ackRequired hmem
    simp [alarmOps, evaluateAt] at hmem
    rcases hmem with ⟨rfl, -⟩ | ⟨rfl, -⟩ <;> decide +kernel
  obtain ⟨ev, t, hev, ht, -, -, p', ev', changes, hok, -⟩ := acknowledged_exactly 0 (by simp [pointConstructors]) hp₀
    hyears (by decide : EventState.offnormal ≤ EventState.lowLimit) (Option.some.inj hunacked)
  exact ⟨p₀, ev, t, hp₀, hev, ht, p', ev', changes, hok⟩

end GoBacnet.Proofs
