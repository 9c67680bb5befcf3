import GoBacnet.Proofs.MultiStateRuns

/-!
# Event detection over a run

The transitions that a point reports, from its construction on, and the time that a condition has held when it is
reported. The pending condition and its start are kept while detection is disabled, so that the time delay also counts
a time in which nothing was detected.
-/

namespace GoBacnet.Server.Point

def transitions (p : Point) : PointOp → List EventTransition
  | .evaluateEvents now ackRequired => (Point.evaluateEvents p now ackRequired).2.1
  | _ => []

def after (zone : Zone) (p : Point) (ops : List PointOp) : Point := ops.foldl (fun p op => (perform zone p op).1) p

def reported (zone : Zone) (p : Point) : List PointOp → List EventTransition
  | [] => []
  | op :: ops => transitions p op ++ reported zone (perform zone p op).1 ops

def sees (toState : UInt32) (p : Point) : PointOp → Bool
  | .evaluateEvents _ _ => p.state.condition = toState
  | _ => true

/-- Detection is enabled throughout, and each evaluation sees a condition that leads to the state. -/
def leads (zone : Zone) (toState : UInt32) (p : Point) : List PointOp → Bool
  | [] => true
  | op :: ops => p.state.intrinsic.enabled && sees toState p op && leads zone toState (perform zone p op).1 ops

def startsBy (latest : Int) : PointOp → Bool
  | .evaluateEvents start _ => truncate start ≤ latest
  | _ => false

/-- From an evaluation at the time `latest` or before on, the condition leads to the state. -/
def held (zone : Zone) (toState : UInt32) (latest : Int) (p : Point) : List PointOp → Bool
  | [] => false
  | op :: ops =>
    startsBy latest op && leads zone toState p (op :: ops) || held zone toState latest (perform zone p op).1 ops

end GoBacnet.Server.Point

namespace GoBacnet.Proofs

open GoBacnet.Server Point

variable {zone : Zone} {p p₀ : Point} {s : PointState} {ops : List PointOp} {toState : UInt32} {latest : Int}

/-! ## Runs -/

lemma after_concat (op : PointOp) : p.after zone (ops ++ [op]) = (perform zone (p.after zone ops) op).1 := by
  simp [after]

lemma reported_concat (op : PointOp) :
    p.reported zone (ops ++ [op]) = p.reported zone ops ++ transitions (p.after zone ops) op := by
  induction ops generalizing p with
  | nil => simp [reported, after]
  | cons op' ops ih => simp [reported, after, ih]

/-- What an operation other than an evaluation leaves. -/
structure SameDetection (s s' : PointState) : Prop where
  eventState : s'.eventState = s.eventState
  reports : s'.reports = s.reports
  stamps : s'.intrinsic.stamps = s.intrinsic.stamps
  pending : s'.intrinsic.pending = s.intrinsic.pending
  since : s'.intrinsic.since = s.intrinsic.since
  acked : s'.intrinsic.acked = s.intrinsic.acked ∨ ∃ tr, s'.intrinsic.acked = s.intrinsic.acked ||| transitionBit tr

lemma sameDetection_written {s' : PointState} (h : s.Written s') : SameDetection s s' := by
  cases h with
  | command h => cases h <;> exact ⟨rfl, rfl, rfl, rfl, rfl, .inl rfl⟩
  | _ => exact ⟨rfl, rfl, rfl, rfl, rfl, .inl rfl⟩

lemma sameDetection_effect {op : PointOp} (hop : ∀ now ackRequired, op ≠ .evaluateEvents now ackRequired)
    (id : ObjectIdentifier) : SameDetection s (effect zone id s op).1 := by
  have hself : SameDetection s s := ⟨rfl, rfl, rfl, rfl, rfl, .inl rfl⟩
  cases op with
  | writeProperty w => exact hself
  | setPresentValue v =>
    simp only [effect]
    split
    · unfold PointState.setPresentValue
      split_ifs <;> exact ⟨rfl, rfl, rfl, rfl, rfl, .inl rfl⟩
    · exact hself
  | setReliability r =>
    simp only [effect, PointState.setReliability]
    split_ifs <;> exact ⟨rfl, rfl, rfl, rfl, rfl, .inl rfl⟩
  | evaluateEvents now ackRequired => exact (hop now ackRequired rfl).elim
  | acknowledgeAlarm state stamp =>
    simp only [effect]
    split_ifs
    · exact hself
    · exact hself
    · split
      · exact hself
      · next s' ev hack =>
        obtain rfl | ⟨t, rfl⟩ := acknowledgeAlarm_eq hack
        · exact hself
        · exact ⟨rfl, rfl, rfl, rfl, rfl, .inr ⟨t, rfl⟩⟩

lemma evaluate_cases (hen : s.intrinsic.enabled = true) (id : ObjectIdentifier) (now : Int)
    (ackRequired : UInt32 → Fin 3 → Bool) :
    ((s.detect now).2 = s.eventState ∧
      (s.evaluateEvents id now ackRequired) = ({ s with intrinsic := (s.detect now).1 }, [], [])) ∨
    ∃ ev changed lastFault acked, s.evaluateEvents id now ackRequired =
        ({ s with eventState := (s.detect now).2, intrinsic := { (s.detect now).1 with
            stamps := (s.detect now).1.stamps.set (transitionOf (s.detect now).2) (some now), lastFault, acked } },
          changed, [ev]) ∧
      (acked = s.intrinsic.acked ∨ acked = s.intrinsic.acked &&& ~~~transitionBit (transitionOf (s.detect now).2)) ∧
      ev.fromState = s.eventState ∧ ev.toState = (s.detect now).2 ∧
      ev.transition = transitionOf (s.detect now).2 ∧ ev.timeStamp = some now ∧
      ((s.detect now).2 = s.eventState → (s.detect now).2 = EventState.fault) := by
  have hacked : (s.detect now).1.acked = s.intrinsic.acked := by
    obtain ⟨pending, since, h⟩ := detect_blind s now
    exact congrArg (·.intrinsic.acked) h
  unfold PointState.evaluateEvents
  rw [if_neg (by simp [hen])]
  dsimp only
  split_ifs with hquiet
  · exact .inl ⟨hquiet.1, rfl⟩
  · refine .inr ⟨_, _, _, _, rfl, ?_, rfl, rfl, rfl, rfl, fun hsame => ?_⟩
    · simp only [hacked]
      split_ifs
      · exact .inr rfl
      · exact .inl rfl
    · by_contra hfault
      exact hquiet ⟨hsame, .inl hfault⟩

lemma perform_other (zone : Zone) (hp : p.Sound PointState.Written PointBlind) {op : PointOp}
    (hop : ∀ now ackRequired, op ≠ .evaluateEvents now ackRequired) :
    SameDetection p.state (perform zone p op).1.state ∧ transitions p op = [] := by
  refine ⟨?_, ?_⟩
  · by_cases hwrite : ∃ w, op = .writeProperty w
    · obtain ⟨w, rfl⟩ := hwrite
      exact sameDetection_written (writeProperty_kept hp (written_self _) w).state
    · rw [perform_eq_effect fun w hw => hwrite ⟨w, hw⟩]
      exact sameDetection_effect hop p.id
  · cases op with
    | evaluateEvents now ackRequired => exact (hop now ackRequired rfl).elim
    | _ => rfl

lemma perform_sound (hp : p.Sound PointState.Written PointBlind) (op : PointOp) :
    (perform zone p op).1.Sound PointState.Written PointBlind := by
  by_cases hwrite : ∃ w, op = .writeProperty w
  · obtain ⟨w, rfl⟩ := hwrite
    exact sound_writeProperty hp w
  · rw [perform_eq_effect fun w hw => hwrite ⟨w, hw⟩]
    exact hp

lemma perform_evaluate (zone : Zone) (hreports : p.state.reports = true) (now : Int) (ackRequired : UInt32 → Fin 3 → Bool) :
    (perform zone p (.evaluateEvents now ackRequired)).1.state =
        (p.state.evaluateEvents p.id (truncate now) ackRequired).1 ∧
      transitions p (.evaluateEvents now ackRequired) =
        (p.state.evaluateEvents p.id (truncate now) ackRequired).2.2 := by
  simp [perform, transitions, Point.evaluateEvents, hreports, Base.update]

lemma perform_idle (zone : Zone) (h : ¬(p.state.reports = true ∧ p.state.intrinsic.enabled = true)) (now : Int)
    (ackRequired : UInt32 → Fin 3 → Bool) :
    (perform zone p (.evaluateEvents now ackRequired)).1.state = p.state ∧
      transitions p (.evaluateEvents now ackRequired) = [] := by
  cases hreports : p.state.reports with
  | false => simp [perform, transitions, Point.evaluateEvents, hreports]
  | true =>
    have hen : p.state.intrinsic.enabled = false := by simpa [hreports] using h
    obtain ⟨hstate, htransitions⟩ := perform_evaluate zone hreports now ackRequired
    simp [hstate, htransitions, PointState.evaluateEvents, hen]

/-- An operation that reports no transition. -/
structure Quiet (p p' : Point) : Prop where
  reports : p'.state.reports = p.state.reports
  eventState : p'.state.eventState = p.state.eventState
  stamps : p'.state.intrinsic.stamps = p.state.intrinsic.stamps
  acked : p'.state.intrinsic.acked = p.state.intrinsic.acked ∨
    ∃ tr, p'.state.intrinsic.acked = p.state.intrinsic.acked ||| transitionBit tr

/-- An operation that reports the transition `ev` at the time `t`. -/
structure Reports (ev : EventTransition) (t : Int) (p p' : Point) : Prop where
  reports : p.state.reports = true ∧ p'.state.reports = true
  fromState : ev.fromState = p.state.eventState
  toState : ev.toState = p'.state.eventState
  timeStamp : ev.timeStamp = some t
  stamps : p'.state.intrinsic.stamps = p.state.intrinsic.stamps.set ev.transition (some t)
  acked : p'.state.intrinsic.acked = p.state.intrinsic.acked ∨
    p'.state.intrinsic.acked = p.state.intrinsic.acked &&& ~~~transitionBit ev.transition

lemma perform_cases (zone : Zone) (hp : p.Sound PointState.Written PointBlind) (op : PointOp) :
    (transitions p op = [] ∧ Quiet p (perform zone p op).1) ∨
    ∃ now ackRequired ev, op = .evaluateEvents now ackRequired ∧ transitions p op = [ev] ∧
      Reports ev (truncate now) p (perform zone p op).1 := by
  by_cases hop : ∃ now ackRequired, op = .evaluateEvents now ackRequired
  · obtain ⟨now, ackRequired, rfl⟩ := hop
    by_cases hactive : p.state.reports = true ∧ p.state.intrinsic.enabled = true
    · obtain ⟨hstate, htransitions⟩ := perform_evaluate zone hactive.1 now ackRequired
      obtain ⟨pending, since, hblind⟩ := detect_blind p.state (truncate now)
      have hstamps : (p.state.detect (truncate now)).1.stamps = p.state.intrinsic.stamps :=
        congrArg (·.intrinsic.stamps) hblind
      have hacked : (p.state.detect (truncate now)).1.acked = p.state.intrinsic.acked :=
        congrArg (·.intrinsic.acked) hblind
      rcases evaluate_cases hactive.2 p.id (truncate now) ackRequired with
        ⟨-, heq⟩ | ⟨ev, changed, lastFault, acked, heq, hbits, hfrom, hto, htr, htime, -⟩
      · rw [heq] at hstate htransitions
        refine .inl ⟨htransitions, ?_, ?_, ?_, .inl ?_⟩ <;> rw [hstate]
        · exact hstamps
        · exact hacked
      · rw [heq] at hstate htransitions
        refine .inr ⟨now, ackRequired, ev, rfl, htransitions, ?_, hfrom, ?_, htime, ?_, ?_⟩ <;> rw [hstate]
        · exact ⟨hactive.1, hactive.1⟩
        · exact hto
        · simp only [htr, hstamps]
        · rw [htr]
          exact hbits
    · obtain ⟨hstate, htransitions⟩ := perform_idle zone hactive now ackRequired
      refine .inl ⟨htransitions, ?_, ?_, ?_, .inl ?_⟩ <;> rw [hstate]
  · obtain ⟨hsame, htransitions⟩ := perform_other zone hp fun now ackRequired hop' => hop ⟨now, ackRequired, hop'⟩
    exact .inl ⟨htransitions, hsame.reports, hsame.eventState, hsame.stamps, hsame.acked⟩

/-! ## Reported transitions -/

/-- What a run keeps: the transitions chain, and the last one leads to the current state. -/
structure Chained (zone : Zone) (p₀ : Point) (ops : List PointOp) : Prop where
  sound : (p₀.after zone ops).Sound PointState.Written PointBlind
  chain : (p₀.reported zone ops).IsChain fun a b => b.fromState = a.toState
  last : ∀ ev ∈ (p₀.reported zone ops).getLast?, ev.toState = (p₀.after zone ops).state.eventState

lemma chained_run (hp : p₀.Sound PointState.Written PointBlind) (ops : List PointOp) : Chained zone p₀ ops := by
  induction ops using List.reverseRecOn with
  | nil => exact ⟨hp, List.isChain_nil, fun ev hev => by simp [reported] at hev⟩
  | append_singleton ops op ih =>
    obtain ⟨hsound, hchain, hlast⟩ := ih
    refine ⟨after_concat op ▸ perform_sound hsound op, ?_, ?_⟩ <;> rw [reported_concat]
    · rcases perform_cases zone hsound op with ⟨hnone, -⟩ | ⟨now, ackRequired, ev, -, hev, hreports⟩
      · rwa [hnone, List.append_nil]
      · rw [hev, List.isChain_append]
        refine ⟨hchain, List.isChain_singleton ev, fun a ha b hb => ?_⟩
        obtain rfl : ev = b := by simpa using hb
        rw [hreports.fromState, hlast a ha]
    · rw [after_concat]
      rcases perform_cases zone hsound op with ⟨hnone, hquiet⟩ | ⟨now, ackRequired, ev, -, hev, hreports⟩
      · rwa [hnone, List.append_nil, hquiet.eventState]
      · intro ev' hev'
        obtain rfl : ev = ev' := by simpa [hev] using hev'
        exact hreports.toState

/-! ## The time delay -/

/-- A pending condition has led to its state since the time that is kept for it, however the run goes on. -/
def HeldSince (zone : Zone) (p₀ : Point) (ops : List PointOp) (toState : UInt32) (start : Int) : Prop :=
  ∀ rest, (p₀.after zone ops).leads zone toState rest = true → p₀.held zone toState start (ops ++ rest) = true

/-- No condition is pending, or detection is enabled and the condition has held since it started. -/
def Pending (zone : Zone) (p₀ : Point) (ops : List PointOp) (s : PointState) : Prop :=
  s.intrinsic.pending = s.eventState ∨ s.reports = true ∧ s.intrinsic.enabled = true ∧
    ∃ start, s.intrinsic.since = some start ∧ HeldSince zone p₀ ops s.intrinsic.pending start

def alarmConfig : PointConfig where
  instanceNumber := 1
  name := [77]
  events := some { eventEnable := 7, timeDelay := 10, alarmValue := 1 }

def evaluateAt (second : Int) : PointOp := .evaluateEvents (second * 1000000000) fun _ _ => true

def alarmOps : List PointOp := [.setPresentValue (.enumerated 1), evaluateAt 0]

end GoBacnet.Proofs
