import GoBacnet.Proofs.CovWakeup

/-!
# What a quiet subscription has sent

When a subscription is neither marked nor has a sender, the values that it sent last do not differ significantly from
the present ones, provided that no evaluation with something to send was made while initiation was disabled. Such an
evaluation clears the mark and sends nothing, and nothing marks the subscription again when initiation is enabled.
-/

namespace GoBacnet.Server

variable {V : Type}

namespace Cov

variable {P : CovParams V} {s s' : Cov V} {i : Nat} {run : Run V} {ref : Ref} {sub : CovSub} {r : CovRef} {v : V}

def Agrees (P : CovParams V) (s : Cov V) (r : CovRef) (v : V) : Prop :=
  (∀ last, s.last r = some last → P.significant last v = false) ∧ (s.kicked r.sub = true → s.last r ≠ none)

/-- What is known of the present value of a reference in each phase of the sender. In an evaluation it was read as it
is now, or it is still to be read. -/
def Fits (P : CovParams V) (s : Cov V) (r : CovRef) (v : V) : RunPhase V → Prop
  | .start _ => True
  | .head | .send _ => Agrees P s r v
  | .evaluate e => (∀ p ∈ e.seen, p.1 = r → p.2 = v) ∧
      (r ∈ e.reading ∨ (∃ t ∈ e.todo, r ∈ t.refs) ∨ ∃ p ∈ e.seen, p.1 = r)

/-- The references of an evaluation belong to its subscription, and what it read so far without a trigger agrees with
what was sent last. -/
structure EvaluationOk (P : CovParams V) (last : CovRef → Option V) (ref : Ref) (e : Evaluation V) : Prop where
  reading : ∀ r ∈ e.reading, r.sub = ref
  todo : ∀ t ∈ e.todo, ∀ r ∈ t.refs, r.sub = ref ∧ r.obj = t.obj
  seen : ∀ p ∈ e.seen, p.1.sub = ref
  quiet : e.trigger = false → ∀ p ∈ e.seen, ∃ l, last p.1 = some l ∧ P.significant l p.2 = false
  notFound : e.found = false → e.reading = [] ∧ e.seen = []

structure Arrived (s : Cov V) (ref : Ref) (obj : ObjectIdentifier) : Prop where
  changes : obj ∉ s.changes
  kicks : ∀ k ∈ s.kicks, k.ref ≠ ref

structure Settled (P : CovParams V) (s : Cov V) : Prop where
  fits : ∀ (ref : Ref) (sub : CovSub) (t : CovTarget) (r : CovRef) (v : V), s.table.heap[ref]? = some sub →
    sub.closed = false → sub.dirty = false → t ∈ sub.targets → r ∈ t.refs → s.Arrived ref t.obj →
    s.dev.read t.obj r.prop = some v →
    (∀ run ∈ s.runs, run.ref = ref → Fits P s r v run.phase) ∧ ((∀ run ∈ s.runs, run.ref ≠ ref) → Agrees P s r v)
  evaluations : ∀ run ∈ s.runs, ∀ e, run.phase = .evaluate e → EvaluationOk P s.last run.ref e
  kicked : ∀ run ∈ s.runs, s.kicked run.ref = true
  unsent : ∀ r, s.kicked r.sub = false → s.last r = none
  beyond : ∀ ref, s.table.heap.length ≤ ref → s.kicked ref = false

/-- Whether the next step of a sender ends an evaluation with something to send while initiation is disabled. -/
def suppressed (s : Cov V) (i : Nat) : Bool :=
  match s.runs[i]? with
  | some ⟨_, .evaluate e⟩ => e.reading.isEmpty && e.todo.isEmpty && e.trigger && !s.dcc.mayInitiate e.now
  | _ => false

/-- No notification is held back for DeviceCommunicationControl in this step. -/
def unsuppressed (s : Cov V) : Action V → Bool
  | .run i => !s.suppressed i
  | _ => true

lemma mayInitiate_of_unsuppressed {e : Evaluation V} (hc : unsuppressed s (.run i) = true)
    (hrun : s.runs[i]? = some run) (hphase : run.phase = .evaluate e) (hreading : e.reading = [])
    (htodo : e.todo = []) (htrigger : e.trigger = true) : s.dcc.mayInitiate e.now = true := by
  obtain ⟨ref, phase⟩ := run
  subst hphase
  simpa [unsuppressed, suppressed, hrun, hreading, htodo, htrigger] using hc

lemma record_other {values : List (CovRef × V)} (h : ∀ p ∈ values, p.1.sub = ref) (hr : r.sub ≠ ref)
    (last : CovRef → Option V) : record values last r = last r := by
  unfold record
  rw [List.find?_eq_none.mpr]
  intro p hp heq
  exact hr (of_decide_eq_true heq ▸ h p hp)

lemma record_of_mem {values : List (CovRef × V)} (h : ∃ p ∈ values, p.1 = r) (last : CovRef → Option V) :
    ∃ p ∈ values, p.1 = r ∧ record values last r = some p.2 := by
  obtain ⟨p, hp, hpr⟩ := h
  obtain ⟨q, hq⟩ := Option.isSome_iff_exists.mp
    (List.find?_isSome.mpr ⟨p, hp, decide_eq_true hpr⟩ : (values.find? fun p => p.1 = r).isSome)
  refine ⟨q, List.mem_of_find?_eq_some hq, of_decide_eq_true (List.find?_some hq :), ?_⟩
  simp [record, hq]

lemma Fits.congr {phase : RunPhase V} (h : Fits P s r v phase) (hlast : s'.last r = s.last r)
    (hkicked : s'.kicked r.sub = s.kicked r.sub) : Fits P s' r v phase := by
  cases phase with
  | start => exact h
  | evaluate e => exact h
  | head | send => simpa only [Fits, Agrees, hlast, hkicked] using h

lemma EvaluationOk.congr {last last' : CovRef → Option V} {e : Evaluation V} (h : EvaluationOk P last ref e)
    (hlast : ∀ r : CovRef, r.sub = ref → last' r = last r) : EvaluationOk P last' ref e where
  reading := h.reading
  todo := h.todo
  seen := h.seen
  quiet htrigger p hp := by
    rw [hlast p.1 (h.seen p hp)]
    exact h.quiet htrigger p hp
  notFound := h.notFound

lemma Settled.change (h : Settled P s) (obj : ObjectIdentifier) (o : Option (Object V)) :
    Settled P { s with dev := s.dev.put obj o, changes := s.changes ++ [obj] } where
  fits ref sub t r v hsub hopen hclean ht hr harrived hread := by
    have hnot : t.obj ∉ s.changes ∧ t.obj ≠ obj := by simpa using harrived.changes
    refine h.fits ref sub t r v hsub hopen hclean ht hr ⟨hnot.1, harrived.kicks⟩ ?_
    simpa [Device.read, Device.put, hnot.2] using hread
  evaluations := h.evaluations
  kicked := h.kicked
  unsent := h.unsent
  beyond := h.beyond

lemma Settled.changed (h : Settled P s) (hsound : Sound s) {obj : ObjectIdentifier}
    (hobj : s.changes[i]? = some obj) :
    Settled P { s with
      changes := s.changes.eraseIdx i
      kicks := s.kicks ++ (s.table.hit obj).map fun ref => ⟨ref, some obj⟩ } where
  fits ref sub t r v hsub hopen hclean ht hr harrived hread := by
    refine h.fits ref sub t r v hsub hopen hclean ht hr ⟨fun hmem => ?_, fun k hk => ?_⟩ hread
    · -- The change that was collected is the only one on its way, so it found the subscription.
      rcases List.mem_cons.mp ((Workers.perm_eraseIdx hobj).mem_iff.mp hmem) with heq | hmem
      · have hhit := CovTable.mem_hit (hsound.linked ref sub hsub hopen) hsub ht
        rw [heq] at hhit
        exact harrived.kicks _ (List.mem_append_right _ (List.mem_map_of_mem hhit)) rfl
      · exact harrived.changes hmem
    · exact harrived.kicks k (List.mem_append_left _ hk)
  evaluations := h.evaluations
  kicked := h.kicked
  unsent := h.unsent
  beyond := h.beyond

lemma Settled.mark (h : Settled P s) (hsound : Sound s) {k : Kick} (hk : s.kicks[i]? = some k)
    (hsub : s.table.heap[k.ref]? = some sub) :
    Settled P (Cov.mark { s with kicks := s.kicks.eraseIdx i } k sub) := by
  refine ⟨?_, ?_, ?_, ?_, ?_⟩
  · intro ref x t r v hx hopen hclean ht hr harrived hread
    rcases getElem?_set_cases hx with ⟨rfl, rfl⟩ | ⟨hne, hx⟩
    · cases hclean
    · have hr' := hsound.placed ref x hx t ht r hr
      have hkicked : (Cov.mark { s with kicks := s.kicks.eraseIdx i } k sub).kicked r.sub = s.kicked r.sub := by
        rw [hr'.1]
        exact Function.update_of_ne hne _ _
      have harrived' : s.Arrived ref t.obj := by
        refine ⟨harrived.changes, fun k' hk' => ?_⟩
        rcases List.mem_cons.mp ((Workers.perm_eraseIdx hk).mem_iff.mp hk') with rfl | hk'
        · exact hne.symm
        · exact harrived.kicks k' hk'
      obtain ⟨hfits, hagrees⟩ := h.fits ref x t r v hx hopen hclean ht hr harrived' hread
      refine ⟨fun run hrun href => ?_, fun hnone => ?_⟩
      · rcases mem_mark_cases hrun with hrun | rfl
        · exact (hfits run hrun href).congr rfl hkicked
        · exact absurd href.symm hne
      · have hagree := hagrees fun run hrun => hnone run (mem_mark_of_mem hrun)
        simp only [Agrees, hkicked]
        exact hagree
  · intro run hrun e he
    rcases mem_mark_cases hrun with hrun | rfl
    · exact h.evaluations run hrun e he
    · cases he
  · intro run hrun
    by_cases href : run.ref = k.ref
    · rw [href]
      exact Function.update_self _ _ _
    · rcases mem_mark_cases hrun with hrun | rfl
      · exact (Function.update_of_ne href _ _).trans (h.kicked run hrun)
      · exact absurd rfl href
  · intro r hkicked
    refine h.unsent r ?_
    by_cases href : r.sub = k.ref
    · simp [Cov.mark, href] at hkicked
    · simpa [Cov.mark, Function.update_of_ne href] using hkicked
  · intro ref hle
    simp only [Cov.mark, List.length_set] at hle
    exact (Function.update_of_ne (ne_of_beyond hsub hle) _ _).trans (h.beyond ref hle)

lemma Settled.kick (h : Settled P s) (hsound : Sound s) {k : Kick} (hk : s.kicks[i]? = some k) :
    Settled P (Cov.kick { s with kicks := s.kicks.eraseIdx i } k) := by
  rcases kick_cases { s with kicks := s.kicks.eraseIdx i } k with ⟨heq, hclosed⟩ | ⟨sub, hsub, -, heq⟩
  · rw [heq]
    refine ⟨fun ref sub t r v hsub hopen hclean ht hr harrived hread => ?_, h.evaluations, h.kicked, h.unsent, h.beyond⟩
    refine h.fits ref sub t r v hsub hopen hclean ht hr ⟨harrived.changes, fun k' hk' => ?_⟩ hread
    rcases List.mem_cons.mp ((Workers.perm_eraseIdx hk).mem_iff.mp hk') with rfl | hk'
    · rintro rfl
      rw [hclosed sub hsub] at hopen
      cases hopen
    · exact harrived.kicks k' hk'
  · rw [heq]
    exact h.mark hsound hk hsub

lemma Settled.maintain (h : Settled P s) {table : CovTable} {requests : List Subscribing}
    (hm : s.table.Maintained table) : Settled P { s with table, requests } where
  fits ref sub' t r v hsub' hopen hclean ht hr harrived hread := by
    rcases hm.records ref sub' hsub' with ⟨sub, hsub, hnarrows⟩ | ⟨hle, -, -, hplaced⟩
    · exact h.fits ref sub t r v hsub (hnarrows.closed hopen) (hnarrows.dirty ▸ hclean) (hnarrows.targets ht) hr
        ⟨harrived.changes, harrived.kicks⟩ hread
    · have hkicked : s.kicked r.sub = false := by
        rw [(hplaced t ht r hr).1]
        exact h.beyond ref hle
      have hlast := h.unsent r hkicked
      refine ⟨fun run hrun href => ?_, fun _ => ⟨fun l hl => ?_, fun hk => ?_⟩⟩
      · have hk := h.kicked run hrun
        rw [href, h.beyond ref hle] at hk
        cases hk
      · rw [hlast] at hl
        cases hl
      · rw [hkicked] at hk
        cases hk
  evaluations := h.evaluations
  kicked := h.kicked
  unsent := h.unsent
  beyond ref hle := h.beyond ref (hm.length.trans hle)

lemma Settled.move (h : Settled P s) (hsound : Sound s) {phase : RunPhase V} (hrun : s.runs[i]? = some run)
    (hsub : s.table.heap[run.ref]? = some sub) (hdev : s'.dev = s.dev) (htable : s'.table = s.table)
    (hchanges : s'.changes = s.changes) (hkicks : s'.kicks = s.kicks)
    (hruns : s'.runs = s.runs.set i ⟨run.ref, phase⟩) (hkicked : s'.kicked = s.kicked)
    (hlast : ∀ r : CovRef, r.sub ≠ run.ref → s'.last r = s.last r)
    (hfits : ∀ t ∈ sub.targets, ∀ r ∈ t.refs, ∀ v, s.dev.read t.obj r.prop = some v → Fits P s r v run.phase →
      Fits P s' r v phase)
    (hphase : ∀ e, phase = .evaluate e → EvaluationOk P s'.last run.ref e) : Settled P s' := by
  have hmem : run ∈ s.runs := List.mem_of_getElem? hrun
  have hcases : ∀ other ∈ s'.runs, other = ⟨run.ref, phase⟩ ∨ (other ∈ s.runs ∧ other.ref ≠ run.ref) := by
    intro other hother
    rw [hruns] at hother
    exact Workers.mem_set_cases hsound.nodup hrun hother
  refine ⟨?_, ?_, ?_, ?_, ?_⟩
  · intro ref x t r v hx hopen hclean ht hr harrived hread
    rw [htable] at hx
    rw [hdev] at hread
    have harrived' : s.Arrived ref t.obj := ⟨hchanges ▸ harrived.changes, hkicks ▸ harrived.kicks⟩
    obtain ⟨hbefore, hidle⟩ := h.fits ref x t r v hx hopen hclean ht hr harrived' hread
    refine ⟨fun other hother href => ?_, fun hnone => ?_⟩
    · rcases hcases other hother with rfl | ⟨hother, hne⟩
      · obtain rfl : run.ref = ref := href
        obtain rfl := Option.some.inj (hsub.symm.trans hx)
        exact hfits t ht r hr v hread (hbefore run hmem rfl)
      · have hrsub := (hsound.placed ref x hx t ht r hr).1
        refine (hbefore other hother href).congr (hlast r ?_) (by rw [hkicked])
        rw [hrsub, ← href]
        exact hne
    · have hne : run.ref ≠ ref := by
        rintro rfl
        exact hnone ⟨run.ref, phase⟩ (hruns ▸ Workers.mem_set_new hrun) rfl
      have hnone' : ∀ other ∈ s.runs, other.ref ≠ ref := by
        rintro other hother rfl
        exact hnone other (hruns ▸ Workers.mem_set_of_key_ne hrun hother hne.symm) rfl
      have hrsub := (hsound.placed ref x hx t ht r hr).1
      have hagrees := hidle hnone'
      simp only [Agrees, hkicked, hlast r (hrsub ▸ hne.symm)]
      exact hagrees
  · intro other hother e he
    rcases hcases other hother with rfl | ⟨hother, hne⟩
    · exact hphase e he
    · exact (h.evaluations other hother e he).congr fun r hr => hlast r (hr ▸ hne)
  · intro other hother
    rw [hkicked]
    rcases hcases other hother with rfl | ⟨hother, -⟩
    · exact h.kicked run hmem
    · exact h.kicked other hother
  · intro r hr
    rw [hkicked] at hr
    rw [hlast r]
    · exact h.unsent r hr
    · intro heq
      rw [heq, h.kicked run hmem] at hr
      cases hr
  · intro ref hle
    rw [htable] at hle
    rw [hkicked]
    exact h.beyond ref hle

lemma Settled.runHead (h : Settled P s) (hsound : Sound s) (hrun : s.runs[i]? = some run)
    (hsub : s.table.heap[run.ref]? = some sub) (hphase : run.phase = .head) :
    Settled P (s.runHead i run.ref sub) := by
  have hmem : run ∈ s.runs := List.mem_of_getElem? hrun
  unfold Cov.runHead
  split_ifs with hstop
  · have hcases : ∀ other ∈ s.runs.eraseIdx i, other ∈ s.runs ∧ other.ref ≠ run.ref := fun other hother =>
      Workers.mem_eraseIdx_cases hsound.nodup hrun hother
    refine ⟨?_, fun other hother => h.evaluations other (hcases other hother).1,
      fun other hother => h.kicked other (hcases other hother).1, h.unsent, fun ref hle => h.beyond ref (by simpa using hle)⟩
    intro ref x t r v hx hopen hclean ht hr harrived hread
    rcases getElem?_set_cases hx with ⟨rfl, rfl⟩ | ⟨hne, hx⟩
    · -- The sender was at the head of its loop, where what it sent last agrees.
      have hfits := (h.fits run.ref sub t r v hsub hopen hclean ht hr ⟨harrived.changes, harrived.kicks⟩ hread).1
        run hmem rfl
      rw [hphase] at hfits
      exact ⟨fun other hother href => absurd href (hcases other hother).2, fun _ => hfits⟩
    · obtain ⟨hfits, hidle⟩ := h.fits ref x t r v hx hopen hclean ht hr ⟨harrived.changes, harrived.kicks⟩ hread
      refine ⟨fun other hother => hfits other (hcases other hother).1, fun hnone => hidle ?_⟩
      rintro other hother rfl
      exact hnone other (Workers.mem_eraseIdx_of_key_ne hrun hother hne) rfl
  · have hcases : ∀ other ∈ s.runs.set i ⟨run.ref, .start sub.initial⟩,
        other = ⟨run.ref, .start sub.initial⟩ ∨ (other ∈ s.runs ∧ other.ref ≠ run.ref) := fun other hother =>
      Workers.mem_set_cases hsound.nodup hrun hother
    refine ⟨?_, ?_, ?_, h.unsent, fun ref hle => h.beyond ref (by simpa using hle)⟩
    · intro ref x t r v hx hopen hclean ht hr harrived hread
      rcases getElem?_set_cases hx with ⟨rfl, rfl⟩ | ⟨hne, hx⟩
      · have hnew : (⟨run.ref, .start sub.initial⟩ : Run V) ∈ s.runs.set i ⟨run.ref, .start sub.initial⟩ :=
          Workers.mem_set_new hrun
        refine ⟨fun other hother href => ?_, fun hnone => (hnone _ hnew rfl).elim⟩
        rcases hcases other hother with rfl | ⟨-, hne⟩
        · trivial
        · exact absurd href hne
      · obtain ⟨hfits, hidle⟩ := h.fits ref x t r v hx hopen hclean ht hr ⟨harrived.changes, harrived.kicks⟩ hread
        refine ⟨fun other hother href => ?_, fun hnone => hidle ?_⟩
        · rcases hcases other hother with rfl | ⟨hother, -⟩
          · exact absurd href.symm hne
          · exact hfits other hother href
        · rintro other hother rfl
          exact hnone other (Workers.mem_set_of_key_ne hrun hother hne) rfl
    · intro other hother e he
      rcases hcases other hother with rfl | ⟨hother, -⟩
      · cases he
      · exact h.evaluations other hother e he
    · intro other hother
      rcases hcases other hother with rfl | ⟨hother, -⟩
      · exact h.kicked run hmem
      · exact h.kicked other hother

lemma EvaluationOk.readRef {e : Evaluation V} {rest : List CovRef} (h : EvaluationOk P s.last ref e)
    (hreading : e.reading = r :: rest) : EvaluationOk P s.last ref (s.readRef P e r rest) := by
  have hsub : r.sub = ref := h.reading r (by simp [hreading])
  have hrest : ∀ r ∈ rest, r.sub = ref := fun r hr => h.reading r (by simp [hreading, hr])
  unfold Cov.readRef
  split
  · refine ⟨hrest, h.todo, h.seen, h.quiet, fun hfound => ?_⟩
    exact absurd (h.notFound hfound).1 (by simp [hreading])
  · rename_i v hread
    refine ⟨hrest, h.todo, ?_, ?_, fun hfound => ?_⟩
    · intro p hp
      rcases List.mem_append.mp hp with hp | hp
      · exact h.seen p hp
      · rw [List.mem_singleton.mp hp]
        exact hsub
    · intro htrigger p hp
      obtain ⟨htrigger, hquiet⟩ := Bool.or_eq_false_iff.mp htrigger
      rcases List.mem_append.mp hp with hp | hp
      · exact h.quiet htrigger p hp
      · rw [List.mem_singleton.mp hp]
        cases hlast : s.last r with
        | none => simp [hlast] at hquiet
        | some l => exact ⟨l, rfl, by simpa [hlast] using hquiet⟩
    · exact absurd (h.notFound hfound).1 (by simp [hreading])

lemma Fits.readRef {e : Evaluation V} {rest : List CovRef} {r₀ : CovRef} (h : Fits P s r v (.evaluate e))
    (hreading : e.reading = r₀ :: rest) (hread : s.dev.read r.obj r.prop = some v) :
    Fits P s r v (.evaluate (s.readRef P e r₀ rest)) := by
  obtain ⟨hseen, hwhere⟩ := h
  rw [hreading] at hwhere
  by_cases heq : r₀ = r
  · subst heq
    simp only [Cov.readRef, hread]
    refine ⟨fun p hp hpr => ?_, .inr (.inr ⟨(r₀, v), by simp, rfl⟩)⟩
    rcases List.mem_append.mp hp with hp | hp
    · exact hseen p hp hpr
    · rw [List.mem_singleton.mp hp]
  · have hwhere : r ∈ rest ∨ (∃ t ∈ e.todo, r ∈ t.refs) ∨ ∃ p ∈ e.seen, p.1 = r := by
      rcases hwhere with hmem | hwhere
      · exact .inl ((List.mem_cons.mp hmem).resolve_left (Ne.symm heq))
      · exact .inr hwhere
    unfold Cov.readRef
    split
    · exact ⟨hseen, hwhere⟩
    · refine ⟨fun p hp hpr => ?_, ?_⟩
      · rcases List.mem_append.mp hp with hp | hp
        · exact hseen p hp hpr
        · rw [List.mem_singleton.mp hp] at hpr
          exact absurd hpr heq
      · rcases hwhere with hrest | htodo | ⟨p, hp, hpr⟩
        · exact .inl hrest
        · exact .inr (.inl htodo)
        · exact .inr (.inr ⟨p, List.mem_append_left _ hp, hpr⟩)

lemma Settled.lookup (h : Settled P s) (hsound : Sound s) (hrun : s.runs[i]? = some run)
    (hsub : s.table.heap[run.ref]? = some sub) {e : Evaluation V} (hphase : run.phase = .evaluate e)
    (hreading : e.reading = []) {t : CovTarget} {todo : List CovTarget} (htodo : e.todo = t :: todo) :
    Settled P (s.lookup i run.ref e t todo) := by
  have hok := h.evaluations run (List.mem_of_getElem? hrun) e hphase
  have hmem : t ∈ e.todo := by simp [htodo]
  have hrest : ∀ t' ∈ todo, ∀ r ∈ t'.refs, r.sub = run.ref ∧ r.obj = t'.obj := fun t' ht' =>
    hok.todo t' (by simp [htodo, ht'])
  refine h.move hsound hrun hsub rfl rfl rfl rfl rfl rfl (fun _ _ => rfl) ?_ ?_
  · intro t' ht' r hr v hread hfits
    rw [hphase] at hfits
    obtain ⟨hseen, hwhere⟩ := hfits
    have hobj := (hsound.placed run.ref sub hsub t' ht' r hr).2
    have hwhere : r ∈ t.refs ∨ (∃ t ∈ todo, r ∈ t.refs) ∨ ∃ p ∈ e.seen, p.1 = r := by
      rcases hwhere with hmem | ⟨t', ht', hr⟩ | hseen
      · simp [hreading] at hmem
      · rw [htodo] at ht'
        rcases List.mem_cons.mp ht' with rfl | ht'
        · exact .inl hr
        · exact .inr (.inl ⟨t', ht', hr⟩)
      · exact .inr (.inr hseen)
    split
    · rename_i hmissing
      refine ⟨hseen, .inr (hwhere.resolve_left fun hr' => ?_)⟩
      -- A reference whose object is missing has no present value.
      rw [← hobj, (hok.todo t hmem r hr').2] at hread
      simp [Device.read, hmissing] at hread
    · exact ⟨hseen, hwhere⟩
  · intro e' he'
    cases he'
    split
    · exact ⟨hok.reading, hrest, hok.seen, hok.quiet, hok.notFound⟩
    · exact ⟨fun r hr => (hok.todo t hmem r hr).1, hrest, hok.seen, hok.quiet, nofun⟩

lemma Settled.conclude (h : Settled P s) (hsound : Sound s) (hrefl : ∀ v, P.significant v v = false)
    (hrun : s.runs[i]? = some run) (hsub : s.table.heap[run.ref]? = some sub) {e : Evaluation V}
    (hphase : run.phase = .evaluate e) (hreading : e.reading = []) (htodo : e.todo = [])
    (hmay : e.trigger = true → s.dcc.mayInitiate e.now = true) : Settled P (s.conclude i run.ref sub.key.kind e) := by
  have hok := h.evaluations run (List.mem_of_getElem? hrun) e hphase
  -- Everything was read, and read as it is now.
  have hread : ∀ r v, Fits P s r v run.phase → (∀ p ∈ e.seen, p.1 = r → p.2 = v) ∧ ∃ p ∈ e.seen, p.1 = r := by
    intro r v hfits
    rw [hphase] at hfits
    obtain ⟨hseen, hwhere⟩ := hfits
    refine ⟨hseen, ?_⟩
    rcases hwhere with hmem | ⟨t, ht, -⟩ | hp
    · simp [hreading] at hmem
    · simp [htodo] at ht
    · exact hp
  unfold Cov.conclude
  by_cases htrigger : e.trigger = true
  · rw [if_neg (by simp [htrigger]), if_neg (by simp [hmay htrigger])]
    have hagrees : ∀ t ∈ sub.targets, ∀ r ∈ t.refs, ∀ v, Fits P s r v run.phase →
        (∀ last, record e.seen s.last r = some last → P.significant last v = false) ∧
          record e.seen s.last r ≠ none := by
      intro t ht r hr v hfits
      obtain ⟨hseen, hp⟩ := hread r v hfits
      obtain ⟨p, hp, hpr, hrec⟩ := record_of_mem hp s.last
      rw [hrec, hseen p hp hpr]
      refine ⟨fun last hlast => ?_, nofun⟩
      cases hlast
      exact hrefl v
    refine h.move hsound hrun hsub rfl rfl rfl rfl rfl rfl (fun r hr => record_other hok.seen hr _) ?_ ?_
    · intro t ht r hr v _ hfits
      obtain ⟨hagree, hsome⟩ := hagrees t ht r hr v hfits
      split_ifs
      · exact ⟨hagree, fun _ => hsome⟩
      · exact ⟨hagree, fun _ => hsome⟩
    · intro e' he'
      split_ifs at he'
  · have htrigger : e.trigger = false := by simpa using htrigger
    rw [if_pos (by simp [htrigger])]
    refine h.move hsound hrun hsub rfl rfl rfl rfl rfl rfl (fun _ _ => rfl) ?_ nofun
    intro t ht r hr v _ hfits
    obtain ⟨hseen, p, hp, hpr⟩ := hread r v hfits
    obtain ⟨l, hl, hquiet⟩ := hok.quiet htrigger p hp
    rw [hseen p hp hpr, hpr] at *
    refine ⟨fun last hlast => ?_, fun _ => ?_⟩
    · obtain rfl := Option.some.inj (hl.symm.trans hlast)
      exact hquiet
    · rw [show s.last r = some l from hl]
      nofun

lemma Settled.runStep (h : Settled P s) (hsound : Sound s) (hrefl : ∀ v, P.significant v v = false)
    (hrun : s.runs[i]? = some run) (hsub : s.table.heap[run.ref]? = some sub) (hc : unsuppressed s (.run i) = true) :
    Settled P (s.runStep P i run sub) := by
  unfold Cov.runStep
  split
  · rename_i hphase
    exact h.runHead hsound hrun hsub hphase
  · refine h.move hsound hrun hsub rfl rfl rfl rfl rfl rfl (fun _ _ => rfl) ?_ ?_
    · intro t ht r hr v _ _
      exact ⟨nofun, .inr (.inl ⟨t, ht, hr⟩)⟩
    · intro e he
      cases he
      exact ⟨nofun, hsound.placed run.ref sub hsub, nofun, fun _ => nofun, fun _ => ⟨rfl, rfl⟩⟩
  · rename_i e hphase
    split
    · rename_i r rest hreading
      refine h.move hsound hrun hsub rfl rfl rfl rfl rfl rfl (fun _ _ => rfl) ?_ ?_
      · intro t ht r' hr' v hread hfits
        rw [hphase] at hfits
        rw [← (hsound.placed run.ref sub hsub t ht r' hr').2] at hread
        exact hfits.readRef hreading hread
      · intro e' he'
        cases he'
        exact (h.evaluations run (List.mem_of_getElem? hrun) e hphase).readRef hreading
    · rename_i t todo hreading htodo
      exact h.lookup hsound hrun hsub hphase hreading htodo
    · rename_i hreading htodo
      exact h.conclude hsound hrefl hrun hsub hphase hreading htodo (mayInitiate_of_unsuppressed hc hrun hphase hreading htodo)
  · rename_i values hphase
    refine h.move hsound hrun hsub rfl rfl rfl rfl rfl rfl (fun _ _ => rfl) ?_ nofun
    intro t ht r hr v _ hfits
    rw [hphase] at hfits
    exact hfits

theorem settled_step {a : Action V} (h : Settled P s) (hsound : Sound s) (hrefl : ∀ v, P.significant v v = false)
    (hc : unsuppressed s a = true) (hs : step P s a = some s') : Settled P s' := by
  cases moves_of_step hs with
  | idle => exact ⟨fun ref sub t r v hsub hopen hclean ht hr harrived => h.fits ref sub t r v hsub hopen hclean ht hr
      ⟨harrived.changes, harrived.kicks⟩, h.evaluations, h.kicked, h.unsent, h.beyond⟩
  | change obj o => exact h.change obj o
  | changed hobj => exact h.changed hsound hobj
  | kick hk => exact h.kick hsound hk
  | run hrun hsub => exact h.runStep hsound hrefl hrun hsub hc
  | maintain requests hm => exact h.maintain hm
  | acknowledge =>
    refine ⟨fun ref sub t r v hsub hopen hclean ht hr harrived => ?_, h.evaluations, h.kicked, h.unsent, h.beyond⟩
    refine h.fits ref sub t r v hsub hopen hclean ht hr ⟨harrived.changes, fun k hk => ?_⟩
    exact harrived.kicks k (List.mem_append_left _ hk)

/-! ### The value sent last -/

lemma record_congr {values : List (CovRef × V)} {last last' : CovRef → Option V} (h : last r = last' r) :
    record values last r = record values last' r := by
  simp only [record, h]

@[simp] lemma lastSent_simpleACK (transport : List (Sent V)) (ref : Ref) :
    lastSent (transport ++ [.simpleACK ref]) = lastSent transport := by
  simp [lastSent]

@[simp] lemma lastSent_notification (transport : List (Sent V)) (ref : Ref) (values : List (CovRef × V)) :
    lastSent (transport ++ [.notification ref values]) = record values (lastSent transport) := by
  simp [lastSent]

/-- What the references record is what was sent last, up to a notification that is about to be sent. -/
structure Tracks (s : Cov V) : Prop where
  idle : ∀ r : CovRef, (∀ run ∈ s.runs, run.ref = r.sub → ∀ values, run.phase ≠ .send values) →
    s.last r = lastSent s.transport r
  sending : ∀ run ∈ s.runs, ∀ values, run.phase = .send values → (∀ p ∈ values, p.1.sub = run.ref) ∧
    ∀ r : CovRef, r.sub = run.ref → s.last r = record values (lastSent s.transport) r

lemma Tracks.move (h : Tracks s) (hsound : Sound s) {phase : RunPhase V} (hrun : s.runs[i]? = some run)
    (hruns : s'.runs = s.runs.set i ⟨run.ref, phase⟩) (hlast : s'.last = s.last)
    (htransport : s'.transport = s.transport) (hbefore : ∀ values, run.phase ≠ .send values)
    (hafter : ∀ values, phase ≠ .send values) : Tracks s' where
  idle r hidle := by
    rw [hlast, htransport]
    refine h.idle r fun other hother href values => ?_
    by_cases heq : other = run
    · exact heq ▸ hbefore values
    · refine hidle other ?_ href values
      rw [hruns]
      exact Workers.mem_set_of_ne hrun hother heq
  sending other hother values hvalues := by
    rw [hruns] at hother
    rw [hlast, htransport]
    rcases Workers.mem_set_cases hsound.nodup hrun hother with rfl | ⟨hother, -⟩
    · exact absurd hvalues (hafter values)
    · exact h.sending other hother values hvalues

lemma Tracks.kick (h : Tracks s) (k : Kick) : Tracks (s.kick k) := by
  rcases kick_cases s k with ⟨heq, -⟩ | ⟨sub, -, -, heq⟩
  · rw [heq]
    exact h
  · rw [heq]
    by_cases hrunning : sub.running
    · refine ⟨fun r hidle => h.idle r ?_, fun run hrun => h.sending run ?_⟩
      · simpa [Cov.mark, hrunning] using hidle
      · simpa [Cov.mark, hrunning] using hrun
    · refine ⟨fun r hidle => h.idle r fun run hrun => hidle run ?_, fun run hrun values hvalues => ?_⟩
      · simp [Cov.mark, hrunning, hrun]
      · rcases mem_mark_cases hrun with hrun | rfl
        · exact h.sending run hrun values hvalues
        · cases hvalues

lemma Tracks.sent (h : Tracks s) (hsound : Sound s) (hrun : run ∈ s.runs) (hphase : ∀ values, run.phase ≠ .send values)
    (hr : r.sub = run.ref) : s.last r = lastSent s.transport r := by
  refine h.idle r fun other hother href => ?_
  obtain rfl := Workers.eq_of_key hsound.nodup hother hrun (href.trans hr)
  exact hphase

lemma Tracks.conclude (h : Tracks s) (hsound : Sound s) (hrun : s.runs[i]? = some run) {e : Evaluation V}
    (hphase : run.phase = .evaluate e) (hok : EvaluationOk P s.last run.ref e) (kind : SubKind) :
    Tracks (s.conclude i run.ref kind e) := by
  have hbefore : ∀ values, run.phase ≠ .send values := by
    intro values hvalues
    rw [hphase] at hvalues
    cases hvalues
  unfold Cov.conclude
  by_cases htrigger : e.trigger
  · by_cases hmay : s.dcc.mayInitiate e.now
    · rw [if_neg (by simp [htrigger]), if_neg (by simp [hmay])]
      by_cases hempty : kind ≠ .multiple ∧ !e.found
      · rw [if_pos hempty]
        have hseen : e.seen = [] := (hok.notFound (by simpa using hempty.2)).2
        have hlast : record e.seen s.last = s.last := by
          funext r
          simp [hseen, record]
        exact h.move hsound hrun rfl hlast rfl hbefore nofun
      · rw [if_neg hempty]
        refine ⟨fun r hidle => ?_, fun other hmem values hvalues => ?_⟩
        · have hr : r.sub ≠ run.ref := by
            intro hr
            exact hidle _ (Workers.mem_set_new hrun) hr.symm _ rfl
          refine (record_other hok.seen hr _).trans (h.idle r fun other hmem href => ?_)
          exact hidle other (Workers.mem_set_of_key_ne hrun hmem (href.trans_ne hr)) href
        · rcases Workers.mem_set_cases hsound.nodup hrun hmem with rfl | ⟨hmem, hne⟩
          · cases hvalues
            refine ⟨hok.seen, fun r hr => record_congr ?_⟩
            exact h.sent hsound (List.mem_of_getElem? hrun) hbefore hr
          · obtain ⟨hplaced, hsending⟩ := h.sending other hmem values hvalues
            exact ⟨hplaced, fun r hr => (record_other hok.seen (hr ▸ hne) _).trans (hsending r hr)⟩
    · rw [if_neg (by simp [htrigger]), if_pos (by simp [hmay])]
      exact h.move hsound hrun rfl rfl rfl hbefore nofun
  · rw [if_pos (by simp [htrigger])]
    exact h.move hsound hrun rfl rfl rfl hbefore nofun

lemma Tracks.send (h : Tracks s) (hsound : Sound s) (hrun : s.runs[i]? = some run) {values : List (CovRef × V)}
    (hphase : run.phase = .send values) :
    Tracks { s with
      transport := s.transport ++ [.notification run.ref values]
      runs := s.runs.set i ⟨run.ref, .head⟩ } := by
  obtain ⟨hplaced, hsent⟩ := h.sending run (List.mem_of_getElem? hrun) values hphase
  refine ⟨fun r hidle => ?_, fun other hmem vs hvs => ?_⟩
  · rw [lastSent_notification]
    by_cases hr : r.sub = run.ref
    · exact hsent r hr
    · rw [record_other hplaced hr]
      exact h.idle r fun other hmem href => hidle other (Workers.mem_set_of_key_ne hrun hmem (href.trans_ne hr)) href
  · rcases Workers.mem_set_cases hsound.nodup hrun hmem with rfl | ⟨hmem, hne⟩
    · cases hvs
    · obtain ⟨hplaced', hsent'⟩ := h.sending other hmem vs hvs
      refine ⟨hplaced', fun r hr => (hsent' r hr).trans (record_congr ?_)⟩
      rw [lastSent_notification, record_other hplaced (hr ▸ hne)]

lemma Tracks.runStep (h : Tracks s) (hsound : Sound s) (hrun : s.runs[i]? = some run)
    (hok : ∀ e, run.phase = .evaluate e → EvaluationOk P s.last run.ref e) : Tracks (s.runStep P i run sub) := by
  unfold Cov.runStep
  split
  · rename_i hphase
    have hbefore : ∀ values, run.phase ≠ .send values := by simp [hphase]
    unfold runHead
    split_ifs
    · refine ⟨fun r hidle => ?_, fun other hmem => h.sending other ((List.eraseIdx_sublist _ i).subset hmem)⟩
      refine h.idle r fun other hmem href => ?_
      by_cases heq : other = run
      · exact heq ▸ hbefore
      · exact hidle other (Workers.mem_eraseIdx_of_ne hrun hmem heq) href
    · exact h.move hsound hrun rfl rfl rfl hbefore nofun
  · rename_i hphase
    exact h.move hsound hrun rfl rfl rfl (by simp [hphase]) nofun
  · rename_i e hphase
    have hbefore : ∀ values, run.phase ≠ .send values := by simp [hphase]
    split
    · exact h.move hsound hrun rfl rfl rfl hbefore nofun
    · exact h.move hsound hrun rfl rfl rfl hbefore nofun
    · exact h.conclude hsound hrun hphase (hok e hphase) _
  · rename_i values hphase
    exact h.send hsound hrun hphase

theorem tracks_step {a : Action V} (h : Tracks s) (hsound : Sound s)
    (hok : ∀ run ∈ s.runs, ∀ e, run.phase = .evaluate e → EvaluationOk P s.last run.ref e)
    (hs : step P s a = some s') : Tracks s' := by
  cases moves_of_step hs with
  | idle | change | changed | maintain => exact ⟨h.idle, h.sending⟩
  | @kick i k =>
    have hrest : Tracks { s with kicks := s.kicks.eraseIdx i } := ⟨h.idle, h.sending⟩
    exact hrest.kick k
  | run hrun => exact h.runStep hsound hrun (hok _ (List.mem_of_getElem? hrun))
  | acknowledge =>
    refine ⟨fun r hidle => ?_, fun run hrun values hvalues => ?_⟩
    · rw [lastSent_simpleACK]
      exact h.idle r hidle
    · rw [lastSent_simpleACK]
      exact h.sending run hrun values hvalues

/-! ### Quiescence -/

/-- While initiation is enabled, an open and unexpired subscription that is neither marked nor has a sender has sent
what does not differ significantly from the present values, once the changes of its objects have arrived. -/
def Reported (P : CovParams V) (s : Cov V) : Prop :=
  s.dcc.current s.now = .enable →
  ∀ (ref : Ref) (sub : CovSub) (t : CovTarget) (r : CovRef) (v : V), s.table.heap[ref]? = some sub →
    sub.closed = false → sub.expired s.now = false → sub.dirty = false → sub.running = false →
    t ∈ sub.targets → r ∈ t.refs → s.Arrived ref t.obj → s.dev.read t.obj r.prop = some v →
    (∀ sent, lastSent s.transport r = some sent → P.significant sent v = false) ∧
      (s.kicked ref = true → lastSent s.transport r ≠ none)

theorem quiet_reported (hrefl : ∀ v, P.significant v v = false) {dev : Device V}
    (hs : Transition.ReachableWhere { dev } (step P) (fun s a => unsuppressed s a = true) s) : Reported P s := by
  obtain ⟨hsound, hsettled, htracks⟩ : Sound s ∧ Settled P s ∧ Tracks s := by
    refine hs.invariant (fun s => Sound s ∧ Settled P s ∧ Tracks s) ⟨sound_init dev, ?_, ?_⟩ fun s a s' h hc hs =>
      ⟨sound_step h.1 hs, settled_step h.2.1 h.1 hrefl hc hs, tracks_step h.2.2 h.1 h.2.1.evaluations hs⟩
    · exact ⟨fun ref sub t r v hsub => by simp at hsub, by simp, by simp, fun _ _ => rfl, fun _ _ => rfl⟩
    · exact ⟨fun _ _ => rfl, by simp⟩
  intro _ ref sub t r v hsub hopen _ hclean hidle ht hr harrived hread
  have hnone : ∀ run ∈ s.runs, run.ref ≠ ref := by
    rintro run hrun rfl
    simpa [hidle] using (hsound.mem_runs_iff hsub).mp (List.mem_map_of_mem hrun)
  have hrsub := (hsound.placed ref sub hsub t ht r hr).1
  have hsent : s.last r = lastSent s.transport r :=
    htracks.idle r fun run hrun href => absurd (href.trans hrsub) (hnone run hrun)
  have hagrees := (hsettled.fits ref sub t r v hsub hopen hclean ht hr harrived hread).2 hnone
  rw [← hsent, ← hrsub]
  exact hagrees

/-- The SimpleACK of the subscription goes out, its initial notification follows, and its sender ends. -/
def acknowledged : List (Action Bool) := [.proceed 0 true, .kick 0] ++ evaluated ++ [.run 0]

/-- A reported change of the binary object to true, after which the subscription is quiet again. -/
theorem quiet_reported_change :
    ∃ s : Cov Bool, Transition.ReachableWhere { dev := binaryDevice } (step binaryParams)
        (fun s a => unsuppressed s a = true) s ∧
      s.dev.read ⟨5, 1⟩ .presentValue = some true ∧
      lastSent s.transport ⟨0, 0, 0, ⟨5, 1⟩, .presentValue⟩ = some true ∧ Reported binaryParams s := by
  obtain ⟨s, hrun, hproj⟩ := Option.map_eq_some_iff.mp
    (show (Transition.runWhere (step binaryParams) unsuppressed { dev := binaryDevice }
      (subscribed ++ acknowledged ++ reportedChange true ++ evaluated ++ [.run 0])).map (fun s =>
        (s.dev.read ⟨5, 1⟩ .presentValue, lastSent s.transport ⟨0, 0, 0, ⟨5, 1⟩, .presentValue⟩)) =
        some (some true, some true) by decide +kernel)
  obtain ⟨hread, hsent⟩ := Prod.mk.inj hproj
  have hreach := Transition.ReachableWhere.runWhere .init hrun
  exact ⟨s, hreach, hread, hsent, quiet_reported (by decide) hreach⟩

def changeWhileDisabled : List (Action Bool) :=
  subscribed ++ acknowledged ++ [.control .disableInitiation none] ++ reportedChange true ++ List.replicate 7 (.run 0) ++
    [.control .enable none]

/-- A change while initiation is disabled is not reported after initiation is enabled. -/
theorem change_while_disabled_lost :
    ∃ s : Cov Bool, Reachable binaryParams binaryDevice s ∧ ¬Reported binaryParams s := by
  obtain ⟨s, hrun, hproj⟩ := Option.map_eq_some_iff.mp
    (show (Transition.run (step binaryParams) { dev := binaryDevice } changeWhileDisabled).map (fun s =>
        ((s.table.heap, s.dcc), (s.changes.length, s.kicks.length), s.dev.read ⟨5, 1⟩ .presentValue,
          lastSent s.transport ⟨0, 0, 0, ⟨5, 1⟩, .presentValue⟩)) =
        some (([binarySub], {}), (0, 0), some true, some false) by decide +kernel)
  simp only [Prod.mk.injEq, List.length_eq_zero_iff] at hproj
  obtain ⟨⟨hheap, hdcc⟩, ⟨hchanges, hkicks⟩, hread, hsent⟩ := hproj
  refine ⟨s, Transition.Reachable.run .init hrun, fun hreported => ?_⟩
  have hsub := congrArg (fun heap : List CovSub => heap[0]?) hheap
  have harrived : s.Arrived 0 ⟨5, 1⟩ := ⟨by simp [hchanges], by simp [hkicks]⟩
  have hquiet := (hreported (by rw [hdcc]; rfl) 0 _ _ _ _ hsub rfl rfl rfl rfl (List.mem_singleton.mpr rfl)
    (List.mem_cons_self) harrived hread).1 false hsent
  cases hquiet

end Cov

end GoBacnet.Server
