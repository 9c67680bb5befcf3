import GoBacnet.Proofs.CovOrder

/-!
# No change is lost between a kick and a sender

A change that was delivered to an open subscription and that no evaluation has looked at keeps the subscription
marked and its sender running, or an evaluation in progress has yet to look up the object.
-/

namespace GoBacnet.Server

variable {V : Type}

/-- Whether a sender has taken up an evaluation that has yet to look up an object. -/
def RunPhase.willRead (obj : ObjectIdentifier) : RunPhase V → Prop
  | .head | .send _ => False
  | .start _ => True
  | .evaluate e => ∃ t ∈ e.todo, t.obj = obj

namespace Cov

variable {P : CovParams V} {s s' : Cov V} {i : Nat} {run : Run V} {sub : CovSub}

def Pending (s : Cov V) (ref : Ref) (sub : CovSub) (obj : ObjectIdentifier) : Prop :=
  sub.dirty = true ∧ (∃ run ∈ s.runs, run.ref = ref) ∨ ∃ run ∈ s.runs, run.ref = ref ∧ run.phase.willRead obj

structure Awake (s : Cov V) : Prop where
  pending : ∀ (ref : Ref) (sub : CovSub) (obj : ObjectIdentifier), s.table.heap[ref]? = some sub →
    sub.closed = false → sub.monitors obj → s.stale ref obj = true → s.Pending ref sub obj
  /-- A subscription that is not marked was evaluated after the last change delivered to it. -/
  covered : ∀ (ref : Ref) (sub : CovSub), s.table.heap[ref]? = some sub → sub.dirty = false →
    s.covered ref = s.delivered ref
  /-- To a subscription that does not exist nothing was delivered. -/
  beyond : ∀ ref : Ref, s.table.heap.length ≤ ref →
    s.covered ref = s.delivered ref ∧ ∀ obj, s.stale ref obj = false

lemma Awake.maintain (h : Awake s) {table : CovTable} {requests : List Subscribing} (hm : s.table.Maintained table) :
    Awake { s with table, requests } where
  pending ref sub' obj hsub' hopen hobj hstale := by
    rcases hm.records ref sub' hsub' with ⟨sub, hsub, hnarrows⟩ | ⟨hle, -⟩
    · have hpending := h.pending ref sub obj hsub (hnarrows.closed hopen) (hnarrows.monitors hobj) hstale
      simpa only [Pending, hnarrows.dirty] using hpending
    · rw [(h.beyond ref hle).2 obj] at hstale
      cases hstale
  covered ref sub' hsub' hclean := by
    rcases hm.records ref sub' hsub' with ⟨sub, hsub, hnarrows⟩ | ⟨hle, -⟩
    · exact h.covered ref sub hsub (hnarrows.dirty ▸ hclean)
    · exact (h.beyond ref hle).1
  beyond ref hle := h.beyond ref (hm.length.trans hle)

lemma Awake.mark (h : Awake s) (hsound : Sound s) {k : Kick} (hsub : s.table.heap[k.ref]? = some sub) :
    Awake (s.mark k sub) where
  pending ref x obj hx hopen hobj hstale := by
    rcases getElem?_set_cases hx with ⟨rfl, rfl⟩ | ⟨hne, hx⟩
    · have hmem := ((hsound.mark hsub).running k.ref).mpr ⟨_, getElem?_set_self hsub, rfl⟩
      exact .inl ⟨rfl, List.mem_map.mp hmem⟩
    · have hstale : s.stale ref obj = true := by simpa [Cov.mark, hne] using hstale
      rcases h.pending ref x obj hx hopen hobj hstale with ⟨hdirty, run, hrun, href⟩ | ⟨run, hrun, hread⟩
      · exact .inl ⟨hdirty, run, mem_mark_of_mem hrun, href⟩
      · exact .inr ⟨run, mem_mark_of_mem hrun, hread⟩
  covered ref x hx hclean := by
    rcases getElem?_set_cases hx with ⟨rfl, rfl⟩ | ⟨hne, hx⟩
    · cases hclean
    · simpa [Cov.mark, hne] using h.covered ref x hx hclean
  beyond ref hle := by
    simp only [Cov.mark, List.length_set] at hle
    simpa [Cov.mark, ne_of_beyond hsub hle] using h.beyond ref hle

lemma Awake.kick (h : Awake s) (hsound : Sound s) (k : Kick) : Awake (s.kick k) := by
  rcases kick_cases s k with ⟨heq, -⟩ | ⟨sub, hsub, -, heq⟩
  · rw [heq]
    exact h
  · rw [heq]
    exact h.mark hsound hsub

lemma Pending.other {ref : Ref} {obj : ObjectIdentifier} (h : s.Pending ref sub obj)
    (hkeep : ∀ run ∈ s.runs, run.ref = ref → run ∈ s'.runs) : s'.Pending ref sub obj := by
  rcases h with ⟨hdirty, run, hrun, href⟩ | ⟨run, hrun, href, hread⟩
  · exact .inl ⟨hdirty, run, hkeep run hrun href, href⟩
  · exact .inr ⟨run, hkeep run hrun href, href, hread⟩

lemma Awake.move (h : Awake s) (hsound : Sound s) {phase : RunPhase V} (hrun : s.runs[i]? = some run)
    (hsub : s.table.heap[run.ref]? = some sub) (htable : s'.table = s.table)
    (hruns : s'.runs = s.runs.set i ⟨run.ref, phase⟩) (hdelivered : s'.delivered = s.delivered)
    (hcovered : s'.covered = s.covered) (hstale : ∀ ref obj, s'.stale ref obj = true → s.stale ref obj = true)
    (hread : ∀ obj, sub.monitors obj → s'.stale run.ref obj = true → run.phase.willRead obj → phase.willRead obj) :
    Awake s' where
  pending ref x obj hx hopen hobj hst := by
    rw [htable] at hx
    have hpending := h.pending ref x obj hx hopen hobj (hstale ref obj hst)
    have hnew : (⟨run.ref, phase⟩ : Run V) ∈ s'.runs := hruns ▸ Workers.mem_set_new hrun
    by_cases hself : ref = run.ref
    · subst hself
      obtain rfl := Option.some.inj (hsub.symm.trans hx)
      rcases hpending with ⟨hdirty, -⟩ | ⟨other, hother, href, hwill⟩
      · exact .inl ⟨hdirty, _, hnew, rfl⟩
      · obtain rfl := Workers.eq_of_key hsound.nodup hother (List.mem_of_getElem? hrun) href
        exact .inr ⟨_, hnew, rfl, hread obj hobj hst hwill⟩
    · refine hpending.other fun other hother href => ?_
      rw [hruns]
      exact Workers.mem_set_of_key_ne hrun hother (href.trans_ne hself)
  covered ref x hx hclean := by
    rw [htable] at hx
    rw [hcovered, hdelivered]
    exact h.covered ref x hx hclean
  beyond ref hle := by
    rw [htable] at hle
    rw [hcovered, hdelivered]
    refine ⟨(h.beyond ref hle).1, fun obj => ?_⟩
    by_contra hst
    have := hstale ref obj (by simpa using hst)
    rw [(h.beyond ref hle).2 obj] at this
    cases this

lemma Awake.runHead (h : Awake s) (hsound : Sound s) (hrun : s.runs[i]? = some run)
    (hsub : s.table.heap[run.ref]? = some sub) (hphase : run.phase = .head) : Awake (s.runHead i run.ref sub) := by
  unfold Cov.runHead
  split_ifs with hstop
  · refine ⟨fun ref x obj hx hopen hobj hstale => ?_, fun ref x hx hclean => ?_, fun ref hle => ?_⟩
    · rcases getElem?_set_cases hx with ⟨rfl, rfl⟩ | ⟨hne, hx⟩
      · -- The sender of an open subscription ends only if the subscription is not marked.
        have hopen : sub.closed = false := hopen
        have hclean : sub.dirty = false := by simpa [hopen] using hstop
        rcases h.pending run.ref sub obj hsub hopen hobj hstale with ⟨hdirty, -⟩ | ⟨other, hother, href, hwill⟩
        · rw [hclean] at hdirty
          cases hdirty
        · obtain rfl := Workers.eq_of_key hsound.nodup hother (List.mem_of_getElem? hrun) href
          rw [hphase] at hwill
          exact hwill.elim
      · exact (h.pending ref x obj hx hopen hobj hstale).other fun other hother href =>
          Workers.mem_eraseIdx_of_key_ne hrun hother (href.trans_ne hne)
    · rcases getElem?_set_cases hx with ⟨rfl, rfl⟩ | ⟨-, hx⟩
      · exact h.covered run.ref sub hsub hclean
      · exact h.covered ref x hx hclean
    · exact h.beyond ref (by simpa using hle)
  · refine ⟨fun ref x obj hx hopen hobj hstale => ?_, fun ref x hx hclean => ?_, fun ref hle => ?_⟩
    · rcases getElem?_set_cases hx with ⟨rfl, rfl⟩ | ⟨hne, hx⟩
      · exact .inr ⟨_, Workers.mem_set_new hrun, rfl, trivial⟩
      · exact (h.pending ref x obj hx hopen hobj hstale).other fun other hother href =>
          Workers.mem_set_of_key_ne hrun hother (href.trans_ne hne)
    · rcases getElem?_set_cases hx with ⟨rfl, rfl⟩ | ⟨hne, hx⟩
      · simp
      · simpa [hne] using h.covered ref x hx hclean
    · simp only [List.length_set] at hle
      simpa [ne_of_beyond hsub hle] using h.beyond ref hle

lemma readRef_todo (s : Cov V) (e : Evaluation V) (r : CovRef) (rest : List CovRef) :
    (s.readRef P e r rest).todo = e.todo := by
  unfold readRef
  split <;> rfl

lemma Awake.runStep (h : Awake s) (hsound : Sound s) (hrun : s.runs[i]? = some run)
    (hsub : s.table.heap[run.ref]? = some sub) : Awake (s.runStep P i run sub) := by
  unfold Cov.runStep
  split
  · rename_i hphase
    exact h.runHead hsound hrun hsub hphase
  · refine h.move hsound hrun hsub rfl rfl rfl rfl (fun _ _ hst => hst) fun obj hobj _ _ => ?_
    obtain ⟨t, ht, hobj⟩ := List.any_eq_true.mp hobj
    exact ⟨t, ht, of_decide_eq_true hobj⟩
  · rename_i e hphase
    split
    · rename_i r rest hreading
      refine h.move hsound hrun hsub rfl rfl rfl rfl (fun _ _ hst => hst) fun obj _ _ hwill => ?_
      rw [hphase] at hwill
      simpa only [RunPhase.willRead, readRef_todo] using hwill
    · rename_i t todo _ htodo
      refine h.move hsound hrun hsub rfl rfl rfl rfl (fun ref obj hst => ?_) fun obj _ hst hwill => ?_
      · simp only [Cov.lookup, Bool.if_false_left, Bool.and_eq_true] at hst
        exact hst.2
      · rw [hphase] at hwill
        obtain ⟨t', ht', hobj⟩ := hwill
        rw [htodo] at ht'
        rcases List.mem_cons.mp ht' with rfl | ht'
        · simp [Cov.lookup, hobj] at hst
        · refine ⟨t', ?_, hobj⟩
          split <;> exact ht'
    · rename_i htodo
      have hdone : ∀ obj, ¬run.phase.willRead obj := by
        rintro obj hwill
        rw [hphase] at hwill
        obtain ⟨t, ht, -⟩ := hwill
        rw [htodo] at ht
        cases ht
      unfold conclude
      split_ifs
      all_goals exact h.move hsound hrun hsub rfl rfl rfl rfl (fun _ _ hst => hst) fun obj _ _ hwill => (hdone obj hwill).elim
  · rename_i values hphase
    refine h.move hsound hrun hsub rfl rfl rfl rfl (fun _ _ hst => hst) fun obj _ _ hwill => ?_
    rw [hphase] at hwill
    exact hwill

end Cov

end GoBacnet.Server
