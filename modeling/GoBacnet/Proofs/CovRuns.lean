import GoBacnet.Lib.Workers
import GoBacnet.Server.Cov

/-!
# Senders and subscriptions

At most one sender runs for each subscription, one exactly while the subscription says so, and a subscription that
is open is in the table.
-/

namespace GoBacnet.Server

open CovTable (upsert)

variable {V : Type}

/-! ### Changes of the table -/

/-- What a change of the table keeps of a record. -/
structure CovSub.Narrows (sub sub' : CovSub) : Prop where
  key : sub'.key = sub.key
  dirty : sub'.dirty = sub.dirty
  running : sub'.running = sub.running
  closed : sub'.closed = false → sub.closed = false
  targets : sub'.targets ⊆ sub.targets

/-- The references of a record belong to it, each to the object of its target. -/
def CovSub.Placed (ref : Ref) (sub : CovSub) : Prop := ∀ t ∈ sub.targets, ∀ r ∈ t.refs, r.sub = ref ∧ r.obj = t.obj

lemma CovSub.Narrows.monitors {sub sub' : CovSub} (h : sub.Narrows sub') {obj : ObjectIdentifier}
    (hobj : sub'.monitors obj) : sub.monitors obj := by
  obtain ⟨t, ht, hobj⟩ := List.any_eq_true.mp hobj
  exact List.any_eq_true.mpr ⟨t, h.targets ht, hobj⟩

lemma CovSub.Narrows.refl (sub : CovSub) : sub.Narrows sub := ⟨rfl, rfl, rfl, id, fun _ h => h⟩

lemma CovSub.narrows_close (sub : CovSub) : sub.Narrows sub.close := ⟨rfl, rfl, rfl, nofun, fun _ h => h⟩

lemma CovSub.narrows_drop (sub : CovSub) (obj : ObjectIdentifier) : sub.Narrows (sub.drop obj) where
  key := rfl
  dirty := rfl
  running := rfl
  closed h := (Bool.or_eq_false_iff.mp h).1
  targets := List.filter_subset_self _

lemma NewSub.placed_targets (new : NewSub) (ref : Ref) :
    ∀ t ∈ new.targets ref, ∀ r ∈ t.refs, r.sub = ref ∧ r.obj = t.obj := by
  intro t ht r hr
  obtain ⟨i, hi, rfl⟩ := List.mem_mapIdx.mp ht
  obtain ⟨j, hj, rfl⟩ := List.mem_mapIdx.mp hr
  exact ⟨rfl, rfl⟩

namespace CovTable

variable {e e' : CovTable} {ref : Ref} {sub : CovSub}

/-- The records of a table after a change: those of before, narrowed, and new ones that nothing has touched. -/
structure Maintained (e e' : CovTable) : Prop where
  length : e.heap.length ≤ e'.heap.length
  records : ∀ ref sub', e'.heap[ref]? = some sub' → (∃ sub, e.heap[ref]? = some sub ∧ sub.Narrows sub') ∨
    (e.heap.length ≤ ref ∧ sub'.dirty = false ∧ sub'.running = false ∧ sub'.Placed ref)

lemma Maintained.narrowed (h : Maintained e e') (hsub : e.heap[ref]? = some sub) :
    ∃ sub', e'.heap[ref]? = some sub' ∧ sub.Narrows sub' := by
  obtain ⟨hlt, -⟩ := List.getElem?_eq_some_iff.mp hsub
  have hsub' := List.getElem?_eq_getElem (lt_of_lt_of_le hlt h.length)
  refine ⟨_, hsub', ?_⟩
  rcases h.records ref _ hsub' with ⟨old, hold, hnarrows⟩ | ⟨hle, -⟩
  · obtain rfl := Option.some.inj (hsub.symm.trans hold)
    exact hnarrows
  · exact absurd hlt (not_lt.mpr hle)

def Linked (e : CovTable) : Prop :=
  ∀ ref sub, e.heap[ref]? = some sub → sub.closed = false → e.subs sub.key = some ref

lemma mem_hit (hsubs : e.subs sub.key = some ref) (hsub : e.heap[ref]? = some sub) {t : CovTarget}
    (ht : t ∈ sub.targets) : ref ∈ e.hit t.obj := by
  have hholds : e.holds ref sub := decide_eq_true hsubs
  have hmonitors : sub.monitors t.obj := List.any_eq_true.mpr ⟨t, ht, decide_eq_true rfl⟩
  obtain ⟨hlt, rfl⟩ := List.getElem?_eq_some_iff.mp hsub
  simp [hit, refs, hmonitors, hholds, hlt]

lemma getElem?_update (e : CovTable) (f : CovSub → CovSub) (keep : CovSub → Bool) (ref : Ref) :
    (e.update f keep).heap[ref]? = e.heap[ref]?.map fun sub => if e.holds ref sub then f sub else sub :=
  List.getElem?_mapIdx

lemma maintained_update {f : CovSub → CovSub} {keep : CovSub → Bool} (hf : ∀ sub : CovSub, sub.Narrows (f sub)) :
    Maintained e (e.update f keep) where
  length := by simp [update]
  records ref sub' h := by
    rw [getElem?_update] at h
    obtain ⟨sub, hsub, rfl⟩ := Option.map_eq_some_iff.mp h
    refine .inl ⟨sub, hsub, ?_⟩
    split_ifs
    · exact hf sub
    · exact .refl sub

lemma Linked.update (h : e.Linked) {f : CovSub → CovSub} {keep : CovSub → Bool}
    (hf : ∀ sub : CovSub, sub.Narrows (f sub)) (hkeep : ∀ sub, (f sub).closed = false → keep sub = true) :
    (e.update f keep).Linked := by
  intro ref sub' hsub' hopen
  rw [getElem?_update] at hsub'
  obtain ⟨sub, hsub, rfl⟩ := Option.map_eq_some_iff.mp hsub'
  by_cases hholds : e.holds ref sub
  · rw [if_pos hholds] at hopen ⊢
    have hkey : e.subs sub.key = some ref := of_decide_eq_true hholds
    simp [CovTable.update, (hf sub).key, hkey, hsub, hkeep sub hopen]
  · rw [if_neg hholds] at hopen
    exact absurd (decide_eq_true (h ref sub hsub hopen)) hholds

lemma narrows_expire (now : Nat) (sub : CovSub) : sub.Narrows (if sub.expired now then sub.close else sub) := by
  split_ifs
  · exact sub.narrows_close
  · exact .refl sub

lemma Linked.expire (h : e.Linked) (now : Nat) : (e.expire now).Linked := by
  refine h.update (narrows_expire now) fun sub hopen => ?_
  split_ifs at hopen with hexp
  · simp [CovSub.close] at hopen
  · simp [hexp]

lemma Linked.objectRemoved (h : e.Linked) (obj : ObjectIdentifier) : (e.objectRemoved obj).Linked := by
  refine h.update (fun sub => sub.narrows_drop obj) fun sub hopen => ?_
  have hkept := (Bool.or_eq_false_iff.mp hopen).2
  obtain ⟨t, ht⟩ := List.exists_mem_of_ne_nil _ (List.isEmpty_eq_false_iff.mp hkept)
  exact List.any_eq_true.mpr ⟨t, List.mem_filter.mp ht⟩

lemma getElem?_close {heap : List CovSub} {old ref : Ref} {sub' : CovSub}
    (h : (heap.modify old CovSub.close)[ref]? = some sub') :
    ∃ sub, heap[ref]? = some sub ∧ sub' = if old = ref then sub.close else sub := by
  rw [List.getElem?_modify] at h
  obtain ⟨sub, hsub, rfl⟩ := Option.map_eq_some_iff.mp h
  exact ⟨sub, hsub, rfl⟩

lemma narrows_of_close {heap : List CovSub} {old ref : Ref} {sub' : CovSub}
    (h : (heap.modify old CovSub.close)[ref]? = some sub') : ∃ sub, heap[ref]? = some sub ∧ sub.Narrows sub' := by
  obtain ⟨sub, hsub, rfl⟩ := getElem?_close h
  refine ⟨sub, hsub, ?_⟩
  split_ifs
  · exact sub.narrows_close
  · exact .refl sub

lemma maintained_cancel (e : CovTable) (key : SubKey) : Maintained e (e.cancel key) := by
  unfold cancel
  split
  · exact ⟨le_rfl, fun ref sub h => .inl ⟨sub, h, .refl sub⟩⟩
  · exact ⟨by simp, fun ref sub h => .inl (narrows_of_close h)⟩

lemma Linked.close (h : e.Linked) {key : SubKey} {old ref : Ref} {sub' : CovSub} (hold : e.subs key = some old)
    (hsub' : (e.heap.modify old CovSub.close)[ref]? = some sub') (hopen : sub'.closed = false) :
    sub'.key ≠ key ∧ e.subs sub'.key = some ref := by
  obtain ⟨sub, hsub, rfl⟩ := getElem?_close hsub'
  split_ifs at hopen ⊢ with heq
  · simp [CovSub.close] at hopen
  · have hlinked := h ref sub hsub hopen
    refine ⟨?_, hlinked⟩
    rintro rfl
    exact heq (Option.some.inj (hold.symm.trans hlinked))

lemma Linked.cancel (h : e.Linked) (key : SubKey) : (e.cancel key).Linked := by
  unfold CovTable.cancel
  split
  · exact h
  · rename_i old hold
    intro ref sub' hsub' hopen
    obtain ⟨hne, hlinked⟩ := h.close hold hsub' hopen
    simpa [Function.update_of_ne hne] using hlinked

section Upsert

variable {cfg : CovConfig} {now : Nat} {new : NewSub}

lemma upsert_ok (h : upsert cfg now e new = .ok (e', ref)) :
    ref = e.heap.length ∧ e'.subs = Function.update e.subs new.key (some ref) ∧
      ∃ heap sub, e'.heap = heap ++ [sub] ∧ heap.length = e.heap.length ∧
        sub.key = new.key ∧ sub.dirty = false ∧ sub.running = false ∧ sub.targets = new.targets ref ∧
        (heap = e.heap ∧ e.subs new.key = none ∨
          ∃ old, e.subs new.key = some old ∧ heap = e.heap.modify old CovSub.close) := by
  unfold upsert at h
  dsimp only at h
  by_cases hlife : cfg.maxLifetime > 0 ∧ (new.lifetime = 0 ∨ new.lifetime.toNat * second > cfg.maxLifetime)
  · rw [if_pos hlife] at h
    cases h
  rw [if_neg hlife] at h
  split at h
  · rename_i old hold
    cases h
    exact ⟨rfl, rfl, _, _, rfl, by simp, rfl, rfl, rfl, rfl, .inr ⟨old, hold, rfl⟩⟩
  · rename_i hfree
    by_cases hspace : e.refs.length ≥ cfg.maxCOV
    · rw [if_pos hspace] at h
      cases h
    rw [if_neg hspace] at h
    cases h
    exact ⟨rfl, rfl, _, _, rfl, rfl, rfl, rfl, rfl, rfl, .inl ⟨rfl, hfree⟩⟩

lemma getElem?_added {heap : List CovSub} {added sub' : CovSub} (hge : ¬ref < heap.length)
    (h : [added][ref - heap.length]? = some sub') : ref = heap.length ∧ added = sub' := by
  rw [List.getElem?_singleton] at h
  split_ifs at h with hidx
  exact ⟨le_antisymm (Nat.sub_eq_zero_iff_le.mp hidx) (not_lt.mp hge), Option.some.inj h⟩

lemma maintained_upsert (h : upsert cfg now e new = .ok (e', ref)) : Maintained e e' := by
  obtain ⟨rfl, -, heap, added, hheap, hlen, -, hdirty, hrunning, htargets, hbefore⟩ := upsert_ok h
  refine ⟨by simp [hheap, hlen], fun ref sub' hsub' => ?_⟩
  rw [hheap, List.getElem?_append] at hsub'
  split_ifs at hsub' with hlt
  · refine .inl ?_
    rcases hbefore with ⟨rfl, -⟩ | ⟨old, -, rfl⟩
    · exact ⟨sub', hsub', .refl sub'⟩
    · exact narrows_of_close hsub'
  · obtain ⟨href, rfl⟩ := getElem?_added hlt hsub'
    rw [hlen] at href
    refine .inr ⟨href.ge, hdirty, hrunning, ?_⟩
    unfold CovSub.Placed
    rw [htargets, href]
    exact new.placed_targets _

lemma Linked.upsert (hlinked : e.Linked) (h : CovTable.upsert cfg now e new = .ok (e', ref)) : e'.Linked := by
  obtain ⟨rfl, hsubs, heap, added, hheap, hlen, hkey, -, -, -, hbefore⟩ := upsert_ok h
  intro ref sub' hsub' hopen
  rw [hheap, List.getElem?_append] at hsub'
  split_ifs at hsub' with hlt
  · have hold : sub'.key ≠ new.key ∧ e.subs sub'.key = some ref := by
      rcases hbefore with ⟨rfl, hfree⟩ | ⟨old, hold, rfl⟩
      · have := hlinked ref sub' hsub' hopen
        refine ⟨?_, this⟩
        intro heq
        rw [heq, hfree] at this
        cases this
      · exact hlinked.close hold hsub' hopen
    rw [hsubs, Function.update_of_ne hold.1]
    exact hold.2
  · obtain ⟨href, rfl⟩ := getElem?_added hlt hsub'
    rw [hsubs, hkey, Function.update_self, href, hlen]

end Upsert

end CovTable

/-! ### Senders -/

namespace Cov

variable {P : CovParams V} {s s' : Cov V} {i : Nat} {run : Run V} {ref : Ref} {sub sub' : CovSub}

/-- What a step does, by the parts of the state that it changes. -/
inductive Moves (P : CovParams V) (s : Cov V) : Action V → Cov V → Prop
  | idle {a : Action V} (now : Nat) (dcc : Dcc) (requests : List Subscribing) : Moves P s a { s with now, dcc, requests }
  | change (obj : ObjectIdentifier) (o : Option (Object V)) :
      Moves P s (.change obj o) { s with dev := s.dev.put obj o, changes := s.changes ++ [obj] }
  | changed {i : Nat} {obj : ObjectIdentifier} (hobj : s.changes[i]? = some obj) :
      Moves P s (.changed i) { s with
        changes := s.changes.eraseIdx i
        kicks := s.kicks ++ (s.table.hit obj).map fun ref => ⟨ref, some obj⟩ }
  | kick {i : Nat} {k : Kick} (hk : s.kicks[i]? = some k) :
      Moves P s (.kick i) (Cov.kick { s with kicks := s.kicks.eraseIdx i } k)
  | run {i : Nat} {run : Run V} {sub : CovSub} (hrun : s.runs[i]? = some run)
      (hsub : s.table.heap[run.ref]? = some sub) : Moves P s (.run i) (s.runStep P i run sub)
  | maintain {a : Action V} {table : CovTable} (requests : List Subscribing) (hm : s.table.Maintained table)
      (hlinked : s.table.Linked → table.Linked) : Moves P s a { s with table, requests }
  | acknowledge {i : Nat} {ref : Ref} (hw : s.requests[i]? = some (.acknowledge ref)) :
      Moves P s (.proceed i true) { s with
        requests := s.requests.eraseIdx i
        transport := s.transport ++ [.simpleACK ref]
        kicks := s.kicks ++ [⟨ref, none⟩] }

lemma moves_request {sent : Bool} {w : Subscribing} (hw : s.requests[i]? = some w) :
    Moves P s (.proceed i sent) (s.requestStep P i sent w) := by
  cases w with
  | lookup new todo =>
    simp only [requestStep]
    split <;> exact .idle _ _ _
  | cancel key => exact .maintain _ (CovTable.maintained_cancel _ key) fun h => h.cancel key
  | start new =>
    simp only [requestStep]
    split
    · exact .idle _ _ _
    · rename_i hupsert
      exact .maintain _ (CovTable.maintained_upsert hupsert) fun h => h.upsert hupsert
  | acknowledge ref =>
    cases sent with
    | false => exact .idle _ _ _
    | true => exact .acknowledge hw

theorem moves_of_step {a : Action V} (hs : step P s a = some s') : Moves P s a s' := by
  cases a with
  | tick | control =>
    cases hs
    exact .idle _ _ _
  | change obj o =>
    cases hs
    exact .change obj o
  | changed i =>
    obtain ⟨obj, hobj, hs⟩ := Option.bind_eq_some_iff.mp hs
    cases hs
    exact .changed hobj
  | kick i =>
    obtain ⟨k, hk, hs⟩ := Option.bind_eq_some_iff.mp hs
    cases hs
    exact .kick hk
  | run i =>
    obtain ⟨run, hrun, hs⟩ := Option.bind_eq_some_iff.mp hs
    obtain ⟨sub, hsub, hs⟩ := Option.bind_eq_some_iff.mp hs
    cases hs
    exact .run hrun hsub
  | request p r =>
    simp only [step] at hs
    split at hs <;> cases hs <;> exact .idle _ _ _
  | proceed i sent =>
    obtain ⟨w, hw, hs⟩ := Option.bind_eq_some_iff.mp hs
    cases hs
    exact moves_request hw
  | expire =>
    cases hs
    exact .maintain _ (CovTable.maintained_update (CovTable.narrows_expire s.now)) fun h => h.expire s.now
  | objectRemoved obj =>
    cases hs
    exact .maintain _ (CovTable.maintained_update fun sub => sub.narrows_drop obj) fun h => h.objectRemoved obj

structure Sound (s : Cov V) : Prop where
  linked : s.table.Linked
  placed : ∀ (ref : Ref) (sub : CovSub), s.table.heap[ref]? = some sub → sub.Placed ref
  /-- No two senders run for one subscription. -/
  nodup : (s.runs.map Run.ref).Nodup
  running : ∀ ref : Ref, ref ∈ s.runs.map Run.ref ↔ ∃ sub : CovSub, s.table.heap[ref]? = some sub ∧ sub.running = true

lemma getElem?_set_cases {heap : List CovSub} {k : Ref} (h : (heap.set ref sub')[k]? = some sub) :
    k = ref ∧ sub = sub' ∨ k ≠ ref ∧ heap[k]? = some sub := by
  by_cases heq : ref = k
  · subst heq
    rw [List.getElem?_set_self'] at h
    obtain ⟨-, -, rfl⟩ := Option.map_eq_some_iff.mp h
    exact .inl ⟨rfl, rfl⟩
  · rw [List.getElem?_set_ne heq] at h
    exact .inr ⟨Ne.symm heq, h⟩

lemma getElem?_set_self {heap : List CovSub} (h : heap[ref]? = some sub) : (heap.set ref sub')[ref]? = some sub' :=
  List.getElem?_set_self (List.getElem?_eq_some_iff.mp h).1

lemma ne_of_beyond {heap : List CovSub} {k : Ref} (h : heap[k]? = some sub) (hle : heap.length ≤ ref) : ref ≠ k := by
  rintro rfl
  exact absurd (List.getElem?_eq_some_iff.mp h).1 (not_lt.mpr hle)

lemma Sound.mem_runs_iff (h : Sound s) (hsub : s.table.heap[ref]? = some sub) :
    ref ∈ s.runs.map Run.ref ↔ sub.running = true := by
  rw [h.running ref, hsub]
  simp

lemma mem_mark_of_mem {k : Kick} (hrun : run ∈ s.runs) : run ∈ (s.mark k sub).runs := by
  unfold Cov.mark
  split_ifs
  · exact hrun
  · exact List.mem_append_left _ hrun

lemma mem_mark_cases {k : Kick} (hrun : run ∈ (s.mark k sub).runs) : run ∈ s.runs ∨ run = ⟨k.ref, .head⟩ := by
  simp only [Cov.mark] at hrun
  split_ifs at hrun
  · exact .inl hrun
  · simpa using hrun

lemma Sound.maintain (h : Sound s) (hruns : s'.runs = s.runs) (hm : s.table.Maintained s'.table)
    (hlinked : s'.table.Linked) : Sound s' where
  linked := hlinked
  placed ref sub' hsub' := by
    rcases hm.records ref sub' hsub' with ⟨sub, hsub, hnarrows⟩ | ⟨-, -, -, hplaced⟩
    · exact fun t ht => h.placed ref sub hsub t (hnarrows.targets ht)
    · exact hplaced
  nodup := hruns ▸ h.nodup
  running ref := by
    rw [hruns, h.running ref]
    constructor
    · rintro ⟨sub, hsub, hrun⟩
      obtain ⟨sub', hsub', hnarrows⟩ := hm.narrowed hsub
      exact ⟨sub', hsub', hnarrows.running.trans hrun⟩
    · rintro ⟨sub', hsub', hrun⟩
      rcases hm.records ref sub' hsub' with ⟨sub, hsub, hnarrows⟩ | ⟨-, -, hidle, -⟩
      · exact ⟨sub, hsub, hnarrows.running.symm.trans hrun⟩
      · rw [hidle] at hrun
        cases hrun

lemma Sound.flag (sub' : CovSub) (h : Sound s) (hsub : s.table.heap[ref]? = some sub) (hkey : sub'.key = sub.key)
    (hclosed : sub'.closed = sub.closed) (htargets : sub'.targets = sub.targets)
    (hsubs : s'.table.subs = s.table.subs) (hheap : s'.table.heap = s.table.heap.set ref sub')
    (hnodup : (s'.runs.map Run.ref).Nodup)
    (hself : ref ∈ s'.runs.map Run.ref ↔ sub'.running = true)
    (hother : ∀ k, k ≠ ref → (k ∈ s'.runs.map Run.ref ↔ k ∈ s.runs.map Run.ref)) : Sound s' where
  linked k x hx hopen := by
    rw [hheap] at hx
    rcases getElem?_set_cases hx with ⟨rfl, rfl⟩ | ⟨-, hx⟩
    · rw [hsubs, hkey]
      exact h.linked k sub hsub (hclosed ▸ hopen)
    · rw [hsubs]
      exact h.linked k x hx hopen
  placed k x hx := by
    rw [hheap] at hx
    rcases getElem?_set_cases hx with ⟨rfl, rfl⟩ | ⟨-, hx⟩
    · unfold CovSub.Placed
      rw [htargets]
      exact h.placed k sub hsub
    · exact h.placed k x hx
  nodup := hnodup
  running k := by
    rw [hheap]
    by_cases hk : k = ref
    · subst hk
      rw [hself, getElem?_set_self hsub]
      simp
    · rw [hother k hk, h.running k, List.getElem?_set_ne (Ne.symm hk)]

lemma Sound.move (h : Sound s) {phase : RunPhase V} (hrun : s.runs[i]? = some run) (htable : s'.table = s.table)
    (hruns : s'.runs = s.runs.set i ⟨run.ref, phase⟩) : Sound s' := by
  have hkeys : s'.runs.map Run.ref = s.runs.map Run.ref := by
    rw [hruns]
    exact Workers.map_set_key hrun rfl
  refine ⟨?_, ?_, ?_, ?_⟩
  · exact htable ▸ h.linked
  · exact htable ▸ h.placed
  · exact hkeys ▸ h.nodup
  · rw [hkeys, htable]
    exact h.running

lemma kick_cases (s : Cov V) (k : Kick) :
    (s.kick k = s ∧ ∀ sub, s.table.heap[k.ref]? = some sub → sub.closed = true) ∨
      ∃ sub, s.table.heap[k.ref]? = some sub ∧ sub.closed = false ∧ s.kick k = s.mark k sub := by
  unfold Cov.kick
  split
  · rename_i hnone
    refine .inl ⟨rfl, fun sub hsub => ?_⟩
    rw [hnone] at hsub
    cases hsub
  · rename_i sub hsub
    by_cases hclosed : sub.closed
    · refine .inl ⟨if_pos hclosed, fun sub' hsub' => ?_⟩
      obtain rfl := Option.some.inj (hsub.symm.trans hsub')
      exact hclosed
    · exact .inr ⟨sub, hsub, Bool.not_eq_true _ ▸ hclosed, if_neg hclosed⟩

lemma Sound.mark (h : Sound s) {k : Kick} (hsub : s.table.heap[k.ref]? = some sub) : Sound (s.mark k sub) := by
  by_cases hrunning : sub.running
  · have hmem : k.ref ∈ s.runs.map Run.ref := (h.mem_runs_iff hsub).mpr hrunning
    have hruns : (s.mark k sub).runs = s.runs := if_pos hrunning
    refine Sound.flag (sub.mark k.change.isNone) h hsub rfl rfl rfl rfl rfl (hruns ▸ h.nodup) ?_ ?_
    · rw [hruns]
      exact iff_of_true hmem rfl
    · intro other _
      rw [hruns]
  · have hnot : k.ref ∉ s.runs.map Run.ref := fun hmem => hrunning ((h.mem_runs_iff hsub).mp hmem)
    have hruns : (s.mark k sub).runs.map Run.ref = s.runs.map Run.ref ++ [k.ref] := by
      simp [Cov.mark, hrunning]
    refine Sound.flag (sub.mark k.change.isNone) h hsub rfl rfl rfl rfl rfl ?_ ?_ ?_
    · rw [hruns]
      exact List.nodup_append_comm.mp (List.nodup_cons.mpr ⟨hnot, h.nodup⟩)
    · rw [hruns]
      exact iff_of_true (by simp) rfl
    · intro other hother
      simp [hruns, hother]

lemma Sound.kick (h : Sound s) (k : Kick) : Sound (s.kick k) := by
  rcases kick_cases s k with ⟨heq, -⟩ | ⟨sub, hsub, -, heq⟩
  · rw [heq]
    exact h
  · rw [heq]
    exact h.mark hsub

lemma Sound.runHead (h : Sound s) (hrun : s.runs[i]? = some run) (hsub : s.table.heap[run.ref]? = some sub) :
    Sound (s.runHead i run.ref sub) := by
  have hmem : run.ref ∈ s.runs.map Run.ref := List.mem_map_of_mem (List.mem_of_getElem? hrun)
  unfold Cov.runHead
  split_ifs
  · refine Sound.flag sub.stop h hsub rfl rfl rfl rfl rfl (Workers.nodup_eraseIdx h.nodup hrun).2 ?_ ?_
    · simp [Workers.mem_map_eraseIdx h.nodup hrun, CovSub.stop]
    · intro k hk
      simp only [Workers.mem_map_eraseIdx h.nodup hrun, ne_eq, hk, not_false_eq_true, and_true]
  · have hkeys : (s.runs.set i ⟨run.ref, .start sub.initial⟩).map Run.ref = s.runs.map Run.ref :=
      Workers.map_set_key hrun rfl
    refine Sound.flag sub.take h hsub rfl rfl rfl rfl rfl (hkeys ▸ h.nodup) ?_ fun k _ => by rw [hkeys]
    rw [hkeys]
    exact iff_of_true hmem ((h.mem_runs_iff hsub).mp hmem)

lemma Sound.runStep (h : Sound s) (hrun : s.runs[i]? = some run) (hsub : s.table.heap[run.ref]? = some sub) :
    Sound (s.runStep P i run sub) := by
  unfold Cov.runStep
  split
  · exact h.runHead hrun hsub
  · exact h.move hrun rfl rfl
  · split
    · exact h.move hrun rfl rfl
    · exact h.move hrun rfl rfl
    · unfold conclude
      split_ifs
      all_goals exact h.move hrun rfl rfl
  · exact h.move hrun rfl rfl

theorem sound_step {a : Action V} (h : Sound s) (hs : step P s a = some s') : Sound s' := by
  cases moves_of_step hs with
  | idle | change | changed | acknowledge => exact ⟨h.linked, h.placed, h.nodup, h.running⟩
  | @kick i k hk =>
    have hrest : Sound { s with kicks := s.kicks.eraseIdx i } := ⟨h.linked, h.placed, h.nodup, h.running⟩
    exact hrest.kick k
  | run hrun hsub => exact h.runStep hrun hsub
  | maintain requests hm hlinked => exact h.maintain rfl hm (hlinked h.linked)

lemma sound_init (dev : Device V) : Sound { dev } where
  linked ref sub hsub := by simp at hsub
  placed ref sub hsub := by simp at hsub
  nodup := List.nodup_nil
  running ref := by simp

end Cov

end GoBacnet.Server
