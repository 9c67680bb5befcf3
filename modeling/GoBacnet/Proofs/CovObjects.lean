import GoBacnet.Proofs.CovOrder
import GoBacnet.Server.CovObjects

/-!
# Subscriptions name objects that exist

A subscribe request looks up its objects before it adds the subscription, and a removal drops the object from the
subscriptions after it left the object table. A removal in between is not noticed, and that of a CreateObject which
fails drops nothing.
-/

namespace GoBacnet.Server

variable {V : Type}

namespace CovTable

variable {e e' : CovTable} {key : SubKey} {ref : Ref} {sub : CovSub}

def Keyed (e : CovTable) : Prop := ∀ key ref, e.subs key = some ref → ∃ sub, e.heap[ref]? = some sub ∧ sub.key = key

def Entry (e : CovTable) (key : SubKey) (ref : Ref) (sub : CovSub) : Prop :=
  e.subs key = some ref ∧ e.heap[ref]? = some sub

lemma Keyed.key_eq (h : e.Keyed) (hentry : e.Entry key ref sub) : sub.key = key := by
  obtain ⟨sub', hsub', hkey⟩ := h key ref hentry.1
  obtain rfl := Option.some.inj (hentry.2.symm.trans hsub')
  exact hkey

lemma Keyed.narrowed (h : e.Keyed) (hm : Maintained e e') (hsubs : e.subs key = some ref) :
    ∃ sub', e'.heap[ref]? = some sub' ∧ sub'.key = key := by
  obtain ⟨sub, hsub, hkey⟩ := h key ref hsubs
  obtain ⟨sub', hsub', hnarrows⟩ := hm.narrowed hsub
  exact ⟨sub', hsub', hnarrows.key.trans hkey⟩

lemma subs_update {f : CovSub → CovSub} {keep : CovSub → Bool} (h : (e.update f keep).subs key = some ref) :
    e.subs key = some ref :=
  (Option.filter_eq_some_iff.mp h).1

lemma Keyed.update (h : e.Keyed) {f : CovSub → CovSub} {keep : CovSub → Bool}
    (hf : ∀ sub : CovSub, sub.Narrows (f sub)) : (e.update f keep).Keyed := fun _ _ hsubs =>
  h.narrowed (maintained_update hf) (subs_update hsubs)

lemma subs_cancel {k : SubKey} (h : (e.cancel k).subs key = some ref) : e.subs key = some ref := by
  unfold cancel at h
  split at h
  · exact h
  · by_cases hkey : key = k
    · simp [hkey] at h
    · simpa [Function.update_of_ne hkey] using h

lemma Keyed.cancel (h : e.Keyed) (k : SubKey) : (e.cancel k).Keyed := fun _ _ hsubs =>
  h.narrowed (maintained_cancel e k) (subs_cancel hsubs)

lemma entry_upsert {cfg : CovConfig} {now : Nat} {new : NewSub} {added : Ref}
    (h : upsert cfg now e new = .ok (e', added)) (hsubs : e'.subs key = some ref) :
    (e.subs key = some ref ∧ key ≠ new.key) ∨
      (key = new.key ∧ ∃ sub, e'.heap[ref]? = some sub ∧ sub.key = key ∧ sub.targets = new.targets ref) := by
  obtain ⟨rfl, hsubs', heap, sub, hheap, hlen, hkey, -, -, htargets, -⟩ := upsert_ok h
  rw [hsubs'] at hsubs
  by_cases heq : key = new.key
  · subst heq
    rw [Function.update_self] at hsubs
    cases hsubs
    refine .inr ⟨rfl, sub, ?_, hkey, htargets⟩
    rw [hheap, ← hlen]
    simp
  · exact .inl ⟨by rwa [Function.update_of_ne heq] at hsubs, heq⟩

lemma Keyed.upsert {cfg : CovConfig} {now : Nat} {new : NewSub} {added : Ref} (hkeyed : e.Keyed)
    (h : CovTable.upsert cfg now e new = .ok (e', added)) : e'.Keyed := by
  intro key ref hsubs
  rcases entry_upsert h hsubs with ⟨hold, -⟩ | ⟨-, sub, hsub, hkey, -⟩
  · exact hkeyed.narrowed (maintained_upsert h) hold
  · exact ⟨sub, hsub, hkey⟩

lemma Maintained.targets (hm : Maintained e e') (hkeyed : e.Keyed) (hsubs : e.subs key = some ref)
    (hsub' : e'.heap[ref]? = some sub) : ∃ old, e.Entry key ref old ∧ sub.targets ⊆ old.targets := by
  obtain ⟨old, hold, -⟩ := hkeyed key ref hsubs
  obtain ⟨sub', hsub'', hnarrows⟩ := hm.narrowed hold
  obtain rfl := Option.some.inj (hsub'.symm.trans hsub'')
  exact ⟨old, ⟨hsubs, hold⟩, hnarrows.targets⟩

lemma targets_objectRemoved {obj : ObjectIdentifier} (hkeyed : e.Keyed)
    (hentry : (e.objectRemoved obj).Entry key ref sub) :
    ∃ old, e.Entry key ref old ∧ ∀ t ∈ sub.targets, t ∈ old.targets ∧ t.obj ≠ obj := by
  have hsubs := subs_update hentry.1
  obtain ⟨old, hold, hkey⟩ := hkeyed key ref hsubs
  have hholds : e.holds ref old := decide_eq_true (hkey ▸ hsubs)
  have hsub := hentry.2
  rw [CovTable.objectRemoved, getElem?_update, hold] at hsub
  simp only [Option.map_some, hholds, if_true, Option.some.injEq] at hsub
  subst hsub
  refine ⟨old, ⟨hsubs, hold⟩, fun t ht => ?_⟩
  simpa [CovSub.drop] using ht

end CovTable

/-- The objects that a request has looked up for a subscription it has not added yet. -/
def Work.named : Work → List ObjectIdentifier
  | .subscribe (.lookup new _) | .subscribe (.start new) => new.specs.map Prod.fst
  | _ => []

namespace CovObjects

variable {cfg : CovConfig} {s s' : CovObjects V} {i : Nat}

variable {id : ObjectIdentifier} {w : Work}

def Present (dev : Device V) (id : ObjectIdentifier) : Prop := (dev.objects id).isSome

/-- No step removes an object that a request has looked up for a subscription it has not added yet, and a CreateObject
that fails removes its object only while no subscription names it. -/
def undisturbed (s : CovObjects V) : Action V → Bool
  | .proceed i written =>
    match s.work[i]? with
    | some (.remove id) => s.work.all fun w => id ∉ w.named
    | some (.initialise id) => written ||
        ((s.work.all fun w => id ∉ w.named) && (s.table.hit id).isEmpty)
    | _ => true
  | _ => true

structure Existing (s : CovObjects V) : Prop where
  keyed : s.table.Keyed
  entries : ∀ key ref sub, s.table.Entry key ref sub → ∀ t ∈ sub.targets,
    Present s.dev t.obj ∨ .drop t.obj ∈ s.work
  named : ∀ w ∈ s.work, ∀ id ∈ w.named, Present s.dev id

lemma present_object {dev : Device V} {o : Object V} (h : dev.object id = some o) :
    Present dev (dev.resolve id) := by
  unfold Present
  rw [show dev.objects (dev.resolve id) = some o from h]
  rfl

lemma named_serve {dev : Device V} {p : Peer} {r : SubscribeRequest} {w : Subscribing}
    (h : Subscribing.serve dev p r = .ok w) : ∀ id ∈ Work.named (.subscribe w), Present dev id := by
  cases r with
  | object pid obj cancellation lifetime =>
    simp only [Subscribing.serve, Subscribing.subscribeCOV] at h
    split at h
    · cases h
    · rename_i o ho
      split_ifs at h
      · cases h
        simp [Work.named]
      · cases h
        simpa [Work.named] using present_object ho
  | property pid obj prop cancellation lifetime increment =>
    simp only [Subscribing.serve, Subscribing.subscribeCOVProperty] at h
    split at h
    · cases h
    · rename_i o ho
      split_ifs at h
      all_goals cases h
      all_goals simp [Work.named]
      all_goals exact present_object ho
  | multiple pid cancellation lifetime specs =>
    cases h
    unfold Subscribing.subscribeCOVPropertyMultiple
    split_ifs <;> simp [Work.named]

lemma named_lookupNext {dev : Device V} {new : NewSub} {todo : List (ObjectIdentifier × List PropertyReference)}
    {w : Subscribing} (h : Subscribing.lookupNext dev new todo = .ok w)
    (hnamed : ∀ id ∈ Work.named (.subscribe (.lookup new todo)), Present dev id) :
    ∀ id ∈ Work.named (.subscribe w), Present dev id := by
  cases todo with
  | nil =>
    cases h
    exact hnamed
  | cons spec rest =>
    obtain ⟨obj, props⟩ := spec
    simp only [Subscribing.lookupNext] at h
    split at h
    · cases h
    · rename_i o ho
      split at h
      · cases h
      · cases h
        intro id hid
        simp only [Work.named, List.map_append, List.map_cons, List.map_nil, List.mem_append,
          List.mem_singleton] at hid
        rcases hid with hid | rfl
        · exact hnamed id hid
        · exact present_object ho

lemma Existing.work (h : Existing s) (hnot : ∀ id, w ≠ .drop id)
    {work : List Work} (hwork : ∀ w' ∈ s.work, w' ≠ w → w' ∈ work)
    (hnamed : ∀ w' ∈ work, ∀ id ∈ w'.named, Present s.dev id) : Existing { s with work } := by
  refine ⟨h.keyed, fun key ref sub hentry t ht => ?_, hnamed⟩
  rcases h.entries key ref sub hentry t ht with hpresent | hdrop
  · exact .inl hpresent
  · exact .inr (hwork _ hdrop fun heq => hnot t.obj heq.symm)

lemma Existing.erase (h : Existing s) (hw : s.work[i]? = some w) (hnot : ∀ id, w ≠ .drop id) :
    Existing { s with work := s.work.eraseIdx i } :=
  h.work hnot (fun _ hmem hne => Workers.mem_eraseIdx_of_ne hw hmem hne)
    fun w' hw' => h.named w' ((List.eraseIdx_sublist _ i).subset hw')

lemma Existing.replace {next : Work} (h : Existing s) (hw : s.work[i]? = some w) (hnot : ∀ id, w ≠ .drop id)
    (hnext : ∀ id ∈ next.named, Present s.dev id) : Existing { s with work := s.work.set i next } := by
  refine h.work hnot (fun _ hmem hne => Workers.mem_set_of_ne hw hmem hne) fun w' hw' => ?_
  rcases List.mem_or_eq_of_mem_set hw' with hw' | rfl
  · exact h.named w' hw'
  · exact hnext

lemma Existing.table (h : Existing s) {table : CovTable} (hm : s.table.Maintained table) (hkeyed : table.Keyed)
    (hsubs : ∀ key ref, table.subs key = some ref → s.table.subs key = some ref) : Existing { s with table } := by
  refine ⟨hkeyed, fun key ref sub hentry t ht => ?_, h.named⟩
  obtain ⟨old, hold, htargets⟩ := hm.targets h.keyed (hsubs key ref hentry.1) hentry.2
  exact h.entries key ref old hold t (htargets ht)

lemma Existing.upsert (h : Existing s) {new : NewSub} {table : CovTable} {added : Ref}
    (hupsert : s.table.upsert cfg s.now new = .ok (table, added))
    (hnamed : ∀ id ∈ new.specs.map Prod.fst, Present s.dev id) : Existing { s with table } := by
  refine ⟨h.keyed.upsert hupsert, fun key ref sub hentry t ht => ?_, h.named⟩
  rcases CovTable.entry_upsert hupsert hentry.1 with ⟨hold, -⟩ | ⟨-, sub', hsub', -, htargets⟩
  · obtain ⟨old, hold, hsubset⟩ := (CovTable.maintained_upsert hupsert).targets h.keyed hold hentry.2
    exact h.entries key ref old hold t (hsubset ht)
  · obtain rfl := Option.some.inj (hentry.2.symm.trans hsub')
    rw [htargets] at ht
    obtain ⟨j, hj, rfl⟩ := List.mem_mapIdx.mp ht
    exact .inl (hnamed _ (List.mem_map_of_mem (List.getElem_mem hj)))

lemma Existing.subscribing (h : Existing s) {w : Subscribing} (hw : s.work[i]? = some (.subscribe w)) :
    Existing (s.subscribing cfg i w) := by
  have hnamed := h.named _ (List.mem_of_getElem? hw)
  cases w with
  | lookup new todo =>
    simp only [CovObjects.subscribing]
    split
    · exact h.erase hw nofun
    · rename_i next hnext
      exact h.replace hw nofun (named_lookupNext hnext hnamed)
  | cancel key =>
    have htable := h.table (CovTable.maintained_cancel _ key) (h.keyed.cancel key) fun _ _ => CovTable.subs_cancel
    exact htable.erase hw nofun
  | start new =>
    simp only [CovObjects.subscribing]
    split
    · exact h.erase hw nofun
    · rename_i table ref hupsert
      have htable := h.upsert hupsert hnamed
      exact htable.replace hw nofun (by simp [Work.named])
  | acknowledge ref => exact h.erase hw nofun

lemma present_put {dev : Device V} {other : ObjectIdentifier} (h : Present dev other) (hne : other ≠ id)
    (o : Option (Object V)) : Present (dev.put id o) other := by
  simpa [Present, Device.put, Function.update_of_ne hne] using h

lemma remove_eq_some {dev dev' : Device V} (h : dev.remove id = some dev') :
    dev' = dev.put id none := by
  unfold Device.remove at h
  split_ifs at h
  exact (Option.some.inj h).symm

lemma Existing.remove (h : Existing s) {work : List Work}
    (hfree : ∀ w ∈ s.work, id ∉ w.named) (hwork : ∀ other, .drop other ∈ s.work → .drop other ∈ work)
    (hnamed : ∀ w' ∈ work, w'.named ≠ [] → w' ∈ s.work)
    (hdrop : ∀ key ref sub, s.table.Entry key ref sub → ∀ t ∈ sub.targets, t.obj = id → .drop id ∈ work) :
    Existing { s with dev := s.dev.put id none, work } := by
  refine ⟨h.keyed, fun key ref sub hentry t ht => ?_, fun w' hw' other hother => ?_⟩
  · by_cases heq : t.obj = id
    · exact .inr (heq ▸ hdrop key ref sub hentry t ht heq)
    · rcases h.entries key ref sub hentry t ht with hpresent | hmem
      · exact .inl (present_put hpresent heq none)
      · exact .inr (hwork _ hmem)
  · have hmem := hnamed w' hw' (List.ne_nil_of_mem hother)
    refine present_put (h.named w' hmem other hother) ?_ none
    rintro rfl
    exact hfree w' hmem hother

lemma Existing.drop (h : Existing s) (hw : s.work[i]? = some (.drop id)) :
    Existing { s with table := s.table.objectRemoved id, work := s.work.eraseIdx i } := by
  refine ⟨h.keyed.update fun sub => sub.narrows_drop id, fun key ref sub hentry t ht => ?_,
    fun w' hw' => h.named w' ((List.eraseIdx_sublist _ i).subset hw')⟩
  obtain ⟨old, hold, htargets⟩ := CovTable.targets_objectRemoved h.keyed hentry
  obtain ⟨ht, hne⟩ := htargets t ht
  rcases h.entries key ref old hold t ht with hpresent | hmem
  · exact .inl hpresent
  · exact .inr (Workers.mem_eraseIdx_of_ne hw hmem (by simpa using hne))

lemma Existing.working (h : Existing s) {written : Bool} (hw : s.work[i]? = some w)
    (hc : undisturbed s (.proceed i written) = true) : Existing (s.working cfg i written w) := by
  cases w with
  | subscribe w => exact h.subscribing hw
  | remove id =>
    simp only [CovObjects.working]
    split
    · exact h.erase hw nofun
    · rename_i dev hdev
      obtain rfl := remove_eq_some hdev
      have hfree : ∀ w ∈ s.work, id ∉ w.named := by simpa [undisturbed, hw] using hc
      refine h.remove hfree (fun other hmem => Workers.mem_set_of_ne hw hmem nofun) (fun w' hw' hne => ?_)
        fun _ _ _ _ _ _ _ => Workers.mem_set_new hw
      rcases List.mem_or_eq_of_mem_set hw' with hw' | rfl
      · exact hw'
      · exact absurd rfl hne
  | drop id => exact h.drop hw
  | initialise id =>
    cases written with
    | true => exact h.erase hw nofun
    | false =>
      simp only [CovObjects.working, Bool.false_eq_true, if_false]
      cases hdev : s.dev.remove id with
      | none => exact h.erase hw nofun
      | some dev =>
        obtain rfl := remove_eq_some hdev
        obtain ⟨hfree, hhit⟩ : (∀ w ∈ s.work, id ∉ w.named) ∧ s.table.hit id = [] := by
          simpa [undisturbed, hw] using hc
        refine h.remove hfree (fun other hmem => Workers.mem_eraseIdx_of_ne hw hmem nofun)
          (fun w' hw' _ => (List.eraseIdx_sublist _ i).subset hw') fun key ref sub hentry t ht heq => ?_
        have hmem := CovTable.mem_hit (h.keyed.key_eq hentry ▸ hentry.1) hentry.2 ht
        rw [heq, hhit] at hmem
        cases hmem

lemma Existing.append (h : Existing s) (hw : ∀ id ∈ w.named, Present s.dev id) :
    Existing { s with work := s.work ++ [w] } := by
  refine ⟨h.keyed, fun key ref sub hentry t ht => ?_, fun w' hw' => ?_⟩
  · exact (h.entries key ref sub hentry t ht).imp_right fun hmem => List.mem_append_left _ hmem
  · rcases List.mem_append.mp hw' with hw' | hw'
    · exact h.named w' hw'
    · rw [List.mem_singleton.mp hw']
      exact hw

lemma Existing.add (h : Existing s) {dev : Device V} {o : Object V}
    (hadd : s.dev.add id o = some dev) : Existing { s with dev } := by
  have hpresent : ∀ other, Present s.dev other → Present dev other := by
    intro other hother
    unfold Device.add at hadd
    split_ifs at hadd
    cases hadd
    by_cases heq : other = id
    · simp [Present, Device.put, heq]
    · exact present_put hother heq (some o)
  refine ⟨h.keyed, fun key ref sub hentry t ht => ?_, fun w hw other hother => ?_⟩
  · exact (h.entries key ref sub hentry t ht).imp_left (hpresent t.obj)
  · exact hpresent other (h.named w hw other hother)

theorem existing_step {a : Action V} (h : Existing s) (hc : undisturbed s a = true)
    (hs : step cfg s a = some s') : Existing s' := by
  cases a with
  | tick =>
    cases hs
    exact ⟨h.keyed, h.entries, h.named⟩
  | expire =>
    cases hs
    exact h.table (CovTable.maintained_update (CovTable.narrows_expire s.now))
      (h.keyed.update (CovTable.narrows_expire s.now)) fun _ _ => CovTable.subs_update
  | subscribe p r =>
    simp only [step] at hs
    split at hs
    · cases hs
      exact h
    · rename_i w hserve
      cases hs
      exact h.append (named_serve hserve)
  | delete id permitted =>
    simp only [step] at hs
    split_ifs at hs
    · cases hs
      exact h
    · cases hs
      exact h
    · cases hs
      exact h.append (by simp [Work.named])
  | create id o =>
    simp only [step] at hs
    split at hs
    · cases hs
      exact h
    · rename_i dev hadd
      cases hs
      exact (h.add hadd).append (by simp [Work.named])
  | proceed i written =>
    obtain ⟨w, hw, hs⟩ := Option.bind_eq_some_iff.mp hs
    cases hs
    exact h.working hw hc

def TargetsExist (s : CovObjects V) : Prop :=
  ∀ (key : SubKey) (ref : Ref) (sub : CovSub), s.table.subs key = some ref → s.table.heap[ref]? = some sub →
    ∀ t ∈ sub.targets, (s.dev.objects t.obj).isSome

theorem targets_exist {dev : Device V}
    (hs : Transition.ReachableWhere { dev } (step cfg) (fun s a => undisturbed s a = true) s) (hidle : s.work = []) :
    TargetsExist s := by
  have h : Existing s := by
    refine hs.invariant Existing ⟨fun key ref hsubs => ?_, fun key ref sub hentry => ?_, by simp⟩
      fun s a s' h hc hs => existing_step h hc hs
    · cases hsubs
    · cases hentry.1
  intro key ref sub hsubs hsub t ht
  rcases h.entries key ref sub ⟨hsubs, hsub⟩ t ht with hpresent | hmem
  · exact hpresent
  · rw [hidle] at hmem
    cases hmem

def subscribeBinary : List (Action Bool) :=
  [.subscribe Cov.subscriber (.object 1 ⟨5, 1⟩ false 0), .proceed 0 true, .proceed 0 true]

/-- The binary object is deleted while a subscription names it. -/
theorem targets_exist_deleted :
    ∃ s : CovObjects Bool, Transition.ReachableWhere { dev := Cov.binaryDevice } (step {})
        (fun s a => undisturbed s a = true) s ∧ s.work = [] ∧ s.table.heap.length = 1 ∧ TargetsExist s := by
  obtain ⟨s, hrun, hproj⟩ := Option.map_eq_some_iff.mp
    (show (Transition.runWhere (step {}) undisturbed { dev := Cov.binaryDevice }
      (subscribeBinary ++ [.delete ⟨5, 1⟩ true, .proceed 0 true, .proceed 0 true])).map
        (fun s => (s.work, s.table.heap.length)) = some ([], 1) by decide +kernel)
  obtain ⟨hwork, hlen⟩ := Prod.mk.inj hproj
  have hreach := Transition.ReachableWhere.runWhere .init hrun
  exact ⟨s, hreach, hwork, hlen, targets_exist hreach hwork⟩

def deletedBetween : List (Action Bool) :=
  [.subscribe Cov.subscriber (.object 1 ⟨5, 1⟩ false 0), .delete ⟨5, 1⟩ true, .proceed 1 true, .proceed 1 true,
    .proceed 0 true, .proceed 0 true]

/-- An object that is created and subscribed to, and whose initial values cannot be written, stays a target. -/
def rolledBack : List (Action Bool) :=
  [.create ⟨5, 2⟩ (Cov.binaryObject false), .subscribe Cov.subscriber (.object 1 ⟨5, 2⟩ false 0), .proceed 1 true,
    .proceed 1 true, .proceed 0 false]

def binaryKey (id : ObjectIdentifier) : SubKey :=
  { kind := .object, origin := Cov.subscriber.origin, source := {}, pid := 1, obj := id }

lemma not_targetsExist {acts : List (Action Bool)} (id : ObjectIdentifier)
    (h : (Transition.run (step {}) { dev := Cov.binaryDevice } acts).map (fun s =>
      (s.work, s.table.subs (binaryKey id), s.table.heap.map fun sub => sub.targets.map CovTarget.obj,
        (s.dev.objects id).isSome)) = some ([], some 0, [[id]], false)) :
    ∃ s, Transition.run (step {}) { dev := Cov.binaryDevice } acts = some s ∧ s.work = [] ∧ ¬TargetsExist s := by
  obtain ⟨s, hrun, hproj⟩ := Option.map_eq_some_iff.mp h
  simp only [Prod.mk.injEq] at hproj
  obtain ⟨hwork, hsubs, htargets, hmissing⟩ := hproj
  refine ⟨s, hrun, hwork, fun hexist => ?_⟩
  have hfirst := congrArg (fun l : List (List ObjectIdentifier) => l[0]?) htargets
  simp only [List.getElem?_map, Option.map_eq_some_iff, List.getElem?_cons_zero] at hfirst
  obtain ⟨sub, hsub, hobjs⟩ := hfirst
  obtain ⟨t, ht, hobj⟩ := List.mem_map.mp (hobjs ▸ List.mem_singleton.mpr rfl : id ∈ sub.targets.map CovTarget.obj)
  have hpresent := hexist (binaryKey id) 0 sub hsubs hsub t ht
  rw [hobj, hmissing] at hpresent
  cases hpresent

/-- No request is executing any more, and a subscription names an object that is gone. -/
theorem target_removed :
    (∃ s, Transition.run (step {}) { dev := Cov.binaryDevice } deletedBetween = some s ∧ s.work = [] ∧
      ¬TargetsExist s) ∧
    ∃ s, Transition.run (step {}) { dev := Cov.binaryDevice } rolledBack = some s ∧ s.work = [] ∧ ¬TargetsExist s := by
  constructor
  · exact not_targetsExist ⟨5, 1⟩ (by decide +kernel)
  · exact not_targetsExist ⟨5, 2⟩ (by decide +kernel)

end CovObjects

end GoBacnet.Server
