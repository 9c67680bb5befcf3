import GoBacnet.Lib.Workers
import GoBacnet.Server.Transactions

/-!
# One execution for each transaction

A request that was accepted keeps its entry in the table until its reply is finished: only reassemblies are
expired, aborted or dropped for their size, and what is executed is no reassembly. So the entry that a worker or
a refusal removes is its own.
-/

namespace GoBacnet.Proofs

open Server

variable {cfg : Config} {now : Nat}

variable {key : Key} {m m' : Machine} {t t' : Rtx}

/-! ## One segment -/

lemma addSegment_executing (h : t.segmented = false) (req : Apdu.ConfirmedRequest) :
    addSegment cfg now t req = { entry := some t } := by
  simp [addSegment, h]

lemma addSegment_key {req : Apdu.ConfirmedRequest} (h : (addSegment cfg now t req).entry = some t') :
    t'.key = t.key := by
  unfold addSegment at h
  split_ifs at h
  · cases h; rfl
  · dsimp only at h
    split at h
    all_goals first | cases h; rfl | cases h

lemma addSegment_execute {req : Apdu.ConfirmedRequest} {payload : Octets}
    (h : (addSegment cfg now t req).execute = some payload) :
    t.segmented = true ∧ ∀ t', (addSegment cfg now t req).entry = some t' → t'.segmented = false := by
  cases hseg : t.segmented with
  | false =>
    rw [addSegment_executing hseg] at h
    cases h
  | true =>
    refine ⟨rfl, fun t' ht' => ?_⟩
    unfold addSegment at h ht'
    split_ifs at h ht'
    dsimp only at h ht'
    split at h
    all_goals first | cases h; done | skip
    next houtcome =>
      rw [houtcome] at ht'
      cases ht'
      rfl

/-! ## The table -/

def WellKeyed (r : Responder) : Prop := ∀ key ref, r.tx key = some ref → ∃ t, r.heap[ref]? = some t ∧ t.key = key

def Entered (r : Responder) (ref : Ref) : Prop :=
  ∃ t, r.heap[ref]? = some t ∧ t.segmented = false ∧ r.tx t.key = some ref

variable {r : Responder} {ref : Ref}

lemma Entered.lt (h : Entered r ref) : ref < r.heap.length := by
  obtain ⟨t, ht, -⟩ := h
  exact (List.getElem?_eq_some_iff.mp ht).1

lemma find_of_tx (hwf : WellKeyed r) (h : r.tx key = some ref) :
    ∃ t, r.find key = some t ∧ r.heap[ref]? = some t ∧ t.key = key := by
  obtain ⟨t, ht, hkey⟩ := hwf key ref h
  exact ⟨t, Option.bind_eq_some_iff.mpr ⟨ref, h, ht⟩, ht, hkey⟩

lemma WellKeyed.add (hwf : WellKeyed r) (t : Rtx) : WellKeyed (r.add t) := by
  intro key ref h
  by_cases hkey : key = t.key
  · subst hkey
    simp only [Responder.add, Function.update_self] at h
    cases h
    exact ⟨t, by simp [Responder.add], rfl⟩
  · simp only [Responder.add, Function.update_of_ne hkey] at h
    obtain ⟨t', ht', hkey'⟩ := hwf key ref h
    exact ⟨t', List.getElem?_append_left (List.getElem?_eq_some_iff.mp ht').1 ▸ ht', hkey'⟩

lemma WellKeyed.delete (hwf : WellKeyed r) (key : Key) : WellKeyed (r.delete key) := by
  intro key' ref h
  by_cases hkey : key' = key
  · simp only [Responder.delete, hkey, Function.update_self] at h
    cases h
  · simp only [Responder.delete, Function.update_of_ne hkey] at h
    exact hwf key' ref h

lemma WellKeyed.update (hwf : WellKeyed r) (ht : r.heap[ref]? = some t) (hkey : t'.key = t.key) :
    WellKeyed (r.update ref t') := by
  intro key ref' h
  obtain ⟨u, hu, hukey⟩ := hwf key ref' h
  by_cases hne : ref' = ref
  · subst hne
    obtain rfl := Option.some.inj (ht.symm.trans hu)
    exact ⟨t', List.getElem?_set_self (List.getElem?_eq_some_iff.mp ht).1, hkey.trans hukey⟩
  · exact ⟨u, (List.getElem?_set_ne (Ne.symm hne)).trans hu, hukey⟩

lemma expire_eq_some (h : (r.expire now).tx key = some ref) :
    r.tx key = some ref ∧ (r.heap[ref]?.any (expired now)) = false := by
  simpa [Responder.expire, Option.filter_eq_some_iff] using h

lemma WellKeyed.expire (hwf : WellKeyed r) (now : Nat) : WellKeyed (r.expire now) :=
  fun key ref h => hwf key ref (expire_eq_some h).1

lemma Entered.add (h : Entered r ref) (hfree : r.tx t.key = none) : Entered (r.add t) ref := by
  obtain ⟨u, hu, hseg, htx⟩ := h
  have hne : u.key ≠ t.key := by
    intro heq
    rw [heq, hfree] at htx
    cases htx
  refine ⟨u, ?_, hseg, ?_⟩
  · exact (List.getElem?_append_left (List.getElem?_eq_some_iff.mp hu).1).trans hu
  · exact (Function.update_of_ne hne _ _).trans htx

lemma entered_added (hseg : t.segmented = false) : Entered (r.add t) r.heap.length :=
  ⟨t, by simp [Responder.add], hseg, Function.update_self ..⟩

lemma Entered.delete (h : Entered r ref) (hkey : r.tx key ≠ some ref) : Entered (r.delete key) ref := by
  obtain ⟨u, hu, hseg, htx⟩ := h
  have hne : u.key ≠ key := fun heq => hkey (heq ▸ htx)
  exact ⟨u, hu, hseg, (Function.update_of_ne hne _ _).trans htx⟩

lemma Entered.update_other (h : Entered r ref) {other : Ref} (hne : other ≠ ref) (t : Rtx) :
    Entered (r.update other t) ref := by
  obtain ⟨u, hu, hseg, htx⟩ := h
  exact ⟨u, (List.getElem?_set_ne hne).trans hu, hseg, htx⟩

lemma entered_updated (htx : r.tx key = some ref) (hlt : ref < r.heap.length)
    (hkey : t.key = key) (hseg : t.segmented = false) : Entered (r.update ref t) ref :=
  ⟨t, List.getElem?_set_self hlt, hseg, hkey ▸ htx⟩

lemma Entered.expire (h : Entered r ref) (now : Nat) : Entered (r.expire now) ref := by
  obtain ⟨u, hu, hseg, htx⟩ := h
  refine ⟨u, hu, hseg, ?_⟩
  simp [Responder.expire, Option.filter_eq_some_iff, htx, hu, expired, hseg]

/-! ## What the receive loop does -/

/-- What a message for the transaction `key` leaves of the table: records of executions stay entered, and a record
handed to a worker is entered and was not before. -/
structure Accepts (key : Key) (r : Responder) (out : Responder.Received) : Prop where
  wellKeyed : WellKeyed out.responder
  entered : ∀ ref, Entered r ref → Entered out.responder ref
  execute : ∀ ref req, out.execute = some (ref, req) → Entered out.responder ref ∧ ¬ Entered r ref
  /-- An entry that goes is a reassembly of the transaction. -/
  removed : ∀ key' ref, r.tx key' = some ref → out.responder.tx key' ≠ some ref →
    key' = key ∧ ∃ t, r.heap[ref]? = some t ∧ t.segmented = true

lemma accepts_unchanged (hwf : WellKeyed r) (replies : List Octets) :
    Accepts key r { responder := r, replies } where
  wellKeyed := hwf
  entered _ h := h
  execute _ _ h := by cases h
  removed _ _ htx hne := absurd htx hne

lemma accepts_add (hwf : WellKeyed r) (hfree : r.tx t.key = none) {replies : List Octets}
    {execute : Option (Ref × Apdu.ConfirmedRequest)}
    (hexec : ∀ ref req, execute = some (ref, req) → ref = r.heap.length ∧ t.segmented = false) :
    Accepts key r { responder := r.add t, replies, execute } where
  wellKeyed := hwf.add t
  entered ref h := h.add hfree
  execute ref req h := by
    obtain ⟨rfl, hseg⟩ := hexec ref req h
    exact ⟨entered_added hseg, fun hold => absurd hold.lt (lt_irrefl _)⟩
  removed key' ref htx hne := by
    have hkey : key' ≠ t.key := by
      rintro rfl
      rw [hfree] at htx
      cases htx
    exact absurd ((Function.update_of_ne hkey _ _).trans htx) hne

lemma accepts_update (hwf : WellKeyed r) (htx : r.tx key = some ref)
    (ht : r.heap[ref]? = some t) (hkey : t'.key = t.key) (hkeep : t.segmented = false → t' = t)
    {replies : List Octets} {execute : Option (Ref × Apdu.ConfirmedRequest)}
    (hexec : ∀ ref' req, execute = some (ref', req) → ref' = ref ∧ t.segmented = true ∧ t'.segmented = false) :
    Accepts key r { responder := r.update ref t', replies, execute } where
  wellKeyed := hwf.update ht hkey
  entered ref' h := by
    by_cases hne : ref' = ref
    · subst hne
      obtain ⟨u, hu, hseg, hutx⟩ := h
      obtain rfl := Option.some.inj (ht.symm.trans hu)
      obtain rfl := hkeep hseg
      exact entered_updated hutx (List.getElem?_eq_some_iff.mp ht).1 rfl hseg
    · exact h.update_other (Ne.symm hne) t'
  execute ref' req h := by
    obtain ⟨rfl, hseg, hseg'⟩ := hexec ref' req h
    obtain ⟨u, hu, hukey⟩ := hwf key ref' htx
    obtain rfl := Option.some.inj (ht.symm.trans hu)
    refine ⟨entered_updated htx (List.getElem?_eq_some_iff.mp ht).1 (hkey.trans hukey) hseg', ?_⟩
    rintro ⟨v, hv, hvseg, -⟩
    obtain rfl := Option.some.inj (ht.symm.trans hv)
    rw [hseg] at hvseg
    cases hvseg
  removed _ _ htx hne := absurd htx hne

lemma accepts_delete (hwf : WellKeyed r) (hreasm : ∀ t, r.find key = some t → t.segmented = true)
    (replies : List Octets) : Accepts key r { responder := r.delete key, replies } where
  wellKeyed := hwf.delete key
  entered ref h := by
    refine h.delete fun htx => ?_
    obtain ⟨u, hu, hseg, -⟩ := h
    obtain ⟨t, hfind, ht, -⟩ := find_of_tx hwf htx
    obtain rfl := Option.some.inj (ht.symm.trans hu)
    rw [hreasm t hfind] at hseg
    cases hseg
  execute _ _ h := by cases h
  removed key' ref htx hne := by
    by_cases hkey : key' = key
    · subst hkey
      obtain ⟨t, hfind, ht, -⟩ := find_of_tx hwf htx
      exact ⟨rfl, t, ht, hreasm t hfind⟩
    · exact absurd ((Function.update_of_ne hkey _ _).trans htx) hne

variable {req : Apdu.ConfirmedRequest} {p : Peer}

lemma segment_executing (h : t.segmented = false) :
    (Server.segment cfg now (some t) req p).entry = some t ∧
      (Server.segment cfg now (some t) req p).execute = none := by
  simp only [Server.segment, addSegment_executing h]
  split_ifs
  · exact ⟨rfl, rfl⟩
  · exact ⟨rfl, rfl⟩

lemma segment_known_key (h : (Server.segment cfg now (some t) req p).entry = some t') :
    t'.key = t.key := by
  by_cases hcfg : cfg.segmentation
  · simp only [Server.segment, hcfg, Bool.not_true, Bool.false_eq_true, if_false] at h
    exact addSegment_key h
  · simp only [Server.segment, hcfg, Bool.not_false, if_true] at h
    cases h
    rfl

lemma segment_new_key (h : (Server.segment cfg now none req p).entry = some t') :
    t'.key = p.key req.invokeID := by
  simp only [Server.segment] at h
  split_ifs at h
  exact addSegment_key h

lemma segment_execute {entry : Option Rtx} {payload : Octets}
    (hexec : (Server.segment cfg now entry req p).execute = some payload)
    (h : (Server.segment cfg now entry req p).entry = some t') : t'.segmented = false := by
  cases entry with
  | some t =>
    simp only [Server.segment] at hexec h
    split_ifs at hexec h
    exact (addSegment_execute hexec).2 t' h
  | none =>
    simp only [Server.segment] at hexec h
    split_ifs at hexec h
    exact (addSegment_execute hexec).2 t' h

lemma accepts_segment (hwf : WellKeyed r) : Accepts (p.key req.invokeID) r (r.segment cfg now req p) := by
  unfold Responder.segment
  dsimp only
  cases htx : r.tx (p.key req.invokeID) with
  | none =>
    have hfind : r.find (p.key req.invokeID) = none := by rw [Responder.find, htx]; rfl
    rw [hfind]
    cases hentry : (Server.segment cfg now none req p).entry with
    | none => exact accepts_delete hwf (by simp [hfind]) _
    | some t' =>
      refine accepts_add hwf ((segment_new_key hentry).symm ▸ htx) fun ref req' h => ?_
      obtain ⟨payload, hexec, hpair⟩ := Option.map_eq_some_iff.mp h
      cases hpair
      exact ⟨rfl, segment_execute hexec hentry⟩
  | some ref =>
    obtain ⟨t, hfind, ht, -⟩ := find_of_tx hwf htx
    rw [hfind]
    cases hentry : (Server.segment cfg now (some t) req p).entry with
    | none =>
      refine accepts_delete hwf (fun u hu => ?_) _
      obtain rfl := Option.some.inj (hfind.symm.trans hu)
      by_contra hseg
      rw [(segment_executing (Bool.not_eq_true _ ▸ hseg)).1] at hentry
      cases hentry
    | some t' =>
      refine accepts_update hwf htx ht (segment_known_key hentry) (fun hseg => ?_) fun ref' req' h => ?_
      · rw [(segment_executing hseg).1] at hentry
        exact (Option.some.inj hentry).symm
      · obtain ⟨payload, hexec, hpair⟩ := Option.map_eq_some_iff.mp h
        cases hpair
        refine ⟨rfl, ?_, segment_execute hexec hentry⟩
        by_contra hseg
        rw [(segment_executing (Bool.not_eq_true _ ▸ hseg)).2] at hexec
        cases hexec

lemma accepts_confirmed (hwf : WellKeyed r) : Accepts (p.key req.invokeID) r (r.confirmed cfg now req p) := by
  unfold Responder.confirmed
  split_ifs
  · exact accepts_unchanged hwf []
  · exact accepts_segment hwf
  · cases htx : r.tx (p.key req.invokeID) with
    | some ref => exact accepts_unchanged hwf []
    | none =>
      refine accepts_add hwf (t := Responder.newWhole req p) htx fun ref req' h => ?_
      cases h
      exact ⟨rfl, rfl⟩

lemma accepts_abort (hwf : WellKeyed r) (invokeID : UInt8) (p : Peer) :
    Accepts (p.key invokeID) r { responder := r.abortFromClient invokeID p } := by
  unfold Responder.abortFromClient
  dsimp only
  split
  · exact accepts_unchanged hwf []
  · next hdrop =>
    refine accepts_delete hwf (fun t hfind => ?_) []
    by_contra hseg
    simp [hfind, Server.abortFromClient, Option.filter, hseg] at hdrop

/-! ## Runs -/

/-- The invariant of the goroutines that share the table. -/
structure Executing (m : Machine) : Prop where
  wellKeyed : WellKeyed m.resp
  entered : ∀ ref ∈ m.executions, Entered m.resp ref
  nodup : m.executions.Nodup

lemma Executing.keep (h : Executing m) (hwf : WellKeyed m'.resp)
    (hent : ∀ ref, Entered m.resp ref → Entered m'.resp ref) (hperm : m'.executions.Perm m.executions) : Executing m' where
  wellKeyed := hwf
  entered ref hmem := hent ref (h.entered ref (hperm.mem_iff.mp hmem))
  nodup := hperm.nodup_iff.mpr h.nodup

lemma Executing.drop (h : Executing m) {ref : Ref} (ht : m.resp.heap[ref]? = some t)
    (hresp : m'.resp = m.resp.delete t.key) (hperm : m.executions.Perm (ref :: m'.executions)) : Executing m' := by
  have hnodup := List.nodup_cons.mp (hperm.nodup_iff.mp h.nodup)
  refine ⟨hresp ▸ h.wellKeyed.delete _, fun ref' hmem => ?_, hnodup.2⟩
  have hent := h.entered ref' (hperm.mem_iff.mpr (List.mem_cons_of_mem _ hmem))
  rw [hresp]
  refine hent.delete fun htx => ?_
  obtain ⟨u, hu, -, hutx⟩ := h.entered ref (hperm.mem_iff.mpr (List.mem_cons_self ..))
  obtain rfl := Option.some.inj (ht.symm.trans hu)
  obtain rfl := Option.some.inj (hutx.symm.trans htx)
  exact hnodup.1 hmem

lemma Executing.start (h : Executing m) {ref : Ref} (hwf : WellKeyed m'.resp)
    (hent : ∀ ref, Entered m.resp ref → Entered m'.resp ref) (hnew : Entered m'.resp ref)
    (hfresh : ¬ Entered m.resp ref) (heq : m'.executions = ref :: m.executions) : Executing m' where
  wellKeyed := hwf
  entered ref' hmem := by
    rw [heq] at hmem
    rcases List.mem_cons.mp hmem with rfl | hold
    · exact hnew
    · exact hent ref' (h.entered ref' hold)
  nodup := by
    rw [heq]
    exact List.nodup_cons.mpr ⟨fun hmem => hfresh (h.entered ref hmem), h.nodup⟩

lemma Executing.receive (h : Executing m) (hs : m.step cfg (.receive req p) = some m') :
    Executing m' := by
  simp only [Machine.step, ne_eq] at hs
  split_ifs at hs with hloop
  have hacc : Accepts (p.key req.invokeID) m.resp (m.resp.confirmed cfg m.now req p) := accepts_confirmed h.wellKeyed
  cases hs
  cases hexec : (m.resp.confirmed cfg m.now req p).execute with
  | none =>
    refine h.keep hacc.wellKeyed hacc.entered ?_
    simp [Machine.executions, hloop, Loop.refs]
  | some pair =>
    obtain ⟨ref, req'⟩ := pair
    obtain ⟨hnew, hfresh⟩ := hacc.execute ref req' hexec
    refine h.start hacc.wellKeyed hacc.entered hnew hfresh ?_
    simp [Machine.executions, hloop, Loop.refs]

lemma running_set {ws : List Running} {worker : Nat} {w : Running} (hw : ws[worker]? = some w) (phase : Phase) :
    (ws.set worker { w with phase }).map (fun w => w.ref) = ws.map fun w => w.ref := by
  exact Workers.map_set_key hw rfl

lemma Executing.handled (h : Executing m) {worker : Nat} {w : Running} {res : Result}
    (hw : m.running[worker]? = some w) (ht : m.resp.heap[w.ref]? = some t) :
    Executing (m.finish cfg worker w t res) := by
  have hexec : ∀ phase, (m.running.set worker { w with phase }).map (fun w => w.ref) = m.running.map fun w => w.ref :=
    running_set hw
  have hmem : w.ref ∈ m.executions := by
    refine List.mem_append_right _ (List.mem_map.mpr ⟨w, ?_, rfl⟩)
    exact List.mem_of_getElem? hw
  unfold Machine.finish
  dsimp only
  split
  · exact h.keep h.wellKeyed (fun _ hent => hent) (by simp [Machine.executions, hexec])
  · exact h.keep h.wellKeyed (fun _ hent => hent) (by simp [Machine.executions, hexec])
  · split
    · exact h.keep h.wellKeyed (fun _ hent => hent) (by simp [Machine.executions, hexec])
    · exact h.keep h.wellKeyed (fun _ hent => hent) (by simp [Machine.executions, hexec])
    · refine h.keep (h.wellKeyed.update ht rfl) (fun ref hent => ?_) (by simp [Machine.executions, hexec])
      by_cases hne : w.ref = ref
      · subst hne
        obtain ⟨u, hu, hseg, htx⟩ := hent
        obtain rfl := Option.some.inj (ht.symm.trans hu)
        exact entered_updated htx (List.getElem?_eq_some_iff.mp ht).1 rfl hseg
      · exact hent.update_other hne _

theorem executing_step {a : Machine.Action} (h : Executing m) (hs : m.step cfg a = some m') :
    Executing m' := by
  cases a with
  | tick =>
    cases hs
    exact h.keep h.wellKeyed (fun _ hent => hent) (.refl _)
  | receive req p => exact h.receive hs
  | abort invokeID p =>
    simp only [Machine.step, ne_eq] at hs
    split_ifs at hs
    cases hs
    have hacc := accepts_abort h.wellKeyed invokeID p
    exact h.keep hacc.wellKeyed hacc.entered (.refl _)
  | expire =>
    cases hs
    exact h.keep (h.wellKeyed.expire _) (fun _ hent => hent.expire _) (.refl _)
  | submit accepted =>
    simp only [Machine.step] at hs
    split at hs
    · next job hloop =>
      split_ifs at hs
      · cases hs
        refine h.keep h.wellKeyed (fun _ hent => hent) ?_
        simp only [Machine.executions, hloop, Loop.refs, List.map_append, List.nil_append, List.map_cons, List.map_nil]
        exact List.Perm.append_right _ List.perm_append_comm
      · cases hs
        refine h.keep h.wellKeyed (fun _ hent => hent) ?_
        simp [Machine.executions, hloop, Loop.refs]
    · cases hs
  | refuse =>
    simp only [Machine.step] at hs
    split at hs
    · next job hloop =>
      obtain ⟨t, ht, hs⟩ := Option.bind_eq_some_iff.mp hs
      cases hs
      refine h.drop ht rfl ?_
      simp [Machine.executions, hloop, Loop.refs]
    · cases hs
  | take =>
    simp only [Machine.step] at hs
    split at hs
    · next job jobs hjobs =>
      cases hs
      refine h.keep h.wellKeyed (fun _ hent => hent) ?_
      simp only [Machine.executions, hjobs, List.map_append, List.map_cons, List.map_nil, List.append_assoc]
      refine List.Perm.append_left _ ?_
      rw [← List.append_assoc]
      exact List.perm_append_singleton _ _
    · cases hs
  | handled worker res =>
    obtain ⟨w, hw, hs⟩ := Option.bind_eq_some_iff.mp hs
    obtain ⟨t, ht, hs⟩ := Option.bind_eq_some_iff.mp hs
    split_ifs at hs
    cases hs
    exact h.handled hw ht
  | sent worker =>
    obtain ⟨w, hw, hs⟩ := Option.bind_eq_some_iff.mp hs
    split_ifs at hs
    cases hs
    exact h.keep h.wellKeyed (fun _ hent => hent) (by simp [Machine.executions, running_set hw])
  | release worker =>
    obtain ⟨w, hw, hs⟩ := Option.bind_eq_some_iff.mp hs
    obtain ⟨t, ht, hs⟩ := Option.bind_eq_some_iff.mp hs
    split_ifs at hs
    cases hs
    refine h.drop ht rfl ?_
    have hperm := (Workers.perm_eraseIdx hw).map fun w => w.ref
    exact (List.Perm.append_left _ hperm).trans List.perm_middle

lemma removed_own {a : Machine.Action} (h : Executing m) (hs : m.step cfg a = some m')
    {ref : Ref} (htx : m.resp.tx key = some ref) (hgone : m'.resp.tx key ≠ some ref) : m.Owns key ref a := by
  -- A worker and a refusal delete by the key of their record, which only their own entry has.
  have hown : ∀ {ref' : Ref} {t : Rtx}, ref' ∈ m.executions → m.resp.heap[ref']? = some t →
      (m.resp.delete t.key).tx key ≠ some ref → ref' = ref := by
    intro ref' t hmem ht hne
    have hkey : key = t.key := by
      by_contra hkey
      exact hne ((Function.update_of_ne hkey _ _).trans htx)
    obtain ⟨u, hu, -, hutx⟩ := h.entered ref' hmem
    obtain rfl := Option.some.inj (ht.symm.trans hu)
    rw [hkey, hutx] at htx
    exact Option.some.inj htx
  cases a with
  | tick => cases hs; exact hgone htx
  | receive req p =>
    simp only [Machine.step, ne_eq] at hs
    split_ifs at hs
    cases hs
    exact (accepts_confirmed h.wellKeyed).removed key ref htx hgone
  | abort invokeID p =>
    simp only [Machine.step, ne_eq] at hs
    split_ifs at hs
    cases hs
    exact (accepts_abort h.wellKeyed invokeID p).removed key ref htx hgone
  | expire =>
    cases hs
    obtain ⟨t, ht, -⟩ := h.wellKeyed key ref htx
    refine ⟨t, ht, ?_⟩
    simpa [Responder.expire, htx, ht] using hgone
  | submit accepted =>
    simp only [Machine.step] at hs
    split at hs
    · split_ifs at hs <;> (cases hs; exact hgone htx)
    · cases hs
  | refuse =>
    simp only [Machine.step] at hs
    split at hs
    · next job hloop =>
      obtain ⟨t, ht, hs⟩ := Option.bind_eq_some_iff.mp hs
      cases hs
      exact ⟨job, hloop, hown (by simp [Machine.executions, hloop, Loop.refs]) ht hgone⟩
    · cases hs
  | take =>
    simp only [Machine.step] at hs
    split at hs
    · cases hs; exact hgone htx
    · cases hs
  | handled worker res =>
    obtain ⟨w, hw, hs⟩ := Option.bind_eq_some_iff.mp hs
    obtain ⟨t, ht, hs⟩ := Option.bind_eq_some_iff.mp hs
    split_ifs at hs
    cases hs
    refine hgone (Eq.trans ?_ htx)
    unfold Machine.finish
    dsimp only
    split
    · rfl
    · rfl
    · split <;> rfl
  | sent worker =>
    obtain ⟨w, hw, hs⟩ := Option.bind_eq_some_iff.mp hs
    split_ifs at hs
    cases hs
    exact hgone htx
  | release worker =>
    obtain ⟨w, hw, hs⟩ := Option.bind_eq_some_iff.mp hs
    obtain ⟨t, ht, hs⟩ := Option.bind_eq_some_iff.mp hs
    split_ifs at hs
    cases hs
    have hmem : w.ref ∈ m.executions :=
      List.mem_append_right _ (List.mem_map.mpr ⟨w, List.mem_of_getElem? hw, rfl⟩)
    exact ⟨w, hw, hown hmem ht hgone⟩

lemma executing_reachable (hm : Transition.Reachable {} (Machine.step cfg) m) : Executing m := by
  refine hm.invariant Executing ?_ fun m a m' h _ hs => executing_step h hs
  exact ⟨fun _ _ h => (nomatch h), fun _ h => (nomatch h), List.nodup_nil⟩

/-- In every state reached, a transaction key has at most one request queued or with a worker, each of them has its
entry in the table, and no action removes the entry of another. -/
theorem one_execution {m : Machine} (hm : Transition.Reachable {} (Machine.step cfg) m) :
    (∀ key, (m.executionsOf key).length ≤ 1) ∧
    (∀ ref ∈ m.executions, ∃ t, m.resp.heap[ref]? = some t ∧ m.resp.tx t.key = some ref) ∧
    ∀ a m', m.step cfg a = some m' → ∀ key ref, m.resp.tx key = some ref → m'.resp.tx key ≠ some ref →
      m.Owns key ref a := by
  have h := executing_reachable hm
  refine ⟨fun key => ?_, fun ref hmem => ?_, fun a m' hs key ref htx hgone => removed_own h hs htx hgone⟩
  · have hentry : ∀ ref ∈ m.executionsOf key, m.resp.tx key = some ref := by
      intro ref hmem
      obtain ⟨hmem, hkey⟩ := List.mem_filter.mp hmem
      obtain ⟨t, ht, -, htx⟩ := h.entered ref hmem
      have hkey : t.key = key := by simpa [ht] using hkey
      exact hkey ▸ htx
    have hnodup : (m.executionsOf key).Nodup := h.nodup.filter _
    match m.executionsOf key, hentry, hnodup with
    | [], _, _ => simp
    | [_], _, _ => simp
    | a :: b :: rest, hentry, hnodup =>
      have heq : some a = some b := (hentry a (by simp)).symm.trans (hentry b (by simp))
      exact absurd (Option.some.inj heq) (by simp_all)
  · obtain ⟨t, ht, -, htx⟩ := h.entered ref hmem
    exact ⟨t, ht, htx⟩

/-- A ReadProperty request with a worker. -/
theorem one_execution_readProperty :
    let p : Peer := { immediate := ⟨.v4 10 0 0 2, 47808⟩, origin := ⟨.v4 10 0 0 2, 47808⟩ }
    ∃ m, Transition.Reachable {} (Machine.step {}) m ∧ m.executions = [0] ∧ (m.executionsOf (p.key 7)).length ≤ 1 ∧
      ∃ t, m.resp.heap[0]? = some t ∧ m.resp.tx t.key = some 0 := by
  intro p
  let req : Apdu.ConfirmedRequest := ⟨false, false, false, 0, 5, 7, 0, 0, 12, [0x0C, 0, 0, 0, 1, 0x19, 85]⟩
  have hrun : (Transition.run (Machine.step {}) {} [.receive req p, .submit true, .take]).map Machine.executions =
      some [0] := by decide +kernel
  obtain ⟨m, hm, hexec⟩ := Option.map_eq_some_iff.mp hrun
  have hreach : Transition.Reachable {} (Machine.step {}) m := Transition.Reachable.run .init hm
  obtain ⟨hone, hentry, -⟩ := one_execution hreach
  exact ⟨m, hreach, hexec, hone _, hentry 0 (hexec ▸ List.mem_singleton_self 0)⟩

end GoBacnet.Proofs
