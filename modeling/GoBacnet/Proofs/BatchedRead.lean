import GoBacnet.Client.ReadPropertyBatched
import GoBacnet.Lib.Result

/-!
# A batched read gives what one request would

A batch is answered as if its property references were asked for one after the other, and so are all batches together.
-/

namespace GoBacnet.Client

open Service

/-- What a peer answers, property by property: the identifier it gives for an object and the results of a reference. -/
structure PropertyAnswers where
  object : ObjectIdentifier → ObjectIdentifier
  results : ObjectIdentifier → PropertyReference → List PropertyResult

namespace PropertyAnswers

variable (a : PropertyAnswers)

def answer (spec : ReadAccessSpecification) : ReadAccessResult :=
  ⟨a.object spec.object, spec.properties.flatMap (a.results spec.object)⟩

/-- Whatever the peer answers, it answers property by property. It may refuse any request. -/
def AnsweredBy (exchange : RPMExchange) : Prop :=
  ∀ before specs results, exchange before specs = .ok results → results = specs.map a.answer

def joinUnit (object : Nat → ObjectIdentifier) (out : List ReadAccessResult) (u : PropertyUnit) :
    List ReadAccessResult :=
  out.modify u.spec fun r => ⟨a.object (object u.spec), r.properties ++ a.results (object u.spec) u.prop⟩

def joinAnswer (out : List ReadAccessResult) (req : Nat × ReadAccessSpecification) : List ReadAccessResult :=
  out.modify req.1 fun r => ⟨(a.answer req.2).object, r.properties ++ (a.answer req.2).properties⟩

end PropertyAnswers

variable {a : PropertyAnswers} {object : Nat → ObjectIdentifier}

lemma mem_addUnit {req : List (Nat × ReadAccessSpecification)} {u : PropertyUnit}
    (h : ∀ r ∈ req, r.2.object = object r.1) : ∀ r ∈ addUnit object req u, r.2.object = object r.1 := by
  unfold addUnit
  split
  · rename_i owner last hlast
    have hmem := List.mem_of_getLast? hlast
    split
    · intro r hr
      rcases List.mem_append.mp hr with hr | hr
      · exact h r (List.mem_of_mem_dropLast hr)
      · obtain rfl := List.mem_singleton.mp hr
        exact h (owner, last) hmem
    · simpa [or_imp, forall_and] using h
  · simp

lemma joinAnswer_addUnit {req : List (Nat × ReadAccessSpecification)} {u : PropertyUnit}
    (h : ∀ r ∈ req, r.2.object = object r.1) (out : List ReadAccessResult) :
    (addUnit object req u).foldl a.joinAnswer out = a.joinUnit object (req.foldl a.joinAnswer out) u := by
  unfold addUnit
  split
  · rename_i owner last hlast
    have hobject : last.object = object owner := h _ (List.mem_of_getLast? hlast)
    split
    · rename_i hsame
      subst hsame
      conv_rhs => rw [← List.dropLast_append_getLast? _ hlast]
      simp only [List.foldl_append, List.foldl_cons, List.foldl_nil]
      simp [PropertyAnswers.joinAnswer, PropertyAnswers.joinUnit, PropertyAnswers.answer, List.modify_modify_eq, hobject,
        Function.comp_def]
    · simp [PropertyAnswers.joinAnswer, PropertyAnswers.joinUnit, PropertyAnswers.answer]
  · rename_i hnone
    simp [List.getLast?_eq_none_iff.mp hnone, PropertyAnswers.joinAnswer, PropertyAnswers.joinUnit, PropertyAnswers.answer]

/-- Answering the requests of a batch is answering its units. -/
lemma joinAnswer_group (us : List PropertyUnit) (out : List ReadAccessResult) :
    (group object us).foldl a.joinAnswer out = us.foldl (a.joinUnit object) out := by
  suffices h : (∀ r ∈ group object us, r.2.object = object r.1) ∧
      (group object us).foldl a.joinAnswer out = us.foldl (a.joinUnit object) out from h.2
  induction us using List.reverseRecOn with
  | nil => simp [group]
  | append_singleton us u ih =>
    have hgroup : group object (us ++ [u]) = addUnit object (group object us) u := by simp [group]
    rw [hgroup, List.foldl_append, ← ih.2]
    exact ⟨mem_addUnit ih.1, joinAnswer_addUnit ih.1 out⟩

lemma joinResults_answers (req : List (Nat × ReadAccessSpecification)) {j : Nat} {out out' : List ReadAccessResult}
    (h : joinResults j out (req.zip (req.map (a.answer ∘ Prod.snd))) = (out', none)) :
    out' = req.foldl a.joinAnswer out := by
  induction req generalizing j out with
  | nil =>
    cases h
    rfl
  | cons r req ih =>
    simp only [List.map_cons, List.zip_cons_cons, joinResults] at h
    split at h
    · exact ih h
    · cases h

section

variable {exchange : RPMExchange} {budget maxBatches : Int}

lemma readPropertyMultiple_answers (hpeer : a.AnsweredBy exchange) {before : Nat}
    {specs : List ReadAccessSpecification} {results : List ReadAccessResult}
    (h : readPropertyMultiple exchange before specs = .ok results) : results = specs.map a.answer := by
  unfold readPropertyMultiple at h
  split at h
  · cases h
  · exact hpeer _ _ _ h

lemma readBatches_answers (hpeer : a.AnsweredBy exchange) (left batchSize : Nat) (us : List PropertyUnit)
    (out : List ReadAccessResult) (sent : List (List ReadAccessSpecification))
    (h : (readBatches exchange object budget maxBatches left batchSize us out sent).err = none) :
    (readBatches exchange object budget maxBatches left batchSize us out sent).out =
      us.foldl (a.joinUnit object) out := by
  fun_induction readBatches exchange object budget maxBatches left batchSize us out sent with
  | case1 => rfl
  | case4 left batchSize u us out sent count hcount req sent' e hfail hsmall ih => exact ih h
  | case8 left batchSize u us out sent count hcount req sent' results hok hlen out' hjoin ih =>
    have hresults : results = req.map (a.answer ∘ Prod.snd) := by
      rw [readPropertyMultiple_answers hpeer hok, List.map_map]
    rw [hresults] at hjoin
    rw [ih h, joinResults_answers req hjoin, joinAnswer_group, ← List.foldl_append, List.take_append_drop]
  | _ => cases h

lemma length_sent_readBatches (left batchSize : Nat) (us : List PropertyUnit) (out : List ReadAccessResult)
    (sent : List (List ReadAccessSpecification)) :
    (readBatches exchange object budget maxBatches left batchSize us out sent).sent.length ≤ sent.length + left := by
  fun_induction readBatches exchange object budget maxBatches left batchSize us out sent <;> grind

end

lemma foldl_joinUnit_spec (i : Nat) {props : List PropertyReference} (hne : props ≠ []) (out : List ReadAccessResult) :
    (props.map (PropertyUnit.mk i)).foldl (a.joinUnit object) out =
      out.modify i fun r => ⟨a.object (object i), r.properties ++ props.flatMap (a.results (object i))⟩ := by
  induction props generalizing out with
  | nil => exact absurd rfl hne
  | cons p props ih =>
    by_cases hprops : props = []
    · simp [hprops, PropertyAnswers.joinUnit]
    · rw [List.map_cons, List.foldl_cons, ih hprops]
      simp [PropertyAnswers.joinUnit, List.modify_modify_eq, Function.comp_def]

/-- Specifications from the index `done.length` on, after those of the results `done`. -/
lemma foldl_joinUnit_specs {specs : List ReadAccessSpecification} (hprops : ∀ s ∈ specs, s.properties ≠ [])
    (done : List ReadAccessResult) (hobject : ∀ i s, specs[i]? = some s → object (done.length + i) = s.object) :
    ((specs.zipIdx done.length).flatMap fun (spec, i) => spec.properties.map (PropertyUnit.mk i)).foldl
      (a.joinUnit object) (done ++ specs.map fun s => ⟨s.object, []⟩) = done ++ specs.map a.answer := by
  induction specs generalizing done with
  | nil => simp
  | cons spec specs ih =>
    rw [List.forall_mem_cons] at hprops
    have hfirst : object done.length = spec.object := hobject 0 spec rfl
    rw [List.zipIdx_cons, List.flatMap_cons, List.foldl_append, foldl_joinUnit_spec done.length hprops.1]
    have hrest := ih hprops.2 (done ++ [a.answer spec]) fun i s hs => by
      simpa [Nat.add_assoc, Nat.add_comm 1] using hobject (i + 1) s hs
    simpa [hfirst, PropertyAnswers.answer, List.modify_eq_take_cons_drop] using hrest

/-- A batched read without an error gives the answer to all specifications, and it makes no more requests than it may. -/
theorem readPropertyMultipleBatched_whole (exchange : RPMExchange) (a : PropertyAnswers) (hpeer : a.AnsweredBy exchange)
    (remoteMaxAPDU : UInt16) (specs : List ReadAccessSpecification) (hprops : ∀ s ∈ specs, s.properties ≠ [])
    (opts : RPMBatchOptions) :
    ((readPropertyMultipleBatched exchange remoteMaxAPDU specs opts).err = none →
      (readPropertyMultipleBatched exchange remoteMaxAPDU specs opts).out = specs.map a.answer) ∧
    ((readPropertyMultipleBatched exchange remoteMaxAPDU specs opts).sent.length : Int) ≤ opts.normalize.maxBatches := by
  have hpos : 0 < opts.normalize.maxBatches := by
    simp only [RPMBatchOptions.normalize, orDefault]
    split <;> omega
  unfold readPropertyMultipleBatched
  split
  · exact ⟨nofun, by simpa using hpos.le⟩
  · split
    · exact ⟨nofun, by simpa using hpos.le⟩
    · refine ⟨fun herr => ?_, ?_⟩
      · rw [readBatches_answers hpeer _ _ _ _ _ herr]
        exact foldl_joinUnit_specs hprops [] fun i s hs => by simp [objectOf, hs]
      · have hlen := @length_sent_readBatches (objectOf specs) exchange (batchBudget remoteMaxAPDU opts.normalize)
          opts.normalize.maxBatches opts.normalize.maxBatches.toNat opts.normalize.maxPropertiesPerBatch.toNat
          (propertyUnits specs) (specs.map fun s => ⟨s.object, []⟩) []
        rw [List.length_nil, Nat.zero_add] at hlen
        exact (Int.ofNat_le.mpr hlen).trans (Int.toNat_of_nonneg hpos.le).le

def echoAnswers : PropertyAnswers where
  object id := id
  results _ p := [⟨p, .value (.unsigned p.identifier.toUInt64)⟩]

/-- A peer that answers one property at a time. -/
def oneAtATime : RPMExchange := fun _ specs =>
  if (specs.map fun s => s.properties.length).sum ≤ 1 then .ok (specs.map echoAnswers.answer)
  else .error (.abort abortReasonAPDUTooLong)

def twoSpecifications : List ReadAccessSpecification :=
  [⟨⟨8, 1⟩, [⟨77, none⟩, ⟨75, none⟩, ⟨28, none⟩]⟩, ⟨⟨0, 1⟩, [⟨85, none⟩]⟩]

theorem readPropertyMultipleBatched_whole_halved :
    (readPropertyMultipleBatched oneAtATime 480 twoSpecifications {}).out = twoSpecifications.map echoAnswers.answer ∧
      ((readPropertyMultipleBatched oneAtATime 480 twoSpecifications {}).sent.length : Int) ≤ 64 := by
  have hpeer : echoAnswers.AnsweredBy oneAtATime := by
    intro before specs results h
    unfold oneAtATime at h
    split at h
    · cases h
      rfl
    · cases h
  obtain ⟨hwhole, hsent⟩ := readPropertyMultipleBatched_whole oneAtATime echoAnswers hpeer 480 twoSpecifications
    (by simp [twoSpecifications]) {}
  exact ⟨hwhole rfl, hsent⟩

end GoBacnet.Client
