import GoBacnet.Client.Routing
import GoBacnet.Lib.Transition

/-!
# The bound of the router cache

However the peers choose their messages, the cache never holds more than eight next hops for a network and 256
routes. A mark that a Router-Busy, Router-Available or Reject message sets for a network without a route leaves an
entry with no route behind; in a run without such messages every entry holds a route.
-/

namespace GoBacnet.Client.RouterCache

open Transition

variable {r r' : RouterCache} {order : RangeOrder (Σ _ : UInt16, List Route)} {network network' : UInt16}
  {nextHop : Endpoint} {rs : List Route} {i : Nat} {now : Int}

/-! ## One entry replaced or dropped -/

@[simp] lemma routes_setRoutes :
    (r.setRoutes network rs).routes network' = if network' = network then rs else r.routes network' := by
  simp only [routes, setRoutes, Table.lookup_insert_eq]
  split <;> rfl

lemma total_setRoutes : (r.setRoutes network rs).total + (r.routes network).length = r.total + rs.length := by
  unfold total setRoutes routes
  cases hentry : r.byNet.lookup network with
  | none => exact Table.weight_insert_new _ (AList.lookup_eq_none.mp hentry) _
  | some old => exact Table.weight_replace _ hentry _

lemma total_eraseEntry :
    ({ r with byNet := r.byNet.erase network } : RouterCache).total + (r.routes network).length = r.total := by
  unfold total routes
  cases hentry : r.byNet.lookup network with
  | none =>
    simp only [Table.erase_of_not_mem (AList.lookup_eq_none.mp hentry), Option.getD_none, List.length_nil, Nat.add_zero]
  | some old => exact Table.weight_erase _ hentry

lemma routes_drop :
    (r.drop network i).routes network' =
      if network' = network then (r.routes network).eraseIdx i else r.routes network' := by
  unfold drop
  simp only
  by_cases hempty : ((r.routes network).eraseIdx i).length = 0
  · rw [if_pos hempty, List.length_eq_zero_iff.mp hempty]
    simp only [routes, Table.lookup_erase_eq]
    split <;> rfl
  · rw [if_neg hempty, routes_setRoutes]

lemma total_drop (hi : i < (r.routes network).length) : (r.drop network i).total + 1 = r.total := by
  have hlen := List.length_eraseIdx_of_lt hi
  unfold drop
  simp only
  by_cases hempty : ((r.routes network).eraseIdx i).length = 0
  · have htotal := @total_eraseEntry r network
    rw [if_pos hempty]
    omega
  · have htotal := @total_setRoutes r network ((r.routes network).eraseIdx i)
    rw [if_neg hempty]
    omega

/-! ## What the cache keeps -/

structure Bounded (r : RouterCache) : Prop where
  maxPerNet : r.maxPerNet = 8
  maxGlobal : r.maxGlobal = 256
  perNet : ∀ network, (r.routes network).length ≤ 8
  all : r.total ≤ 256
  learned : ∀ network, ∀ rt ∈ r.routes network, rt.source = .learned

def NoEmptyEntry (r : RouterCache) : Prop := ∀ network, r.byNet.lookup network ≠ some []

structure AddsNone (r r' : RouterCache) : Prop where
  maxPerNet : r'.maxPerNet = r.maxPerNet
  maxGlobal : r'.maxGlobal = r.maxGlobal
  perNet : ∀ network, (r'.routes network).length ≤ (r.routes network).length
  total : r'.total ≤ r.total
  learned : (∀ network, ∀ rt ∈ r.routes network, rt.source = .learned) →
    ∀ network, ∀ rt ∈ r'.routes network, rt.source = .learned

lemma AddsNone.refl (r : RouterCache) : AddsNone r r := ⟨rfl, rfl, fun _ => le_rfl, le_rfl, id⟩

lemma AddsNone.trans {r₁ r₂ r₃ : RouterCache} (h : AddsNone r₁ r₂) (h' : AddsNone r₂ r₃) : AddsNone r₁ r₃ where
  maxPerNet := h'.maxPerNet.trans h.maxPerNet
  maxGlobal := h'.maxGlobal.trans h.maxGlobal
  perNet network := (h'.perNet network).trans (h.perNet network)
  total := h'.total.trans h.total
  learned := h'.learned ∘ h.learned

lemma Bounded.of_addsNone (hb : Bounded r) (h : AddsNone r r') : Bounded r' where
  maxPerNet := h.maxPerNet.trans hb.maxPerNet
  maxGlobal := h.maxGlobal.trans hb.maxGlobal
  perNet network := (h.perNet network).trans (hb.perNet network)
  all := h.total.trans hb.all
  learned := h.learned hb.learned

lemma addsNone_setRoutes (hlen : rs.length ≤ (r.routes network).length)
    (hsource : ∀ rt ∈ rs, ∃ old ∈ r.routes network, rt.source = old.source) :
    AddsNone r (r.setRoutes network rs) where
  maxPerNet := rfl
  maxGlobal := rfl
  perNet network' := by
    rw [routes_setRoutes]
    split
    · next h => exact h ▸ hlen
    · exact le_rfl
  total := by
    have h := @total_setRoutes r network rs
    omega
  learned hlearned network' rt hrt := by
    rw [routes_setRoutes] at hrt
    split at hrt
    · obtain ⟨old, hold, hsame⟩ := hsource rt hrt
      exact hsame.trans (hlearned network old hold)
    · exact hlearned network' rt hrt

lemma addsNone_setRoutes_map {f : Route → Route} (hf : ∀ rt, (f rt).source = rt.source) :
    AddsNone r (r.setRoutes network ((r.routes network).map f)) := by
  apply addsNone_setRoutes (List.length_map ..).le
  intro rt hrt
  obtain ⟨old, hold, rfl⟩ := List.mem_map.mp hrt
  exact ⟨old, hold, hf old⟩

lemma addsNone_setRoutes_modify {f : Route → Route} (hf : ∀ rt, (f rt).source = rt.source) :
    AddsNone r (r.setRoutes network ((r.routes network).modify i f)) := by
  apply addsNone_setRoutes (List.length_modify ..).le
  intro rt hrt
  obtain ⟨k, hk⟩ := List.mem_iff_getElem?.mp hrt
  rw [List.getElem?_modify] at hk
  obtain ⟨old, hold, rfl⟩ := Option.map_eq_some_iff.mp hk
  refine ⟨old, List.mem_of_getElem? hold, ?_⟩
  split
  · exact hf old
  · rfl

lemma noEmptyEntry_setRoutes (h : NoEmptyEntry r) (hrs : rs ≠ []) : NoEmptyEntry (r.setRoutes network rs) := by
  intro network'
  simp only [setRoutes, Table.lookup_insert_eq]
  split
  · simpa using hrs
  · exact h network'

/-! ## The limit of the whole cache -/

lemma addsNone_drop (hi : i < (r.routes network).length) : AddsNone r (r.drop network i) where
  maxPerNet := by
    unfold drop
    simp only
    split <;> rfl
  maxGlobal := by
    unfold drop
    simp only
    split <;> rfl
  perNet network' := by
    rw [routes_drop]
    split
    · next h => exact h ▸ List.length_eraseIdx_le ..
    · exact le_rfl
  total := by
    have h := total_drop hi
    omega
  learned hlearned network' rt hrt := by
    rw [routes_drop] at hrt
    split at hrt
    · exact hlearned network rt (List.mem_of_mem_eraseIdx hrt)
    · exact hlearned network' rt hrt

lemma noEmptyEntry_drop (h : NoEmptyEntry r) : NoEmptyEntry (r.drop network i) := by
  unfold drop
  simp only
  split
  · intro network'
    simp only [Table.lookup_erase_eq]
    split
    · simp
    · exact h network'
  · next hne => exact noEmptyEntry_setRoutes h fun hnil => hne (by rw [hnil]; rfl)

lemma mem_candidates {rt : Route} (h : (network, i, rt) ∈ r.candidates order) : (r.routes network)[i]? = some rt := by
  simp only [candidates, List.mem_flatMap, RangeOrder.mem_arrange, List.mem_map, List.mem_filter, Prod.mk.injEq,
    Prod.exists] at h
  obtain ⟨⟨net, rs⟩, he, _, _, ⟨hrt, _⟩, rfl, rfl, rfl⟩ := h
  rw [routes, Table.mem_entries_iff.mp he]
  exact (List.mem_zipIdx_iff_getElem? ..).mp hrt

lemma candidates_ne_nil (hlearned : ∀ network, ∀ rt ∈ r.routes network, rt.source = .learned) (hpos : 0 < r.total) :
    r.candidates order ≠ [] := by
  obtain ⟨n, hn, hlen⟩ := List.exists_mem_ne_zero_of_sum_ne_zero (Nat.pos_iff_ne_zero.mp hpos)
  obtain ⟨⟨net, rs⟩, he, rfl⟩ := List.mem_map.mp hn
  obtain ⟨rt, rest, hrs⟩ := List.exists_cons_of_ne_nil (fun h => hlen (by rw [h]; rfl) : rs ≠ [])
  have hmem : rt ∈ r.routes net := by
    rw [routes, Table.mem_entries_iff.mp he, hrs]
    simp
  apply List.ne_nil_of_mem (a := (net, 0, rt))
  simp only [candidates, List.mem_flatMap, RangeOrder.mem_arrange, List.mem_map, List.mem_filter]
  exact ⟨⟨net, rs⟩, he, (rt, 0), ⟨by simp [hrs], by simp [hlearned net rt hmem]⟩, rfl⟩

lemma addsNone_enforceGlobal (rounds : Nat) : AddsNone r (r.enforceGlobal order rounds) := by
  induction rounds generalizing r with
  | zero => exact .refl r
  | succ rounds ih =>
    unfold enforceGlobal
    split
    · exact .refl r
    · next network i rt h =>
      have hroute := mem_candidates (List.minOn?_mem h)
      exact (addsNone_drop (List.getElem?_eq_some_iff.mp hroute).1).trans ih

lemma noEmptyEntry_enforceGlobal (h : NoEmptyEntry r) (rounds : Nat) : NoEmptyEntry (r.enforceGlobal order rounds) := by
  induction rounds generalizing r with
  | zero => exact h
  | succ rounds ih =>
    unfold enforceGlobal
    split
    · exact h
    · exact ih (noEmptyEntry_drop h)

lemma total_enforceGlobal (hlearned : ∀ network, ∀ rt ∈ r.routes network, rt.source = .learned) (rounds : Nat) :
    (r.enforceGlobal order rounds).total = r.total - rounds := by
  induction rounds generalizing r with
  | zero => rfl
  | succ rounds ih =>
    unfold enforceGlobal
    split
    · next h =>
      have hzero : ¬ 0 < r.total := by
        intro hpos
        have hsome := (List.isSome_minOn?_iff (f := fun c : UInt16 × Nat × Route => c.2.2.lastSeen)).mpr
          (@candidates_ne_nil r order hlearned hpos)
        rw [h] at hsome
        exact Bool.noConfusion hsome
      omega
    · next network i rt h =>
      have hi := (List.getElem?_eq_some_iff.mp (mem_candidates (List.minOn?_mem h))).1
      have hdrop := total_drop hi
      rw [ih ((addsNone_drop hi).learned hlearned)]
      omega

/-! ## The operations -/

lemma bounded_upsertLearned (h : Bounded r) : Bounded (r.upsertLearned order network nextHop now) := by
  unfold upsertLearned
  simp only
  split
  · exact h.of_addsNone (addsNone_setRoutes_modify fun _ => rfl)
  · generalize hrs : r.routes network ++ [_] = rs
    have hlearned : ∀ network', ∀ rt ∈ (r.setRoutes network (rs.drop (rs.length - r.maxPerNet))).routes network',
        rt.source = .learned := by
      intro network' rt hrt
      rw [routes_setRoutes] at hrt
      split at hrt
      · rw [← hrs] at hrt
        rcases List.mem_append.mp (List.mem_of_mem_drop hrt) with hold | hnew
        · exact h.learned network rt hold
        · rw [List.mem_singleton.mp hnew]
      · exact h.learned network' rt hrt
    have hrest := @addsNone_enforceGlobal (r.setRoutes network (rs.drop (rs.length - r.maxPerNet))) order
      ((r.setRoutes network (rs.drop (rs.length - r.maxPerNet))).total - r.maxGlobal)
    refine ⟨hrest.maxPerNet.trans h.maxPerNet, hrest.maxGlobal.trans h.maxGlobal, fun network' => ?_, ?_,
      hrest.learned hlearned⟩
    · apply (hrest.perNet network').trans
      rw [routes_setRoutes, h.maxPerNet]
      split
      · rw [List.length_drop]
        omega
      · exact h.perNet network'
    · refine (total_enforceGlobal hlearned _).trans_le ?_
      have hmax : (r.setRoutes network (rs.drop (rs.length - r.maxPerNet))).maxGlobal = 256 := h.maxGlobal
      omega

lemma noEmptyEntry_upsertLearned (hb : Bounded r) (h : NoEmptyEntry r) :
    NoEmptyEntry (r.upsertLearned order network nextHop now) := by
  unfold upsertLearned
  simp only
  split
  · next i hi =>
    obtain ⟨hlt, -⟩ := List.findIdx?_eq_some_iff_getElem.mp hi
    apply noEmptyEntry_setRoutes h
    exact List.ne_nil_of_length_pos (by rw [List.length_modify]; omega)
  · apply noEmptyEntry_enforceGlobal
    apply noEmptyEntry_setRoutes h
    apply List.ne_nil_of_length_pos
    rw [List.length_drop, List.length_append, List.length_singleton, hb.maxPerNet]
    omega

lemma addsNone_mark {f : Route → Route} (hf : ∀ rt, (f rt).source = rt.source) :
    AddsNone r (r.mark network nextHop f) := by
  apply addsNone_setRoutes_map
  intro rt
  split
  · exact hf rt
  · rfl

lemma length_routes_mark {f : Route → Route} :
    ((r.mark network nextHop f).routes network').length = (r.routes network').length := by
  rw [mark, routes_setRoutes]
  split
  · next h => rw [h, List.length_map]
  · rfl

section Marks

variable {g : RouterCache → Route → Route}

lemma addsNone_foldl_mark (hg : ∀ r rt, (g r rt).source = rt.source) (networks : List UInt16) :
    AddsNone r (networks.foldl (fun r network => r.mark network nextHop (g r)) r) := by
  induction networks generalizing r with
  | nil => exact .refl r
  | cons network networks ih => exact (addsNone_mark (hg r)).trans ih

lemma noEmptyEntry_foldl_mark (h : NoEmptyEntry r) {networks : List UInt16}
    (hknown : ∀ network ∈ networks, r.routes network ≠ []) :
    NoEmptyEntry (networks.foldl (fun r network => r.mark network nextHop (g r)) r) := by
  induction networks generalizing r with
  | nil => exact h
  | cons network networks ih =>
    apply ih
    · exact noEmptyEntry_setRoutes h (by simpa using hknown network (by simp))
    · intro network' hmem
      rw [← List.length_pos_iff_ne_nil, length_routes_mark, List.length_pos_iff_ne_nil]
      exact hknown network' (by simp [hmem])

end Marks

def markedNetworks (n : Npdu.NPDU) : List UInt16 :=
  if n.netMsgType = Npdu.netMsgRouterBusyToNetwork ∨ n.netMsgType = Npdu.netMsgRouterAvailableToNetwork then
    (Npdu.decodeNetworkList n.netMsgData).toOption.getD []
  else if n.netMsgType = Npdu.netMsgRejectMessageToNetwork then
    ((Npdu.decodeRejectMessageToNetwork n.netMsgData).toOption.map fun (_, network) => network).toList
  else []

lemma handleNetworkMessage_cases (n : Npdu.NPDU) (src : PacketSource) :
    (∃ nets : List UInt16, r.handleNetworkMessage order n src now =
      nets.foldl (fun r network => r.upsertLearned order network src.immediate now) r) ∨
    ∃ g : RouterCache → Route → Route, (∀ r rt, (g r rt).source = rt.source) ∧
      r.handleNetworkMessage order n src now =
        (markedNetworks n).foldl (fun r network => r.mark network src.immediate (g r)) r := by
  unfold handleNetworkMessage
  split
  · cases hnets : Npdu.decodeNetworkList n.netMsgData with
    | error => exact .inl ⟨[], rfl⟩
    | ok nets => exact .inl ⟨nets, rfl⟩
  · next htype =>
    cases hnets : Npdu.decodeNetworkList n.netMsgData with
    | error => exact .inl ⟨[], rfl⟩
    | ok nets =>
      refine .inr ⟨fun r rt => { rt with state := .busy, busyUntil := some (now + r.busyDuration), lastSeen := now },
        fun _ _ => rfl, ?_⟩
      rw [markedNetworks, if_pos (.inl htype), hnets]
      rfl
  · next htype =>
    cases hnets : Npdu.decodeNetworkList n.netMsgData with
    | error => exact .inl ⟨[], rfl⟩
    | ok nets =>
      refine .inr ⟨fun r rt => { rt with state := .available, busyUntil := none, lastSeen := now },
        fun _ _ => rfl, ?_⟩
      rw [markedNetworks, if_pos (.inr htype), hnets]
      rfl
  · next htype =>
    have hnot : ¬ (n.netMsgType = Npdu.netMsgRouterBusyToNetwork ∨
        n.netMsgType = Npdu.netMsgRouterAvailableToNetwork) := by
      rw [htype]
      decide
    have htype' : n.netMsgType = Npdu.netMsgRejectMessageToNetwork := htype
    cases hreject : Npdu.decodeRejectMessageToNetwork n.netMsgData with
    | error => exact .inl ⟨[], rfl⟩
    | ok answer =>
      obtain ⟨reason, network⟩ := answer
      refine .inr ⟨fun r rt =>
        { rt with state := .rejected, rejectReason := reason, rejectedAt := some now, lastSeen := now },
        fun _ _ => rfl, ?_⟩
      rw [markedNetworks, if_neg hnot, if_pos htype', hreject]
      rfl
  · exact .inl ⟨[], rfl⟩

lemma addsNone_selectNextHop : AddsNone r (r.selectNextHop network now).2 := by
  unfold selectNextHop
  simp only
  split
  · apply addsNone_setRoutes_map
    intro rt
    unfold Route.refresh
    split_ifs <;> rfl
  · exact .refl r

lemma noEmptyEntry_selectNextHop (h : NoEmptyEntry r) : NoEmptyEntry (r.selectNextHop network now).2 := by
  unfold selectNextHop
  simp only
  split
  · next hne =>
    apply noEmptyEntry_setRoutes h
    intro hnil
    rw [List.map_eq_nil_iff] at hnil
    exact hne (by rw [hnil]; rfl)
  · exact h

/-! ## Runs -/

def MarksKnown (r : RouterCache) : Action → Prop
  | .message _ n _ _ => ∀ network ∈ markedNetworks n, r.routes network ≠ []
  | .learn .. => True
  | .select .. => True

lemma bounded_init : Bounded {} where
  maxPerNet := rfl
  maxGlobal := rfl
  perNet _ := Nat.zero_le _
  all := Nat.zero_le _
  learned _ _ h := absurd h List.not_mem_nil

lemma bounded_step {a : Action} (h : Bounded r) (hs : r.step a = some r') : Bounded r' := by
  cases a with
  | message order n src now =>
    cases hs
    obtain ⟨nets, heq⟩ | ⟨g, hg, heq⟩ := @handleNetworkMessage_cases r order now n src
    · rw [heq]
      exact List.foldlRecOn nets _ h fun _ hb _ _ => bounded_upsertLearned hb
    · rw [heq]
      exact h.of_addsNone (addsNone_foldl_mark hg _)
  | learn order network nextHop now =>
    cases hs
    exact bounded_upsertLearned h
  | select network now =>
    cases hs
    exact h.of_addsNone addsNone_selectNextHop

lemma noEmptyEntry_step {a : Action} (hb : Bounded r) (h : NoEmptyEntry r) (hknown : MarksKnown r a)
    (hs : r.step a = some r') : NoEmptyEntry r' := by
  cases a with
  | message order n src now =>
    cases hs
    obtain ⟨nets, heq⟩ | ⟨g, -, heq⟩ := @handleNetworkMessage_cases r order now n src
    · rw [heq]
      exact (List.foldlRecOn nets _ (motive := fun r => Bounded r ∧ NoEmptyEntry r) ⟨hb, h⟩ fun _ hr _ _ =>
        ⟨bounded_upsertLearned hr.1, noEmptyEntry_upsertLearned hr.1 hr.2⟩).2
    · rw [heq]
      exact noEmptyEntry_foldl_mark h hknown
  | learn order network nextHop now =>
    cases hs
    exact noEmptyEntry_upsertLearned hb h
  | select network now =>
    cases hs
    exact noEmptyEntry_selectNextHop h

/-- In every run whose Router-Busy, Router-Available and Reject messages name networks with a route, the cache
holds at most eight next hops for a network and 256 routes, and no entry without a route. -/
theorem routeCache_bounded (hr : ReachableWhere {} step MarksKnown r) :
    (∀ network, (r.routes network).length ≤ 8) ∧ r.total ≤ 256 ∧ NoEmptyEntry r := by
  have hinv : Bounded r ∧ NoEmptyEntry r := hr.invariant (fun r => Bounded r ∧ NoEmptyEntry r)
    ⟨bounded_init, fun _ => by simp⟩
    fun _ _ _ h hknown hs => ⟨bounded_step h.1 hs, noEmptyEntry_step h.1 h.2 hknown hs⟩
  exact ⟨hinv.1.perNet, hinv.1.all, hinv.2⟩

def peerMessage (netMsgType : UInt8) (netMsgData : Octets) : Action :=
  .message .stored { networkMessage := true, netMsgType, netMsgData }
    ⟨{}, ⟨.v4 10 0 0 1, 47808⟩, ⟨.v4 10 0 0 1, 47808⟩⟩ 0

/-- A router announces network 5, and then rejects a message to it. -/
theorem routeCache_bounded_rejected :
    ∃ r, ReachableWhere {} step MarksKnown r ∧ (r.routes 5).map Route.state = [.rejected] ∧
      (∀ network, (r.routes network).length ≤ 8) ∧ r.total ≤ 256 ∧ NoEmptyEntry r := by
  have hannounced : ReachableWhere {} step MarksKnown _ :=
    .step (peerMessage Npdu.netMsgIAmRouterToNetwork [0, 5]) .init (fun _ h => absurd h List.not_mem_nil) rfl
  have hrejected : ReachableWhere {} step MarksKnown _ :=
    .step (peerMessage Npdu.netMsgRejectMessageToNetwork [1, 0, 5]) hannounced (fun network hmem => by
      obtain rfl : network = 5 := List.mem_singleton.mp hmem
      exact List.cons_ne_nil _ _) rfl
  exact ⟨_, hrejected, by decide +kernel, routeCache_bounded hrejected⟩

/-- A Reject-Message-To-Network for a network that no router announced leaves an entry without a route. -/
theorem routeCache_entry_without_route :
    ∃ r, step {} (peerMessage Npdu.netMsgRejectMessageToNetwork [1, 0, 5]) = some r ∧ Reachable {} step r ∧
      r.byNet.lookup 5 = some [] ∧ ¬ NoEmptyEntry r :=
  ⟨_, rfl, .step (peerMessage Npdu.netMsgRejectMessageToNetwork [1, 0, 5]) .init trivial rfl, rfl, fun h => h 5 rfl⟩

end GoBacnet.Client.RouterCache
