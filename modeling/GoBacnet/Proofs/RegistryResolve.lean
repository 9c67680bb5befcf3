import GoBacnet.Client.Discovery
import GoBacnet.Proofs.FrameRoundTrip
import GoBacnet.Proofs.RegistryIndex

/-!
# Looking up the capabilities of a discovered device

An observation is found by the target it names, unless it was seen through a broadcast management device: then the
target is the device itself, while the observations are matched by the node that delivered them.
-/

namespace GoBacnet.Client

open Transition Bvlc

variable {cfg : DiscoveryConfig} {r : Registry} {o : DeviceObservation} {k : ObservationKey}

/-! ## What discovery learns -/

structure DeviceObservation.Discovered (o : DeviceObservation) : Prop where
  station : o.address.scope = .localStation ∨ o.address.scope = .remoteStation
  origin : o.origin.isValid = true
  segmentation : o.capabilities.segmentation.known = true
  maxAPDU : o.capabilities.maxAPDULengthAccepted.known = true

lemma source_station {data : Octets} {limits : DecodeLimits} {n : Npdu.NPDU} {consumed : Nat}
    (h : Npdu.parse data limits = .ok (n, consumed)) :
    n.source.scope = .localStation ∨ n.source.scope = .remoteStation := by
  obtain ⟨_, enc', _, -, -, -, -, -, -, -, hsrc, -⟩ := Npdu.parse_ok h
  have hread := hsrc.read []
  unfold Npdu.parseIf at hread
  split at hread
  · obtain ⟨hsource, -⟩ := Npdu.append_parseSource hread
    generalize n.source = source at hsource
    cases hsource with
    | localStation mac _ => exact .inl rfl
    | remoteStation network mac _ _ => exact .inr rfl
  · rw [← (Prod.mk.inj (Except.ok.inj hread)).1]
    exact .inl rfl

lemma sourceOf_spec {n : Npdu.NPDU} {origin immediate : Endpoint} {src : PacketSource}
    (hn : n.source.scope = .localStation ∨ n.source.scope = .remoteStation)
    (h : sourceOf n origin immediate = some src) :
    src.origin = origin ∧ (src.bacnetAddress.scope = .localStation ∨ src.bacnetAddress.scope = .remoteStation) := by
  unfold sourceOf at h
  split at h
  · obtain ⟨addr, haddr, rfl⟩ := Option.map_eq_some_iff.mp h
    obtain ⟨mac, -, rfl⟩ := Option.map_eq_some_iff.mp haddr
    exact ⟨rfl, .inl rfl⟩
  · cases h
    exact ⟨rfl, hn⟩

lemma handlePacket_source {data : Octets} {immediate : Endpoint} {pdu : Apdu.PDU} {src : PacketSource}
    (h : handlePacket cfg data immediate = some (pdu, src)) :
    src.origin.isValid = true ∧
      (src.bacnetAddress.scope = .localStation ∨ src.bacnetAddress.scope = .remoteStation) := by
  simp only [handlePacket, bind, Option.bind_eq_some_iff] at h
  obtain ⟨msg, -, origin, -, _, hguard, _, -, ⟨n, consumed⟩, hparse, src', hsrc, _, -, _, -, hpure⟩ := h
  obtain ⟨-, rfl⟩ := Prod.mk.inj (Option.some.inj hpure)
  obtain ⟨m, hm, hmn⟩ : ∃ m, Npdu.parse msg.payload cfg.limits = .ok m ∧ m = (n, consumed) := by
    cases hp : Npdu.parse msg.payload cfg.limits with
    | error e => simp [hp, Except.toOption] at hparse
    | ok m => exact ⟨m, rfl, by simpa [hp, Except.toOption] using hparse⟩
  subst hmn
  have hvalid : origin.isValid = true := by
    by_contra hinvalid
    simp [guard, hinvalid] at hguard
  obtain ⟨horigin, hstation⟩ := sourceOf_spec (source_station hm) hsrc
  exact ⟨horigin ▸ hvalid, hstation⟩

lemma discovered_handleUnconfirmed {req : Apdu.UnconfirmedRequest} {src : PacketSource} {now : Int}
    (hvalid : src.origin.isValid = true)
    (hstation : src.bacnetAddress.scope = .localStation ∨ src.bacnetAddress.scope = .remoteStation)
    (h : handleUnconfirmed cfg req src now = some o) : o.Discovered := by
  unfold handleUnconfirmed at h
  split at h
  · obtain ⟨iam, -, rfl⟩ := Option.map_eq_some_iff.mp h
    refine ⟨?_, hvalid, rfl, rfl⟩
    dsimp only
    split
    · cases haddr : bipMACAddress src.origin with
      | none => exact hstation
      | some addr =>
        obtain ⟨mac, -, rfl⟩ := Option.map_eq_some_iff.mp haddr
        exact .inl rfl
    · exact hstation
  · exact absurd h (by simp)

lemma discovered_observation {data : Octets} {immediate : Endpoint} {now : Int}
    (h : observation cfg data immediate now = some o) : o.Discovered := by
  unfold observation at h
  split at h
  · next req src hpacket =>
    obtain ⟨hvalid, hstation⟩ := handlePacket_source hpacket
    exact discovered_handleUnconfirmed hvalid hstation h
  · exact absurd h (by simp)

lemma mergeCap_known {α : Type} {dst src : Capability α} (h : src.known = true) : (mergeCap dst src).known = true := by
  unfold mergeCap
  rw [h]
  by_cases hdst : dst.known = true
  · simp only [Bool.not_true, Bool.false_eq_true, if_false]
    split
    · exact h
    · exact hdst
  · simp [Bool.eq_false_of_not_eq_true hdst, h]

namespace Registry

lemma upsert_stored {order : ObservationOrder} {now : Int} {new : DeviceObservation}
    (h : (r.upsert order new now).1.byKey.lookup k = some o) :
    r.byKey.lookup k = some o ∨ o = { new with lastSeen := now } ∨
      ∃ old : DeviceObservation,
        o = { new with lastSeen := now, capabilities := mergeCapabilities old.capabilities new.capabilities } := by
  unfold upsert at h
  simp only at h
  split at h
  · next old _ =>
    rw [store, Table.lookup_insert_eq] at h
    split at h
    · exact .inr (.inr ⟨old, (Option.some.inj h).symm⟩)
    · exact .inl ((removes_expireLocked r now).lookup k o h)
  · rw [store, Table.lookup_insert_eq] at h
    split at h
    · exact .inr (.inl (Option.some.inj h).symm)
    · exact .inl ((removes_expireLocked r now).lookup k o (removes_enforceCapacityLocked.lookup k o h))

def AllDiscovered (r : Registry) : Prop := ∀ k o, r.byKey.lookup k = some o → o.Discovered

lemma allDiscovered_upsert {order : ObservationOrder} {now : Int} {new : DeviceObservation} (h : AllDiscovered r)
    (hnew : new.Discovered) : AllDiscovered (r.upsert order new now).1 := by
  intro k o ho
  rcases upsert_stored ho with hold | rfl | ⟨old, rfl⟩
  · exact h k o hold
  · exact ⟨hnew.station, hnew.origin, hnew.segmentation, hnew.maxAPDU⟩
  · exact ⟨hnew.station, hnew.origin, mergeCap_known hnew.segmentation, mergeCap_known hnew.maxAPDU⟩

lemma allDiscovered_of_reachable {opts : RegistryOptions} (hr : Reachable (newRegistry opts) (receive cfg) r) :
    AllDiscovered r := by
  refine hr.invariant AllDiscovered (fun k o ho => by simp [newRegistry] at ho) fun r d r' h _ hs => ?_
  unfold receive at hs
  split at hs
  · next new hnew =>
    cases hs
    exact allDiscovered_upsert h (discovered_observation hnew)
  · cases hs
    exact h

/-! ## Lookup -/

lemma resolveCapabilities_eq_some {order : ObservationOrder} {target : Target} {caps : DeviceCapabilities}
    (h : r.resolveCapabilities order target = some caps) :
    ∃ k o, r.byKey.lookup k = some o ∧ target.describes o = true ∧ o.capabilities = caps := by
  obtain ⟨⟨k, o⟩, hfind, rfl⟩ := Option.map_eq_some_iff.mp h
  have hmem := (RangeOrder.mem_arrange ..).mp (List.mem_of_find?_eq_some hfind)
  exact ⟨k, o, Table.mem_entries_iff.mp hmem, (List.find?_eq_some_iff_append.mp hfind).1, rfl⟩

lemma exists_resolveCapabilities {target : Target} (order : ObservationOrder) (ho : r.byKey.lookup k = some o)
    (hdescribes : target.describes o = true) : ∃ caps, r.resolveCapabilities order target = some caps := by
  have hmem : (⟨k, o⟩ : Σ _ : ObservationKey, DeviceObservation) ∈ order.arrange r.byKey.entries :=
    (RangeOrder.mem_arrange ..).mpr (Table.mem_entries_iff.mpr ho)
  have hsome : ((order.arrange r.byKey.entries).find? fun e => target.describes e.2).isSome = true :=
    List.find?_isSome.mpr ⟨_, hmem, hdescribes⟩
  obtain ⟨e, he⟩ := Option.isSome_iff_exists.mp hsome
  exact ⟨e.2.capabilities, Option.map_eq_some_iff.mpr ⟨e, he, rfl⟩⟩

lemma describes_target (h : o.address.scope = .localStation ∨ o.address.scope = .remoteStation)
    (o' : DeviceObservation) :
    o.target.toTarget.describes o' = true ↔ o'.address = o.address ∧
      (o.target.endpoint.isValid = true → o'.immediatePeer.isValid = true → o'.immediatePeer = o.target.endpoint) := by
  have hscope : (o.target.address.scope = .remoteStation || o.target.address.scope = .localStation) = true := by
    rcases h with h | h <;> simp [DeviceObservation.target, h]
  have horigin : o.target.origin.isValid = false := rfl
  have haddress : o.target.address = o.address := rfl
  unfold Target.describes
  rw [hscope, horigin, haddress]
  cases o.target.endpoint.isValid <;> cases o'.immediatePeer.isValid <;> simp

lemma target_endpoint_of_direct (h : o.address.scope = .remoteStation ∨ o.origin = o.immediatePeer) :
    o.target.endpoint = o.immediatePeer := by
  unfold DeviceObservation.target
  dsimp only
  split
  · next hne =>
    rcases h with hremote | heq
    · rw [hremote]
    · exact absurd heq hne.2
  · rfl

lemma target_endpoint_of_forwarded (h : o.Discovered)
    (hforwarded : ¬ (o.address.scope = .remoteStation ∨ o.origin = o.immediatePeer)) :
    o.target.endpoint = o.origin := by
  have hlocal : o.address.scope = .localStation := h.station.resolve_right fun hr => hforwarded (.inl hr)
  unfold DeviceObservation.target
  dsimp only
  rw [if_pos ⟨h.origin, fun heq => hforwarded (.inr heq)⟩, hlocal]

/-- The capabilities of a discovered device are found again by its target, whatever the order of the search, exactly
when it was not seen through a broadcast management device, or its address was also seen from its own node. -/
theorem resolveCapabilities_target_iff {opts : RegistryOptions} (hr : Reachable (newRegistry opts) (receive cfg) r)
    (ho : r.byKey.lookup k = some o) :
    (∀ order, ∃ k' o', r.byKey.lookup k' = some o' ∧ o'.address = o.address ∧
      r.resolveCapabilities order o.target.toTarget = some o'.capabilities ∧
      o'.capabilities.segmentation.known = true ∧ o'.capabilities.maxAPDULengthAccepted.known = true) ↔
    ((o.address.scope = .remoteStation ∨ o.origin = o.immediatePeer) ∨
      ∃ k' o', r.byKey.lookup k' = some o' ∧ o'.address = o.address ∧
        (o'.immediatePeer = o.origin ∨ o'.immediatePeer.isValid = false)) := by
  have hall := allDiscovered_of_reachable hr
  have hstation := (hall k o ho).station
  constructor
  · intro hfound
    by_cases hdirect : o.address.scope = .remoteStation ∨ o.origin = o.immediatePeer
    · exact .inl hdirect
    · obtain ⟨_, _, _, _, hresolve, -⟩ := hfound .stored
      obtain ⟨k', o', ho', hdescribes, -⟩ := resolveCapabilities_eq_some hresolve
      obtain ⟨haddress, hpeer⟩ := (describes_target hstation o').mp hdescribes
      rw [target_endpoint_of_forwarded (hall k o ho) hdirect] at hpeer
      refine .inr ⟨k', o', ho', haddress, ?_⟩
      cases hvalid : o'.immediatePeer.isValid with
      | false => exact .inr rfl
      | true => exact .inl (hpeer (hall k o ho).origin hvalid)
  · intro hseen order
    obtain ⟨k', o', ho', hdescribes⟩ : ∃ k' o', r.byKey.lookup k' = some o' ∧
        o.target.toTarget.describes o' = true := by
      by_cases hdirect : o.address.scope = .remoteStation ∨ o.origin = o.immediatePeer
      · refine ⟨k, o, ho, (describes_target hstation o).mpr ⟨rfl, fun _ _ => ?_⟩⟩
        exact (target_endpoint_of_direct hdirect).symm
      · obtain ⟨k', o', ho', haddress, hpeer⟩ := hseen.resolve_left hdirect
        refine ⟨k', o', ho', (describes_target hstation o').mpr ⟨haddress, fun _ hvalid => ?_⟩⟩
        rw [target_endpoint_of_forwarded (hall k o ho) hdirect]
        exact hpeer.resolve_right (by rw [hvalid]; simp)
    obtain ⟨caps, hcaps⟩ := exists_resolveCapabilities order ho' hdescribes
    obtain ⟨k₂, o₂, ho₂, hdescribes₂, rfl⟩ := resolveCapabilities_eq_some hcaps
    exact ⟨k₂, o₂, ho₂, ((describes_target hstation o₂).mp hdescribes₂).1, hcaps, (hall k₂ o₂ ho₂).segmentation,
      (hall k₂ o₂ ho₂).maxAPDU⟩

/-- An I-Am of device 7, which supports segmentation and has a largest APDU of 1476 octets. -/
def iAmFrame : Octets := [1, 0, 0x10, 0, 0xC4, 2, 0, 0, 7, 0x22, 5, 0xC4, 0x91, 0, 0x21, 1]

/-- What the I-Am says of the node `10.9.9.9`, delivered by another or by itself. -/
def observedFrom (immediatePeer : Endpoint) : DeviceObservation where
  instanceNumber := 7
  address := .ofLocalStation ⟨[10, 9, 9, 9, 0xBA, 0xC0], by simp [maxMACLength]⟩
  origin := ⟨.v4 10 9 9 9, 47808⟩
  immediatePeer := immediatePeer
  lastSeen := 0
  capabilities := iAmCapabilities ⟨⟨objectTypeDevice, 7⟩, 1476, 0, 1⟩

def discoveredFrom (immediatePeer : Endpoint) : Registry :=
  ((newRegistry {}).upsert .stored (observedFrom immediatePeer) 0).1

lemma reachable_discoveredFrom {data : Octets} {immediatePeer : Endpoint}
    (h : observation {} data immediatePeer 0 = some (observedFrom immediatePeer)) :
    Reachable (newRegistry {}) (receive {}) (discoveredFrom immediatePeer) := by
  refine .step ⟨.stored, data, immediatePeer, 0⟩ .init trivial ?_
  simp only [receive, h]
  rfl

/-- A device that announces itself in an Original-Broadcast-NPDU is found again. -/
theorem resolveCapabilities_target_direct :
    ∃ r k o, Reachable (newRegistry {}) (receive {}) r ∧ r.byKey.lookup k = some o ∧ o.origin = o.immediatePeer ∧
      ∀ order, ∃ o' : DeviceObservation, o'.address = o.address ∧
        r.resolveCapabilities order o.target.toTarget = some o'.capabilities := by
  have hr := @reachable_discoveredFrom ([0x81, 0x0B, 0, 20] ++ iAmFrame) ⟨.v4 10 9 9 9, 47808⟩ (by decide +kernel)
  have ho : (discoveredFrom ⟨.v4 10 9 9 9, 47808⟩).byKey.lookup (keyOf (observedFrom ⟨.v4 10 9 9 9, 47808⟩)) =
      some (observedFrom ⟨.v4 10 9 9 9, 47808⟩) := by decide +kernel
  refine ⟨_, _, _, hr, ho, rfl, fun order => ?_⟩
  obtain ⟨_, o', -, haddress, hresolve, -⟩ := (resolveCapabilities_target_iff hr ho).mpr (.inl (.inr rfl)) order
  exact ⟨o', haddress, hresolve⟩

/-- A device that is announced in a Forwarded-NPDU of a broadcast management device is not found: its segmentation is
unknown when it is addressed by its target. -/
theorem resolveCapabilities_target_forwarded :
    ∃ r k o, Reachable (newRegistry {}) (receive {}) r ∧ r.byKey.lookup k = some o ∧
      o.capabilities.segmentation = ⟨segmentationBoth, true, .fromIAm⟩ ∧
      r.resolveCapabilities .stored o.target.toTarget = none ∧
      r.peerAcceptsSegmentedRequests .stored o.target.toTarget = false := by
  have hr := @reachable_discoveredFrom ([0x81, 0x04, 0, 26, 10, 9, 9, 9, 0xBA, 0xC0] ++ iAmFrame)
    ⟨.v4 10 0 0 1, 47808⟩ (by decide +kernel)
  exact ⟨_, keyOf (observedFrom ⟨.v4 10 0 0 1, 47808⟩), observedFrom ⟨.v4 10 0 0 1, 47808⟩, hr, by decide +kernel,
    by decide +kernel, by decide +kernel, by decide +kernel⟩

end Registry

/-! ## Answers of observed devices -/

variable {src : PacketSource}

lemma sourceOf_immediate {n : Npdu.NPDU} {origin immediate : Endpoint} (h : sourceOf n origin immediate = some src) :
    src.immediate = immediate := by
  unfold sourceOf at h
  split at h
  · obtain ⟨addr, -, rfl⟩ := Option.map_eq_some_iff.mp h
    rfl
  · cases h
    rfl

lemma handlePacket_immediate {data : Octets} {immediate : Endpoint} {pdu : Apdu.PDU}
    (h : handlePacket cfg data immediate = some (pdu, src)) : src.immediate = immediate := by
  simp only [handlePacket, bind, Option.bind_eq_some_iff] at h
  obtain ⟨_, -, _, -, _, -, _, -, ⟨_, _⟩, -, _, hsrc, _, -, _, -, hpure⟩ := h
  obtain ⟨-, rfl⟩ := Prod.mk.inj (Option.some.inj hpure)
  exact sourceOf_immediate hsrc

/-- The sender of an announcement is kept, and the address is never empty. -/
lemma observation_address {data : Octets} {immediate : Endpoint} {now : Int}
    (h : observation cfg data immediate now = some o) : o.immediatePeer = immediate ∧ o.address.mac.isZero = false := by
  unfold observation at h
  split at h
  · next req src hpacket =>
    unfold handleUnconfirmed at h
    split at h
    · obtain ⟨iam, -, rfl⟩ := Option.map_eq_some_iff.mp h
      refine ⟨handlePacket_immediate hpacket, ?_⟩
      dsimp only
      split
      · have hvalid := (handlePacket_source hpacket).1
        unfold Endpoint.isValid at hvalid
        split at hvalid
        · next haddr =>
          simp [bipMACAddress, Link.mac, haddr, Address.ofLocalStation, MAC.isZero]
        · cases hvalid
      · next hzero => exact Bool.not_eq_true _ ▸ hzero
    · cases h
  · cases h

/-- The target of an observed device needs no completion, and the answers taken for it are exactly those with the
address of the device that arrive from the node its requests go to. -/
theorem observed_answers {data data' : Octets} {immediate immediate' : Endpoint} {now : Int} {pdu : Apdu.PDU}
    (ho : observation cfg data immediate now = some o) (hvalid : immediate.isValid = true)
    (hp : handlePacket cfg data' immediate' = some (pdu, src)) (hvalid' : immediate'.isValid = true) :
    normalizeTarget o.target.toTarget = .ok o.target.toTarget ∧
      (matchTargetSource o.target.toTarget src = true ↔
        src.bacnetAddress = o.address ∧ immediate' = o.target.endpoint) := by
  obtain ⟨rfl, hzero⟩ := observation_address ho
  have hdiscovered := discovered_observation ho
  have hendpoint : o.target.endpoint.isValid = true := by
    by_cases hdirect : o.address.scope = .remoteStation ∨ o.origin = o.immediatePeer
    · exact Registry.target_endpoint_of_direct hdirect ▸ hvalid
    · exact Registry.target_endpoint_of_forwarded hdiscovered hdirect ▸ hdiscovered.origin
  obtain rfl := handlePacket_immediate hp
  have himmediate : matchImmediate o.target.toTarget src = true ↔ src.immediate = o.target.endpoint := by
    simp only [matchImmediate, hendpoint, hvalid', Bool.true_and, Bool.not_eq_true', bne_eq_false_iff_eq]
    exact eq_comm
  have hsrc := (handlePacket_source hp).2
  have haddress : o.target.address = o.address := rfl
  refine ⟨by simp [normalizeTarget, hendpoint, haddress, hzero], ?_⟩
  have horigin : o.target.origin.isValid = false := rfl
  unfold matchTargetSource
  rcases hdiscovered.station with hlocal | hremote
  · -- Both kinds of source are compared with the address.
    have hstation : (src.bacnetAddress.scope == .localStation || src.bacnetAddress.scope == .remoteStation) = true := by
      rcases hsrc with h | h <;> rw [h] <;> rfl
    rw [haddress, hlocal]
    simp [horigin, hstation, himmediate]
  · rw [haddress, hremote]
    simp [himmediate]

/-- An answer of the node `10.9.9.9`, whose announcement a broadcast management device forwarded. -/
theorem observed_answers_forwarded :
    let node : Endpoint := ⟨.v4 10 9 9 9, 47808⟩
    let bbmd : Endpoint := ⟨.v4 10 0 0 1, 47808⟩
    let iAm := [0x81, 0x04, 0, 26, 10, 9, 9, 9, 0xBA, 0xC0] ++ Registry.iAmFrame
    let ack := [0x81, 0x0A, 0, 9, 1, 0, 0x20, 1, 15]
    ∃ o src, observation {} iAm bbmd 0 = some o ∧ handlePacket {} ack node = some (.simpleACK ⟨1, 15⟩, src) ∧
      matchTargetSource o.target.toTarget src = true := by
  intro node bbmd iAm ack
  have ho : observation {} iAm bbmd 0 = some (Registry.observedFrom bbmd) := by decide +kernel
  have hp : handlePacket {} ack node =
      some (.simpleACK ⟨1, 15⟩, ⟨(Registry.observedFrom node).address, node, node⟩) := by decide +kernel
  exact ⟨_, _, ho, hp, (observed_answers ho rfl hp rfl).2.mpr ⟨rfl, by decide +kernel⟩⟩

end GoBacnet.Client
