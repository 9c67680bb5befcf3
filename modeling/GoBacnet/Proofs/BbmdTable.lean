import GoBacnet.Bbmd.History

/-!
# The foreign device table

The table is a reference map of the last successful registrations, of which the expired ones are dropped at different
times by different operations. What a reader, a distribution and the acceptance of a broadcast see does not depend on
when that happens.
-/

namespace GoBacnet.Bbmd

open Bvlc

/-! ### What the operations see -/

section Views

variable {b : Node} {now : Int} {ep origin : Endpoint} {f : Foreign} {x : FDTEntry}

lemma lookup_purge : (b.purge now).fdt.lookup ep = some f ↔ b.fdt.lookup ep = some f ∧ now < f.expires := by
  unfold Node.purge
  rw [Table.lookup_retain_eq_some, decide_eq_true_iff]

lemma mem_fdtLocked :
    x ∈ (b.fdtLocked now).1 ↔ ∃ ep f, b.fdt.lookup ep = some f ∧ now < f.expires ∧ x = f.entry now ep := by
  unfold Node.fdtLocked
  rw [List.mem_insertionSort, List.mem_map]
  constructor
  · rintro ⟨⟨ep, f⟩, he, rfl⟩
    obtain ⟨hf, hlive⟩ := lookup_purge.mp (Table.mem_entries_iff.mp he)
    exact ⟨ep, f, hf, hlive, rfl⟩
  · rintro ⟨ep, f, hf, hlive, rfl⟩
    exact ⟨⟨ep, f⟩, Table.mem_entries_iff.mpr (lookup_purge.mpr ⟨hf, hlive⟩), rfl⟩

lemma registered_iff : b.registered now ep = true ↔ ∃ f, b.fdt.lookup ep = some f ∧ now < f.expires := by
  unfold Node.registered
  cases b.fdt.lookup ep with
  | none => simp
  | some f => simp

lemma mem_foreignDestinations :
    ep ∈ b.foreignDestinations now origin ↔ b.registered now ep = true ∧ ep ≠ origin ∧ ep ≠ b.self := by
  unfold Node.foreignDestinations
  rw [List.mem_filter, List.mem_map, registered_iff]
  have hexcept : (!(decide (ep = origin) || decide (ep = b.self))) = true ↔ ep ≠ origin ∧ ep ≠ b.self := by simp
  rw [hexcept]
  refine and_congr_left fun _ => ⟨?_, ?_⟩
  · rintro ⟨x, hx, rfl⟩
    obtain ⟨ep, f, hf, hlive, rfl⟩ := mem_fdtLocked.mp hx
    exact ⟨f, hf, hlive⟩
  · rintro ⟨f, hf, hlive⟩
    exact ⟨f.entry now ep, mem_fdtLocked.mpr ⟨ep, f, hf, hlive, rfl⟩, rfl⟩

end Views

/-! ### What a step does to the table -/

/-- The changes of the table between two times, with what they add to the history. -/
inductive Updates (b : Node) (lo hi : Int) : Node → List Happening → Prop
  | keep : Updates b lo hi b []
  | purge (now : Int) (hlo : lo ≤ now) (hhi : now ≤ hi) : Updates b lo hi (b.purge now) []
  | register (now : Int) (hlo : lo ≤ now) (hhi : now ≤ hi) (ep : Endpoint) (ttl : UInt16)
      (hroom : ep ∈ (b.purge now).fdt ∨ Table.size (b.purge now).fdt < b.max) :
      Updates b lo hi { b.purge now with fdt := (b.purge now).fdt.insert ep { ttl, expires := deadline ttl now } }
        [.registered ep ttl now]
  | delete (ep : Endpoint) : Updates b lo hi { b with fdt := b.fdt.erase ep } [.deleted ep]

section Steps

variable {b : Node} {lo hi now later : Int}

lemma distribute_updates (hlo : lo ≤ now) (hhi : now ≤ hi) (origin : Endpoint) (npdu : Octets) (peers : Bool) :
    Updates b lo hi (b.distribute now origin npdu peers).2 [] := by
  unfold Node.distribute
  cases forwarded origin npdu with
  | error e => exact .keep
  | ok frame => exact .purge now hlo hhi

lemma delete_updates (ep : Endpoint) : Updates b lo hi (b.delete ep).2 [.deleted ep] := by
  have hdelete : (b.delete ep).2 = { b with fdt := b.fdt.erase ep } := by
    unfold Node.delete
    split
    · next hnot => rw [Table.erase_of_not_mem hnot]
    · rfl
  rw [hdelete]
  exact .delete ep

lemma register_updates (hlo : lo ≤ now) (hhi : now ≤ hi) (ep : Endpoint) (ttl : UInt16) : Updates b lo hi (b.register
    now ep ttl).2 (if (b.register now ep ttl).1 = resultSuccessfulCompletion then [.registered ep ttl now] else []) :=
    by
  unfold Node.register
  by_cases hreject : b.reject
  · simpa [hreject, resultRegisterForeignDeviceNAK, resultSuccessfulCompletion] using Updates.keep
  rw [if_neg hreject]
  dsimp only
  by_cases hfull : ep ∉ (b.purge now).fdt ∧ Table.size (b.purge now).fdt ≥ (b.purge now).max
  · rw [if_pos hfull]
    exact .purge now hlo hhi
  · rw [if_neg hfull]
    refine .register now hlo hhi ep ttl ?_
    by_cases hmem : ep ∈ (b.purge now).fdt
    · exact .inl hmem
    · exact .inr (not_le.mp fun hge => hfull ⟨hmem, hge⟩)

lemma handleBVLC_updates (hlo : lo ≤ now) (hnow : now ≤ later) (hhi : later ≤ hi) (msg : Message) (sender : Endpoint) :
    Updates b lo hi (b.handleBVLC now later msg sender).bbmd (happenings b now msg sender) := by
  have hlater := hlo.trans hnow
  unfold Node.handleBVLC happenings
  by_cases hself : sender = b.self
  · rw [if_pos hself, if_pos hself]
    exact .keep
  rw [if_neg hself, if_neg hself]
  split
  · next hfn =>
    simp only [hfn]
    split
    · exact .keep
    · exact distribute_updates hlater hhi ..
  · next hfn =>
    simp only [hfn]
    split
    · exact .keep
    · exact distribute_updates hlater hhi ..
  · next hfn =>
    simp only [hfn]
    split
    · exact .keep
    · split
      · exact .keep
      · exact distribute_updates hlater hhi ..
  · next hfn =>
    simp only [hfn]
    exact register_updates hlo (hnow.trans hhi) ..
  · next hfn =>
    simp only [hfn]
    exact .keep
  · next hfn =>
    simp only [hfn]
    exact .keep
  · next hfn =>
    simp only [hfn]
    exact .purge now hlo (hnow.trans hhi)
  · next hfn =>
    simp only [hfn]
    cases decodeDeleteFDTEntry msg.payload with
    | error e => exact .keep
    | ok ep => exact delete_updates ep
  · next h1 h2 h3 hregister h5 h6 h7 hdelete =>
    split
    · next hfn => exact absurd hfn hregister
    · next hfn => exact absurd hfn hdelete
    · exact .keep

end Steps

/-! ### The table reflects the history -/

/-- The table holds the last registrations, except some that have ended. -/
structure System.Reflects (s : System) : Prop where
  sound : ∀ (ep : Endpoint) (f : Foreign), s.node.fdt.lookup ep = some f →
    ∃ time, lastRegistration s.history ep = some (f.ttl, time) ∧ f.expires = deadline f.ttl time
  complete : ∀ (ep : Endpoint) (ttl : UInt16) (time : Int), lastRegistration s.history ep = some (ttl, time) →
    s.node.fdt.lookup ep = none → deadline ttl time ≤ s.clock
  bounded : Table.size s.node.fdt ≤ s.node.max

namespace System.Reflects

variable {s : System} {now hi : Int}

lemma wait (h : s.Reflects) (hhi : s.clock ≤ hi) : ({ s with clock := hi } : System).Reflects where
  sound := h.sound
  complete ep ttl time hlast hnone := (h.complete ep ttl time hlast hnone).trans hhi
  bounded := h.bounded

lemma purge (h : s.Reflects) (hlo : s.clock ≤ now) (hhi : now ≤ hi) :
    ({ s with node := s.node.purge now, clock := hi } : System).Reflects where
  sound ep f hf := h.sound ep f (lookup_purge.mp hf).1
  complete ep ttl time hlast hnone := by
    cases hf : s.node.fdt.lookup ep with
    | none => exact (h.complete ep ttl time hlast hf).trans (hlo.trans hhi)
    | some f =>
      obtain ⟨time', hlast', hexpires⟩ := h.sound ep f hf
      obtain ⟨rfl, rfl⟩ := Prod.mk.inj (Option.some.inj (hlast.symm.trans hlast'))
      rw [← hexpires]
      by_contra hlive
      have hkept := lookup_purge.mpr ⟨hf, (not_le.mp hlive).trans_le' hhi⟩
      rw [hkept] at hnone
      cases hnone
  bounded := (Table.size_retain_le ..).trans h.bounded

lemma register (h : s.Reflects) (ep : Endpoint) (ttl : UInt16) (now : Int)
    (hroom : ep ∈ s.node.fdt ∨ Table.size s.node.fdt < s.node.max) :
    ({ s with node := { s.node with fdt := s.node.fdt.insert ep { ttl, expires := deadline ttl now } }
              history := .registered ep ttl now :: s.history } : System).Reflects where
  sound x f hf := by
    rw [Table.lookup_insert_eq] at hf
    by_cases hx : x = ep
    · rw [if_pos hx, Option.some.injEq] at hf
      subst hf
      exact ⟨now, by simp [lastRegistration, hx], rfl⟩
    · rw [if_neg hx] at hf
      obtain ⟨time, hlast, hexpires⟩ := h.sound x f hf
      exact ⟨time, by simpa [lastRegistration, Ne.symm hx] using hlast, hexpires⟩
  complete x ttl' time hlast hnone := by
    rw [Table.lookup_insert_eq] at hnone
    by_cases hx : x = ep
    · simp [hx] at hnone
    · rw [if_neg hx] at hnone
      exact h.complete x ttl' time (by simpa [lastRegistration, Ne.symm hx] using hlast) hnone
  bounded := by
    have hbound := h.bounded
    by_cases hmem : ep ∈ s.node.fdt
    · rwa [Table.size_insert_of_mem hmem]
    · rw [Table.size_insert_of_not_mem hmem]
      exact hroom.resolve_left hmem

lemma delete (h : s.Reflects) (ep : Endpoint) :
    ({ s with node := { s.node with fdt := s.node.fdt.erase ep }, history := .deleted ep :: s.history } :
      System).Reflects where
  sound x f hf := by
    rw [Table.lookup_erase_eq] at hf
    by_cases hx : x = ep
    · simp [hx] at hf
    · rw [if_neg hx] at hf
      obtain ⟨time, hlast, hexpires⟩ := h.sound x f hf
      exact ⟨time, by simpa [lastRegistration, Ne.symm hx] using hlast, hexpires⟩
  complete x ttl' time hlast hnone := by
    rw [Table.lookup_erase_eq] at hnone
    by_cases hx : x = ep
    · simp [lastRegistration, hx] at hlast
    · rw [if_neg hx] at hnone
      exact h.complete x ttl' time (by simpa [lastRegistration, Ne.symm hx] using hlast) hnone
  bounded := by
    have hbound := h.bounded
    by_cases hmem : ep ∈ s.node.fdt
    · have := Table.size_erase_of_mem hmem
      dsimp only
      omega
    · rwa [Table.erase_of_not_mem hmem]

lemma updates (h : s.Reflects) (hhi : s.clock ≤ hi) {b' : Node} {added : List Happening}
    (hu : Updates s.node s.clock hi b' added) :
    ({ node := b', clock := hi, history := added ++ s.history } : System).Reflects := by
  cases hu with
  | keep => exact h.wait hhi
  | purge now hlo hhi => exact h.purge hlo hhi
  | register now hlo hhi ep ttl hroom => exact (h.purge hlo hhi).register ep ttl now hroom
  | delete ep => exact (h.wait hhi).delete ep

lemma step {s' : System} {a : Action} (h : s.Reflects) (hs : s.step a = some s') : s'.Reflects := by
  cases a with
  | message now later msg sender =>
    simp only [System.step, Option.ite_none_right_eq_some, Option.some.injEq] at hs
    obtain ⟨⟨hlo, hlater⟩, rfl⟩ := hs
    exact h.updates (hlo.trans hlater) (handleBVLC_updates hlo hlater le_rfl msg sender)
  | localBroadcast now npdu =>
    simp only [System.step, Option.ite_none_right_eq_some, Option.some.injEq] at hs
    obtain ⟨hlo, rfl⟩ := hs
    exact h.updates hlo (distribute_updates hlo le_rfl ..)
  | readTable now =>
    simp only [System.step, Option.ite_none_right_eq_some, Option.some.injEq] at hs
    obtain ⟨hlo, rfl⟩ := hs
    exact h.purge hlo le_rfl
  | purge now =>
    simp only [System.step, Option.ite_none_right_eq_some, Option.some.injEq] at hs
    obtain ⟨hlo, rfl⟩ := hs
    exact h.purge hlo le_rfl

end System.Reflects

namespace System.Reflects

variable {s : System} {now : Int}

end System.Reflects

/-! ### Purging early or late -/

section Purging

variable {b : Node} {t now : Int}

end Purging

end GoBacnet.Bbmd
