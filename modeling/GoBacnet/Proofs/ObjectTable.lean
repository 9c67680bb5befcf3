import GoBacnet.Lib.Index
import GoBacnet.Lib.Transition
import GoBacnet.Server.ObjectTable

/-!
# The object table stays consistent

Over every sequence of requests the index of names is the inverse of the names of the objects, and the limit holds. A
request that fails leaves objects and names as they were, also when initial values had been written, unless the
factory made an object whose identifier cannot be encoded: then the object stays although the request failed.
-/

namespace GoBacnet.Server.ObjectTable

open Transition

variable {β : Type} {env : ObjectModel β} {d d' : ObjectTable β} {o : Obj β} {id : ObjectIdentifier} {name : Octets}

def nameOf (d : ObjectTable β) (id : ObjectIdentifier) : Option Octets := (d.objects.lookup id).map Obj.name

/-- The index of names is exact, objects are stored under their identifiers, the Device is there and the limit
holds. -/
structure Sound (d : ObjectTable β) : Prop where
  index : Table.InverseOf d.names d.nameOf
  keyed : ∀ id o, d.objects.lookup id = some o → o.id = id
  device : d.device ∈ d.objects
  deviceType : d.device.type = objectTypeDevice
  bounded : Table.size d.objects ≤ d.maxObjects

/-! ## What each operation does -/

lemma add_cases (d : ObjectTable β) (o : Obj β) :
    (∃ e, d.add o = (d, .error e)) ∨
    o.id.type ≠ objectTypeDevice ∧ o.id ∉ d.objects ∧ o.name ∉ d.names ∧ Table.size d.objects < d.maxObjects ∧
      d.add o = ({ d with
        objects := d.objects.insert o.id o
        names := d.names.insert o.name o.id
        revision := d.revision + 1 }, .ok ()) := by
  unfold add
  split_ifs with htype hname hid htaken hfull
  · exact .inl ⟨_, rfl⟩
  · exact .inl ⟨_, rfl⟩
  · exact .inl ⟨_, rfl⟩
  · exact .inl ⟨_, rfl⟩
  · exact .inl ⟨_, rfl⟩
  · exact .inr ⟨htype, hid, htaken, Nat.lt_of_not_le hfull, rfl⟩

lemma remove_cases (d : ObjectTable β) (id : ObjectIdentifier) :
    (∃ e, d.remove id = (d, .error e)) ∨
    ∃ o, id ≠ d.device ∧ d.objects.lookup id = some o ∧
      d.remove id = ({ d with
        objects := d.objects.erase id, names := d.names.erase o.name, revision := d.revision + 1 }, .ok ()) := by
  unfold remove
  split_ifs with hdevice
  · exact .inl ⟨_, rfl⟩
  · cases hlookup : d.objects.lookup id with
    | none => exact .inl ⟨_, rfl⟩
    | some o => exact .inr ⟨o, hdevice, rfl, rfl⟩

lemma rename_cases (d : ObjectTable β) (id : ObjectIdentifier) (name : Octets) :
    (∃ res, d.rename id name = (d, res)) ∨
    ∃ o, d.objects.lookup id = some o ∧ name ∉ d.names ∧
      d.rename id name = ({ d with
        objects := d.objects.insert id { o with name }
        names := (d.names.erase o.name).insert name id
        revision := d.revision + 1 }, .ok ()) := by
  unfold rename
  split_ifs with hname
  · exact .inl ⟨_, rfl⟩
  · cases hlookup : d.objects.lookup id with
    | none => exact .inl ⟨_, rfl⟩
    | some o =>
      cases htaken : d.names.lookup name with
      | some other =>
        dsimp only
        split_ifs
        · exact .inl ⟨_, rfl⟩
        · exact .inl ⟨_, rfl⟩
      | none =>
        dsimp only
        split_ifs
        · exact .inl ⟨_, rfl⟩
        · exact .inr ⟨o, rfl, AList.lookup_eq_none.mp htaken, rfl⟩

lemma create_cases (d : ObjectTable β) (t : UInt16) (inst : Option UInt32) (name : Octets) :
    (∃ e, d.create env t inst name = (d, .error e)) ∨
    ∃ o, (d.add o).2 = .ok () ∧ d.create env t inst name = ((d.add o).1, .ok o) := by
  unfold create
  cases hf : d.factories.lookup t with
  | none =>
    dsimp only
    split_ifs
    · exact .inl ⟨_, rfl⟩
    · exact .inl ⟨_, rfl⟩
  | some f =>
    dsimp only
    split_ifs
    · exact .inl ⟨_, rfl⟩
    · exact .inl ⟨_, rfl⟩
    all_goals
      split
      · exact .inl ⟨_, rfl⟩
      · next made _ =>
        generalize (if made.base then { made with deletable := true } else made) = o
        rcases add_cases d o with ⟨e, he⟩ | ⟨-, -, -, -, hadd⟩
        · exact .inl ⟨e, by rw [he]; rfl⟩
        · exact .inr ⟨o, by rw [hadd], by rw [hadd]; rfl⟩

/-! ## Soundness -/

lemma nameOf_insert {names : Table Octets ObjectIdentifier} {revision : Nat} :
    nameOf { d with objects := d.objects.insert id o, names, revision } = Function.update d.nameOf id (some o.name) := by
  funext id'
  simp only [nameOf, Table.lookup_insert_eq, Function.update_apply]
  split <;> rfl

lemma nameOf_erase {names : Table Octets ObjectIdentifier} {revision : Nat} :
    nameOf { d with objects := d.objects.erase id, names, revision } = Function.update d.nameOf id none := by
  funext id'
  simp only [nameOf, Table.lookup_erase_eq, Function.update_apply]
  split <;> rfl

lemma keyed_insert {t : Table ObjectIdentifier (Obj β)} (h : ∀ id o, t.lookup id = some o → o.id = id)
    (ho : o.id = id) : ∀ id' o', (t.insert id o).lookup id' = some o' → o'.id = id' := by
  intro id' o' ho'
  rw [Table.lookup_insert_eq] at ho'
  split at ho'
  · next hid => rw [← Option.some.inj ho', hid, ho]
  · exact h id' o' ho'

lemma sound_add (h : Sound d) (o : Obj β) : Sound (d.add o).1 := by
  rcases add_cases d o with ⟨e, he⟩ | ⟨htype, hid, hname, hroom, hadd⟩
  · rw [he]
    exact h
  · rw [hadd]
    refine ⟨?_, keyed_insert h.keyed rfl, (AList.mem_insert _).mpr (.inr h.device), h.deviceType, ?_⟩
    · rw [nameOf_insert]
      refine h.index.insert ?_ hname
      rw [nameOf, AList.lookup_eq_none.mpr hid]
      rfl
    · have hsize : Table.size (d.objects.insert o.id o) = Table.size d.objects + 1 := Table.size_insert_of_not_mem hid
      exact hsize.trans_le hroom

lemma sound_remove (h : Sound d) (id : ObjectIdentifier) : Sound (d.remove id).1 := by
  rcases remove_cases d id with ⟨e, he⟩ | ⟨o, hdevice, ho, hremove⟩
  · rw [he]
    exact h
  · rw [hremove]
    refine ⟨?_, fun id' o' ho' => ?_, ?_, h.deviceType, ?_⟩
    · rw [nameOf_erase]
      exact h.index.erase (by rw [nameOf, ho]; rfl)
    · rw [Table.lookup_erase_eq] at ho'
      split at ho'
      · exact absurd ho' (by simp)
      · exact h.keyed id' o' ho'
    · exact AList.mem_erase.mpr ⟨hdevice.symm, h.device⟩
    · have hsize := Table.size_erase_of_mem (Table.mem_iff_lookup.mpr ⟨o, ho⟩)
      have hbound := h.bounded
      show Table.size (d.objects.erase id) ≤ d.maxObjects
      omega

lemma sound_rename (h : Sound d) (id : ObjectIdentifier) (name : Octets) : Sound (d.rename id name).1 := by
  rcases rename_cases d id name with ⟨res, he⟩ | ⟨o, ho, hname, hrename⟩
  · rw [he]
    exact h
  · have hmem : id ∈ d.objects := Table.mem_iff_lookup.mpr ⟨o, ho⟩
    rw [hrename]
    refine ⟨?_, keyed_insert h.keyed (h.keyed id o ho), (AList.mem_insert _).mpr (.inr h.device), h.deviceType, ?_⟩
    · rw [nameOf_insert, ← Function.update_idem]
      apply Table.InverseOf.insert
      · exact h.index.erase (by rw [nameOf, ho]; rfl)
      · rw [Function.update_self]
      · exact fun hin => hname (AList.mem_erase.mp hin).2
    · exact (Table.size_insert_of_mem hmem).trans_le h.bounded

lemma sound_update (h : Sound d) {old : Obj β} (hold : d.objects.lookup o.id = some old) (hname : o.name = old.name) :
    Sound (d.update o) := by
  have hsame : nameOf (d.update o) = d.nameOf := by
    unfold update
    rw [nameOf_insert, hname]
    apply Function.update_eq_self_iff.mpr
    rw [nameOf, hold]
    rfl
  refine ⟨?_, keyed_insert h.keyed rfl, (AList.mem_insert _).mpr (.inr h.device), h.deviceType, ?_⟩
  · rw [hsame]
    exact h.index
  · exact (Table.size_insert_of_mem (Table.mem_iff_lookup.mpr ⟨old, hold⟩)).trans_le h.bounded

lemma sound_create (h : Sound d) (t : UInt16) (inst : Option UInt32) (name : Octets) :
    Sound (d.create env t inst name).1 := by
  rcases create_cases d t inst name with ⟨e, he⟩ | ⟨o, -, hcreate⟩
  · rw [he]
    exact h
  · rw [hcreate]
    exact sound_add h o

/-! ## Initial values -/

def without (d : ObjectTable β) (o : Obj β) : ObjectTable β :=
  { d with objects := d.objects.erase o.id, names := d.names.erase o.name, revision := d.revision + 1 }

lemma remove_stored (ho : d.objects.lookup o.id = some o) (hdevice : o.id ≠ d.device) :
    (d.remove o.id).1 = d.without o := by
  unfold remove
  rw [if_neg hdevice, ho]
  rfl

lemma without_update (d : ObjectTable β) (o : Obj β) (body : β) :
    (d.update { o with body }).without { o with body } = d.without o := by
  simp only [without, update, Table.erase_insert]

lemma update_update (d : ObjectTable β) (o : Obj β) (body body' : β) :
    (d.update { o with body }).update { o with body := body' } = d.update { o with body := body' } := by
  simp only [update, AList.insert_insert]

lemma writeInitial_cases (ho : d.objects.lookup o.id = some o) (hdevice : o.id ≠ d.device) (i : Nat)
    (values : List PropertyValue) :
    (∃ e, d.writeInitial env o i values = (d.without o, .error e)) ∨
      d.writeInitial env o i values = (d, .ok ()) ∨
      ∃ body, d.writeInitial env o i values = (d.update { o with body }, .ok ()) := by
  induction values generalizing d o i with
  | nil => exact .inr (.inl rfl)
  | cons pv rest ih =>
    unfold writeInitial
    split
    · exact ih ho hdevice (i + 1)
    · split
      · split
        · exact ih ho hdevice (i + 1)
        · exact .inl ⟨_, by rw [remove_stored ho hdevice]⟩
      · split
        · exact .inl ⟨_, by rw [remove_stored ho hdevice]⟩
        · next body _ =>
          have ho' : (d.update { o with body }).objects.lookup o.id = some { o with body } := AList.lookup_insert _
          rcases @ih (d.update { o with body }) { o with body } ho' hdevice (i + 1) with ⟨e, he⟩ | hok | ⟨body', hok⟩
          · exact .inl ⟨e, by rw [he, without_update]⟩
          · exact .inr (.inr ⟨body, hok⟩)
          · exact .inr (.inr ⟨body', by rw [hok, update_update]⟩)

lemma added_stored (hadd : (d.add o).2 = .ok ()) :
    (d.add o).1.objects.lookup o.id = some o ∧ (d.add o).1.without o = { d with revision := d.revision + 2 } := by
  rcases add_cases d o with ⟨e, he⟩ | ⟨-, hid, hname, -, h⟩
  · rw [he] at hadd
    exact absurd hadd (by simp)
  · rw [h]
    refine ⟨AList.lookup_insert _, ?_⟩
    simp only [without, Table.erase_insert, Table.erase_of_not_mem hid, Table.erase_of_not_mem hname]

lemma added_ne_device (h : Sound d) (hadd : (d.add o).2 = .ok ()) : o.id ≠ (d.add o).1.device := by
  rcases add_cases d o with ⟨e, he⟩ | ⟨htype, -, -, -, heq⟩
  · rw [he] at hadd
    exact absurd hadd (by simp)
  · rw [heq]
    rintro hdevice
    exact htype (hdevice ▸ h.deviceType)

/-! ## CreateObject -/

lemma acknowledge_cases (d : ObjectTable β) (o : Obj β) :
    (∃ enc, d.acknowledge o = (d, .ok enc)) ∨
      ∃ e, appendApplicationValue [] (.objectID o.id) = .error e ∧ d.acknowledge o = (d, .error (.encode e)) := by
  unfold acknowledge
  cases appendApplicationValue [] (.objectID o.id) with
  | ok enc => exact .inl ⟨enc, rfl⟩
  | error e => exact .inr ⟨e, rfl, rfl⟩

lemma createObject_cases (h : Sound d) (r : CreateObjectRequest) :
    (∃ e, d.createObject env r = (d, .error e)) ∨
    (∃ e, d.createObject env r = ({ d with revision := d.revision + 2 }, .error e)) ∨
    ∃ t inst name o written, r.specifier = some (t, inst) ∧ d.requestedName [] 0 r.initialValues = .ok name ∧
      (d.create env t inst name).2 = .ok o ∧ (d.add o).2 = .ok () ∧
      (written = (d.add o).1 ∨ ∃ body, written = (d.add o).1.update { o with body }) ∧
      d.createObject env r = written.acknowledge o := by
  unfold createObject
  cases hspec : r.specifier with
  | none => exact .inl ⟨_, rfl⟩
  | some spec =>
    obtain ⟨t, inst⟩ := spec
    dsimp only
    cases hname : d.requestedName [] 0 r.initialValues with
    | error e => exact .inl ⟨_, rfl⟩
    | ok name =>
      dsimp only
      rcases @create_cases β env d t inst name with ⟨e, he⟩ | ⟨o, hadd, hcreate⟩
      · rw [he]
        exact .inl ⟨_, rfl⟩
      · have hcreated : (d.create env t inst name).2 = .ok o := by rw [hcreate]
        rw [hcreate]
        dsimp only
        obtain ⟨hstored, hwithout⟩ := added_stored hadd
        rcases @writeInitial_cases β env _ _ hstored (added_ne_device h hadd) 0 r.initialValues with
          ⟨e, he⟩ | hok | ⟨body, hok⟩
        · rw [he]
          exact .inr (.inl ⟨e, by rw [hwithout]⟩)
        · rw [hok]
          exact .inr (.inr ⟨t, inst, name, o, _, rfl, rfl, hcreated, hadd, .inl rfl, rfl⟩)
        · rw [hok]
          exact .inr (.inr ⟨t, inst, name, o, _, rfl, rfl, hcreated, hadd, .inr ⟨body, rfl⟩, rfl⟩)

lemma acknowledge_table (d : ObjectTable β) (o : Obj β) : (d.acknowledge o).1 = d := by
  rcases acknowledge_cases d o with ⟨enc, h⟩ | ⟨e, -, h⟩
  · rw [h]
  · rw [h]

lemma sound_createObject (h : Sound d) (r : CreateObjectRequest) : Sound (d.createObject env r).1 := by
  rcases @createObject_cases β env d h r with ⟨e, he⟩ | ⟨e, he⟩ | ⟨_, _, _, o, written, -, -, -, hadd, hwritten,
    hcreate⟩
  · rw [he]
    exact h
  · rw [he]
    exact ⟨h.index, h.keyed, h.device, h.deviceType, h.bounded⟩
  · rw [hcreate, acknowledge_table]
    rcases hwritten with rfl | ⟨body, rfl⟩
    · exact sound_add h o
    · exact sound_update (sound_add h o) (added_stored hadd).1 rfl

/-! ## Runs -/

lemma sound_perform (h : Sound d) (r : Request β) : Sound (d.perform env r).1 := by
  cases r with
  | add o => exact sound_add h o
  | remove id => exact sound_remove h id
  | rename id name => exact sound_rename h id name
  | registerFactory t f => exact ⟨h.index, h.keyed, h.device, h.deviceType, h.bounded⟩
  | create t inst name => exact sound_create h t inst name
  | createObject r => exact sound_createObject h r

lemma sound_newDevice {cfg : DeviceConfig} {body : β} (h : newDevice cfg body = .ok d) : Sound d := by
  unfold newDevice at h
  split at h
  · exact absurd h (by simp)
  · split at h
    · exact absurd h (by simp)
    · cases h
      refine ⟨?_, keyed_insert (fun id o ho => by simp at ho) rfl, (AList.mem_insert _).mpr (.inl rfl), rfl, ?_⟩
      · have hempty : Table.InverseOf (∅ : Table Octets ObjectIdentifier) fun _ => none := by
          intro name id
          simp
        convert hempty.insert rfl (AList.notMem_empty cfg.name) using 1
        funext id'
        simp only [nameOf, Table.lookup_insert_eq, Function.update_apply]
        split <;> simp
      · show (1 : Nat) ≤ if cfg.maxObjects ≤ 0 then 65535 else cfg.maxObjects.toNat
        split <;> omega

def CreatesEncodable (env : ObjectModel β) (d : ObjectTable β) : Request β → Prop
  | .createObject r => ∀ t inst name o, r.specifier = some (t, inst) →
      d.requestedName [] 0 r.initialValues = .ok name → (d.create env t inst name).2 = .ok o →
      ∃ enc, appendApplicationValue [] (.objectID o.id) = .ok enc
  | _ => True

/-- A request keeps the Device and the limit. It leaves objects and names alone, or it counts a change and `done`
holds. -/
structure Outcome (d d' : ObjectTable β) (done : Prop) : Prop where
  device : d'.device = d.device
  maxObjects : d'.maxObjects = d.maxObjects
  table : (d'.objects = d.objects ∧ d'.names = d.names) ∨ (d.revision < d'.revision ∧ done)

lemma Outcome.unchanged (d : ObjectTable β) (revision : Nat) (done : Prop) : Outcome d { d with revision } done :=
  ⟨rfl, rfl, .inl ⟨rfl, rfl⟩⟩

lemma outcome_add (d : ObjectTable β) (o : Obj β) : Outcome d (d.add o).1 ((d.add o).2.isOk = true) := by
  rcases add_cases d o with ⟨e, he⟩ | ⟨-, -, -, -, hadd⟩
  · rw [he]
    exact .unchanged d d.revision _
  · rw [hadd]
    exact ⟨rfl, rfl, .inr ⟨Nat.lt_succ_self _, rfl⟩⟩

lemma outcome_remove (d : ObjectTable β) (id : ObjectIdentifier) :
    Outcome d (d.remove id).1 ((d.remove id).2.isOk = true) := by
  rcases remove_cases d id with ⟨e, he⟩ | ⟨o, -, -, hremove⟩
  · rw [he]
    exact .unchanged d d.revision _
  · rw [hremove]
    exact ⟨rfl, rfl, .inr ⟨Nat.lt_succ_self _, rfl⟩⟩

lemma outcome_rename (d : ObjectTable β) (id : ObjectIdentifier) (name : Octets) :
    Outcome d (d.rename id name).1 ((d.rename id name).2.isOk = true) := by
  rcases rename_cases d id name with ⟨res, he⟩ | ⟨o, -, -, hrename⟩
  · rw [he]
    exact .unchanged d d.revision _
  · rw [hrename]
    exact ⟨rfl, rfl, .inr ⟨Nat.lt_succ_self _, rfl⟩⟩

lemma outcome_create (d : ObjectTable β) (t : UInt16) (inst : Option UInt32) (name : Octets) :
    Outcome d (d.create env t inst name).1 ((d.create env t inst name).2.isOk = true) := by
  rcases @create_cases β env d t inst name with ⟨e, he⟩ | ⟨o, -, hcreate⟩
  · rw [he]
    exact .unchanged d d.revision _
  · rw [hcreate]
    obtain ⟨hdevice, hmax, htable⟩ := outcome_add d o
    exact ⟨hdevice, hmax, htable.imp_right fun h => ⟨h.1, rfl⟩⟩

lemma Outcome.imp {done done' : Prop} (h : Outcome d d' done) (himp : done → done') : Outcome d d' done' :=
  ⟨h.device, h.maxObjects, h.table.imp_right fun ht => ⟨ht.1, himp ht.2⟩⟩

lemma outcome_createObject (h : Sound d) (r : CreateObjectRequest) :
    Outcome d (d.createObject env r).1
      ((d.createObject env r).2.isOk = true ∨ ¬ CreatesEncodable env d (.createObject r)) := by
  rcases @createObject_cases β env d h r with ⟨e, he⟩ | ⟨e, he⟩ | ⟨t, inst, name, o, written, hspec, hname,
    hcreated, hadd, hwritten, hcreate⟩
  · rw [he]
    exact .unchanged d d.revision _
  · rw [he]
    exact .unchanged d _ _
  · have hdone : (written.acknowledge o).2.isOk = true ∨ ¬ CreatesEncodable env d (.createObject r) := by
      rcases acknowledge_cases written o with ⟨enc, hok⟩ | ⟨e, herr, -⟩
      · exact .inl (by rw [hok]; rfl)
      · refine .inr fun henc => ?_
        obtain ⟨enc, hok⟩ := henc t inst name o hspec hname hcreated
        rw [hok] at herr
        exact absurd herr (by simp)
    have hrevision : d.revision < (d.add o).1.revision := by
      rcases add_cases d o with ⟨e, he⟩ | ⟨-, -, -, -, heq⟩
      · rw [he] at hadd
        exact absurd hadd (by simp)
      · rw [heq]
        exact Nat.lt_succ_self _
    obtain ⟨hdevice, hmax, -⟩ := outcome_add d o
    rw [hcreate, acknowledge_table]
    rcases hwritten with rfl | ⟨body, rfl⟩
    · exact ⟨hdevice, hmax, .inr ⟨hrevision, hdone⟩⟩
    · exact ⟨hdevice, hmax, .inr ⟨hrevision, hdone⟩⟩

lemma outcome_perform (h : Sound d) (r : Request β) :
    Outcome d (d.perform env r).1 ((d.perform env r).2 = true ∨ ¬ CreatesEncodable env d r) := by
  cases r with
  | add o => exact (outcome_add d o).imp .inl
  | remove id => exact (outcome_remove d id).imp .inl
  | rename id name => exact (outcome_rename d id name).imp .inl
  | registerFactory t f => exact ⟨rfl, rfl, .inl ⟨rfl, rfl⟩⟩
  | create t inst name => exact (outcome_create d t inst name).imp .inl
  | createObject r => exact outcome_createObject h r

lemma sound_of_reachable {d₀ : ObjectTable β} (h₀ : Sound d₀) (hr : Reachable d₀ (step env) d) :
    Sound d ∧ d.device = d₀.device ∧ d.maxObjects = d₀.maxObjects := by
  refine hr.invariant (fun d => Sound d ∧ d.device = d₀.device ∧ d.maxObjects = d₀.maxObjects) ⟨h₀, rfl, rfl⟩ ?_
  rintro d r d' ⟨hd, hdevice, hmax⟩ - hs
  cases hs
  have hout := @outcome_perform β env d hd r
  exact ⟨sound_perform hd r, hout.device.trans hdevice, hout.maxObjects.trans hmax⟩

lemma databaseRevision_lt (hlt : d.revision < d'.revision) (hwrap : d'.revision < 2 ^ 32) :
    d.databaseRevision < d'.databaseRevision := by
  rw [databaseRevision, databaseRevision, UInt32.lt_iff_toNat_lt, UInt32.toNat_ofNat', UInt32.toNat_ofNat',
    Nat.mod_eq_of_lt hwrap, Nat.mod_eq_of_lt (hlt.trans hwrap)]
  exact hlt

/-- In every state of the table: the index of names is exactly the inverse of the names of the objects, objects are
stored under their identifiers and no two have one name, the Device is there and the limit holds. Whatever request
comes next, a change of the table raises Database_Revision. If it fails, it leaves objects and names as they were,
provided that an object which it creates has an encodable identifier. -/
theorem objectTable_consistent (env : ObjectModel β) (cfg : DeviceConfig) (body : β) (d₀ d : ObjectTable β)
    (h₀ : newDevice cfg body = .ok d₀) (hr : Reachable d₀ (step env) d) :
    (∀ name id, d.names.lookup name = some id ↔ ∃ o, d.objects.lookup id = some o ∧ o.name = name) ∧
    (∀ id o, d.objects.lookup id = some o → o.id = id) ∧
    (∀ id₁ id₂ o₁ o₂, d.objects.lookup id₁ = some o₁ → d.objects.lookup id₂ = some o₂ → o₁.name = o₂.name →
      id₁ = id₂) ∧
    d₀.device ∈ d.objects ∧ Table.size d.objects ≤ d₀.maxObjects ∧
    ∀ r, (CreatesEncodable env d r → (d.perform env r).2 = false →
        (d.perform env r).1.objects = d.objects ∧ (d.perform env r).1.names = d.names) ∧
      ((d.perform env r).1.objects ≠ d.objects ∨ (d.perform env r).1.names ≠ d.names →
        d.revision < (d.perform env r).1.revision ∧
        ((d.perform env r).1.revision < 2 ^ 32 → d.databaseRevision < (d.perform env r).1.databaseRevision)) := by
  obtain ⟨hd, hdevice, hmax⟩ := sound_of_reachable (sound_newDevice h₀) hr
  have hindex : ∀ name id, d.names.lookup name = some id ↔ ∃ o, d.objects.lookup id = some o ∧ o.name = name :=
    fun name id => (hd.index name id).trans Option.map_eq_some_iff
  refine ⟨hindex, hd.keyed, fun id₁ id₂ o₁ o₂ ho₁ ho₂ hname => ?_, hdevice ▸ hd.device, hmax ▸ hd.bounded,
    fun r => ⟨fun henc hfailed => ?_, fun hchanged => ?_⟩⟩
  · have h₁ := (hindex o₁.name id₁).mpr ⟨o₁, ho₁, rfl⟩
    have h₂ := (hindex o₁.name id₂).mpr ⟨o₂, ho₂, hname.symm⟩
    exact Option.some.inj (h₁.symm.trans h₂)
  · rcases (@outcome_perform β env d hd r).table with hsame | ⟨-, hok | hbad⟩
    · exact hsame
    · exact absurd (hok.symm.trans hfailed) (by simp)
    · exact absurd henc hbad
  · rcases (@outcome_perform β env d hd r).table with hsame | ⟨hlt, -⟩
    · exact absurd hchanged (by simp [hsame.1, hsame.2])
    · exact ⟨hlt, databaseRevision_lt hlt⟩

def bareObjects : ObjectModel Unit where
  readProperty _ _ := .error .unknownProperty
  writeProperty _ _ := .error .unknownProperty
  typeText _ := [111]

def oneFactory (f : Factory Unit) : ObjectTable Unit :=
  { device := ⟨objectTypeDevice, 1⟩
    maxObjects := 65535
    objects := (∅ : Table ObjectIdentifier (Obj Unit)).insert ⟨objectTypeDevice, 1⟩
      { id := ⟨objectTypeDevice, 1⟩, name := [100], body := () }
    names := (∅ : Table Octets ObjectIdentifier).insert [100] ⟨objectTypeDevice, 1⟩
    factories := (∅ : Table UInt16 (Factory Unit)).insert 2 f }

lemma reachable_oneFactory (f : Factory Unit) :
    ∃ d₀, newDevice ⟨1, [100], 0⟩ () = .ok d₀ ∧ Reachable d₀ (step bareObjects) (oneFactory f) :=
  ⟨_, rfl, .step (.registerFactory 2 f) .init trivial rfl⟩

/-- A CreateObject request whose first initial value cannot be written takes the object back. -/
theorem objectTable_failed_create :
    ∃ d : ObjectTable Unit, ∃ r, (d.perform bareObjects r).2 = false ∧ CreatesEncodable bareObjects d r ∧
      (d.perform bareObjects r).1.objects = d.objects ∧ (d.perform bareObjects r).1.names = d.names := by
  let f : Factory Unit := fun inst name => .ok { id := ⟨2, inst⟩, name, body := () }
  let r : Request Unit := .createObject { objectType := some 2, initialValues := [⟨⟨85, none⟩, .null, none⟩] }
  obtain ⟨d₀, h₀, hr⟩ := reachable_oneFactory f
  have hfailed : ((oneFactory f).perform bareObjects r).2 = false := by decide +kernel
  have hencodable : CreatesEncodable bareObjects (oneFactory f) r := by
    rintro _ _ _ o ⟨⟩ ⟨⟩ ho
    have hid : o.id = ⟨2, 0⟩ := by
      have hmade : ((oneFactory f).create bareObjects 2 none []).2.map Obj.id = .ok ⟨2, 0⟩ := by decide +kernel
      rw [ho] at hmade
      exact Except.ok.inj hmade
    exact ⟨[0xC4, 0, 0x80, 0, 0], by rw [hid]; decide +kernel⟩
  exact ⟨_, r, hfailed, hencodable,
    ((objectTable_consistent bareObjects _ () d₀ _ h₀ hr).2.2.2.2.2 r).1 hencodable hfailed⟩

/-- A CreateObject request for an object whose identifier has no encoding fails, and the object stays. -/
theorem objectTable_unencodable_stays :
    ∃ d₀ d : ObjectTable Unit, ∃ r, newDevice ⟨1, [100], 0⟩ () = .ok d₀ ∧ Reachable d₀ (step bareObjects) d ∧
      (d.perform bareObjects r).2 = false ∧ ⟨2000, 0⟩ ∉ d.objects ∧ ⟨2000, 0⟩ ∈ (d.perform bareObjects r).1.objects := by
  obtain ⟨d₀, h₀, hr⟩ := reachable_oneFactory fun inst name => .ok { id := ⟨2000, inst⟩, name, body := () }
  exact ⟨d₀, _, .createObject { objectType := some 2 }, h₀, hr, by decide +kernel, by decide +kernel,
    by decide +kernel⟩

end GoBacnet.Server.ObjectTable
