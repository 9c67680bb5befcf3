import GoBacnet.Lib.Table
import GoBacnet.Server.Object
import GoBacnet.Service.Discovery

/-!
# The object table of a device

The objects of a device by identifier, the index of their names, and the operations that change both: adding, removing
and renaming objects, creating them with a factory, and the CreateObject service, which takes back an object whose
initial values cannot be written.

What the objects do when they are read and written is a parameter; their identifiers never change and their names only
through the table.
-/

namespace GoBacnet.Server

/-- An object of any type: `base` tells whether it is built on the common base, which is what can be renamed. -/
structure Obj (β : Type) where
  id : ObjectIdentifier
  name : Octets
  base : Bool := true
  deletable : Bool := false
  body : β

structure ObjectModel (β : Type) where
  readProperty : Obj β → PropertyReference → Except ObjectErr ApplicationValue
  writeProperty : Obj β → Write → Except ObjectErr β
  typeText : UInt16 → Octets

abbrev Factory (β : Type) := UInt32 → Octets → Except ObjectErr (Obj β)

/-- The Device object's view of its table. `revision` counts the changes; Database_Revision is its lower half. -/
structure ObjectTable (β : Type) where
  device : ObjectIdentifier
  maxObjects : Nat
  objects : Table ObjectIdentifier (Obj β)
  names : Table Octets ObjectIdentifier
  revision : Nat := 0
  factories : Table UInt16 (Factory β) := ∅

structure DeviceConfig where
  instanceNumber : UInt32
  name : Octets
  maxObjects : Int := 0

variable {β : Type}

def newDevice (cfg : DeviceConfig) (body : β) : Except ObjectErr (ObjectTable β) :=
  if cfg.instanceNumber ≥ maxObjectInstance then
    .error (.plain ("object: device instance " ++ toString cfg.instanceNumber ++ " out of range"))
  else if cfg.name = [] then .error (.plain "object: device name required")
  else
    let id : ObjectIdentifier := ⟨objectTypeDevice, cfg.instanceNumber⟩
    .ok
      { device := id
        maxObjects := if cfg.maxObjects ≤ 0 then 65535 else cfg.maxObjects.toNat
        objects := (∅ : Table ObjectIdentifier (Obj β)).insert id { id, name := cfg.name, body }
        names := (∅ : Table Octets ObjectIdentifier).insert cfg.name id }

namespace ObjectTable

def databaseRevision (d : ObjectTable β) : UInt32 := UInt32.ofNat d.revision

/-- Adds an object; identifier and name must be unique. -/
def add (d : ObjectTable β) (o : Obj β) : ObjectTable β × Except ObjectErr Unit :=
  if o.id.type = objectTypeDevice then (d, .error (.plain "object: a device holds one Device object"))
  else if o.name = [] then
    (d, .error (.plain ("object: object " ++ toString o.id.type ++ ":" ++ toString o.id.instanceNumber ++ " has no name")))
  else if o.id ∈ d.objects then (d, .error .objectExists)
  else if o.name ∈ d.names then (d, .error .duplicateName)
  else if Table.size d.objects ≥ d.maxObjects then (d, .error .noSpaceForObject)
  else
    ({ d with
        objects := d.objects.insert o.id o
        names := d.names.insert o.name o.id
        revision := d.revision + 1 }, .ok ())

def remove (d : ObjectTable β) (id : ObjectIdentifier) : ObjectTable β × Except ObjectErr Unit :=
  if id = d.device then (d, .error .notDeletable)
  else match d.objects.lookup id with
  | none => (d, .error .unknownObject)
  | some o =>
    ({ d with objects := d.objects.erase id, names := d.names.erase o.name, revision := d.revision + 1 }, .ok ())

def rename (d : ObjectTable β) (id : ObjectIdentifier) (name : Octets) : ObjectTable β × Except ObjectErr Unit :=
  if name = [] then (d, .error .valueOutOfRange)
  else match d.objects.lookup id with
  | none => (d, .error .unknownObject)
  | some o =>
    match d.names.lookup name with
    | some other => if other = id then (d, .ok ()) else (d, .error .duplicateName)
    | none =>
      if !o.base then (d, .error .writeAccessDenied)
      else
        ({ d with
            objects := d.objects.insert id { o with name }
            names := (d.names.erase o.name).insert name id
            revision := d.revision + 1 }, .ok ())

def registerFactory (d : ObjectTable β) (t : UInt16) (f : Factory β) : ObjectTable β :=
  { d with factories := d.factories.insert t f }

def hasType (d : ObjectTable β) (t : UInt16) : Bool := d.objects.keys.any fun id => id.type = t

/-- The lowest instance of a type without an object. One of as many as there are objects, and one more, is free. -/
def freeInstance (d : ObjectTable β) (t : UInt16) : UInt32 :=
  (((List.range (Table.size d.objects + 1)).map UInt32.ofNat).find? fun inst => ⟨t, inst⟩ ∉ d.objects).getD 0

def itoa (u : UInt32) : Octets :=
  if u = 0 then [48] else ((Nat.digits 10 u.toNat).map fun digit => UInt8.ofNat (48 + digit)).reverse

def generatedName (env : ObjectModel β) (d : ObjectTable β) (t : UInt16) (inst : UInt32) : Octets :=
  let name := env.typeText t ++ [45] ++ itoa inst
  let numbered := (List.range (Table.size d.names)).map fun i => name ++ [45] ++ itoa (UInt32.ofNat (i + 1))
  ((name :: numbered).find? fun name => name ∉ d.names).getD name

def create (env : ObjectModel β) (d : ObjectTable β) (t : UInt16) (instanceNumber : Option UInt32) (name : Octets) :
    ObjectTable β × Except ObjectErr (Obj β) :=
  match d.factories.lookup t with
  | none =>
    if t ≠ objectTypeDevice ∧ d.hasType t then (d, .error .notCreatable) else (d, .error .unsupportedType)
  | some f =>
    let inst := instanceNumber.getD (d.freeInstance t)
    if instanceNumber.any fun inst => inst ≥ maxObjectInstance then (d, .error .valueOutOfRange)
    else if instanceNumber.isSome ∧ ⟨t, inst⟩ ∈ d.objects then (d, .error .objectExists)
    else
      match f inst (if name = [] then d.generatedName env t inst else name) with
      | .error e => (d, .error e)
      | .ok o =>
        let o := if o.base then { o with deletable := true } else o
        let added := d.add o
        (added.1, added.2.map fun _ => o)

end ObjectTable

/-! ## CreateObject -/

structure PropertyValue where
  property : PropertyReference
  value : ApplicationValue
  priority : Option UInt8 := none

structure CreateObjectRequest where
  objectIdentifier : Option ObjectIdentifier := none
  objectType : Option UInt16 := none
  initialValues : List PropertyValue := []

/-- Why a CreateObject request fails. -/
inductive CreateErr
  | reject (reason : UInt8)
  | createObject (err : ObjectErr) (first : UInt32)
  | encode (err : Err)
  deriving DecidableEq, Repr

def rejectReasonMissingRequiredParameter : UInt8 := 5

def wildcardInstance : UInt32 := maxObjectInstance

def sameApp (a b : ApplicationValue) : Bool :=
  match appendApplicationValue [] a, appendApplicationValue [] b with
  | .ok x, .ok y => x = y
  | _, _ => false

def CreateObjectRequest.specifier (r : CreateObjectRequest) : Option (UInt16 × Option UInt32) :=
  match r.objectIdentifier, r.objectType with
  | some id, _ => some (id.type, if id.instanceNumber ≠ wildcardInstance then some id.instanceNumber else none)
  | none, some t => some (t, none)
  | none, none => none

/-- The last name among the initial values; each must be a text that is free. `i` values stand before these. -/
def ObjectTable.requestedName (d : ObjectTable β) : Octets → Nat → List PropertyValue → Except CreateErr Octets
  | name, _, [] => .ok name
  | name, i, pv :: rest =>
    if pv.property.identifier ≠ propertyObjectName then d.requestedName name (i + 1) rest
    else
      match pv.value, pv.property.arrayIndex with
      | .characterString c, none =>
        if c.value = [] then .error (.createObject .invalidDataType (UInt32.ofNat (i + 1)))
        else if c.value ∈ d.names then .error (.createObject .duplicateName (UInt32.ofNat (i + 1)))
        else d.requestedName c.value (i + 1) rest
      | _, _ => .error (.createObject .invalidDataType (UInt32.ofNat (i + 1)))

namespace ObjectTable

def update (d : ObjectTable β) (o : Obj β) : ObjectTable β := { d with objects := d.objects.insert o.id o }

/-- Writes the initial values of a new object in order. When one fails the object is removed again and the error
names that value. -/
def writeInitial (env : ObjectModel β) (d : ObjectTable β) (o : Obj β) :
    Nat → List PropertyValue → ObjectTable β × Except CreateErr Unit
  | _, [] => (d, .ok ())
  | i, pv :: rest =>
    if pv.property.identifier = propertyObjectName then writeInitial env d o (i + 1) rest
    else if pv.property.identifier = propertyObjectIdentifier ∨ pv.property.identifier = propertyObjectType then
      -- These are fixed: a value that matches is accepted. A property that cannot be read reads as NULL here.
      if sameApp ((env.readProperty o pv.property).toOption.getD .null) pv.value then writeInitial env d o (i + 1) rest
      else ((d.remove o.id).1, .error (.createObject .writeAccessDenied (UInt32.ofNat (i + 1))))
    else
      match env.writeProperty o ⟨pv.property, pv.value, pv.priority.getD 0⟩ with
      | .error e => ((d.remove o.id).1, .error (.createObject e (UInt32.ofNat (i + 1))))
      | .ok body => writeInitial env (d.update { o with body }) { o with body } (i + 1) rest

def acknowledge (d : ObjectTable β) (o : Obj β) : ObjectTable β × Except CreateErr Octets :=
  match appendApplicationValue [] (.objectID o.id) with
  | .error e => (d, .error (.encode e))
  | .ok payload => (d, .ok payload)

/-- The CreateObject service: the answer is the encoded identifier of the object. -/
def createObject (env : ObjectModel β) (d : ObjectTable β) (r : CreateObjectRequest) :
    ObjectTable β × Except CreateErr Octets :=
  match r.specifier with
  | none => (d, .error (.reject rejectReasonMissingRequiredParameter))
  | some (t, inst) =>
    match d.requestedName [] 0 r.initialValues with
    | .error e => (d, .error e)
    | .ok name =>
      match d.create env t inst name with
      | (d, .error e) => (d, .error (.createObject e 0))
      | (d, .ok o) =>
        match d.writeInitial env o 0 r.initialValues with
        | (d, .error e) => (d, .error e)
        | (d, .ok _) => d.acknowledge o

/-- The requests that change the table. -/
inductive Request (β : Type)
  | add (o : Obj β)
  | remove (id : ObjectIdentifier)
  | rename (id : ObjectIdentifier) (name : Octets)
  | registerFactory (t : UInt16) (f : Factory β)
  | create (t : UInt16) (instanceNumber : Option UInt32) (name : Octets)
  | createObject (r : CreateObjectRequest)

def perform (env : ObjectModel β) (d : ObjectTable β) : Request β → ObjectTable β × Bool
  | .add o => ((d.add o).1, (d.add o).2.isOk)
  | .remove id => ((d.remove id).1, (d.remove id).2.isOk)
  | .rename id name => ((d.rename id name).1, (d.rename id name).2.isOk)
  | .registerFactory t f => (d.registerFactory t f, true)
  | .create t inst name => ((d.create env t inst name).1, (d.create env t inst name).2.isOk)
  | .createObject r => ((d.createObject env r).1, (d.createObject env r).2.isOk)

def step (env : ObjectModel β) (d : ObjectTable β) (r : Request β) : Option (ObjectTable β) := some (d.perform env r).1

end ObjectTable

end GoBacnet.Server
