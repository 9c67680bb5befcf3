import GoBacnet.Server.Transactions
import GoBacnet.Service.Discovery

/-!
# The table of COV subscriptions

A subscription is identified by its subscriber, process identifier and monitored object or property; subscribing
again replaces it. The records live in a heap, so that a goroutine may hold one that has left the table.
-/

namespace GoBacnet

def PropertyReference.presentValue : PropertyReference := { identifier := 85 }
def PropertyReference.statusFlags : PropertyReference := { identifier := 111 }

/-- The instance that stands for any Device. -/
def wildcardInstance : UInt32 := 0x3FFFFF

namespace Server

structure Object (V : Type) where
  covReporter : Bool
  readProperty : PropertyReference → Option V

structure Device (V : Type) where
  identifier : ObjectIdentifier
  objects : ObjectIdentifier → Option (Object V)

namespace Device

variable {V : Type}

def resolve (d : Device V) (id : ObjectIdentifier) : ObjectIdentifier :=
  if id.type = objectTypeDevice ∧ id.instanceNumber = wildcardInstance then d.identifier else id

def object (d : Device V) (id : ObjectIdentifier) : Option (Object V) := d.objects (d.resolve id)

/-- What a property reads at present. -/
def read (d : Device V) (obj : ObjectIdentifier) (prop : PropertyReference) : Option V :=
  (d.objects obj).bind fun o => o.readProperty prop

def put (d : Device V) (obj : ObjectIdentifier) (o : Option (Object V)) : Device V :=
  { d with objects := Function.update d.objects obj o }

end Device

inductive SubKind
  | object
  | property
  | multiple
  deriving DecidableEq, Repr

structure SubKey where
  kind : SubKind
  origin : Endpoint
  source : Address
  pid : UInt32
  obj : ObjectIdentifier
  prop : Option PropertyReference := none
  deriving DecidableEq

/-- A reference to a property, which belongs to one place of one subscription. -/
structure CovRef where
  sub : Ref
  target : Nat
  index : Nat
  obj : ObjectIdentifier
  prop : PropertyReference
  deriving DecidableEq

/-- A monitored object with the properties that its notifications carry. -/
structure CovTarget where
  obj : ObjectIdentifier
  refs : List CovRef
  deriving DecidableEq

structure CovSub where
  key : SubKey
  /-- When it ends; without this it is indefinite. -/
  expires : Option Nat := none
  targets : List CovTarget
  dirty : Bool := false
  initial : Bool := false
  running : Bool := false
  closed : Bool := false
  deriving DecidableEq

namespace CovSub

def monitors (sub : CovSub) (obj : ObjectIdentifier) : Bool := sub.targets.any fun t => t.obj = obj

def expired (sub : CovSub) (now : Nat) : Bool := sub.expires.any (· ≤ now)

def close (sub : CovSub) : CovSub := { sub with closed := true }

def mark (sub : CovSub) (initial : Bool) : CovSub :=
  { sub with dirty := true, initial := sub.initial || initial, running := true }

/-- The subscription as its sender takes up the pending evaluation. -/
def take (sub : CovSub) : CovSub := { sub with dirty := false, initial := false }

def stop (sub : CovSub) : CovSub := { sub with running := false }

def drop (sub : CovSub) (obj : ObjectIdentifier) : CovSub :=
  let kept := sub.targets.filter fun t => t.obj ≠ obj
  { sub with targets := kept, closed := sub.closed || kept.isEmpty }

end CovSub

structure NewSub where
  key : SubKey
  /-- In seconds; zero is indefinite. -/
  lifetime : UInt32
  specs : List (ObjectIdentifier × List PropertyReference)
  deriving DecidableEq

/-- The targets of the subscription with a reference, each property at its place. -/
def NewSub.targets (new : NewSub) (ref : Ref) : List CovTarget :=
  new.specs.mapIdx fun i spec =>
    { obj := spec.1, refs := spec.2.mapIdx fun j prop => { sub := ref, target := i, index := j, obj := spec.1, prop } }

/-- A second of the server's clock, which counts nanoseconds. -/
def second : Nat := 1000000000

structure CovConfig where
  maxCOV : Nat := 256
  /-- The longest lifetime allowed; zero allows any. -/
  maxLifetime : Nat := 0
  deriving DecidableEq

inductive CovError
  | unknownObject
  | notSupported
  | noSpace
  | lifetime
  | valueOutOfRange
  | unreadable
  /-- What a SubscribeCOVPropertyMultiple failed on first. -/
  | multiple (err : CovError) (obj : ObjectIdentifier) (prop : PropertyReference)
  deriving DecidableEq

structure CovTable where
  heap : List CovSub := []
  subs : SubKey → Option Ref := fun _ => none

namespace CovTable

def holds (e : CovTable) (ref : Ref) (sub : CovSub) : Bool := e.subs sub.key = some ref

def refs (e : CovTable) : List Ref :=
  (List.range e.heap.length).filter fun ref => e.heap[ref]?.any (e.holds ref)

/-- Changes the records of the table and keeps those for which `keep` holds. -/
def update (e : CovTable) (f : CovSub → CovSub) (keep : CovSub → Bool) : CovTable :=
  { heap := e.heap.mapIdx fun ref sub => if e.holds ref sub then f sub else sub
    subs := fun key => (e.subs key).filter fun ref => e.heap[ref]?.any keep }

/-- Adds or replaces a subscription. -/
def upsert (cfg : CovConfig) (now : Nat) (e : CovTable) (new : NewSub) : Except CovError (CovTable × Ref) :=
  let ref := e.heap.length
  let expires := if new.lifetime = 0 then none else some (now + new.lifetime.toNat * second)
  let sub : CovSub := { key := new.key, expires, targets := new.targets ref }
  if cfg.maxLifetime > 0 ∧ (new.lifetime = 0 ∨ new.lifetime.toNat * second > cfg.maxLifetime) then .error .lifetime
  else
    match e.subs new.key with
    | some old =>
      .ok ({ heap := e.heap.modify old CovSub.close ++ [sub], subs := Function.update e.subs new.key (some ref) }, ref)
    | none =>
      if e.refs.length ≥ cfg.maxCOV then .error .noSpace
      else .ok ({ heap := e.heap ++ [sub], subs := Function.update e.subs new.key (some ref) }, ref)

def cancel (e : CovTable) (key : SubKey) : CovTable :=
  match e.subs key with
  | none => e
  | some ref => { heap := e.heap.modify ref CovSub.close, subs := Function.update e.subs key none }

def expire (e : CovTable) (now : Nat) : CovTable :=
  e.update (fun sub => if sub.expired now then sub.close else sub) fun sub => !sub.expired now

def objectRemoved (e : CovTable) (obj : ObjectIdentifier) : CovTable :=
  e.update (fun sub => sub.drop obj) fun sub => sub.targets.any fun t => t.obj ≠ obj

def hit (e : CovTable) (obj : ObjectIdentifier) : List Ref :=
  e.refs.filter fun ref => e.heap[ref]?.any fun sub => sub.monitors obj

end CovTable

/-! ### The subscribe services -/

/-- The requests of the three services, decoded. An increment is the representation of a REAL. -/
inductive SubscribeRequest
  | object (pid : UInt32) (obj : ObjectIdentifier) (cancellation : Bool) (lifetime : UInt32)
  | property (pid : UInt32) (obj : ObjectIdentifier) (prop : PropertyReference) (cancellation : Bool)
      (lifetime : UInt32) (increment : Option UInt32)
  | multiple (pid : UInt32) (cancellation : Bool) (lifetime : Option UInt32)
      (specs : List (ObjectIdentifier × List PropertyReference))
  deriving DecidableEq

/-- Whether a REAL is below zero or not a number. -/
def badIncrement (bits : UInt32) : Bool :=
  bits &&& 0x7FFFFFFF > 0x7F800000 || (bits &&& 0x80000000 ≠ 0 && bits ≠ 0x80000000)

/-- Where the handler of a subscribe request is: looking up the objects that it names, about to cancel or to add
the subscription, or about to acknowledge the one that it added. -/
inductive Subscribing
  | lookup (new : NewSub) (todo : List (ObjectIdentifier × List PropertyReference))
  | cancel (key : SubKey)
  | start (new : NewSub)
  | acknowledge (ref : Ref)
  deriving DecidableEq

namespace Subscribing

variable {V : Type}

/-- SubscribeCOV monitors Present_Value; Status_Flags rides along. -/
def subscribeCOV (dev : Device V) (p : Peer) (pid : UInt32) (monitored : ObjectIdentifier) (cancellation : Bool)
    (lifetime : UInt32) : Except CovError Subscribing :=
  match dev.object monitored with
  | none => .error .unknownObject
  | some o =>
    let id := dev.resolve monitored
    let key : SubKey := { kind := .object, origin := p.origin, source := p.source, pid, obj := id }
    if !o.covReporter then .error .notSupported
    else if cancellation then .ok (.cancel key)
    else .ok (.start { key, lifetime, specs := [(id, [.presentValue, .statusFlags])] })

def subscribeCOVProperty (dev : Device V) (p : Peer) (pid : UInt32) (monitored : ObjectIdentifier)
    (prop : PropertyReference) (cancellation : Bool) (lifetime : UInt32) (increment : Option UInt32) :
    Except CovError Subscribing :=
  match dev.object monitored with
  | none => .error .unknownObject
  | some o =>
    let id := dev.resolve monitored
    let key : SubKey := { kind := .property, origin := p.origin, source := p.source, pid, obj := id, prop := some prop }
    let flags := if prop.identifier ≠ PropertyReference.statusFlags.identifier ∧ (o.readProperty .statusFlags).isSome
      then [.statusFlags] else []
    if cancellation then .ok (.cancel key)
    else if (o.readProperty prop).isNone then .error .unreadable
    else if increment.any badIncrement then .error .valueOutOfRange
    else .ok (.start { key, lifetime, specs := [(id, prop :: flags)] })

def subscribeCOVPropertyMultiple (p : Peer) (pid : UInt32) (cancellation : Bool) (lifetime : Option UInt32)
    (specs : List (ObjectIdentifier × List PropertyReference)) : Subscribing :=
  let key : SubKey := { kind := .multiple, origin := p.origin, source := p.source, pid, obj := ⟨0, 0⟩ }
  if cancellation then .cancel key
  else .lookup { key, lifetime := lifetime.getD 0, specs := [] } specs

def serve (dev : Device V) (p : Peer) : SubscribeRequest → Except CovError Subscribing
  | .object pid obj cancellation lifetime => subscribeCOV dev p pid obj cancellation lifetime
  | .property pid obj prop cancellation lifetime increment =>
    subscribeCOVProperty dev p pid obj prop cancellation lifetime increment
  | .multiple pid cancellation lifetime specs => .ok (subscribeCOVPropertyMultiple p pid cancellation lifetime specs)

def lookupNext (dev : Device V) (new : NewSub) :
    List (ObjectIdentifier × List PropertyReference) → Except CovError Subscribing
  | [] => .ok (.start new)
  | (obj, props) :: rest =>
    match dev.object obj with
    | none => .error (.multiple .unknownObject obj (props.headD ⟨0, none⟩))
    | some o =>
      match props.find? fun prop => (o.readProperty prop).isNone with
      | some prop => .error (.multiple .unreadable obj prop)
      | none => .ok (.lookup { new with specs := new.specs ++ [(dev.resolve obj, props)] } rest)

end Subscribing

end Server

end GoBacnet
