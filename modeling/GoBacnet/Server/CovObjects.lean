import GoBacnet.Server.CovTable

/-!
# Subscriptions and the life of objects

SubscribeCOV, SubscribeCOVProperty, SubscribeCOVPropertyMultiple, CreateObject and DeleteObject requests run on
several workers. Each takes the lock of the object table or of the subscriptions for one access at a time.
-/

namespace GoBacnet.Server

namespace Device

variable {V : Type}

def remove (d : Device V) (id : ObjectIdentifier) : Option (Device V) :=
  if id = d.identifier then none
  else if (d.objects id).isNone then none
  else some (d.put id none)

/-- Adds an object that a factory made; its identifier must be free. -/
def add (d : Device V) (id : ObjectIdentifier) (o : Object V) : Option (Device V) :=
  if id.type = objectTypeDevice then none
  else if (d.objects id).isSome then none
  else some (d.put id (some o))

end Device

inductive Work
  | subscribe (w : Subscribing)
  | remove (id : ObjectIdentifier)
  | drop (id : ObjectIdentifier)
  | initialise (id : ObjectIdentifier)
  deriving DecidableEq

structure CovObjects (V : Type) where
  now : Nat := 0
  dev : Device V
  table : CovTable := {}
  work : List Work := []

namespace CovObjects

variable {V : Type}

inductive Action (V : Type)
  | tick
  | expire
  | subscribe (p : Peer) (r : SubscribeRequest)
  /-- A DeleteObject request; `permitted` if the object is deletable and the application allows it. -/
  | delete (id : ObjectIdentifier) (permitted : Bool)
  /-- A CreateObject request for which a factory makes an object. -/
  | create (id : ObjectIdentifier) (o : Object V)
  /-- A worker goes on; `written` if the initial values of an object could be written. -/
  | proceed (i : Nat) (written : Bool)

def subscribing (cfg : CovConfig) (s : CovObjects V) (i : Nat) : Subscribing → CovObjects V
  | .lookup new todo =>
    match Subscribing.lookupNext s.dev new todo with
    | .error _ => { s with work := s.work.eraseIdx i }
    | .ok next => { s with work := s.work.set i (.subscribe next) }
  | .cancel key => { s with table := s.table.cancel key, work := s.work.eraseIdx i }
  | .start new =>
    match s.table.upsert cfg s.now new with
    | .error _ => { s with work := s.work.eraseIdx i }
    | .ok (table, ref) => { s with table, work := s.work.set i (.subscribe (.acknowledge ref)) }
  | .acknowledge _ => { s with work := s.work.eraseIdx i }

def working (cfg : CovConfig) (s : CovObjects V) (i : Nat) (written : Bool) : Work → CovObjects V
  | .subscribe w => s.subscribing cfg i w
  | .remove id =>
    match s.dev.remove id with
    | none => { s with work := s.work.eraseIdx i }
    | some dev => { s with dev, work := s.work.set i (.drop id) }
  | .drop id => { s with table := s.table.objectRemoved id, work := s.work.eraseIdx i }
  | .initialise id =>
    -- An object that cannot be initialised is removed again, and an error of that is ignored.
    if written then { s with work := s.work.eraseIdx i }
    else { s with dev := (s.dev.remove id).getD s.dev, work := s.work.eraseIdx i }

def step (cfg : CovConfig) (s : CovObjects V) : Action V → Option (CovObjects V)
  | .tick => some { s with now := s.now + 1 }
  | .expire => some { s with table := s.table.expire s.now }
  | .subscribe p r =>
    match Subscribing.serve s.dev p r with
    | .error _ => some s
    | .ok w => some { s with work := s.work ++ [.subscribe w] }
  | .delete id permitted =>
    let found := s.dev.resolve id
    if (s.dev.object id).isNone then some s
    else if !permitted || found = s.dev.identifier then some s
    else some { s with work := s.work ++ [.remove found] }
  | .create id o =>
    match s.dev.add id o with
    | none => some s
    | some dev => some { s with dev, work := s.work ++ [.initialise id] }
  | .proceed i written => do
    let w ← s.work[i]?
    some (s.working cfg i written w)

end CovObjects

end GoBacnet.Server
