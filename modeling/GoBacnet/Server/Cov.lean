import GoBacnet.Server.CovTable
import GoBacnet.Server.Dcc

/-!
# The COV engine

A change of an object marks the subscriptions on it and starts their senders. Each subscription has at most one
sender, a goroutine that evaluates the subscription and sends its notification until nothing is pending. Changes,
subscribe requests and senders interleave; the steps here are the sections between which the source holds no lock.
-/

namespace GoBacnet.Server

/-- A call of `kick`: for a change of an object, or for the initial notification of a subscription. -/
structure Kick where
  ref : Ref
  change : Option ObjectIdentifier
  deriving DecidableEq

/-- An evaluation in progress: the targets that it has not looked up yet, the references that it still has to read
of the object it looked up last, and the values read so far. -/
structure Evaluation (V : Type) where
  now : Nat
  trigger : Bool
  todo : List CovTarget
  reading : List CovRef := []
  /-- Whether an object was found. -/
  found : Bool := false
  seen : List (CovRef × V) := []

inductive RunPhase (V : Type)
  | head
  | start (initial : Bool)
  | evaluate (e : Evaluation V)
  | send (values : List (CovRef × V))

structure Run (V : Type) where
  ref : Ref
  phase : RunPhase V

/-- What is handed to the transport. -/
inductive Sent (V : Type)
  | simpleACK (ref : Ref)
  | notification (ref : Ref) (values : List (CovRef × V))
  deriving DecidableEq

structure CovParams (V : Type) where
  cfg : CovConfig := {}
  significant : V → V → Bool

structure Cov (V : Type) where
  now : Nat := 0
  dcc : Dcc := {}
  dev : Device V
  table : CovTable := {}
  /-- The value sent last, which the source keeps in the reference. -/
  last : CovRef → Option V := fun _ => none
  /-- Changes on their way to the engine. -/
  changes : List ObjectIdentifier := []
  kicks : List Kick := []
  runs : List (Run V) := []
  requests : List Subscribing := []
  transport : List (Sent V) := []
  /-- Whether a subscription was ever kicked, how many changes were delivered to it and how many of them before its
  last evaluation began, and whether a change of an object was delivered that no evaluation has looked up the object
  since. The source keeps none of this. -/
  kicked : Ref → Bool := fun _ => false
  delivered : Ref → Nat := fun _ => 0
  covered : Ref → Nat := fun _ => 0
  stale : Ref → ObjectIdentifier → Bool := fun _ _ => false

namespace Cov

variable {V : Type}

def record (values : List (CovRef × V)) (last : CovRef → Option V) : CovRef → Option V := fun r =>
  match values.find? fun p => p.1 = r with
  | some p => some p.2
  | none => last r

def lastSent (transport : List (Sent V)) : CovRef → Option V :=
  transport.foldl (fun last event =>
    match event with
    | .simpleACK _ => last
    | .notification _ values => record values last) fun _ => none

/-- Marks an open subscription and starts its sender, unless that is running. -/
def mark (s : Cov V) (k : Kick) (sub : CovSub) : Cov V :=
  { s with
    table := { s.table with heap := s.table.heap.set k.ref (sub.mark k.change.isNone) }
    runs := if sub.running then s.runs else s.runs ++ [⟨k.ref, .head⟩]
    kicked := Function.update s.kicked k.ref true
    delivered := fun ref => if ref = k.ref ∧ k.change.isSome then s.delivered ref + 1 else s.delivered ref
    stale := fun ref obj => if ref = k.ref ∧ k.change = some obj then true else s.stale ref obj }

/-- Schedules an evaluation of a subscription. -/
def kick (s : Cov V) (k : Kick) : Cov V :=
  match s.table.heap[k.ref]? with
  | none => s
  | some sub => if sub.closed then s else s.mark k sub

/-- The head of a sender's loop. -/
def runHead (s : Cov V) (i : Nat) (ref : Ref) (sub : CovSub) : Cov V :=
  if !sub.dirty || sub.closed then
    { s with
      table := { s.table with heap := s.table.heap.set ref sub.stop }
      runs := s.runs.eraseIdx i }
  else
    { s with
      table := { s.table with heap := s.table.heap.set ref sub.take }
      runs := s.runs.set i ⟨ref, .start sub.initial⟩
      covered := Function.update s.covered ref (s.delivered ref) }

/-- Looks up the next target. An object that is not found is skipped. -/
def lookup (s : Cov V) (i : Nat) (ref : Ref) (e : Evaluation V) (t : CovTarget) (todo : List CovTarget) : Cov V :=
  let e' := match s.dev.objects t.obj with
    | none => { e with todo }
    | some _ => { e with todo, reading := t.refs, found := true }
  { s with
    runs := s.runs.set i ⟨ref, .evaluate e'⟩
    stale := fun ref' obj => if ref' = ref ∧ obj = t.obj then false else s.stale ref' obj }

def readRef (P : CovParams V) (s : Cov V) (e : Evaluation V) (r : CovRef) (rest : List CovRef) : Evaluation V :=
  match s.dev.read r.obj r.prop with
  | none => { e with reading := rest }
  | some v =>
    { e with
      reading := rest
      trigger := e.trigger || (s.last r).all fun last => P.significant last v
      seen := e.seen ++ [(r, v)] }

/-- The end of an evaluation: it sends what it read if something triggered it and initiation is enabled. -/
def conclude (s : Cov V) (i : Nat) (ref : Ref) (kind : SubKind) (e : Evaluation V) : Cov V :=
  if !e.trigger then { s with runs := s.runs.set i ⟨ref, .head⟩ }
  else if !s.dcc.mayInitiate e.now then
    { s with dcc := s.dcc.expire e.now, runs := s.runs.set i ⟨ref, .head⟩ }
  else
    { s with
      dcc := s.dcc.expire e.now
      last := record e.seen s.last
      runs := s.runs.set i ⟨ref, if kind ≠ .multiple ∧ !e.found then .head else .send e.seen⟩ }

def runStep (P : CovParams V) (s : Cov V) (i : Nat) (run : Run V) (sub : CovSub) : Cov V :=
  match run.phase with
  | .head => s.runHead i run.ref sub
  | .start initial =>
    { s with runs := s.runs.set i ⟨run.ref, .evaluate { now := s.now, trigger := initial, todo := sub.targets }⟩ }
  | .evaluate e =>
    match e.reading, e.todo with
    | r :: rest, _ => { s with runs := s.runs.set i ⟨run.ref, .evaluate (s.readRef P e r rest)⟩ }
    | [], t :: todo => s.lookup i run.ref e t todo
    | [], [] => s.conclude i run.ref sub.key.kind e
  | .send values =>
    { s with
      transport := s.transport ++ [.notification run.ref values]
      runs := s.runs.set i ⟨run.ref, .head⟩ }

/-- The next step of a subscribe request; with `sent` its SimpleACK goes out, and after that the subscription is
kicked for its initial notification. -/
def requestStep (P : CovParams V) (s : Cov V) (i : Nat) (sent : Bool) : Subscribing → Cov V
  | .lookup new todo =>
    match Subscribing.lookupNext s.dev new todo with
    | .error _ => { s with requests := s.requests.eraseIdx i }
    | .ok next => { s with requests := s.requests.set i next }
  | .cancel key => { s with table := s.table.cancel key, requests := s.requests.eraseIdx i }
  | .start new =>
    match s.table.upsert P.cfg s.now new with
    | .error _ => { s with requests := s.requests.eraseIdx i }
    | .ok (table, ref) => { s with table, requests := s.requests.set i (.acknowledge ref) }
  | .acknowledge ref =>
    if sent then
      { s with
        requests := s.requests.eraseIdx i
        transport := s.transport ++ [.simpleACK ref]
        kicks := s.kicks ++ [⟨ref, none⟩] }
    else { s with requests := s.requests.eraseIdx i }

inductive Action (V : Type)
  /-- Time passes. -/
  | tick
  /-- A DeviceCommunicationControl request sets the mode. -/
  | control (mode : EnableDisable) (ends : Option Nat)
  /-- An object becomes another one, which reports the change. -/
  | change (obj : ObjectIdentifier) (o : Option (Object V))
  /-- The engine collects the subscriptions on a changed object. -/
  | changed (i : Nat)
  | kick (i : Nat)
  | run (i : Nat)
  | request (p : Peer) (r : SubscribeRequest)
  | proceed (i : Nat) (sent : Bool)
  | expire
  | objectRemoved (obj : ObjectIdentifier)

def step (P : CovParams V) (s : Cov V) : Action V → Option (Cov V)
  | .tick => some { s with now := s.now + 1 }
  | .control mode ends => some { s with dcc := ⟨mode, ends⟩ }
  | .change obj o => some { s with dev := s.dev.put obj o, changes := s.changes ++ [obj] }
  | .changed i => do
    let obj ← s.changes[i]?
    some { s with
      changes := s.changes.eraseIdx i
      kicks := s.kicks ++ (s.table.hit obj).map fun ref => ⟨ref, some obj⟩ }
  | .kick i => do
    let k ← s.kicks[i]?
    some (kick { s with kicks := s.kicks.eraseIdx i } k)
  | .run i => do
    let run ← s.runs[i]?
    let sub ← s.table.heap[run.ref]?
    some (s.runStep P i run sub)
  | .request p r =>
    match Subscribing.serve s.dev p r with
    | .error _ => some s
    | .ok w => some { s with requests := s.requests ++ [w] }
  | .proceed i sent => do
    let w ← s.requests[i]?
    some (s.requestStep P i sent w)
  | .expire => some { s with table := s.table.expire s.now }
  | .objectRemoved obj => some { s with table := s.table.objectRemoved obj }

abbrev Reachable (P : CovParams V) (dev : Device V) : Cov V → Prop :=
  Transition.Reachable { dev } (step P)

end Cov

end GoBacnet.Server
