import GoBacnet.Limits

/-!
# COV subscriptions of the client

A subscription is shared by the goroutine that starts it, the one that renews it, those that deliver notifications, the
caller who reads its events, and the two ways of closing it. `send` runs under the mutex of the subscription, in steps:
the state word and the channel may change between them.
-/

namespace GoBacnet.Client

inductive SubscriptionState
  | pending
  | active
  | renewing
  | degraded
  | expired
  | closed
  deriving DecidableEq

variable {N : Type}

structure SubscriptionEvent (N : Type) where
  sequence : Nat := 0
  /-- What the device sent, for a notification. -/
  notification : Option N := none
  state : SubscriptionState
  gap : Bool := false
  err : Option String := none

structure Subscription (N : Type) where
  capacity : Nat
  state : SubscriptionState := .pending
  closed : Bool := false
  seq : Nat := 0
  gapPending : Bool := false
  /-- The channel, which has room for one event more than the capacity. -/
  events : List (SubscriptionEvent N) := []
  /-- What the caller has read from the channel. -/
  received : List (SubscriptionEvent N) := []
  /-- How often the channel was closed, and how often it was written to after that. -/
  closes : Nat := 0
  lateWrites : Nat := 0
  /-- The events that were queued and, as `none`, those that were dropped, in the order of `send`. -/
  history : List (Option (SubscriptionEvent N)) := []

namespace Subscription

def tryMarkDegraded (s : Subscription N) : Subscription N :=
  if s.state = .closed then s else { s with state := .degraded }

def dropEvent (s : Subscription N) : Subscription N :=
  { s with gapPending := true, history := s.history ++ [none] }

def closeEvents (s : Subscription N) : Subscription N := { s with closed := true, closes := s.closes + 1 }

def write (s : Subscription N) (ev : SubscriptionEvent N) : Subscription N :=
  { s with
    events := s.events ++ [ev], history := s.history ++ [some ev]
    lateWrites := if s.closes = 0 then s.lateWrites else s.lateWrites + 1 }

def receive (s : Subscription N) : Option (Subscription N) :=
  match s.events with
  | [] => none
  | ev :: rest => some { s with events := rest, received := s.received ++ [ev] }

end Subscription

inductive SendPhase
  | load
  | space
  | queue
  | degrade
  deriving DecidableEq

/-- A step of `send`, and where it goes on unless it releases the mutex. -/
def Subscription.sendStep (s : Subscription N) (ev : SubscriptionEvent N) :
    SendPhase → Subscription N × Option SendPhase
  | .load => (s, if s.closed ∨ s.state = .closed ∧ ev.state ≠ .closed then none else some .space)
  | .space =>
    if ev.state ≠ .closed ∧ s.capacity ≤ s.events.length then (s.dropEvent, some .degrade) else (s, some .queue)
  | .queue =>
    let isTerminal : Bool := ev.state = .closed
    let s' := { s with seq := s.seq + 1, gapPending := s.gapPending && isTerminal }
    let ev := { ev with sequence := s.seq + 1, gap := s.gapPending && !isTerminal }
    if s.events.length < s.capacity + 1 then (if isTerminal then (s'.write ev).closeEvents else s'.write ev, none)
    else if isTerminal then (s'.closeEvents, none)
    else (s'.dropEvent, some .degrade)
  | .degrade => (s.tryMarkDegraded, none)

/-! ## The goroutines -/

inductive StarterPC
  | register
  | check
  | request
  | activate
  | announce
  | announcing
  | spawn
  | returned
  | unregister
  | finish
  | closeEvents
  | failed
  deriving DecidableEq

inductive RenewPC
  | absent
  | wait
  | timer
  | renewing
  | announceRenewing
  | request
  | requested (err : Option String)
  | degrade (err : String)
  | announceDegraded (err : String)
  | activate
  | announceActive
  | sending
  | exit
  | exited
  deriving DecidableEq

/-- What runs in `closeOnce`; `bySubscription` tells Close of the subscription from Close of the client. -/
inductive CloserPC
  | idle
  | cancel (bySubscription : Bool)
  | unregister
  | request
  | await (bySubscription : Bool)
  | publish (bySubscription : Bool)
  | publishing
  | finished
  deriving DecidableEq

/-- Who holds the mutex; the renewal loop goes on at `next`. -/
inductive Sender
  | starter
  | renewLoop (next : RenewPC)
  | closer
  | delivery
  deriving DecidableEq

structure Sending (N : Type) where
  who : Sender
  event : SubscriptionEvent N
  phase : SendPhase := .load

structure CovSystem (N : Type) where
  sub : Subscription N
  starter : StarterPC := .register
  renew : RenewPC := .absent
  closer : CloserPC := .idle
  sending : Option (Sending N) := none
  /-- Whether the manager's table holds the subscription. -/
  registered : Bool := false
  clientClosed : Bool := false
  /-- Whether `closeAll` found the subscription, once it has read the table. -/
  found : Option Bool := none
  cancelled : Bool := false
  done : Bool := false

inductive CovAction (N : Type)
  | starter
  | startFails
  | deliver (note : N)
  | send
  | receive
  | renew
  | renewFails (err : String)
  | stop
  | closeSubscription
  | closeClient
  | closeAll
  | closeFound
  | closer

namespace CovSystem

def init (bufferSize : Int) : CovSystem N := { sub := { capacity := (orDefault bufferSize 16).toNat } }

/-- Takes the mutex, if it is free. -/
def lock (sys : CovSystem N) (who : Sender) (event : SubscriptionEvent N) : Option (CovSystem N) :=
  if sys.sending.isNone then some { sys with sending := some { who := who, event := event } } else none

def setState (sys : CovSystem N) (state : SubscriptionState) : CovSystem N :=
  { sys with sub := { sys.sub with state := state } }

def starterStep (sys : CovSystem N) : Option (CovSystem N) :=
  match sys.starter with
  | .register => some { sys with registered := true, starter := .check }
  | .check => some { sys with starter := if sys.clientClosed then .unregister else .request }
  | .request => some { sys with starter := .activate }
  | .activate => some { sys.setState .active with starter := .announce }
  | .announce => { sys with starter := .announcing }.lock .starter { state := .active }
  | .spawn => some { sys with renew := .wait, starter := .returned }
  | .unregister => some { sys with registered := false, cancelled := true, starter := .finish }
  | .finish => some { sys with done := true, starter := .closeEvents }
  | .closeEvents =>
    if sys.sending.isNone then
      some { sys with sub := if sys.sub.closed then sys.sub else sys.sub.closeEvents, starter := .failed }
    else none
  | .announcing | .returned | .failed => none

/-- `tryStoreState`; the renewal loop ends if the subscription is closed. -/
def tryStore (sys : CovSystem N) (state : SubscriptionState) (next : RenewPC) : CovSystem N :=
  if sys.sub.state = .closed then { sys with renew := .exit } else { sys.setState state with renew := next }

def renewStep (sys : CovSystem N) : Option (CovSystem N) :=
  match sys.renew with
  | .wait => some { sys with renew := .timer }
  | .timer => some { sys with renew := if sys.sub.state = .closed then .exit else .renewing }
  | .renewing => some (sys.tryStore .renewing .announceRenewing)
  | .announceRenewing => { sys with renew := .sending }.lock (.renewLoop .request) { state := .renewing }
  | .request => some { sys with renew := .requested none }
  | .requested err =>
    some { sys with renew := if sys.sub.state = .closed then .exit else err.elim .activate .degrade }
  | .degrade err => some { sys with sub := sys.sub.tryMarkDegraded, renew := .announceDegraded err }
  | .announceDegraded err =>
    { sys with renew := .sending }.lock (.renewLoop .wait) { state := .degraded, err := some err }
  | .activate => some (sys.tryStore .active .announceActive)
  | .announceActive => { sys with renew := .sending }.lock (.renewLoop .wait) { state := .active }
  | .exit => some { sys with done := true, renew := .exited }
  | .absent | .sending | .exited => none

def closerStep (sys : CovSystem N) : Option (CovSystem N) :=
  match sys.closer with
  | .cancel bySubscription =>
    some { sys with cancelled := true, closer := if bySubscription then .unregister else .await false }
  | .unregister => some { sys with registered := false, closer := .request }
  | .request => some { sys with closer := .await true }
  | .await bySubscription => if sys.done then some { sys with closer := .publish bySubscription } else none
  | .publish bySubscription =>
    { sys with closer := .publishing }.lock .closer
      { state := .closed, err := if bySubscription then none else some "bacnet: client closed" }
  | .idle | .publishing | .finished => none

/-- Gives the mutex back. -/
def release (sys : CovSystem N) (who : Sender) : CovSystem N :=
  match who with
  | .starter => { sys with sending := none, starter := .spawn }
  | .renewLoop next => { sys with sending := none, renew := next }
  | .closer => { sys with sending := none, closer := .finished }
  | .delivery => { sys with sending := none }

def sendStep (sys : CovSystem N) (snd : Sending N) : CovSystem N :=
  match sys.sub.sendStep snd.event snd.phase with
  | (sub, some phase) => { sys with sub := sub, sending := some { snd with phase := phase } }
  | (sub, none) => { sys with sub := sub }.release snd.who

def step (sys : CovSystem N) : CovAction N → Option (CovSystem N)
  | .starter => sys.starterStep
  | .startFails => if sys.starter = .request then some { sys with starter := .unregister } else none
  | .deliver note => sys.lock .delivery { notification := some note, state := .active }
  | .send => sys.sending.map sys.sendStep
  | .receive => sys.sub.receive.map fun sub => { sys with sub := sub }
  | .renew => sys.renewStep
  | .renewFails err => if sys.renew = .request then some { sys with renew := .requested (some err) } else none
  | .stop => if sys.renew = .wait ∧ (sys.cancelled ∨ sys.clientClosed) then some { sys with renew := .exit } else none
  | .closeSubscription =>
    if sys.starter = .returned ∧ sys.closer = .idle then
      if sys.sub.state = .closed then some { sys with closer := .finished }
      else some { sys.setState .closed with closer := .cancel true }
    else none
  | .closeClient => if sys.clientClosed then none else some { sys with clientClosed := true }
  | .closeAll =>
    if sys.clientClosed ∧ sys.found = none then some { sys with found := some sys.registered, registered := false }
    else none
  | .closeFound =>
    if sys.found = some true ∧ sys.closer = .idle then some { sys.setState .closed with closer := .cancel false }
    else none
  | .closer => sys.closerStep

end CovSystem

end GoBacnet.Client
