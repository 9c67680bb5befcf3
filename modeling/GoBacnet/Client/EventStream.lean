import Mathlib.Tactic

/-!
# The event notification stream

A bounded channel between the goroutines that publish notifications and the caller. Close makes room for its last event
by taking the oldest one out.
-/

namespace GoBacnet.Client

variable {D : Type}

structure EventStreamEvent (D : Type) where
  sequence : Nat
  delivery : Option D := none
  gap : Bool := false
  closed : Bool := false

/-- Where Close stands, which holds the mutex. -/
inductive ClosePhase
  | send
  | evict
  | resend
  | closed
  deriving DecidableEq

structure EventStream (D : Type) where
  capacity : Nat
  /-- The channel, which has room for one event more than the capacity. -/
  ch : List (EventStreamEvent D) := []
  seq : Nat := 0
  gap : Bool := false
  close : Option ClosePhase := none
  received : List (EventStreamEvent D) := []
  /-- What was published up to the last event that the caller has read, and what was published after it: the events and,
  as `none`, those that were dropped or taken out. -/
  past : List (Option (EventStreamEvent D)) := []
  recent : List (Option (EventStreamEvent D)) := []

inductive EventStreamAction (D : Type)
  | publish (delivery : D)
  | close
  | closeStep
  | receive

/-- The oldest event becomes a lost one. -/
def loseFirst {α : Type} : List (Option α) → List (Option α)
  | [] => []
  | none :: rest => none :: loseFirst rest
  | some _ :: rest => none :: rest

namespace EventStream

def openEventStream (bufferSize : Int) : EventStream D := { capacity := (max bufferSize 1).toNat }

def history (s : EventStream D) : List (Option (EventStreamEvent D)) := s.past ++ s.recent

def hasRoom (s : EventStream D) : Bool := s.ch.length < s.capacity + 1

def push (s : EventStream D) (ev : EventStreamEvent D) : EventStream D :=
  { s with ch := s.ch ++ [ev], recent := s.recent ++ [some ev] }

def publish (s : EventStream D) (d : D) : EventStream D :=
  let ev : EventStreamEvent D := { sequence := s.seq + 1, delivery := some d, gap := s.gap }
  if s.hasRoom then { s with seq := s.seq + 1, gap := false }.push ev
  else { s with seq := s.seq + 1, gap := true, recent := s.recent ++ [none] }

def closeStep (s : EventStream D) : ClosePhase → Option (EventStream D)
  | .send =>
    -- The event is made, with its number, whether or not it can be sent.
    let s' := { s with seq := s.seq + 1 }
    some (if s.hasRoom then { s' with close := some .closed }.push { sequence := s.seq + 1, closed := true }
      else { s' with close := some .evict })
  | .evict => some { s with ch := s.ch.tail, recent := loseFirst s.recent, close := some .resend }
  | .resend =>
    let s' := { s with seq := s.seq + 1, close := some .closed }
    some (if s.hasRoom then s'.push { sequence := s.seq + 1, closed := true } else s')
  | .closed => none

def receive (s : EventStream D) : Option (EventStream D) :=
  match s.ch with
  | [] => none
  | ev :: rest =>
    let lost := s.recent.takeWhile Option.isNone
    some { s with
      ch := rest, received := s.received ++ [ev], past := s.past ++ lost ++ [some ev]
      recent := s.recent.drop (lost.length + 1) }

def step (s : EventStream D) : EventStreamAction D → Option (EventStream D)
  | .publish d => if s.close.isNone then some (s.publish d) else none
  | .close => if s.close.isNone then some { s with close := some .send } else none
  | .closeStep => s.close.bind s.closeStep
  | .receive => s.receive

end EventStream

end GoBacnet.Client
