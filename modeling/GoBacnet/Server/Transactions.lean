import GoBacnet.Lib.Transition
import GoBacnet.Server.Responder

/-!
# The transaction table of the responder

The receive loop, the workers and housekeeping share transaction records by reference and find them in one table
by the key of the requester. A step is what one goroutine does while it holds the lock of the table, or between
two such regions.
-/

namespace GoBacnet.Server

open Apdu

/-- A reference to a transaction record. -/
abbrev Ref := Nat

def Rtx.key (t : Rtx) : Key := t.peer.key t.invokeID

structure Responder where
  heap : List Rtx := []
  tx : Key → Option Ref := fun _ => none

namespace Responder

def find (r : Responder) (key : Key) : Option Rtx := (r.tx key).bind (r.heap[·]?)

/-- Puts a new record into the table. -/
def add (r : Responder) (t : Rtx) : Responder where
  heap := r.heap ++ [t]
  tx := Function.update r.tx t.key (some r.heap.length)

def update (r : Responder) (ref : Ref) (t : Rtx) : Responder := { r with heap := r.heap.set ref t }

def delete (r : Responder) (key : Key) : Responder := { r with tx := Function.update r.tx key none }

/-- Drops stale reassemblies. -/
def expire (r : Responder) (now : Nat) : Responder :=
  { r with tx := fun key => (r.tx key).filter fun ref => !(r.heap[ref]?.any (expired now)) }

structure Received where
  responder : Responder
  replies : List Octets := []
  execute : Option (Ref × ConfirmedRequest) := none

/-- The request that a worker executes: the header of the transaction with the whole payload. -/
def request (t : Rtx) (payload : Octets) : ConfirmedRequest := { t.header with payload }

def segment (cfg : Config) (now : Nat) (r : Responder) (req : ConfirmedRequest) (p : Peer) : Received :=
  let key := p.key req.invokeID
  let step := Server.segment cfg now (r.find key) req p
  match r.tx key, step.entry with
  | some ref, some t =>
    { responder := r.update ref t, replies := step.replies,
      execute := step.execute.map fun payload => (ref, request t payload) }
  | none, some t =>
    { responder := r.add t, replies := step.replies,
      execute := step.execute.map fun payload => (r.heap.length, request t payload) }
  | _, none => { responder := r.delete key, replies := step.replies }

/-- The record of a request that arrived in one piece. -/
def newWhole (req : ConfirmedRequest) (p : Peer) : Rtx where
  peer := p
  invokeID := req.invokeID
  service := req.serviceChoice
  content := req.serviceChoice :: req.payload
  header := req

def confirmed (cfg : Config) (now : Nat) (r : Responder) (req : ConfirmedRequest) (p : Peer) : Received :=
  -- A confirmed service is never addressed to a broadcast.
  if p.broadcast then { responder := r }
  else if req.segmentedMessage then segment cfg now r req p
  else
    match r.tx (p.key req.invokeID) with
    -- A request that arrives again while the first is executed is dropped.
    | some _ => { responder := r }
    | none =>
      let t := newWhole req p
      { responder := r.add t, execute := some (r.heap.length, request t req.payload) }

/-- A requester's Abort drops a reassembly; a request that is being executed finishes. -/
def abortFromClient (r : Responder) (invokeID : UInt8) (p : Peer) : Responder :=
  let key := p.key invokeID
  match Server.abortFromClient (r.find key) with
  | some _ => r
  | none => r.delete key

end Responder

inductive Result
  | silent
  | reply (apdu : Octets)
  | complexACK (payload : Octets)
  deriving DecidableEq, Repr

/-- How far a worker is with a request: in the handler, sending the segments of the reply, or done but for the
removal of the transaction. -/
inductive Phase
  | handling
  | sending
  | finished
  deriving DecidableEq, Repr

structure Job where
  ref : Ref
  req : ConfirmedRequest
  deriving DecidableEq

structure Running extends Job where
  phase : Phase := .handling
  deriving DecidableEq

inductive Loop
  | idle
  | submit (job : Job)
  | refuse (job : Job)
  deriving DecidableEq

/-- The request that the loop is about to hand on. -/
def Loop.refs : Loop → List Ref
  | .idle => []
  | .submit job | .refuse job => [job.ref]

/-- The goroutines that share the table. -/
structure Machine where
  now : Nat := 0
  resp : Responder := {}
  loop : Loop := .idle
  jobs : List Job := []
  running : List Running := []
  sent : List (Peer × Octets) := []

namespace Machine

inductive Action
  | tick
  | receive (req : ConfirmedRequest) (p : Peer)
  | abort (invokeID : UInt8) (p : Peer)
  | expire
  /-- The queue takes the request or not. -/
  | submit (accepted : Bool)
  | refuse
  | take
  /-- The handler of a worker returns. -/
  | handled (worker : Nat) (res : Result)
  /-- The loop that sends segments returns. -/
  | sent (worker : Nat)
  | release (worker : Nat)
  deriving DecidableEq

def finish (cfg : Config) (m : Machine) (worker : Nat) (w : Running) (t : Rtx) (res : Result) : Machine :=
  let done := { m with running := m.running.set worker { w with phase := .finished } }
  match res with
  | .silent => done
  | .reply apdu => { done with sent := m.sent ++ [(t.peer, apdu)] }
  | .complexACK payload =>
    let reply := appendComplexACK []
      { segmentedMessage := false, moreFollows := false, invokeID := w.req.invokeID, sequenceNumber := 0,
        proposedWindowSize := 0, serviceChoice := w.req.serviceChoice, payload }
    match planReply cfg w.req reply.length payload with
    | .whole => { done with sent := m.sent ++ [(t.peer, reply)] }
    | .refused reason => { done with sent := m.sent ++ [(t.peer, abortReply w.req.invokeID reason)] }
    | .segments _ _ =>
      { m with
        resp := m.resp.update w.ref { t with acks := true, aborted := true }
        running := m.running.set worker { w with phase := .sending } }

def step (cfg : Config) (m : Machine) : Action → Option Machine
  | .tick => some { m with now := m.now + 1 }
  | .receive req p =>
    if m.loop ≠ .idle then none
    else
      let received := m.resp.confirmed cfg m.now req p
      some { m with
        resp := received.responder
        loop := (received.execute.map fun (ref, req) => Loop.submit ⟨ref, req⟩).getD .idle
        sent := m.sent ++ received.replies.map (p, ·) }
  | .abort invokeID p => if m.loop ≠ .idle then none else some { m with resp := m.resp.abortFromClient invokeID p }
  | .expire => some { m with resp := m.resp.expire m.now }
  | .submit accepted =>
    match m.loop with
    | .submit job =>
      if accepted then some { m with loop := .idle, jobs := m.jobs ++ [job] } else some { m with loop := .refuse job }
    | _ => none
  | .refuse =>
    match m.loop with
    | .refuse job => do
      let t ← m.resp.heap[job.ref]?
      some { m with
        loop := .idle, resp := m.resp.delete t.key
        sent := m.sent ++ [(t.peer, abortReply job.req.invokeID abortReasonOutOfResources)] }
    | _ => none
  | .take =>
    match m.jobs with
    | job :: jobs => some { m with jobs, running := m.running ++ [{ job with }] }
    | [] => none
  | .handled worker res => do
    let w ← m.running[worker]?
    let t ← m.resp.heap[w.ref]?
    if w.phase = .handling then some (m.finish cfg worker w t res) else none
  | .sent worker => do
    let w ← m.running[worker]?
    if w.phase = .sending then
      some { m with running := m.running.set worker { w with phase := .finished } }
    else none
  | .release worker => do
    let w ← m.running[worker]?
    let t ← m.resp.heap[w.ref]?
    if w.phase = .finished then
      some { m with resp := m.resp.delete t.key, running := m.running.eraseIdx worker }
    else none

/-- The requests accepted whose reply is not finished: with the receive loop, queued, or with a worker. -/
def executions (m : Machine) : List Ref :=
  m.loop.refs ++ m.jobs.map Job.ref ++ m.running.map fun w => w.ref

def executionsOf (m : Machine) (key : Key) : List Ref :=
  m.executions.filter fun ref => m.resp.heap[ref]?.any fun t => t.key = key

/-- The entry `ref` of `key` is the one that the action may remove: the transaction that a worker or a refusal
ends, a reassembly that expired, or the reassembly that a segment or an Abort addresses. -/
def Owns (m : Machine) (key : Key) (ref : Ref) : Action → Prop
  | .release worker => ∃ w, m.running[worker]? = some w ∧ w.ref = ref
  | .refuse => ∃ job, m.loop = .refuse job ∧ job.ref = ref
  | .expire => ∃ t, m.resp.heap[ref]? = some t ∧ expired m.now t = true
  | .receive req p => key = p.key req.invokeID ∧ ∃ t, m.resp.heap[ref]? = some t ∧ t.segmented = true
  | .abort invokeID p => key = p.key invokeID ∧ ∃ t, m.resp.heap[ref]? = some t ∧ t.segmented = true
  | _ => False

end Machine

end GoBacnet.Server
