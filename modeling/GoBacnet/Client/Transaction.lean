import GoBacnet.Client.Path
import GoBacnet.Client.SegmentSend

/-!
# Transactions of the client

The shared state of the goroutines of a client: the transaction manager, the segment receiver and
the segment sender, all keyed by the 8-bit invoke ID, and where each goroutine is. A request is
numbered by the call that started it, a reassembly by the order in which they start; the numbers
stand for the pointers of the program.
-/

namespace GoBacnet.Client

open Apdu

abbrev Rid := Nat

abbrev Sid := Nat

/-- The configuration of a client; the option for the APDU timeout ignores zero. -/
structure Config where
  limits : DecodeLimits := defaultDecodeLimits
  apduTimeout : Nat := 3000
  apduTimeout_pos : 0 < apduTimeout := by decide
  retryCount : Nat := 3
  maxTransactions : Nat := 255
  segmentSendWindow : UInt8 := defaultSegmentSendWindow
  segmentReceiveWindow : UInt8 := defaultSegmentReceiveWindow

/-- The inputs of a confirmed request: the call's own, the codes of the local limits that the header
advertises, and what is known of the peer. -/
structure Spec where
  target : Target
  service : UInt8
  payload : Octets
  opts : ConfirmedOpts := {}
  maxSegments : UInt8 := 0
  maxAPDU : UInt8 := 5
  remoteMax : Nat := 480
  peerSegmented : Bool := false
  deriving DecidableEq

def Spec.request (spec : Spec) (id : UInt8) : ConfirmedRequest :=
  { segmentedResponseAccepted := spec.opts.segmentedResponseAccepted, maxSegments := spec.maxSegments,
    maxAPDU := spec.maxAPDU, invokeID := id, serviceChoice := spec.service, payload := spec.payload }

def Spec.needSegments (spec : Spec) : Bool :=
  (appendConfirmedRequest [] (spec.request 0)).length > spec.remoteMax

/-- How a confirmed request ends: with an answer, with an error that the peer sent, or with an error
of the client's own. -/
inductive Outcome
  | answer (pdu : PDU)
  | peerError (err : ReqErr)
  | failed (err : ReqErr)
  deriving DecidableEq, Repr

/-- A published result; `forTx` is the transaction it was computed for. -/
structure TxResult where
  forTx : Rid
  out : Outcome
  deriving DecidableEq, Repr

inductive TxPhase
  | awaitingInitial
  | receivingSegments
  | sendingSegments
  deriving DecidableEq, Repr

/-- The three critical sections of `finishTx`. -/
inductive FinStage
  | complete
  | removeSeg
  | unregister
  deriving DecidableEq, Repr

/-- A `finishTx` call in progress: the invoke ID it acts on, the transaction its result was computed
for, and whether it published the result. -/
structure Fin where
  id : UInt8
  forTx : Rid
  out : Outcome
  quarantine : Nat
  stage : FinStage := .complete
  won : Bool := false
  deriving DecidableEq, Repr

/-- Where the goroutine of a request is. -/
inductive Pc
  | idle
  | allocating
  | reserved
  | registered
  | enterSending (segs : List Octets)
  | registerSender (segs : List Octets)
  | sending (segs : List Octets) (loop : SendLoop) (waiting : Bool)
  | segmentsSent
  | enterAwaiting
  | transmit
  | waiting
  | timerFired
  | retransmitting
  | finishing (fin : Fin)
  | awaitResult
  | cleanup (out : Outcome) (segRemoved : Bool)
  | returned (out : Outcome)
  deriving DecidableEq, Repr

/-- A confirmed request: its inputs, its goroutine and its pending transaction. `attempted` records
that the transport was handed a transmission, `answered` that the receive loop matched a definitive
response to it. -/
structure Request where
  spec : Spec
  pc : Pc := .idle
  invokeID : UInt8 := 0
  retriesLeft : Nat := 0
  result : Option TxResult := none
  timerArmed : Bool := false
  sent : Bool := false
  phase : TxPhase := .awaitingInitial
  ackCh : List SegmentACK := []
  attempted : Bool := false
  answered : Bool := false
  deriving DecidableEq

inductive Watch
  | waiting
  | fired
  | finishing (fin : Fin)
  | exited
  deriving DecidableEq, Repr

/-- A reassembly, the transaction it was started for, and its timer goroutine. -/
structure Seg where
  st : SegState
  owner : Rid
  timerArmed : Bool := true
  done : Bool := false
  watch : Watch := .waiting
  deriving DecidableEq

/-- Where the receive loop is. -/
inductive Rx
  | idle
  | accepting (ack : ComplexACK) (src : PacketSource) (found : Rid)
  | completed (ack : ComplexACK) (src : PacketSource) (found : Rid)
  | finishing (fin : Fin)
  | delivering (ack : SegmentACK) (dest : Rid)
  deriving DecidableEq

inductive Closer
  | idle
  | abortTx
  | publishing (pending : List Rid)
  | abortSeg
  | abortSend
  | finished
  deriving DecidableEq, Repr

/-- The state of a client. The last three fields observe the run: the request that an invoke ID was
last allocated to, when its transaction was last removed, and whether anything was handed to the
transport under the ID since it was allocated. -/
structure State where
  now : Nat := 0
  closed : Bool := false
  nextID : UInt8 := 0
  reserved : UInt8 → Bool := fun _ => false
  inUse : UInt8 → Option Rid := fun _ => none
  quarantine : UInt8 → Option Nat := fun _ => none
  reqs : Rid → Request
  segActive : UInt8 → Option Sid := fun _ => none
  segs : Sid → Option Seg := fun _ => none
  nextSid : Sid := 0
  sendActive : UInt8 → Option Rid := fun _ => none
  rx : Rx := .idle
  closer : Closer := .idle
  holder : UInt8 → Option Rid := fun _ => none
  released : UInt8 → Option Nat := fun _ => none
  transmitted : UInt8 → Bool := fun _ => false

def allIDs : List UInt8 := (List.range 256).map UInt8.ofNat

namespace State

def updReq (s : State) (r : Rid) (f : Request → Request) : State :=
  { s with reqs := Function.update s.reqs r (f (s.reqs r)) }

def setPc (s : State) (r : Rid) (pc : Pc) : State := s.updReq r fun q => { q with pc }

/-- Changes the record of one reassembly. -/
def updSeg (s : State) (sid : Sid) (f : Seg → Seg) : State :=
  { s with segs := Function.update s.segs sid ((s.segs sid).map f) }

/-! ## The transaction manager -/

def free (s : State) (id : UInt8) : Bool :=
  (s.inUse id).isNone && !s.reserved id &&
    match s.quarantine id with
    | some until_ => !(s.now < until_)
    | none => true

def findFree (s : State) : Nat → UInt8 → Option UInt8
  | 0, _ => none
  | fuel + 1, id => if s.free id then some id else findFree s fuel (id + 1)

def load (s : State) : Nat := allIDs.countP (fun id => (s.inUse id).isSome) + allIDs.countP s.reserved

/-- The bound on concurrent transactions. -/
def capacity (cfg : Config) : Nat :=
  if cfg.maxTransactions = 0 ∨ cfg.maxTransactions > 255 then 255 else cfg.maxTransactions

/-- Chooses a free invoke ID; the search goes round from the ID after the last one chosen. -/
def tryAlloc (cfg : Config) (s : State) : Option UInt8 :=
  if s.load ≥ capacity cfg then none else s.findFree 256 s.nextID

def reserve (s : State) (r : Rid) (id : UInt8) : State :=
  { s with
    nextID := id + 1, quarantine := Function.update s.quarantine id none
    reserved := Function.update s.reserved id true, holder := Function.update s.holder id (some r)
    transmitted := Function.update s.transmitted id false }

def register (s : State) (r : Rid) (id : UInt8) : State :=
  { s with reserved := Function.update s.reserved id false, inUse := Function.update s.inUse id (some r) }

def publish (s : State) (r : Rid) (res : TxResult) : State :=
  s.updReq r fun q => { q with timerArmed := false, result := if q.result.isNone then some res else q.result }

/-- Removes the transaction of an invoke ID and publishes its outcome. -/
def complete (s : State) (f : Fin) (r : Rid) : State :=
  { s with
    inUse := Function.update s.inUse f.id none
    quarantine := if f.quarantine > 0 then Function.update s.quarantine f.id (some (s.now + f.quarantine))
      else s.quarantine
    released := Function.update s.released f.id (some s.now) }.publish r ⟨f.forTx, f.out⟩

/-! ## Segmentation state -/

/-- Removes the reassembly of an invoke ID: its timer is stopped and its watcher told. -/
def removeSeg (s : State) (id : UInt8) : State :=
  match s.segActive id with
  | none => s
  | some sid =>
    { s with segActive := Function.update s.segActive id none }.updSeg sid fun g =>
      { g with timerArmed := false, done := true }

def unregister (s : State) (id : UInt8) : State :=
  { s with sendActive := Function.update s.sendActive id none }

/-- The next critical section of a `finishTx` call. -/
def finish (s : State) (f : Fin) : State × Option Fin :=
  match f.stage with
  | .complete =>
    match s.inUse f.id with
    | some r => (s.complete f r, some { f with stage := .removeSeg, won := true })
    | none => (s, some { f with stage := .removeSeg })
  | .removeSeg => (s.removeSeg f.id, some { f with stage := .unregister })
  | .unregister => (s.unregister f.id, none)

end State

end GoBacnet.Client
