import GoBacnet.Client.Transaction
import GoBacnet.Lib.Transition

/-!
# The client as a transition system

Every goroutine of a client advances by one critical section, channel operation or transmission at a
time: the goroutine of each confirmed request, the receive loop, the timer goroutine of each
reassembly, and `Close`. Lookups and removals go by invoke ID, as in the program.
-/

namespace GoBacnet.Client

open Apdu Segment

/-- What the goroutine of a request does next where the program leaves a choice: a send can fail and
a `select` takes any case that is ready. -/
inductive Choice
  | go
  | fail
  | context
  | closed
  | timer
  | ack
  | result
  deriving DecidableEq, Repr

inductive Action
  | tick (d : Nat)
  | start (r : Rid) (spec : Spec)
  | request (r : Rid) (choice : Choice)
  | receive (pdu : PDU) (src : PacketSource)
  | rx
  | watch (sid : Sid) (timer : Bool)
  | close (r : Option Rid)

namespace State

/-! ## The goroutine of a request -/

/-- The checks of `confirmedRequestOpts` before an invoke ID is allocated. -/
def preflight (s : State) (spec : Spec) : Spec × Pc :=
  if s.closed then (spec, .returned (.failed .closed))
  else
    match normalizeTarget spec.target with
    | .error e => (spec, .returned (.failed (.decode e)))
    | .ok target =>
      let spec := { spec with target }
      if spec.needSegments && !spec.peerSegmented then (spec, .returned (.failed (.apduTooLarge false)))
      else (spec, .allocating)

/-- The exit of a request through `finishTx` with an error of its own. -/
def exit (s : State) (r : Rid) (err : ReqErr) (quarantine : Nat) : State :=
  s.setPc r (.finishing { id := (s.reqs r).invokeID, forTx := r, out := .failed err, quarantine })

def attempt (s : State) (r : Rid) : State :=
  { s with transmitted := Function.update s.transmitted (s.reqs r).invokeID true }.updReq r fun q =>
    { q with attempted := true }

def allocate (cfg : Config) (s : State) (r : Rid) : State :=
  match s.tryAlloc cfg with
  | some id => (s.reserve r id).updReq r fun q => { q with pc := .reserved, invokeID := id }
  | none => s

/-- The transaction is created with a running timer and registered. -/
def registerTx (cfg : Config) (s : State) (r : Rid) : State :=
  (s.register r (s.reqs r).invokeID).updReq r fun q =>
    { q with
      pc := .registered, timerArmed := true, phase := .awaitingInitial
      retriesLeft := if q.spec.opts.retransmit then cfg.retryCount else 0 }

/-- A registered request is segmented or marked as sent. -/
def prepare (cfg : Config) (s : State) (r : Rid) : State :=
  let q := s.reqs r
  if q.spec.needSegments then
    match buildConfirmedSegments (q.spec.request q.invokeID) q.spec.remoteMax cfg.segmentSendWindow with
    | .error _ => s.exit r (.apduTooLarge true) 0
    | .ok segs =>
      if (segs.length : Int) > cfg.limits.maxSegments then s.exit r (.apduTooLarge true) 0
      else s.setPc r (.enterSending segs)
  else
    -- Marked before the send: a transport error does not prove non-delivery.
    s.updReq r fun q => { q with sent := true, pc := .transmit }

/-- The APDU timer stops; the sender owns the segment timeouts. -/
def enterSendingSegments (s : State) (r : Rid) (segs : List Octets) : State :=
  match s.inUse (s.reqs r).invokeID with
  | none => s.setPc r .awaitResult
  | some t =>
    (s.updReq t fun q => { q with phase := .sendingSegments, retriesLeft := 0, timerArmed := false }).setPc r
      (.registerSender segs)

def registerSender (s : State) (r : Rid) (segs : List Octets) : State :=
  { s with sendActive := Function.update s.sendActive (s.reqs r).invokeID (some r) }.setPc r
    (.sending segs {} false)

def giveUp (cfg : Config) (s : State) (r : Rid) (cause : ReqErr) : State :=
  s.exit r (wrapOutcomeUnknown (s.reqs r).spec.service cause) cfg.apduTimeout

def sendSegment (cfg : Config) (s : State) (r : Rid) (segs : List Octets) (loop : SendLoop) :
    Choice → Option State
  | .go =>
    if loop.done segs.length then some (s.setPc r .segmentsSent)
    else if !loop.maySend segs.length then some (s.setPc r (.sending segs loop true))
    else if !(s.reqs r).sent then some (s.updReq r fun q => { q with sent := true })
    else some ((s.attempt r).setPc r (.sending segs loop.sent false))
  | .fail =>
    if loop.done segs.length || !loop.maySend segs.length || !(s.reqs r).sent then none
    else some ((s.attempt r).giveUp cfg r .transport)
  | _ => none

def awaitSegmentACK (cfg : Config) (s : State) (r : Rid) (segs : List Octets) (loop : SendLoop) :
    Choice → Option State
  | .context => some (s.giveUp cfg r (GiveUp.context.cause (s.reqs r).invokeID))
  | .closed => if s.closed then some (s.giveUp cfg r (GiveUp.closed.cause (s.reqs r).invokeID)) else none
  | .timer => some (s.giveUp cfg r (GiveUp.timer.cause (s.reqs r).invokeID))
  | .ack =>
    match (s.reqs r).ackCh with
    | [] => none
    | ack :: rest =>
      let s := s.updReq r fun q => { q with ackCh := rest }
      match loop.onAck cfg.retryCount (s.reqs r).invokeID (s.reqs r).spec.service ack with
      | .waiting loop => some (s.setPc r (.sending segs loop true))
      | .progress loop => some (s.setPc r (.sending segs loop false))
      | .aborted _ err => some (s.exit r err cfg.apduTimeout)
  | _ => none

/-- Waiting for the answer resumes after the last segment was acknowledged. -/
def enterAwaitingResponse (s : State) (r : Rid) : State :=
  match s.inUse (s.reqs r).invokeID with
  | none => s.setPc r .awaitResult
  | some t => (s.updReq t fun q => { q with phase := .awaitingInitial, timerArmed := true }).setPc r .waiting

/-- The unsegmented request is sent. -/
def transmit (s : State) (r : Rid) : Choice → Option State
  | .go => some ((s.attempt r).setPc r .waiting)
  | .fail =>
    let spec := (s.reqs r).spec
    some ((s.attempt r).exit r (spec.opts.maybeUnknown spec.service .transport true) 0)
  | _ => none

/-- The result of the transaction is taken from its channel. -/
def takeResult (s : State) (r : Rid) : Option State :=
  match (s.reqs r).result with
  | some res => some (s.setPc r (.cleanup res.out false))
  | none => none

/-- The final wait of a request. -/
def await (cfg : Config) (s : State) (r : Rid) : Choice → Option State
  | .context =>
    let q := s.reqs r
    some (s.exit r (q.spec.opts.maybeUnknown q.spec.service .context q.sent) cfg.apduTimeout)
  | .closed =>
    let q := s.reqs r
    if s.closed then some (s.exit r (q.spec.opts.maybeUnknown q.spec.service .closed q.sent) 0) else none
  | .timer =>
    if (s.reqs r).timerArmed then some (s.updReq r fun q => { q with timerArmed := false, pc := .timerFired })
    else none
  | .result => s.takeResult r
  | _ => none

/-- The APDU timer fired. -/
def onTimeout (cfg : Config) (s : State) (r : Rid) : State :=
  let q := s.reqs r
  match s.inUse q.invokeID with
  | none => s.setPc r .awaitResult
  | some t =>
    if (s.reqs t).phase = .receivingSegments ∨ (s.reqs t).phase = .sendingSegments then s.setPc r .waiting
    else if q.spec.opts.retransmit && (s.reqs t).retriesLeft > 0 then
      (s.updReq t fun q => { q with retriesLeft := q.retriesLeft - 1 }).setPc r .retransmitting
    else s.exit r (q.spec.opts.maybeUnknown q.spec.service .timeout q.sent) cfg.apduTimeout

/-- The APDU is sent again; a failure to send is only reported. -/
def retransmit (s : State) (r : Rid) : State :=
  (s.attempt r).updReq r fun q => { q with timerArmed := true, pc := .waiting }

/-- The next critical section of the request's own `finishTx`; who lost takes the result published
by the winner. -/
def finishRequest (s : State) (r : Rid) (f : Fin) : State :=
  match s.finish f with
  | (s, some f) => s.setPc r (.finishing f)
  | (s, none) => s.setPc r (if f.won then .cleanup f.out false else .awaitResult)

def cleanUp (s : State) (r : Rid) (out : Outcome) (segRemoved : Bool) : State :=
  if segRemoved then (s.unregister (s.reqs r).invokeID).setPc r (.returned out)
  else (s.removeSeg (s.reqs r).invokeID).updReq r fun q => { q with timerArmed := false, pc := .cleanup out true }

def requestStep (cfg : Config) (s : State) (r : Rid) (c : Choice) : Option State :=
  match (s.reqs r).pc, c with
  | .allocating, .go => some (s.allocate cfg r)
  | .allocating, .context => some (s.setPc r (.returned (.failed .context)))
  | .allocating, .closed => if s.closed then some (s.setPc r (.returned (.failed .closed))) else none
  | .reserved, .go => some (s.registerTx cfg r)
  | .registered, .go => some (s.prepare cfg r)
  | .enterSending segs, .go => some (s.enterSendingSegments r segs)
  | .registerSender segs, .go => some (s.registerSender r segs)
  | .sending segs loop false, c => s.sendSegment cfg r segs loop c
  | .sending segs loop true, c => s.awaitSegmentACK cfg r segs loop c
  | .segmentsSent, .go => some ((s.unregister (s.reqs r).invokeID).setPc r .enterAwaiting)
  | .enterAwaiting, .go => some (s.enterAwaitingResponse r)
  | .transmit, c => s.transmit r c
  | .waiting, c => s.await cfg r c
  | .timerFired, .go => some (s.onTimeout cfg r)
  | .retransmitting, .go => some (s.retransmit r)
  | .finishing f, .go => some (s.finishRequest r f)
  | .awaitResult, .result => s.takeResult r
  | .cleanup out segRemoved, .go => some (s.cleanUp r out segRemoved)
  | _, _ => none

/-! ## The receive loop -/

def responseID : PDU → Option UInt8
  | .simpleACK ack => some ack.invokeID
  | .complexACK ack => some ack.invokeID
  | .error e => some e.invokeID
  | .reject r => some r.invokeID
  | .abort a => some a.invokeID
  | _ => none

/-- Whether the service choice of a response allows it to end a transaction of this service. An Error
for another service still ends it, and a Reject or Abort carries no service choice. -/
def serviceMatches (service : UInt8) : PDU → Bool
  | .simpleACK ack => service == ack.serviceChoice
  | .complexACK ack => service == ack.serviceChoice
  | _ => true

def responseOutcome : PDU → Outcome
  | .error e => .peerError (.errorResponse e.invokeID e.serviceChoice e.payload)
  | .reject r => .peerError (.reject r.invokeID r.reason)
  | .abort a => .peerError (.abort a.invokeID a.server a.reason)
  | pdu => .answer pdu

def responseFin (cfg : Config) (id : UInt8) (forTx : Rid) (pdu : PDU) : Fin :=
  { id, forTx, out := responseOutcome pdu, quarantine := cfg.apduTimeout }

/-- The end of `handleConfirmedResponse` for a response that is whole. `found` is the transaction
that its last segment was matched with, for a segmented one. -/
def respond (cfg : Config) (s : State) (pdu : PDU) (src : PacketSource) (found : Option Rid) : State :=
  let s := { s with rx := .idle }
  match responseID pdu with
  | none => s
  | some id =>
    match s.inUse id with
    | none => s
    | some r =>
      let q := s.reqs r
      if matchTargetSource q.spec.target src && serviceMatches q.spec.service pdu then
        { s with rx := .finishing (responseFin cfg id (found.getD r) pdu) }.updReq r fun q =>
          { q with answered := true }
      else s

/-- An error that the receive loop ends a transaction with. -/
def rxFail (cfg : Config) (s : State) (id : UInt8) (found : Rid) (err : ReqErr) : State :=
  { s with rx := .finishing { id, forTx := found, out := .failed err, quarantine := cfg.apduTimeout } }

def lookupSegment (cfg : Config) (s : State) (ack : ComplexACK) (src : PacketSource) : State :=
  match s.inUse ack.invokeID with
  | none => s
  | some r =>
    let q := s.reqs r
    if !matchTargetSource q.spec.target src then s
    else if q.spec.service ≠ ack.serviceChoice then s.rxFail cfg ack.invokeID r .protocolViolation
    else { s with rx := .accepting ack src r }

def lookupSender (s : State) (ack : SegmentACK) (src : PacketSource) : State :=
  if !ack.server then s
  else
    match s.sendActive ack.invokeID with
    | none => s
    | some r => if matchTargetSource (s.reqs r).spec.target src then { s with rx := .delivering ack r } else s

/-- A PDU was received. Requests from the network touch no transaction. -/
def receive (cfg : Config) (s : State) (pdu : PDU) (src : PacketSource) : Option State :=
  if s.rx ≠ .idle then none
  else
    match pdu with
    | .complexACK ack => some (if ack.segmentedMessage then s.lookupSegment cfg ack src
        else s.respond cfg pdu src none)
    | .segmentACK ack => some (s.lookupSender ack src)
    | pdu => some (s.respond cfg pdu src none)

def receiveWindow (cfg : Config) : UInt8 :=
  if validWindow cfg.segmentReceiveWindow then cfg.segmentReceiveWindow else defaultSegmentReceiveWindow

def segEntry (s : State) (id : UInt8) : Option Seg := (s.segActive id).bind s.segs

/-- The first segment of an answer starts a reassembly: the APDU timer stops, retransmission ends,
and a goroutine watches the segment timer. -/
def openSeg (cfg : Config) (s : State) (ack : ComplexACK) (src : PacketSource) (found owner : Rid) : State :=
  { s with
    segActive := Function.update s.segActive ack.invokeID (some s.nextSid)
    segs := Function.update s.segs s.nextSid
      (some { st := newSegState cfg.limits (receiveWindow cfg) (s.reqs found).spec.target.address ack src, owner })
    nextSid := s.nextSid + 1 }.updReq owner fun q =>
      { q with phase := .receivingSegments, retriesLeft := 0, timerArmed := false }

/-- The reassembly that a segment meets: the one of its invoke ID, or a new one for segment 0 of a
pending transaction. -/
def ensureSeg (cfg : Config) (s : State) (ack : ComplexACK) (src : PacketSource) (found : Rid) : State :=
  match s.segEntry ack.invokeID, s.inUse ack.invokeID with
  | none, some owner => if ack.sequenceNumber = 0 then s.openSeg cfg ack src found owner else s
  | _, _ => s

def storeSeg (s : State) (id : UInt8) : Option SegState → State
  | some st =>
    match s.segActive id with
    | some sid => s.updSeg sid fun g => { g with st }
    | none => s
  | none => s.removeSeg id

def segmentStep (cfg : Config) (s : State) (ack : ComplexACK) (src : PacketSource) (found : Rid) : AcceptStep :=
  acceptSegment cfg.limits (receiveWindow cfg) (s.reqs found).spec.target.address
    (s.inUse ack.invokeID).isSome ((s.segEntry ack.invokeID).map Seg.st) ack src

def wholeAnswer (s : State) (ack : ComplexACK) (payload : Octets) : ComplexACK where
  invokeID := ack.invokeID
  serviceChoice := ((s.segEntry ack.invokeID).map fun g => g.st.service).getD ack.serviceChoice
  payload := payload

def storeSegment (cfg : Config) (s : State) (ack : ComplexACK) (src : PacketSource) (found : Rid) : State :=
  (s.ensureSeg cfg ack src found).storeSeg ack.invokeID (s.segmentStep cfg ack src found).entry

/-- The critical section of `accept`. -/
def accept (cfg : Config) (s : State) (ack : ComplexACK) (src : PacketSource) (found : Rid) : State :=
  let stored := s.storeSegment cfg ack src found
  match (s.segmentStep cfg ack src found).result with
  | .pending => { stored with rx := .idle }
  | .failed err => stored.rxFail cfg ack.invokeID found err
  | .complete payload =>
    { stored with rx := .completed (s.wholeAnswer ack payload) src found }

/-- The SegmentACK is put in the channel of the sender unless the channel is full. -/
def deliver (s : State) (ack : SegmentACK) (dest : Rid) : State :=
  { s with rx := .idle }.updReq dest fun q =>
    if q.ackCh.length < ackChCap then { q with ackCh := q.ackCh ++ [ack] } else q

/-- The receive loop goes on with the packet it is handling. -/
def rxStep (cfg : Config) (s : State) : Option State :=
  match s.rx with
  | .idle => none
  | .accepting ack src found => some (s.accept cfg ack src found)
  | .completed ack src found => some (s.respond cfg (.complexACK ack) src (some found))
  | .delivering ack dest => some (s.deliver ack dest)
  | .finishing f =>
    match s.finish f with
    | (s, some f) => some { s with rx := .finishing f }
    | (s, none) => some { s with rx := .idle }

/-! ## The timer goroutine of a reassembly -/

def setWatch (s : State) (sid : Sid) (w : Watch) : State := s.updSeg sid fun g => { g with watch := w }

def timeoutFin (cfg : Config) (g : Seg) : Fin where
  id := g.st.invokeID
  forTx := g.owner
  out := .failed (.abort g.st.invokeID false abortReasonTSMTimeout)
  quarantine := cfg.apduTimeout

/-- The segment timer fired: a reassembly that is still the active one is given up. -/
def reassemblyTimeout (cfg : Config) (s : State) (sid : Sid) (g : Seg) : State :=
  if s.segActive g.st.invokeID = some sid then
    (s.removeSeg g.st.invokeID).setWatch sid (.finishing (timeoutFin cfg g))
  else s.setWatch sid .exited

def watchStep (cfg : Config) (s : State) (sid : Sid) (timer : Bool) : Option State :=
  match s.segs sid with
  | none => none
  | some g =>
    match g.watch with
    | .waiting =>
      if timer then
        if g.timerArmed then some (s.updSeg sid fun g => { g with timerArmed := false, watch := .fired }) else none
      else if g.done then some (s.setWatch sid .exited) else none
    | .fired => some (s.reassemblyTimeout cfg sid g)
    | .finishing f =>
      match s.finish f with
      | (s, some f) => some (s.setWatch sid (.finishing f))
      | (s, none) => some (s.setWatch sid .exited)
    | .exited => none

/-! ## Close -/

/-- The transactions that are pending are removed from the manager. -/
def abortAll (s : State) : State :=
  { s with
    inUse := fun _ => none
    released := fun id => if (s.inUse id).isSome then some s.now else s.released id
    closer := .publishing (allIDs.filterMap s.inUse) }

/-- Every reassembly is removed. -/
def abortAllSegs (s : State) : State :=
  let removed := allIDs.foldl removeSeg s
  { removed with closer := .abortSend }

def publishClosed (s : State) (r : Rid) (pending : List Rid) : State :=
  let q := s.reqs r
  let err := if q.sent then wrapOutcomeUnknown q.spec.service .closed else .closed
  { s with closer := .publishing (pending.erase r) }.publish r ⟨r, .failed err⟩

def closeStep (s : State) : Option Rid → Option State
  | none =>
    match s.closer with
    | .idle => some { s with closed := true, closer := .abortTx }
    | .abortTx => some s.abortAll
    | .publishing [] => some { s with closer := .abortSeg }
    | .abortSeg => some s.abortAllSegs
    | .abortSend => some { s with sendActive := fun _ => none, closer := .finished }
    | _ => none
  | some r =>
    match s.closer with
    | .publishing pending => if r ∈ pending then some (s.publishClosed r pending) else none
    | _ => none

def step (cfg : Config) (s : State) : Action → Option State
  | .tick d => some { s with now := s.now + d }
  | .start r spec =>
    if (s.reqs r).pc = .idle then
      some (s.updReq r fun q => { q with spec := (s.preflight spec).1, pc := (s.preflight spec).2 })
    else none
  | .request r c => s.requestStep cfg r c
  | .receive pdu src => s.receive cfg pdu src
  | .rx => s.rxStep cfg
  | .watch sid timer => s.watchStep cfg sid timer
  | .close r => s.closeStep r

/-- A client that has just been created. -/
def init : State where
  reqs := fun _ => { spec := { target := { address := {}, endpoint := {} }, service := 0, payload := [] } }

end State

end GoBacnet.Client
