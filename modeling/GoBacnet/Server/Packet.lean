import GoBacnet.Bvlc
import GoBacnet.Npdu
import GoBacnet.Server.Dcc
import GoBacnet.Server.Transactions
import Mathlib.Data.List.AList

/-!
# Inbound packets

What the receive loop does with one datagram: the virtual link function decides who sent it, the network layer
teaches routes and drops what is not for this device, and the APDU is answered, handed to a worker or passed on.
-/

namespace GoBacnet

open Bvlc

/-- The B/IP node that originated a message: the original source of a Forwarded-NPDU, else the sender. -/
def Link.origin (msg : Message) (immediate : Endpoint) : Endpoint := msg.originAddrPort.getD immediate

namespace Server

open Apdu Npdu

def rejectReasonInvalidTag : UInt8 := 4

/-! Unconfirmed services with a handler -/

def serviceIAm : UInt8 := 0
def serviceUnconfirmedPrivateTransfer : UInt8 := 4
def serviceUnconfirmedTextMessage : UInt8 := 5
def serviceTimeSynchronization : UInt8 := 6
def serviceWhoHas : UInt8 := 7
def serviceWhoIs : UInt8 := 8
def serviceUTCTimeSynchronization : UInt8 := 9
def serviceWriteGroup : UInt8 := 10

def unconfirmedServices : List UInt8 :=
  [serviceWhoIs, serviceWhoHas, serviceTimeSynchronization, serviceUTCTimeSynchronization,
    serviceUnconfirmedPrivateTransfer, serviceUnconfirmedTextMessage, serviceWriteGroup, serviceIAm]

/-- The application hooks that are set. -/
structure Hooks where
  privateTransfer : Bool := false
  textMessage : Bool := false
  timeSync : Bool := false
  writeGroup : Bool := false
  deriving DecidableEq, Repr

/-- Whether an unconfirmed service is served: those that act only through a hook need it. -/
def serviceEnabled (h : Hooks) (choice : UInt8) : Bool :=
  if choice = serviceUnconfirmedPrivateTransfer then h.privateTransfer
  else if choice = serviceUnconfirmedTextMessage then h.textMessage
  else if choice = serviceTimeSynchronization ∨ choice = serviceUTCTimeSynchronization then h.timeSync
  else if choice = serviceWriteGroup then h.writeGroup
  else true

/-! ## Routes -/

def maxRoutes : Nat := 64

abbrev Routes := AList fun _ : UInt16 => Endpoint

namespace Routes

def learn (routes : Routes) (network : UInt16) (router : Endpoint) : Routes :=
  if network = 0 ∨ network = 0xFFFF ∨ !router.isValid then routes
  else if network ∉ routes ∧ routes.entries.length ≥ maxRoutes then routes
  else routes.insert network router

end Routes

/-- The routes that an inbound NPDU reveals; `router` is the B/IP node that sent it. -/
def learnRoutes (routes : Routes) (n : NPDU) (router : Endpoint) : Routes :=
  let routes := if n.source.scope = .remoteStation then routes.learn n.source.network router else routes
  if n.networkMessage ∧ n.netMsgType = netMsgIAmRouterToNetwork then
    match decodeNetworkList n.netMsgData with
    | .ok nets => nets.foldl (fun routes net => routes.learn net router) routes
    | .error _ => routes
  else routes

/-! ## The receive loop -/

/-- A broadcast management device that shares the endpoint: whether the NPDU of a message is also for the local
device, and the node that originated it. -/
abbrev BBMD := Message → Endpoint → Bool × Endpoint

structure Settings where
  cfg : Config := {}
  device : ObjectIdentifier
  hooks : Hooks := {}
  bbmd : Option BBMD := none

/-- The state that the receive loop reads and writes. -/
structure Core where
  dcc : Dcc := {}
  routes : Routes := ∅
  resp : Responder := {}

structure InboundPacket where
  data : Octets
  immediatePeer : Endpoint
  deriving DecidableEq, Repr

/-- What handling a packet leads to. -/
inductive Output
  | bvlcResult (destination : Endpoint) (code : UInt16)
  /-- The message goes to the broadcast management device. -/
  | bbmd (msg : Message) (sender : Endpoint)
  /-- An APDU is sent back. -/
  | reply (p : Peer) (apdu : Octets)
  /-- A worker executes the request. -/
  | confirmed (ref : Ref) (req : ConfirmedRequest)
  | unconfirmed (req : UnconfirmedRequest) (p : Peer)
  /-- A segment of a reply is acknowledged. -/
  | segmentACK (ack : SegmentACK) (p : Peer)
  /-- An answer to a request of the server itself. -/
  | response (pdu : PDU) (p : Peer)
  deriving DecidableEq

/-- An answer to a request, or a request that a worker answers. -/
def Output.answers : Output → Bool
  | .reply .. | .confirmed .. | .unconfirmed .. => true
  | _ => false

def nakFor (fn : Function) : UInt16 :=
  match fn with
  | functionWriteBroadcastDistributionTable => resultWriteBroadcastDistributionTableNAK
  | functionReadBroadcastDistributionTable => resultReadBroadcastDistributionTableNAK
  | functionRegisterForeignDevice => resultRegisterForeignDeviceNAK
  | functionReadForeignDeviceTable => resultReadForeignDeviceTableNAK
  | functionDeleteForeignDeviceTableEntry => resultDeleteForeignDeviceTableEntryNAK
  | _ => resultDistributeBroadcastToNetworkNAK

/-- A function that carries a broadcast. -/
def arriveBroadcast (s : Settings) (msg : Message) (immediate : Endpoint) : List Output × Option Peer :=
  let p : Peer := { immediate, origin := immediate, broadcast := true }
  match s.bbmd with
  | some handleBVLC =>
    let (deliver, origin) := handleBVLC msg immediate
    ([.bbmd msg immediate], if deliver then some { p with origin } else none)
  | none =>
    if msg.function = functionForwardedNPDU then ([], some { p with origin := Link.origin msg immediate })
    else if msg.function = functionDistributeBroadcastToNetwork then
      ([.bvlcResult immediate resultDistributeBroadcastToNetworkNAK], none)
    else ([], some p)

/-- A function that reads or changes the tables of a broadcast management device. -/
def arriveTable (s : Settings) (msg : Message) (immediate : Endpoint) : List Output × Option Peer :=
  match s.bbmd with
  | some _ => ([.bbmd msg immediate], none)
  | none => ([.bvlcResult immediate (nakFor msg.function)], none)

/-- What the function of a message asks for, and its sender if it carries an NPDU for this device. -/
def arrive (s : Settings) (msg : Message) (immediate : Endpoint) : List Output × Option Peer :=
  match msg.function with
  | functionOriginalUnicastNPDU => ([], some { immediate, origin := immediate })
  | functionOriginalBroadcastNPDU | functionForwardedNPDU | functionDistributeBroadcastToNetwork =>
    arriveBroadcast s msg immediate
  | functionRegisterForeignDevice | functionReadBroadcastDistributionTable | functionWriteBroadcastDistributionTable
  | functionReadForeignDeviceTable | functionDeleteForeignDeviceTableEntry => arriveTable s msg immediate
  -- Answers to requests that a server does not send.
  | _ => ([], none)

/-- The network layer of a packet: the routes afterwards, and the APDU for this device with its sender. -/
def network (s : Settings) (routes : Routes) (p : Peer) (payload : Octets) : Routes × Option (Peer × Octets) :=
  if !p.origin.isValid ∨ payload = [] then (routes, none)
  else
    match Npdu.parse payload s.cfg.limits with
    | .error _ => (routes, none)
    | .ok (n, _) =>
      let routes := learnRoutes routes n p.origin
      if n.networkMessage then (routes, none)
      -- A DNET other than the global broadcast is traffic for another network.
      else if n.destination.scope = .remoteStation ∨ n.destination.scope = .remoteBroadcast then (routes, none)
      else
        let p := if n.destination.scope = .globalBroadcast then { p with broadcast := true } else p
        let p := if n.source.scope = .remoteStation then { p with source := n.source } else p
        if n.apdu = [] then (routes, none) else (routes, some (p, n.apdu))

def rejectReply (invokeID reason : UInt8) : Octets := appendReject [] ⟨invokeID, reason⟩

/-- A confirmed request that arrived: its answers and the request for a worker. A request that the queue does not
take is refused and its transaction removed. -/
def confirmedOutputs (s : Settings) (now : Nat) (room : Bool) (core : Core) (req : ConfirmedRequest) (p : Peer) :
    Core × List Output :=
  let received := core.resp.confirmed s.cfg now req p
  let replies := received.replies.map (Output.reply p)
  match received.execute with
  | none => ({ core with resp := received.responder }, replies)
  | some (ref, req) =>
    if room then ({ core with resp := received.responder }, replies ++ [.confirmed ref req])
    else
      match received.responder.heap[ref]? with
      | none => ({ core with resp := received.responder }, replies)
      | some t =>
        ({ core with resp := received.responder.delete t.key },
          replies ++ [.reply t.peer (abortReply req.invokeID abortReasonOutOfResources)])

/-- A PDU on the receive loop; `room` says whether the queue of the workers takes one more. -/
def dispatch (s : Settings) (now : Nat) (room : Bool) (core : Core) (pdu : PDU) (p : Peer) : Core × List Output :=
  match pdu with
  | .confirmedRequest req =>
    let core' := { core with dcc := core.dcc.expire now }
    if core.dcc.respondsTo now req.serviceChoice then confirmedOutputs s now room core' req p else (core', [])
  | .unconfirmedRequest req =>
    let core' := { core with dcc := core.dcc.expire now }
    if !core.dcc.respondsTo now 0xFF then (core', [])
    else if req.serviceChoice ∉ unconfirmedServices ∨ !serviceEnabled s.hooks req.serviceChoice then (core', [])
    else (core', if room then [.unconfirmed req p] else [])
  | .segmentACK ack => (core, [.segmentACK ack p])
  | .abort a =>
    if a.server then (core, [.response pdu p])
    else ({ core with resp := core.resp.abortFromClient a.invokeID p }, [])
  | .simpleACK _ | .complexACK _ | .error _ | .reject _ => (core, [.response pdu p])

def rejectable (apdu : Octets) : Bool :=
  match apdu with
  | b0 :: _ :: _ :: _ :: _ => b0 &&& 0xF0 = typeConfirmedRequest && b0 &&& 0x08 = 0
  | _ => false

/-- The application layer of a packet. A confirmed request that does not parse but has a header is answered with
a Reject so that the requester does not retry into silence. -/
def application (s : Settings) (now : Nat) (room : Bool) (core : Core) (p : Peer) (apdu : Octets) :
    Core × List Output :=
  match Apdu.parse apdu s.cfg.limits with
  | .error _ =>
    (core, if rejectable apdu then [.reply p (rejectReply (apdu[2]?.getD 0) rejectReasonInvalidTag)] else [])
  | .ok pdu => dispatch s now room core pdu p

/-- The APDU for this device that a packet carries, with its sender. -/
def inbound (s : Settings) (routes : Routes) (pkt : InboundPacket) : Routes × List Output × Option (Peer × Octets) :=
  match Bvlc.parse pkt.data s.cfg.limits with
  | .error _ => (routes, [], none)
  | .ok msg =>
    match arrive s msg pkt.immediatePeer with
    | (outputs, none) => (routes, outputs, none)
    | (outputs, some p) =>
      let (routes, carried) := network s routes p msg.payload
      (routes, outputs, carried)

def handlePacket (s : Settings) (now : Nat) (room : Bool) (core : Core) (pkt : InboundPacket) : Core × List Output :=
  let (routes, outputs, carried) := inbound s core.routes pkt
  let core := { core with routes }
  match carried with
  | none => (core, outputs)
  | some (p, apdu) =>
    let (core, answers) := application s now room core p apdu
    (core, outputs ++ answers)

end Server

end GoBacnet
