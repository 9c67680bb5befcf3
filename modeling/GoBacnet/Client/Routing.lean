import GoBacnet.Client.SegmentReceive
import GoBacnet.Lib.Table
import GoBacnet.Npdu

/-!
# The router cache

The next hops that the client has learned for remote networks, and what each network-layer message does to them.
-/

namespace GoBacnet.Client

inductive RouteSource
  | learned
  | manual
  deriving DecidableEq, Repr

inductive RouteState
  | available
  | busy
  | rejected
  | expired
  deriving DecidableEq, Repr

structure Route where
  network : UInt16
  nextHop : Endpoint
  learnedAt : Int
  lastSeen : Int
  busyUntil : Option Int := none
  state : RouteState := .available
  rejectReason : UInt8 := 0
  rejectedAt : Option Int := none
  source : RouteSource := .learned
  deriving DecidableEq, Repr

structure RouterCache where
  byNet : Table UInt16 (List Route) := ∅
  /-- Ten minutes, in nanoseconds. -/
  ttl : Int := 600000000000
  maxPerNet : Nat := 8
  maxGlobal : Nat := 256
  busyDuration : Int := 30000000000

namespace RouterCache

def routes (r : RouterCache) (network : UInt16) : List Route := (r.byNet.lookup network).getD []

def setRoutes (r : RouterCache) (network : UInt16) (rs : List Route) : RouterCache :=
  { r with byNet := r.byNet.insert network rs }

def total (r : RouterCache) : Nat := Table.weight List.length r.byNet

def candidates (order : RangeOrder (Σ _ : UInt16, List Route)) (r : RouterCache) : List (UInt16 × Nat × Route) :=
  (order.arrange r.byNet.entries).flatMap fun e =>
    (e.2.zipIdx.filter fun (rt, _) => rt.source ≠ .manual).map fun (rt, i) => (e.1, i, rt)

def drop (r : RouterCache) (network : UInt16) (i : Nat) : RouterCache :=
  let rs := (r.routes network).eraseIdx i
  if rs.length = 0 then { r with byNet := r.byNet.erase network } else r.setRoutes network rs

/-- Drops the oldest learned routes, one in each round, while there are too many. -/
def enforceGlobal (order : RangeOrder (Σ _ : UInt16, List Route)) : Nat → RouterCache → RouterCache
  | 0, r => r
  | rounds + 1, r =>
    match (r.candidates order).minOn? fun c => c.2.2.lastSeen with
    | none => r
    | some (network, i, _) => enforceGlobal order rounds (r.drop network i)

def enforceGlobalLocked (order : RangeOrder (Σ _ : UInt16, List Route)) (r : RouterCache) : RouterCache :=
  enforceGlobal order (r.total - r.maxGlobal) r

def upsertLearned (order : RangeOrder (Σ _ : UInt16, List Route)) (r : RouterCache) (network : UInt16)
    (nextHop : Endpoint) (now : Int) : RouterCache :=
  let rs := r.routes network
  match rs.findIdx? fun rt => rt.nextHop = nextHop with
  | some i =>
    r.setRoutes network (rs.modify i fun rt =>
      { rt with lastSeen := now, state := .available, busyUntil := none, rejectReason := 0 })
  | none =>
    let rs := rs ++ [{ network, nextHop, learnedAt := now, lastSeen := now }]
    (r.setRoutes network (rs.drop (rs.length - r.maxPerNet))).enforceGlobalLocked order

def concerns (nextHop : Endpoint) (rt : Route) : Bool := rt.nextHop = nextHop || !nextHop.isValid

/-- Marks the routes to a network that a message is about. -/
def mark (r : RouterCache) (network : UInt16) (nextHop : Endpoint) (f : Route → Route) : RouterCache :=
  r.setRoutes network ((r.routes network).map fun rt => if concerns nextHop rt then f rt else rt)

def markBusy (r : RouterCache) (networks : List UInt16) (nextHop : Endpoint) (now : Int) : RouterCache :=
  networks.foldl (fun r network => r.mark network nextHop fun rt =>
    { rt with state := .busy, busyUntil := some (now + r.busyDuration), lastSeen := now }) r

def markAvailable (r : RouterCache) (networks : List UInt16) (nextHop : Endpoint) (now : Int) : RouterCache :=
  networks.foldl (fun r network => r.mark network nextHop fun rt =>
    { rt with state := .available, busyUntil := none, lastSeen := now }) r

def markRejected (r : RouterCache) (network : UInt16) (nextHop : Endpoint) (reason : UInt8) (now : Int) : RouterCache :=
  r.mark network nextHop fun rt =>
    { rt with state := .rejected, rejectReason := reason, rejectedAt := some now, lastSeen := now }

def Route.refresh (ttl now : Int) (rt : Route) : Route :=
  if ttl > 0 ∧ now - rt.lastSeen > ttl then { rt with state := .expired }
  else if rt.state = .busy ∧ rt.busyUntil.any fun t => t ≤ now then
    { rt with state := .available, busyUntil := none }
  else rt

def selectNextHop (r : RouterCache) (network : UInt16) (now : Int) : Option Endpoint × RouterCache :=
  let rs := r.routes network
  let rs' := rs.map (Route.refresh r.ttl now)
  let r := if rs' ≠ rs then r.setRoutes network rs' else r
  (((rs'.find? fun rt => rt.state = .available && rt.nextHop.isValid).map Route.nextHop), r)

def handleNetworkMessage (order : RangeOrder (Σ _ : UInt16, List Route)) (r : RouterCache) (n : Npdu.NPDU)
    (src : PacketSource) (now : Int) : RouterCache :=
  match n.netMsgType with
  | Npdu.netMsgIAmRouterToNetwork =>
    match Npdu.decodeNetworkList n.netMsgData with
    | .error _ => r
    | .ok nets => nets.foldl (fun r network => r.upsertLearned order network src.immediate now) r
  | Npdu.netMsgRouterBusyToNetwork =>
    match Npdu.decodeNetworkList n.netMsgData with
    | .error _ => r
    | .ok nets => r.markBusy nets src.immediate now
  | Npdu.netMsgRouterAvailableToNetwork =>
    match Npdu.decodeNetworkList n.netMsgData with
    | .error _ => r
    | .ok nets => r.markAvailable nets src.immediate now
  | Npdu.netMsgRejectMessageToNetwork =>
    match Npdu.decodeRejectMessageToNetwork n.netMsgData with
    | .error _ => r
    | .ok (reason, network) => r.markRejected network src.immediate reason now
  -- Who-Is-Router and I-Could-Be-Router messages and others leave the routes as they are.
  | _ => r

inductive Action
  | message (order : RangeOrder (Σ _ : UInt16, List Route)) (n : Npdu.NPDU) (src : PacketSource) (now : Int)
  | learn (order : RangeOrder (Σ _ : UInt16, List Route)) (network : UInt16) (nextHop : Endpoint) (now : Int)
  | select (network : UInt16) (now : Int)

def step (r : RouterCache) : Action → Option RouterCache
  | .message order n src now => some (r.handleNetworkMessage order n src now)
  | .learn order network nextHop now => some (r.upsertLearned order network nextHop now)
  | .select network now => some (r.selectNextHop network now).2

end RouterCache

end GoBacnet.Client
