import GoBacnet.Address
import GoBacnet.Lib.Index

/-!
# The registry of observed devices

Device announcements, kept by device instance and path, with a time to live and two capacity limits.
-/

namespace GoBacnet.Client

/-! ## Capabilities -/

inductive CapabilitySource
  | unknown
  | fromIAm
  | fromDeviceObject
  | userOverride
  | conservativeFallback
  deriving DecidableEq, Repr

structure Capability (α : Type) where
  value : α
  known : Bool := false
  source : CapabilitySource := .unknown
  deriving DecidableEq, Repr

structure DeviceCapabilities where
  maxAPDULengthAccepted : Capability UInt16 := { value := 0 }
  segmentation : Capability UInt8 := { value := 0 }
  maxSegmentsAccepted : Capability UInt8 := { value := 0 }
  protocolVersion : Capability UInt8 := { value := 0 }
  protocolRevision : Capability UInt8 := { value := 0 }
  vendorID : Capability UInt16 := { value := 0 }
  deriving DecidableEq, Repr

def capabilityRank : CapabilitySource → Nat
  | .userOverride => 4
  | .fromDeviceObject => 3
  | .fromIAm => 2
  | .conservativeFallback => 1
  | .unknown => 0

def mergeCap {α : Type} (dst src : Capability α) : Capability α :=
  if !src.known then dst
  else if !dst.known || capabilityRank src.source ≥ capabilityRank dst.source then src
  else dst

def mergeCapabilities (dst src : DeviceCapabilities) : DeviceCapabilities where
  maxAPDULengthAccepted := mergeCap dst.maxAPDULengthAccepted src.maxAPDULengthAccepted
  segmentation := mergeCap dst.segmentation src.segmentation
  maxSegmentsAccepted := mergeCap dst.maxSegmentsAccepted src.maxSegmentsAccepted
  protocolVersion := mergeCap dst.protocolVersion src.protocolVersion
  protocolRevision := mergeCap dst.protocolRevision src.protocolRevision
  vendorID := mergeCap dst.vendorID src.vendorID

/-! ## Observations -/

structure DeviceObservation where
  instanceNumber : UInt32
  address : Address
  origin : Endpoint
  immediatePeer : Endpoint
  lastSeen : Int
  capabilities : DeviceCapabilities := {}
  deriving DecidableEq

def addressText (a : Address) : AddressScope × UInt16 × Octets :=
  match a.scope with
  | .localStation => (.localStation, 0, a.mac.octets)
  | .localBroadcast => (.localBroadcast, 0, [])
  | .remoteStation => (.remoteStation, a.network, a.mac.octets)
  | .remoteBroadcast => (.remoteBroadcast, a.network, [])
  | .globalBroadcast => (.globalBroadcast, 0, [])

def endpointText (e : Endpoint) : Option Endpoint :=
  match e.addr with
  | .none => none
  | _ => some e

structure ObservationKey where
  instanceNumber : UInt32
  addr : AddressScope × UInt16 × Octets
  origin : Option Endpoint
  peer : Option Endpoint
  deriving DecidableEq

def keyOf (o : DeviceObservation) : ObservationKey where
  instanceNumber := o.instanceNumber
  addr := addressText o.address
  origin := endpointText o.origin
  peer := endpointText o.immediatePeer

/-! ## The registry -/

def defaultMaxObservations : Int := 4096
def defaultMaxPathsPerInstance : Int := 8
/-- Thirty minutes, in nanoseconds. -/
def defaultObservationTTL : Int := 1800000000000

/-- The limits of the registry. Zero selects the default, a negative value none. -/
structure RegistryOptions where
  maxObservations : Int := 0
  maxPathsPerInstance : Int := 0
  observationTTL : Int := 0
  deriving DecidableEq, Repr

def RegistryOptions.withDefaults (o : RegistryOptions) : RegistryOptions where
  maxObservations := if o.maxObservations = 0 then defaultMaxObservations else o.maxObservations
  maxPathsPerInstance := if o.maxPathsPerInstance = 0 then defaultMaxPathsPerInstance else o.maxPathsPerInstance
  observationTTL := if o.observationTTL = 0 then defaultObservationTTL else o.observationTTL

structure Registry where
  byKey : Table ObservationKey DeviceObservation := ∅
  byInstance : Table UInt32 (List ObservationKey) := ∅
  opts : RegistryOptions

def newRegistry (opts : RegistryOptions) : Registry := { opts := opts.withDefaults }

abbrev ObservationOrder := RangeOrder (Σ _ : ObservationKey, DeviceObservation)

inductive EvictionReason
  | maxPathsPerInstance
  | maxObservations
  deriving DecidableEq, Repr

/-- An observation that a limit removes, and the registry it is removed from. -/
structure Eviction where
  reason : EvictionReason
  instanceNumber : UInt32
  victim : ObservationKey
  before : Registry

namespace Registry

def keys (r : Registry) (instanceNumber : UInt32) : List ObservationKey := Index.keys r.byInstance instanceNumber

def removeKeyLocked (r : Registry) (k : ObservationKey) : Registry :=
  { r with byKey := r.byKey.erase k, byInstance := Index.remove ObservationKey.instanceNumber r.byInstance k }

def considered (order : ObservationOrder) (r : Registry) (keys : Option (List ObservationKey)) :
    List (ObservationKey × Int) :=
  (keys.getD ((order.arrange r.byKey.entries).map fun e => e.1)).filterMap fun k =>
    (r.byKey.lookup k).map fun o => (k, o.lastSeen)

def leastRecentlySeenLocked (order : ObservationOrder) (r : Registry) (keys : Option (List ObservationKey)) :
    Option ObservationKey :=
  ((r.considered order keys).minOn? fun c => c.2).map fun c => c.1

/-- Removes the least recently seen candidate while there are too many observations. Each round removes one, so
their number bounds the rounds. -/
def evictWhile (order : ObservationOrder) (full : Registry → Bool)
    (candidates : Registry → Option (List ObservationKey)) (report : ObservationKey → EvictionReason × UInt32) :
    Nat → Registry → Registry × List Eviction
  | 0, r => (r, [])
  | rounds + 1, r =>
    if full r then
      match r.leastRecentlySeenLocked order (candidates r) with
      | none => (r, [])
      | some victim =>
        let rest := evictWhile order full candidates report rounds (r.removeKeyLocked victim)
        (rest.1, ⟨(report victim).1, (report victim).2, victim, r⟩ :: rest.2)
    else (r, [])

def pathsFull (instanceNumber : UInt32) (r : Registry) : Bool :=
  r.opts.maxPathsPerInstance ≤ (r.keys instanceNumber).length

def observationsFull (r : Registry) : Bool := r.opts.maxObservations ≤ Table.size r.byKey

/-- Makes room for one more path to an instance. -/
def enforcePaths (order : ObservationOrder) (r : Registry) (instanceNumber : UInt32) : Registry × List Eviction :=
  if 0 < r.opts.maxPathsPerInstance then
    evictWhile order (pathsFull instanceNumber) (fun r => some (r.keys instanceNumber))
      (fun _ => (.maxPathsPerInstance, instanceNumber)) (Table.size r.byKey) r
  else (r, [])

/-- Makes room for one more observation. -/
def enforceObservations (order : ObservationOrder) (r : Registry) : Registry × List Eviction :=
  if 0 < r.opts.maxObservations then
    evictWhile order observationsFull (fun _ => none) (fun victim => (.maxObservations, victim.instanceNumber))
      (Table.size r.byKey) r
  else (r, [])

def enforceCapacityLocked (order : ObservationOrder) (r : Registry) (instanceNumber : UInt32) :
    Registry × List Eviction :=
  let paths := r.enforcePaths order instanceNumber
  let all := paths.1.enforceObservations order
  (all.1, paths.2 ++ all.2)

/-- Whether an observation is too old to be kept. -/
def expired (r : Registry) (now : Int) (o : DeviceObservation) : Bool :=
  0 < r.opts.observationTTL && r.opts.observationTTL ≤ now - o.lastSeen

def expireLocked (r : Registry) (now : Int) : Registry :=
  (r.byKey.entries.filter fun e => r.expired now e.2).foldl (fun r e => r.removeKeyLocked e.1) r

def store (r : Registry) (o : DeviceObservation) : Registry :=
  { r with
    byKey := r.byKey.insert (keyOf o) o
    byInstance := Index.add ObservationKey.instanceNumber r.byInstance (keyOf o) }

/-- Records or refreshes an observation. The observations that make room for it are reported. -/
def upsert (order : ObservationOrder) (r : Registry) (o : DeviceObservation) (now : Int) : Registry × List Eviction :=
  let o := { o with lastSeen := now }
  let r := r.expireLocked now
  match r.byKey.lookup (keyOf o) with
  | some old => (r.store { o with capabilities := mergeCapabilities old.capabilities o.capabilities }, [])
  | none =>
    let room := r.enforceCapacityLocked order o.instanceNumber
    (room.1.store o, room.2)

structure Upsert where
  order : ObservationOrder
  observation : DeviceObservation
  now : Int

def step (r : Registry) (a : Upsert) : Option Registry := some (r.upsert a.order a.observation a.now).1

end Registry

end GoBacnet.Client
