import GoBacnet.Client.Registry

/-!
# The registry of observed objects

I-Have announcements, kept by device, object and path, with the retention options of the device registry.
-/

namespace GoBacnet.Client

structure ObjectObservation where
  deviceInstance : UInt32
  object : ObjectIdentifier
  name : CharacterString
  address : Address
  origin : Endpoint
  immediatePeer : Endpoint
  lastSeen : Int := 0
  deriving DecidableEq

structure ObjectKey where
  device : UInt32
  objType : UInt16
  instanceNumber : UInt32
  addr : AddressScope × UInt16 × Octets
  origin : Option Endpoint
  peer : Option Endpoint
  deriving DecidableEq

def objectKeyOf (o : ObjectObservation) : ObjectKey where
  device := o.deviceInstance
  objType := o.object.type
  instanceNumber := o.object.instanceNumber
  addr := addressText o.address
  origin := endpointText o.origin
  peer := endpointText o.immediatePeer

structure ObjectRegistry where
  byKey : Table ObjectKey ObjectObservation := ∅
  opts : RegistryOptions

def newObjectRegistry (opts : RegistryOptions) : ObjectRegistry := { opts := opts.withDefaults }

abbrev ObjectOrder := RangeOrder (Σ _ : ObjectKey, ObjectObservation)

namespace ObjectRegistry

def expireLocked (r : ObjectRegistry) (now : Int) : ObjectRegistry :=
  if r.opts.observationTTL ≤ 0 then r
  else { r with byKey := r.byKey.retain fun _ o => !(o.lastSeen < now - r.opts.observationTTL) }

/-- The least recently seen observation, the first one in the order of the iteration. -/
def oldest (order : ObjectOrder) (r : ObjectRegistry) : Option ObjectKey :=
  ((order.arrange r.byKey.entries).minOn? fun e => e.2.lastSeen).map (·.1)

/-- Each round removes one observation, so their number bounds the rounds. -/
def evict (order : ObjectOrder) : Nat → ObjectRegistry → ObjectRegistry
  | 0, r => r
  | rounds + 1, r =>
    if (r.byKey.size : Int) > r.opts.maxObservations then
      match r.oldest order with
      | none => r
      | some k => evict order rounds { r with byKey := r.byKey.erase k }
    else r

def enforceCapacityLocked (order : ObjectOrder) (r : ObjectRegistry) : ObjectRegistry :=
  if r.opts.maxObservations < 0 then r else r.evict order r.byKey.size

def upsert (order : ObjectOrder) (r : ObjectRegistry) (o : ObjectObservation) (now : Int) : ObjectRegistry :=
  let o := { o with lastSeen := now }
  let r := r.expireLocked now
  { r with byKey := r.byKey.insert (objectKeyOf o) o }.enforceCapacityLocked order

end ObjectRegistry

end GoBacnet.Client
