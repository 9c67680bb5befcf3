import GoBacnet.Bbmd.Forwarding
import GoBacnet.Lib.Transition

/-!
# Runs of a broadcast management device

The reference for the foreign device table: what was registered and deleted, in order. A run of the device keeps that
history beside its state. Dropping expired registrations, which the operations do on their way, is a step of its own
as well, so that runs cover every moment at which it can happen.
-/

namespace GoBacnet.Bbmd

open Bvlc

inductive Happening
  | registered (ep : Endpoint) (ttl : UInt16) (time : Int)
  | deleted (ep : Endpoint)
  deriving DecidableEq, Repr

def Happening.endpoint : Happening → Endpoint
  | .registered ep _ _ => ep
  | .deleted ep => ep

def lastRegistration : List Happening → Endpoint → Option (UInt16 × Int)
  | [], _ => none
  | .registered ep ttl time :: earlier, x => if ep = x then some (ttl, time) else lastRegistration earlier x
  | .deleted ep :: earlier, x => if ep = x then none else lastRegistration earlier x

def deadline (ttl : UInt16) (time : Int) : Int := time + ttl.toNat * second + gracePeriod

/-- What a message adds to the history. -/
def happenings (b : Node) (now : Int) (msg : Message) (sender : Endpoint) : List Happening :=
  if sender = b.self then []
  else
    match msg.function with
    | functionRegisterForeignDevice =>
      if (b.register now sender msg.ttl).1 = resultSuccessfulCompletion then [.registered sender msg.ttl now] else []
    | functionDeleteForeignDeviceTableEntry =>
      match decodeDeleteFDTEntry msg.payload with
      | .error _ => []
      | .ok ep => [.deleted ep]
    | _ => []

structure System where
  node : Node
  /-- The last time at which the device acted. -/
  clock : Int
  history : List Happening := []

inductive Action
  | message (now later : Int) (msg : Message) (sender : Endpoint)
  | localBroadcast (now : Int) (npdu : Octets)
  | readTable (now : Int)
  | purge (now : Int)

namespace System

def step (s : System) : Action → Option System
  | .message now later msg sender =>
    if s.clock ≤ now ∧ now ≤ later then
      some { node := (s.node.handleBVLC now later msg sender).bbmd, clock := later
             history := happenings s.node now msg sender ++ s.history }
    else none
  | .localBroadcast now npdu =>
    if s.clock ≤ now then some { s with node := (s.node.localBroadcast now npdu).2, clock := now } else none
  | .readTable now => if s.clock ≤ now then some { s with node := (s.node.fdtLocked now).2, clock := now } else none
  | .purge now => if s.clock ≤ now then some { s with node := s.node.purge now, clock := now } else none

end System

end GoBacnet.Bbmd
