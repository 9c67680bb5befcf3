import GoBacnet.Bvlc

/-!
# The broadcast management device

Which messages it hands to the local device, and as whose. What it forwards to its peers and to foreign devices
is not part of this model.
-/

namespace GoBacnet

open Bvlc

/-- A broadcast management device; `registered` tells the foreign devices whose registration is alive. -/
structure Bbmd where
  self : Endpoint
  registered : Endpoint → Bool

namespace Bbmd

def addressField (npdu : Octets) (off : Nat) : Option Nat :=
  if npdu.length < off + 3 then none else some (3 + (npdu.getD (off + 2) 0).toNat)

/-- Whether an NPDU carries a confirmed request, which is never distributed as a broadcast. -/
def confirmedRequest (npdu : Octets) : Bool :=
  if npdu.length < 2 then false
  else
    let ctl := npdu.getD 1 0
    if ctl &&& 0x80 ≠ 0 then false
    else
      (do
        let off := 2
        let off ← if ctl &&& 0x20 ≠ 0 then (addressField npdu off).map (off + ·) else some off
        let off ← if ctl &&& 0x08 ≠ 0 then (addressField npdu off).map (off + ·) else some off
        let off := if ctl &&& 0x20 ≠ 0 then off + 1 else off
        let type ← npdu[off]?
        return type &&& 0xF0 = 0 : Option Bool).getD false

/-- Whether the NPDU of a message is also for the local device, and the node that originated it. -/
def handleBVLC (b : Bbmd) (msg : Message) (sender : Endpoint) : Bool × Endpoint :=
  -- A broadcast of its own that looped back.
  if sender = b.self then (false, {})
  else
    match msg.function with
    | functionOriginalBroadcastNPDU => if confirmedRequest msg.payload then (false, {}) else (true, sender)
    | functionForwardedNPDU =>
      let origin := msg.originAddrPort.getD {}
      if origin = b.self then (false, {}) else (true, origin)
    | functionDistributeBroadcastToNetwork =>
      if !b.registered sender ∨ confirmedRequest msg.payload then (false, {})
      -- The Forwarded-NPDU must fit a datagram.
      else if 10 + msg.payload.length > 65535 then (false, {})
      else (true, sender)
    | _ => (false, {})

end Bbmd

end GoBacnet
