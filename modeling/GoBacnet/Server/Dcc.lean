import Mathlib.Tactic

/-!
# DeviceCommunicationControl

Whether the server answers requests and initiates its own, and until when.
-/

namespace GoBacnet.Server

inductive EnableDisable
  | enable
  | disable
  | disableInitiation
  deriving DecidableEq, Repr

def serviceDeviceCommunicationControl : UInt8 := 17
def serviceReinitializeDevice : UInt8 := 20

structure Dcc where
  mode : EnableDisable := .enable
  ends : Option Nat := none
  deriving DecidableEq, Repr

namespace Dcc

/-- A mode whose time is over is given up when it is next looked at. -/
def expire (d : Dcc) (now : Nat) : Dcc :=
  if d.mode ≠ .enable ∧ d.ends.any (· ≤ now) then { d with mode := .enable } else d

def current (d : Dcc) (now : Nat) : EnableDisable := (d.expire now).mode

/-- Whether a request may be answered; an unconfirmed one is service `0xFF` here. -/
def respondsTo (d : Dcc) (now : Nat) (confirmedService : UInt8) : Bool :=
  d.current now ≠ .disable || confirmedService = serviceDeviceCommunicationControl ||
    confirmedService = serviceReinitializeDevice

/-- Whether the device may initiate services. -/
def mayInitiate (d : Dcc) (now : Nat) : Bool := d.current now = .enable

end Dcc

end GoBacnet.Server
