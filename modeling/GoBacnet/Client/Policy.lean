import GoBacnet.Apdu

/-!
# Request errors and service policies

What a confirmed request can fail with, and which services report an unknown outcome when no
definitive answer was observed after the request was sent.
-/

namespace GoBacnet.Client

/-- The error of a confirmed request. -/
inductive ReqErr
  | closed
  | timeout
  | context
  | transport
  | protocolViolation
  | apduTooLarge (segmentationSupported : Bool)
  | decode (e : Err)
  | errorResponse (invokeID service : UInt8) (payload : Octets)
  | reject (invokeID reason : UInt8)
  | abort (invokeID : UInt8) (server : Bool) (reason : UInt8)
  | outcomeUnknown (operation : String) (cause : ReqErr)
  deriving DecidableEq, Repr

/-- The policy of a confirmed service that matters to a transaction. -/
structure ServicePolicy where
  name : String
  retransmitSafe : Bool
  outcomeUnknownAfterSend : Bool
  deriving DecidableEq, Repr

def reading (name : String) : ServicePolicy := ⟨name, true, false⟩

def changing (name : String) : ServicePolicy := ⟨name, false, true⟩

def confirmedServicePolicyFor (serviceChoice : UInt8) : Option ServicePolicy :=
  match serviceChoice with
  | 0 => some (changing "AcknowledgeAlarm")
  | 3 => some (reading "GetAlarmSummary")
  | 4 => some (reading "GetEnrollmentSummary")
  | 5 => some (changing "SubscribeCOV")
  | 6 => some (reading "AtomicReadFile")
  | 7 => some (changing "AtomicWriteFile")
  | 8 => some (changing "AddListElement")
  | 9 => some (changing "RemoveListElement")
  | 10 => some (changing "CreateObject")
  | 11 => some (changing "DeleteObject")
  | 12 => some (reading "ReadProperty")
  | 14 => some (reading "ReadPropertyMultiple")
  | 15 => some (changing "WriteProperty")
  | 16 => some (changing "WritePropertyMultiple")
  | 17 => some (changing "DeviceCommunicationControl")
  | 18 => some (changing "ConfirmedPrivateTransfer")
  | 19 => some (changing "ConfirmedTextMessage")
  | 20 => some (changing "ReinitializeDevice")
  | 21 => some (changing "VTOpen")
  | 22 => some (changing "VTClose")
  | 23 => some (changing "VTData")
  | 26 => some (reading "ReadRange")
  | 27 => some (changing "LifeSafetyOperation")
  | 28 => some (changing "SubscribeCOVProperty")
  | 29 => some (reading "GetEventInformation")
  | 30 => some (changing "SubscribeCOVPropertyMultiple")
  | 33 => some (reading "AuditLogQuery")
  | 34 => some (changing "AuthRequest")
  | _ => none

/-- Marks the error of a side-effecting service as an unknown outcome. -/
def wrapOutcomeUnknown (serviceChoice : UInt8) (cause : ReqErr) : ReqErr :=
  match confirmedServicePolicyFor serviceChoice with
  | some p => if p.outcomeUnknownAfterSend then .outcomeUnknown p.name cause else cause
  | none => cause

structure ConfirmedOpts where
  retransmit : Bool := false
  segmentedResponseAccepted : Bool := true
  forceOutcomeUnknown : Bool := false
  outcomeUnknownName : String := ""
  deriving DecidableEq, Repr

def ConfirmedOpts.maybeUnknown (o : ConfirmedOpts) (serviceChoice : UInt8) (cause : ReqErr) (sent : Bool) : ReqErr :=
  if !sent then cause
  else if o.forceOutcomeUnknown then
    .outcomeUnknown (if o.outcomeUnknownName = "" then "InvokeConfirmed" else o.outcomeUnknownName) cause
  else wrapOutcomeUnknown serviceChoice cause

end GoBacnet.Client
