import GoBacnet.Constructed

/-!
# APDU framing

PDU structure, service choice and raw service payload. The decoder is strict: reserved header
bits, undefined Max-APDU codes, a more-follows flag without segmentation and window sizes
outside 1..127 are refused.
-/

namespace GoBacnet.Apdu

def typeConfirmedRequest : UInt8 := 0x00
def typeUnconfirmedRequest : UInt8 := 0x10
def typeSimpleACK : UInt8 := 0x20
def typeComplexACK : UInt8 := 0x30
def typeSegmentACK : UInt8 := 0x40
def typeError : UInt8 := 0x50
def typeReject : UInt8 := 0x60
def typeAbort : UInt8 := 0x70

/-! Abort reasons -/

def abortReasonOther : UInt8 := 0
def abortReasonBufferOverflow : UInt8 := 1
def abortReasonInvalidAPDUInThisState : UInt8 := 2
def abortReasonSegmentationNotSupported : UInt8 := 4
def abortReasonOutOfResources : UInt8 := 9
def abortReasonTSMTimeout : UInt8 := 10
def abortReasonAPDUTooLong : UInt8 := 11

structure ConfirmedRequest where
  segmentedMessage : Bool := false
  moreFollows : Bool := false
  segmentedResponseAccepted : Bool := false
  maxSegments : UInt8 := 0
  maxAPDU : UInt8 := 0
  invokeID : UInt8
  sequenceNumber : UInt8 := 0
  proposedWindowSize : UInt8 := 0
  serviceChoice : UInt8
  payload : Octets
  deriving DecidableEq, Repr

structure UnconfirmedRequest where
  serviceChoice : UInt8
  payload : Octets
  deriving DecidableEq, Repr

structure SimpleACK where
  invokeID : UInt8
  serviceChoice : UInt8
  deriving DecidableEq, Repr

structure ComplexACK where
  segmentedMessage : Bool := false
  moreFollows : Bool := false
  invokeID : UInt8
  sequenceNumber : UInt8 := 0
  proposedWindowSize : UInt8 := 0
  serviceChoice : UInt8
  payload : Octets
  deriving DecidableEq, Repr

structure SegmentACK where
  negativeACK : Bool
  server : Bool
  invokeID : UInt8
  sequenceNumber : UInt8
  actualWindowSize : UInt8
  deriving DecidableEq, Repr

structure ErrorPDU where
  invokeID : UInt8
  serviceChoice : UInt8
  payload : Octets
  deriving DecidableEq, Repr

structure RejectPDU where
  invokeID : UInt8
  reason : UInt8
  deriving DecidableEq, Repr

structure AbortPDU where
  server : Bool
  invokeID : UInt8
  reason : UInt8
  deriving DecidableEq, Repr

/-- A discriminated APDU. -/
inductive PDU
  | confirmedRequest (req : ConfirmedRequest)
  | unconfirmedRequest (req : UnconfirmedRequest)
  | simpleACK (ack : SimpleACK)
  | complexACK (ack : ComplexACK)
  | segmentACK (ack : SegmentACK)
  | error (e : ErrorPDU)
  | reject (r : RejectPDU)
  | abort (a : AbortPDU)
  deriving DecidableEq, Repr

def decodeMaxAPDUSize (code : UInt8) : Option Nat :=
  match code with
  | 0 => some 50
  | 1 => some 128
  | 2 => some 206
  | 3 => some 480
  | 4 => some 1024
  | 5 => some 1476
  | _ => none

/-- The Max-APDU code of a byte capacity. -/
def encodeMaxAPDUSize (size : Nat) : Option UInt8 :=
  if size ≥ 1476 then some 5
  else if size ≥ 1024 then some 4
  else if size ≥ 480 then some 3
  else if size ≥ 206 then some 2
  else if size ≥ 128 then some 1
  else if size ≥ 50 then some 0
  else none

/-- The Max-Segments code of a segment limit; it never advertises more than the limit. -/
def encodeMaxSegments (count : Int) : UInt8 :=
  if count < 2 then 0
  else if count < 4 then 1
  else if count < 8 then 2
  else if count < 16 then 3
  else if count < 32 then 4
  else if count < 64 then 5
  else if count = 64 then 6
  else 7

def checkSegmentFlags (segmented moreFollows : Bool) : Except Err Unit :=
  if moreFollows && !segmented then .error (malformed "MoreFollows without SegmentedMessage") else .ok ()

def checkWindowSize (window : UInt8) : Except Err Unit :=
  if window = 0 ∨ window > 127 then .error (malformed ("window size " ++ toString window)) else .ok ()

def parseService (rest : Octets) : Except Err (UInt8 × Octets) :=
  match rest with
  | [] => .error (malformed "missing service choice")
  | serviceChoice :: payload => .ok (serviceChoice, payload)

def parseConfirmed (data : Octets) : Except Err PDU :=
  match data with
  | b0 :: maxInfo :: invokeID :: rest@(_ :: _) => do
    if b0 &&& 0x01 != 0 then throw (malformed "confirmed request reserved bit set")
    if maxInfo &&& 0x80 != 0 then throw (malformed "confirmed request reserved max-info bit set")
    let segmentedMessage := b0 &&& 0x08 != 0
    let moreFollows := b0 &&& 0x04 != 0
    let maxAPDU := maxInfo &&& 0x0F
    checkSegmentFlags segmentedMessage moreFollows
    if (decodeMaxAPDUSize maxAPDU).isNone then
      throw (malformed ("undefined MaxAPDU code " ++ toString maxAPDU))
    let (sequenceNumber, proposedWindowSize, rest) ←
      if segmentedMessage then
        match rest with
        | seq :: win :: rest => do
          checkWindowSize win
          pure (seq, win, rest)
        | _ => throw (malformed "segmented confirmed truncated")
      else pure (0, 0, rest)
    let (serviceChoice, payload) ← parseService rest
    return .confirmedRequest
      { segmentedMessage, moreFollows, segmentedResponseAccepted := b0 &&& 0x02 != 0,
        maxSegments := (maxInfo >>> 4) &&& 0x07, maxAPDU, invokeID, sequenceNumber, proposedWindowSize,
        serviceChoice, payload }
  | _ => .error (malformed "confirmed request truncated")

def parseUnconfirmed (data : Octets) : Except Err PDU :=
  match data with
  | b0 :: serviceChoice :: payload =>
    if b0 &&& 0x0F != 0 then .error (malformed "unconfirmed reserved bits set")
    else .ok (.unconfirmedRequest ⟨serviceChoice, payload⟩)
  | _ => .error (malformed "unconfirmed truncated")

def parseSimpleACK (data : Octets) : Except Err PDU :=
  match data with
  | [b0, invokeID, serviceChoice] =>
    if b0 &&& 0x0F != 0 then .error (malformed "simple ACK reserved bits set")
    else .ok (.simpleACK ⟨invokeID, serviceChoice⟩)
  | _ => .error (malformed "simple ACK length")

def parseComplexACK (data : Octets) : Except Err PDU :=
  match data with
  | b0 :: invokeID :: rest@(_ :: _) => do
    if b0 &&& 0x03 != 0 then throw (malformed "complex ACK reserved bits set")
    let segmentedMessage := b0 &&& 0x08 != 0
    let moreFollows := b0 &&& 0x04 != 0
    checkSegmentFlags segmentedMessage moreFollows
    let (sequenceNumber, proposedWindowSize, rest) ←
      if segmentedMessage then
        match rest with
        | seq :: win :: rest => do
          checkWindowSize win
          pure (seq, win, rest)
        | _ => throw (malformed "segmented complex ACK truncated")
      else pure (0, 0, rest)
    let (serviceChoice, payload) ← parseService rest
    return .complexACK
      { segmentedMessage, moreFollows, invokeID, sequenceNumber, proposedWindowSize, serviceChoice, payload }
  | _ => .error (malformed "complex ACK truncated")

def parseSegmentACK (data : Octets) : Except Err PDU :=
  match data with
  | [b0, invokeID, sequenceNumber, window] => do
    if b0 &&& 0x0C != 0 then throw (malformed "segment ACK reserved bits set")
    checkWindowSize window
    return .segmentACK ⟨b0 &&& 0x02 != 0, b0 &&& 0x01 != 0, invokeID, sequenceNumber, window⟩
  | _ => .error (malformed "segment ACK length")

def parseError (data : Octets) : Except Err PDU :=
  match data with
  | b0 :: invokeID :: serviceChoice :: payload =>
    if b0 &&& 0x0F != 0 then .error (malformed "error PDU reserved bits set")
    else .ok (.error ⟨invokeID, serviceChoice, payload⟩)
  | _ => .error (malformed "error PDU truncated")

def parseReject (data : Octets) : Except Err PDU :=
  match data with
  | [b0, invokeID, reason] =>
    if b0 &&& 0x0F != 0 then .error (malformed "reject reserved bits set")
    else .ok (.reject ⟨invokeID, reason⟩)
  | _ => .error (malformed "reject length")

def parseAbort (data : Octets) : Except Err PDU :=
  match data with
  | [b0, invokeID, reason] =>
    if b0 &&& 0x0E != 0 then .error (malformed "abort reserved bits set")
    else .ok (.abort ⟨b0 &&& 0x01 != 0, invokeID, reason⟩)
  | _ => .error (malformed "abort length")

def parse (data : Octets) (limits : DecodeLimits) : Except Err PDU :=
  match data with
  | [] => .error (malformed "empty APDU")
  | b0 :: _ =>
    if data.length > limits.normalize.maxAPDUSize then .error (limitExceeded "APDU size")
    else
      let pduType := b0 &&& 0xF0
      if pduType = typeConfirmedRequest then parseConfirmed data
      else if pduType = typeUnconfirmedRequest then parseUnconfirmed data
      else if pduType = typeSimpleACK then parseSimpleACK data
      else if pduType = typeComplexACK then parseComplexACK data
      else if pduType = typeSegmentACK then parseSegmentACK data
      else if pduType = typeError then parseError data
      else if pduType = typeReject then parseReject data
      else if pduType = typeAbort then parseAbort data
      else .error (unsupported ("APDU type 0x" ++ String.ofList (Nat.toDigits 16 pduType.toNat)))

def flag (set : Bool) (bit : UInt8) : UInt8 := if set then bit else 0

def appendConfirmedRequest (dst : Octets) (req : ConfirmedRequest) : Octets :=
  let b0 := typeConfirmedRequest ||| flag req.segmentedMessage 0x08 ||| flag req.moreFollows 0x04 |||
    flag req.segmentedResponseAccepted 0x02
  let maxInfo := ((req.maxSegments &&& 0x07) <<< 4) ||| (req.maxAPDU &&& 0x0F)
  dst ++ [b0, maxInfo, req.invokeID] ++
    (if req.segmentedMessage then [req.sequenceNumber, req.proposedWindowSize] else []) ++
    req.serviceChoice :: req.payload

def appendUnconfirmedRequest (dst : Octets) (req : UnconfirmedRequest) : Octets :=
  dst ++ typeUnconfirmedRequest :: req.serviceChoice :: req.payload

def appendSimpleACK (dst : Octets) (ack : SimpleACK) : Octets :=
  dst ++ [typeSimpleACK, ack.invokeID, ack.serviceChoice]

def appendComplexACK (dst : Octets) (ack : ComplexACK) : Octets :=
  let b0 := typeComplexACK ||| flag ack.segmentedMessage 0x08 ||| flag ack.moreFollows 0x04
  dst ++ [b0, ack.invokeID] ++
    (if ack.segmentedMessage then [ack.sequenceNumber, ack.proposedWindowSize] else []) ++
    ack.serviceChoice :: ack.payload

def appendSegmentACK (dst : Octets) (ack : SegmentACK) : Octets :=
  dst ++ [typeSegmentACK ||| flag ack.negativeACK 0x02 ||| flag ack.server 0x01, ack.invokeID,
    ack.sequenceNumber, ack.actualWindowSize]

def appendAbort (dst : Octets) (a : AbortPDU) : Octets :=
  dst ++ [typeAbort ||| flag a.server 0x01, a.invokeID, a.reason]

def appendReject (dst : Octets) (r : RejectPDU) : Octets :=
  dst ++ [typeReject, r.invokeID, r.reason]

def appendError (dst : Octets) (e : ErrorPDU) : Octets :=
  dst ++ typeError :: e.invokeID :: e.serviceChoice :: e.payload

end GoBacnet.Apdu
