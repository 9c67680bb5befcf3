import GoBacnet.Service.Discovery
import GoBacnet.Service.PropertyAccess

/-!
# Batched ReadPropertyMultiple

A long list of properties is read with several requests. A batch that the peer cannot answer in one reply is halved and
tried again.
-/

namespace GoBacnet

def wildcardDeviceInstance : UInt32 := maxObjectInstance

def ObjectIdentifier.matches (id got : ObjectIdentifier) : Bool :=
  id = got ∨ id.type = objectTypeDevice ∧ id.instanceNumber = wildcardDeviceInstance ∧ got.type = objectTypeDevice

def asUnsigned : ApplicationValue → Except Err UInt64
  | .unsigned u => .ok u
  | .enumerated e => .ok e.toUInt64
  | v => .error (unsupported ("value kind " ++ toString v.ctorIdx ++ " is not unsigned"))

namespace Client

open Service

inductive RequestError
  | err (e : Err)
  | abort (reason : UInt8)
  | reject (reason : UInt8)
  | errorResponse (cls code : UInt16)
  | resultCount (results specifications : Nat)
  | unexpectedObject (index : Nat) (got requested : ObjectIdentifier)
  | other (text : String)
  | wrapped (text : String) (e : RequestError)

namespace RequestError

def asAbort : RequestError → Option UInt8
  | .abort reason => some reason
  | .wrapped _ e => e.asAbort
  | _ => none

def asReject : RequestError → Option UInt8
  | .reject reason => some reason
  | .wrapped _ e => e.asReject
  | _ => none

end RequestError

def abortReasonBufferOverflow : UInt8 := 1
def abortReasonSegmentationNotSupported : UInt8 := 4
def abortReasonAPDUTooLong : UInt8 := 11
def rejectReasonUnrecognizedService : UInt8 := 9

def responseTooLarge (reason : UInt8) : Bool :=
  reason = abortReasonBufferOverflow ∨ reason = abortReasonSegmentationNotSupported ∨ reason = abortReasonAPDUTooLong

/-- The peer's answer to a request, which may depend on how many it was sent before. -/
abbrev RPMExchange := Nat → List ReadAccessSpecification → Except RequestError (List ReadAccessResult)

def readPropertyMultiple (exchange : RPMExchange) (before : Nat) (specs : List ReadAccessSpecification) :
    Except RequestError (List ReadAccessResult) :=
  match encodeReadPropertyMultiple specs with
  | .error e => .error (.err e)
  | .ok _ => exchange before specs

structure RPMBatchOptions where
  safetyMargin : Int := 0
  maxPropertiesPerBatch : Int := 0
  maxBatches : Int := 0

def RPMBatchOptions.normalize (opts : RPMBatchOptions) : RPMBatchOptions where
  safetyMargin := orDefault opts.safetyMargin 16
  maxPropertiesPerBatch := orDefault opts.maxPropertiesPerBatch 32
  maxBatches := orDefault opts.maxBatches 64

/-- A property reference with the index of the specification it came from. -/
structure PropertyUnit where
  spec : Nat
  prop : PropertyReference

def propertyUnits (specs : List ReadAccessSpecification) : List PropertyUnit :=
  specs.zipIdx.flatMap fun (spec, i) => spec.properties.map (⟨i, ·⟩)

/-- Adds a reference to the last request specification if both come from one input specification. -/
def addUnit (object : Nat → ObjectIdentifier) (req : List (Nat × ReadAccessSpecification)) (u : PropertyUnit) :
    List (Nat × ReadAccessSpecification) :=
  match req.getLast? with
  | some (owner, last) =>
    if owner = u.spec then req.dropLast ++ [(owner, { last with properties := last.properties ++ [u.prop] })]
    else req ++ [(u.spec, ⟨object u.spec, [u.prop]⟩)]
  | none => [(u.spec, ⟨object u.spec, [u.prop]⟩)]

/-- The request specifications for consecutive units, each with the index of its input specification. -/
def group (object : Nat → ObjectIdentifier) (us : List PropertyUnit) : List (Nat × ReadAccessSpecification) :=
  us.foldl (addUnit object) []

def fits (object : Nat → ObjectIdentifier) (budget : Int) (us : List PropertyUnit) : Except Err Bool := do
  let raw ← encodeReadPropertyMultiple ((group object us).map Prod.snd)
  -- The header of an unsegmented confirmed request has four octets.
  return decide (4 + (raw.length : Int) ≤ budget)

/-- How many of the units `us` one batch takes, when `count` are taken and `left` are not. -/
def growBatch (fits : List PropertyUnit → Except Err Bool) (batchSize : Nat) (us : List PropertyUnit) :
    (left count : Nat) → Except Err Nat
  | 0, count => .ok count
  | left + 1, count =>
    if count < batchSize then do
      if ← fits (us.take (count + 1)) then growBatch fits batchSize us left (count + 1) else .ok count
    else .ok count

def joinResults : (j : Nat) → (out : List ReadAccessResult) →
    List ((Nat × ReadAccessSpecification) × ReadAccessResult) → List ReadAccessResult × Option RequestError
  | _, out, [] => (out, none)
  | j, out, ((owner, spec), res) :: rest =>
    if spec.object.matches res.object then
      joinResults (j + 1) (out.modify owner fun r => ⟨res.object, r.properties ++ res.properties⟩) rest
    else (out, some (.unexpectedObject j res.object spec.object))

structure BatchedRead where
  out : List ReadAccessResult
  err : Option RequestError := none
  /-- The requests made, the last one last. -/
  sent : List (List ReadAccessSpecification)

def readBatches (exchange : RPMExchange) (object : Nat → ObjectIdentifier) (budget maxBatches : Int) :
    (left batchSize : Nat) → List PropertyUnit → List ReadAccessResult → List (List ReadAccessSpecification) →
      BatchedRead
  | _, _, [], out, sent => { out := out, sent := sent }
  | 0, _, _ :: _, out, sent =>
    { out := out, err := some (.err (limitExceeded ("RPM batch limit " ++ toString maxBatches))), sent := sent }
  | left + 1, batchSize, u :: us, out, sent =>
    match growBatch (fits object budget) batchSize (u :: us) us.length 1 with
    | .error e => { out := out, err := some (.err e), sent := sent }
    | .ok count =>
      let req := group object ((u :: us).take count)
      let sent' := sent ++ [req.map Prod.snd]
      match readPropertyMultiple exchange sent.length (req.map Prod.snd) with
      | .error e =>
        if e.asAbort.any responseTooLarge && count > 1 then
          readBatches exchange object budget maxBatches left (max 1 (count / 2)) (u :: us) out sent'
        else { out := out, err := some e, sent := sent' }
      | .ok results =>
        if results.length ≠ req.length then
          { out := out, err := some (.resultCount results.length req.length), sent := sent' }
        else
          match joinResults 0 out (req.zip results) with
          | (out', some e) => { out := out', err := some e, sent := sent' }
          | (out', none) =>
            readBatches exchange object budget maxBatches left batchSize ((u :: us).drop count) out' sent'

def batchBudget (remoteMaxAPDU : UInt16) (opts : RPMBatchOptions) : Int :=
  max (remoteMaxAPDU.toNat - opts.safetyMargin) 50

def objectOf (specs : List ReadAccessSpecification) (i : Nat) : ObjectIdentifier :=
  ((specs[i]?).map Access.object).getD ⟨0, 0⟩

def readPropertyMultipleBatched (exchange : RPMExchange) (remoteMaxAPDU : UInt16)
    (specs : List ReadAccessSpecification) (opts : RPMBatchOptions) : BatchedRead :=
  if specs.isEmpty then { out := [], err := some (.err (malformed "empty RPM specs")), sent := [] }
  else
    let opts := opts.normalize
    match specs.findIdx? (·.properties.isEmpty) with
    | some i =>
      { out := [], err := some (.err (malformed ("RPM spec " ++ toString i ++ " has no properties"))), sent := [] }
    | none =>
      readBatches exchange (objectOf specs) (batchBudget remoteMaxAPDU opts) opts.maxBatches opts.maxBatches.toNat
        opts.maxPropertiesPerBatch.toNat (propertyUnits specs) (specs.map fun s => ⟨s.object, []⟩) []

/-! ## The object list -/

def propertyObjectList : UInt32 := 76

def objectListLength (count : UInt64) (maxItems : Int) : Nat :=
  if maxItems ≤ 0 then 0 else min (min count.toNat (maxUint32 - 1)) (min maxItems.toNat (maxUint32 - 1))

def indexed (i : Nat) : PropertyReference := ⟨propertyObjectList, some (UInt32.ofNat i)⟩

section

-- The text of an error.
variable (describe : Err → String)

def addObjectID (out : List ObjectIdentifier) (v : ApplicationValue) : Except RequestError (List ObjectIdentifier) :=
  match asObjectID v with
  | .ok id => .ok (out ++ [id])
  | .error e =>
    .error (.err (malformed ("object-list element " ++ toString (out.length + 1) ++ ": " ++ describe e)))

def readEntry (out : List ObjectIdentifier) (value : Except RequestError ApplicationValue) :
    Except RequestError (List ObjectIdentifier) :=
  match value with
  | .error e => .error (.wrapped ("object-list element " ++ toString (out.length + 1)) e)
  | .ok v => addObjectID describe out v

/-- Reads the entries one after the other, up to the first that fails. -/
def readEntries : (out : List ObjectIdentifier) → List (Except RequestError ApplicationValue) →
    List ObjectIdentifier × Option RequestError
  | out, [] => (out, none)
  | out, value :: values =>
    match readEntry describe out value with
    | .error e => (out, some e)
    | .ok out => readEntries out values

def PropertyResult.value (pr : PropertyResult) : Except RequestError ApplicationValue :=
  match pr.outcome with
  | .value v => .ok v
  | .errorResponse cls code => .error (.errorResponse cls code)
  | .error text => .error (.other text)

def readObjectListByIndex (readProperty : PropertyReference → Except RequestError ApplicationValue)
    (exchange : RPMExchange) (remoteMaxAPDU : UInt16) (limits : DecodeLimits) (object : ObjectIdentifier)
    (maxItems : Int) : List ObjectIdentifier × Option RequestError :=
  let maxItems := if maxItems ≤ 0 then limits.maxElements else maxItems
  match readProperty (indexed 0) with
  | .error e => ([], some (.wrapped "object-list length" e))
  | .ok countVal =>
    match asUnsigned countVal with
    | .error e => ([], some (.err (malformed ("object-list length: " ++ describe e))))
    | .ok count =>
      let entries := (List.range (objectListLength count maxItems)).map fun i => indexed (i + 1)
      if entries.isEmpty then ([], none)
      else
        let read := readPropertyMultipleBatched exchange remoteMaxAPDU [⟨object, entries⟩] { maxBatches := entries.length }
        match read.err with
        | none => readEntries describe [] ((read.out.head?.elim [] Access.properties).map PropertyResult.value)
        | some e =>
          -- A device without ReadPropertyMultiple is asked for each entry.
          if e.asReject = some rejectReasonUnrecognizedService then readEntries describe [] (entries.map readProperty)
          else ([], some e)

end

end Client

end GoBacnet
