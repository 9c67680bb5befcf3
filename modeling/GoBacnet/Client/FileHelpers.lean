import GoBacnet.Service.File

/-!
# Reading and writing a file in chunks

The client reads a file with stream access until its end, and writes one chunk after the other. A write at the end of
the file goes on where the answer to its first chunk says that it went.
-/

namespace GoBacnet.Client

open Service

structure FileReadOptions where
  chunkSize : Nat := 0
  maxTotal : Int := 0

structure FileWriteOptions where
  chunkSize : Nat := 0

def orDefaultChunk (chunkSize : Nat) : Nat := if chunkSize = 0 then 256 else chunkSize

lemma orDefaultChunk_pos (chunkSize : Nat) : 0 < orDefaultChunk chunkSize := by
  unfold orDefaultChunk
  split <;> omega

/-- The bound on the octets read, one mebioctet by default. -/
def FileReadOptions.total (opts : FileReadOptions) : Int := if opts.maxTotal ≤ 0 then 1048576 else opts.maxTotal

inductive FileTransferError (ε : Type)
  | limitExceeded (msg : String)
  | protocolViolation (msg : String)
  | request (err : ε)

structure FileChunkOutcome (ε : Type) where
  startPosition : Int
  byteCount : Nat
  err : Option ε

/-- The chunk size, capped by what may still be read. -/
def chunkCount (chunk : Nat) (remain : Int) : Nat := min (max (min remain 4294967295) 0).toNat chunk

def nextFilePosition {ε : Type} (start : Int) (n : Nat) : Except (FileTransferError ε) Int :=
  let next := start + n
  if next > maxInt32 then
    .error (.protocolViolation s!"file position {start}+{n} exceeds {maxInt32}")
  else if next < 0 then .error (.protocolViolation s!"file position {start}+{n} is negative")
  else .ok next

section Read

variable {ε : Type} (send : AtomicReadFileRequest → Except ε AtomicReadFileACK) (file : ObjectIdentifier)
  (opts : FileReadOptions)

def readChunks (out : Octets) (pos : Int) : Octets × Option (FileTransferError ε) :=
  if _hfull : (out.length : Int) ≥ opts.total then
    (out, some (.limitExceeded s!"file read MaxTotal {opts.total} exceeded"))
  else
    match send
      { file, access := .stream, startPosition := pos
        count := chunkCount (orDefaultChunk opts.chunkSize) (opts.total - out.length) } with
    | .error err => (out, some (.request err))
    | .ok ack =>
      if ack.access ≠ .stream then (out, some (.protocolViolation ""))
      else
        match nextFilePosition ack.startPosition ack.data.length with
        | .error err => (out ++ ack.data, some err)
        | .ok next =>
          if _hlast : ack.endOfFile ∨ ack.data.length = 0 then (out ++ ack.data, none)
          else readChunks (out ++ ack.data) next
termination_by (opts.total - out.length).toNat
decreasing_by
  simp only [List.length_append]
  omega

def readFileStream : Octets × Option (FileTransferError ε) := readChunks send file opts [] 0

end Read

section Write

variable {ε σ : Type} (send : σ → AtomicWriteFileRequest → Except ε AtomicWriteFileACK × σ) (file : ObjectIdentifier)
  (opts : FileWriteOptions)

/-- Writes the data that is left from a position on; the peer's state goes from one request to the next. -/
def writeChunks (data : Octets) (pos : Int) (s : σ) (outcomes : List (FileChunkOutcome ε)) :
    (List (FileChunkOutcome ε) × Option (FileTransferError ε)) × σ :=
  if _hdata : data.length = 0 then ((outcomes, none), s)
  else
    let n := min (orDefaultChunk opts.chunkSize) data.length
    match send s { file, access := .stream, startPosition := pos, data := data.take n } with
    | (.error err, s) =>
      ((outcomes ++ [{ startPosition := pos, byteCount := n, err := some err }], some (.request err)), s)
    | (.ok ack, s) =>
      let outcomes := outcomes ++ [{ startPosition := pos, byteCount := n, err := none }]
      -- A negative start leaves the position to the device, whose answer reports where the chunk went.
      match nextFilePosition (if pos < 0 then ack.startPosition else pos) n with
      | .error err => ((outcomes, some err), s)
      | .ok next => writeChunks (data.drop n) next s outcomes
termination_by data.length
decreasing_by
  have := orDefaultChunk_pos opts.chunkSize
  simp only [List.length_drop]
  omega

def writeFileStream (startPosition : Int) (data : Octets) (s : σ) :
    (List (FileChunkOutcome ε) × Option (FileTransferError ε)) × σ :=
  if startPosition ≥ 0 ∧ startPosition + data.length > maxInt32 then
    (([], some (.limitExceeded s!"file write ends past octet {maxInt32}")), s)
  else writeChunks send file opts data startPosition s []

end Write

end GoBacnet.Client
