import GoBacnet.Lib.Overwrite
import GoBacnet.Service.File
import GoBacnet.Tags

/-!
# File objects

An in-memory File object with stream or record access, and the handlers of the two file services.
-/

namespace GoBacnet.Server

open Service

structure FileConfig where
  instanceNumber : UInt32
  name : String
  /-- Record access; the default is stream access. -/
  record : Bool := false
  readOnly : Bool := false
  /-- The bound on the octets or records. -/
  maxSize : Int := 0
  data : Octets := []
  records : List Octets := []

/-- A file whose content is within its bound, and its bound within the 32-bit file positions. -/
structure File where
  record : Bool
  readOnly : Bool
  maxSize : Int
  data : Octets
  records : List Octets
  addressable : maxSize ≤ maxInt32
  fits : (if record then records.length else data.length : Int) ≤ maxSize

inductive FileError
  | unknownObject
  | inconsistentObjectType
  | invalidFileAccessMethod
  | invalidFileStartPosition
  | fileAccessDenied
  | fileFull
  deriving DecidableEq, Repr

namespace FileConfig

def bound (cfg : FileConfig) : Int :=
  if cfg.maxSize ≤ 0 then (if cfg.record then 65536 else 1048576) else cfg.maxSize

lemma bound_le {cfg : FileConfig} (h : ¬ cfg.maxSize > maxInt32) : cfg.bound ≤ maxInt32 := by
  unfold bound maxInt32 at *
  split_ifs <;> omega

end FileConfig

def newFile (cfg : FileConfig) : Except String File :=
  if cfg.name = "" then .error "object name required"
  else if cfg.instanceNumber ≥ maxObjectInstance then
    .error s!"instance {cfg.instanceNumber} out of range"
  else if hsize : cfg.maxSize > maxInt32 then
    .error s!"maximum size {cfg.maxSize} beyond the 32-bit file positions"
  else if hfits : (if cfg.record then cfg.records.length else cfg.data.length : Int) > cfg.bound then
    .error "initial content exceeds the maximum size"
  else .ok
    { record := cfg.record
      readOnly := cfg.readOnly
      maxSize := cfg.bound
      data := cfg.data
      records := cfg.records
      addressable := FileConfig.bound_le hsize
      fits := not_lt.mp hfits }

namespace File

variable (f : File)

def streamAccess : Bool := !f.record

/-- The content from a position on, as much as asked for, and whether it reaches the end. -/
def slice {α : Type} (content : List α) (start : Int) (count : Nat) : Except FileError (List α × Bool) :=
  if start < 0 ∨ start > content.length then .error .invalidFileStartPosition
  else
    let last := if count < content.length - start.toNat then start.toNat + count else content.length
    .ok ((content.take last).drop start.toNat, last = content.length)

def readStream (start : Int) (count : Nat) : Except FileError (Octets × Bool) :=
  if f.record then .error .invalidFileAccessMethod else slice f.data start count

def readRecords (start : Int) (count : Nat) : Except FileError (List Octets × Bool) :=
  if !f.record then .error .invalidFileAccessMethod else slice f.records start count

def streamPosition (start : Int) : Nat := if start = -1 then f.data.length else start.toNat

def writeStream (start : Int) (data : Octets) : Except FileError (Int × File) :=
  if hrecord : f.record then .error .invalidFileAccessMethod
  else if f.readOnly then .error .fileAccessDenied
  else if start < -1 then .error .invalidFileStartPosition
  else if hfull : (f.streamPosition start + data.length : Int) > f.maxSize then .error .fileFull
  else .ok (f.streamPosition start,
    { f with
      data := Overwrite.write 0 f.data (f.streamPosition start) data
      fits := by
        have := f.fits
        simp only [hrecord, Bool.false_eq_true, if_false, Overwrite.length_write] at this ⊢
        omega })

def recordPosition (start : Int) : Nat :=
  if start = -1 ∨ start > f.records.length then f.records.length else start.toNat

/-- Replaces the records from a position on; the file grows when they run past its end. -/
def writeRecords (start : Int) (records : List Octets) : Except FileError (Int × File) :=
  if hrecord : !f.record then .error .invalidFileAccessMethod
  else if f.readOnly then .error .fileAccessDenied
  else if start < -1 then .error .invalidFileStartPosition
  else if hfull : (f.recordPosition start + records.length : Int) > f.maxSize then .error .fileFull
  else .ok (f.recordPosition start,
    { f with
      records := Overwrite.write [] f.records (f.recordPosition start) records
      fits := by
        have := f.fits
        simp only [Bool.not_eq_true', Bool.not_eq_false] at hrecord
        simp only [hrecord, if_true, Overwrite.length_write] at this ⊢
        omega })

end File

abbrev FileObjects := ObjectIdentifier → Option (Option File)

def fileFor (objects : FileObjects) (id : ObjectIdentifier) (access : FileAccessMethod) : Except FileError File :=
  match objects id with
  | none => .error .unknownObject
  | some none => .error .inconsistentObjectType
  | some (some f) =>
    if id.type ≠ objectTypeFile then .error .inconsistentObjectType
    else if f.streamAccess ≠ (access = .stream) then .error .invalidFileAccessMethod
    else .ok f

def atomicReadFile (objects : FileObjects) (r : AtomicReadFileRequest) : Except FileError AtomicReadFileACK := do
  let f ← fileFor objects r.file r.access
  match r.access with
  | .stream =>
    let (data, endOfFile) ← f.readStream r.startPosition r.count
    return { endOfFile, access := .stream, startPosition := r.startPosition, data }
  | .record =>
    let (records, endOfFile) ← f.readRecords r.startPosition r.count
    return { endOfFile, access := .record, startPosition := r.startPosition, records, recordCount := records.length }

def atomicWriteFile (objects : FileObjects) (r : AtomicWriteFileRequest) :
    Except FileError AtomicWriteFileACK × FileObjects :=
  let written := do
    let f ← fileFor objects r.file r.access
    match r.access with
    | .stream => f.writeStream r.startPosition r.data
    | .record => f.writeRecords r.startPosition r.records
  match written with
  | .error err => (.error err, objects)
  | .ok (start, f) =>
    (.ok { access := r.access, startPosition := start }, fun id => if id = r.file then some (some f) else objects id)

end GoBacnet.Server
