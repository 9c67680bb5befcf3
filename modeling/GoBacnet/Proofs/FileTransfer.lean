import GoBacnet.Client.FileHelpers
import GoBacnet.Lib.Result
import GoBacnet.Server.File

/-!
# A file written and read in chunks

Chunks that are written one behind the other leave the file as one write of the whole data does, also when the first
goes to the end of the file. Chunks that are read one behind the other are the content of the file.
-/

namespace GoBacnet

open Service

namespace Server

/-! ### Writes in a row -/

variable {f g h : File} {start p q : Int} {data xs ys : Octets}

lemma File.eq_of_data {f g : File} (hrecord : g.record = f.record) (hreadOnly : g.readOnly = f.readOnly)
    (hmax : g.maxSize = f.maxSize) (hrecords : g.records = f.records) (hdata : g.data = f.data) : g = f := by
  cases f
  cases g
  simp_all

structure File.Writes (f : File) (start : Int) (data : Octets) (p : Int) (g : File) : Prop where
  stream : f.record = false
  writable : f.readOnly = false
  bounded : -1 ≤ start
  room : (f.streamPosition start + data.length : Int) ≤ f.maxSize
  position : p = f.streamPosition start
  record : g.record = f.record
  readOnly : g.readOnly = f.readOnly
  maxSize : g.maxSize = f.maxSize
  records : g.records = f.records
  data : g.data = Overwrite.write 0 f.data (f.streamPosition start) data

lemma File.writeStream_eq_ok_iff : f.writeStream start data = .ok (p, g) ↔ f.Writes start data p g := by
  unfold File.writeStream
  constructor
  · intro hok
    split_ifs at hok with hrecord hreadOnly hstart hfull
    cases hok
    exact ⟨by simpa using hrecord, by simpa using hreadOnly, not_lt.mp hstart, not_lt.mp hfull, rfl, rfl, rfl, rfl, rfl,
      rfl⟩
  · intro hw
    rw [dif_neg (by simp [hw.stream]), if_neg (by simp [hw.writable]), if_neg (not_lt.mpr hw.bounded),
      dif_neg (not_lt.mpr hw.room), Except.ok.injEq, Prod.mk.injEq]
    refine ⟨hw.position.symm, Eq.symm ?_⟩
    apply File.eq_of_data
    exacts [hw.record, hw.readOnly, hw.maxSize, hw.records, hw.data]

lemma File.Writes.append (hf : f.Writes start xs p g) (hg : g.Writes (p + xs.length) ys q h) :
    f.Writes start (xs ++ ys) p h := by
  have hpos : g.streamPosition (p + xs.length) = f.streamPosition start + xs.length := by
    rw [hf.position, File.streamPosition, if_neg (by omega)]
    omega
  have hroom := hg.room
  rw [hpos, hf.maxSize] at hroom
  exact
    { stream := hf.stream
      writable := hf.writable
      bounded := hf.bounded
      room := by simp only [List.length_append, Nat.cast_add] at *; omega
      position := hf.position
      record := hg.record.trans hf.record
      readOnly := hg.readOnly.trans hf.readOnly
      maxSize := hg.maxSize.trans hf.maxSize
      records := hg.records.trans hf.records
      data := by rw [hg.data, hpos, hf.data, Overwrite.write_append] }

variable {objects objects' : FileObjects} {file : ObjectIdentifier} {ack : AtomicWriteFileACK}

lemma fileFor_stream (hfile : objects file = some (some f)) (h : fileFor objects file .stream = .ok g) : g = f := by
  simp only [fileFor, hfile] at h
  obtain ⟨-, h⟩ := Except.check_eq_ok_iff.mp h
  obtain ⟨-, h⟩ := Except.check_eq_ok_iff.mp h
  exact (Except.ok.inj h).symm

lemma atomicWriteFile_ok (hfile : objects file = some (some f))
    (h : atomicWriteFile objects { file, access := .stream, startPosition := start, data } = (.ok ack, objects')) :
    ∃ g, f.Writes start data ack.startPosition g ∧ objects' file = some (some g) := by
  unfold atomicWriteFile at h
  cases hf : fileFor objects file .stream with
  | error e => simp [hf] at h
  | ok f' =>
    obtain rfl := fileFor_stream hfile hf
    cases hw : f'.writeStream start data with
    | error e => simp [hf, hw] at h
    | ok res =>
      simp only [hf, hw, Bind.bind, Except.bind, Prod.mk.injEq, Except.ok.injEq] at h
      obtain ⟨rfl, rfl⟩ := h
      exact ⟨res.2, File.writeStream_eq_ok_iff.mp hw, if_pos rfl⟩

end Server

namespace Client

open Server

variable {f : File} {objects objects' : FileObjects} {file : ObjectIdentifier}

lemma nextFilePosition_ok {ε : Type} {start next : Int} {n : Nat}
    (h : nextFilePosition (ε := ε) start n = .ok next) : next = start + n := by
  unfold nextFilePosition at h
  obtain ⟨-, h⟩ := Except.check_eq_ok_iff.mp h
  obtain ⟨-, h⟩ := Except.check_eq_ok_iff.mp h
  exact (Except.ok.inj h).symm

lemma writeChunks_nil {ε σ : Type} {send : σ → AtomicWriteFileRequest → Except ε AtomicWriteFileACK × σ}
    {opts : FileWriteOptions} {pos : Int} {s : σ} {outcomes : List (FileChunkOutcome ε)} :
    writeChunks send file opts [] pos s outcomes = ((outcomes, none), s) := by
  unfold writeChunks
  simp

lemma writeChunks_writes {opts : FileWriteOptions} {outcomes' : List (FileChunkOutcome FileError)} {data : Octets}
    {pos : Int} {outcomes : List (FileChunkOutcome FileError)} (hdata : data ≠ [])
    (hfile : objects file = some (some f))
    (h : writeChunks atomicWriteFile file opts data pos objects outcomes = ((outcomes', none), objects')) :
    ∃ p g, f.Writes pos data p g ∧ objects' file = some (some g) := by
  induction hn : data.length using Nat.strong_induction_on generalizing data pos objects outcomes f with
  | _ k ih =>
    have hchunk := orDefaultChunk_pos opts.chunkSize
    have hlen := List.length_pos_iff.mpr hdata
    unfold writeChunks at h
    rw [dif_neg (by omega)] at h
    dsimp only at h
    generalize hmin : min (orDefaultChunk opts.chunkSize) data.length = n at h
    cases hsend : atomicWriteFile objects
        { file, access := .stream, startPosition := pos, data := data.take n } with
    | mk answer objects₁ =>
      cases answer with
      | error err => simp [hsend] at h
      | ok ack =>
        obtain ⟨g, hw, hg⟩ := atomicWriteFile_ok hfile hsend
        simp only [hsend] at h
        -- The next chunk goes behind this one, also after a write at the end of the file.
        have hbase : (if pos < 0 then ack.startPosition else pos) = ack.startPosition := by
          by_cases hneg : pos < 0
          · rw [if_pos hneg]
          · rw [if_neg hneg, hw.position, File.streamPosition, if_neg (by omega)]
            omega
        rw [hbase] at h
        cases hnext : nextFilePosition (ε := FileError) ack.startPosition n with
        | error err => simp [hnext] at h
        | ok next =>
          simp only [hnext] at h
          obtain rfl := nextFilePosition_ok hnext
          have htake : (data.take n).length = n := by
            rw [List.length_take]
            omega
          by_cases hrest : data.drop n = []
          · rw [hrest] at h
            rw [writeChunks_nil] at h
            obtain ⟨-, rfl⟩ := Prod.mk.inj h
            have hall : data.take n = data := by
              rw [← List.append_nil (data.take n), ← hrest, List.take_append_drop]
            exact ⟨_, g, hall ▸ hw, hg⟩
          · obtain ⟨p, g', hw', hg'⟩ := ih (data.drop n).length (by rw [List.length_drop]; omega) hrest hg h rfl
            rw [← htake] at hw'
            have happend := hw.append hw'
            rw [htake, List.take_append_drop] at happend
            exact ⟨_, g', happend, hg'⟩

/-! ### Reads in a row -/

lemma chunkCount_pos {chunk : Nat} (hchunk : 0 < chunk) {remain : Int} (hremain : 0 < remain) :
    0 < chunkCount chunk remain := by
  unfold chunkCount
  omega

structure Streams (objects : FileObjects) (file : ObjectIdentifier) (f : File) : Prop where
  stored : objects file = some (some f)
  type : file.type = objectTypeFile
  stream : f.record = false

lemma fileFor_streams (hfile : Streams objects file f) : fileFor objects file .stream = .ok f := by
  simp [fileFor, hfile.stored, hfile.type, File.streamAccess, hfile.stream]

lemma atomicReadFile_within (hfile : Streams objects file f) {k count : Nat} (hk : k ≤ f.data.length) :
    atomicReadFile objects { file, access := .stream, startPosition := k, count } =
      .ok { endOfFile := decide (f.data.length ≤ k + count), access := .stream, startPosition := k
            data := (f.data.drop k).take count } := by
  have hslice : f.readStream k count = .ok ((f.data.drop k).take count, decide (f.data.length ≤ k + count)) := by
    simp only [File.readStream, hfile.stream, Bool.false_eq_true, if_false, File.slice]
    rw [if_neg (by omega)]
    have hstart : (k : Int).toNat = k := Int.toNat_natCast k
    by_cases hcount : count < f.data.length - k
    · rw [hstart, if_pos hcount, List.drop_take, Nat.add_sub_cancel_left, Except.ok.injEq, Prod.mk.injEq]
      refine ⟨rfl, decide_eq_decide.mpr ?_⟩
      omega
    · rw [hstart, if_neg hcount, List.take_length, Except.ok.injEq, Prod.mk.injEq]
      refine ⟨(List.take_of_length_le (by rw [List.length_drop]; omega)).symm, decide_eq_decide.mpr ?_⟩
      omega
  simp [atomicReadFile, fileFor_streams hfile, hslice]

lemma readChunks_content (hfile : Streams objects file f) {opts : FileReadOptions}
    (htotal : (f.data.length : Int) ≤ opts.total) {k : Nat} (hk : k ≤ f.data.length) (hleft : (k : Int) < opts.total) :
    readChunks (atomicReadFile objects) file opts (f.data.take k) k = (f.data, none) := by
  induction hn : f.data.length - k using Nat.strong_induction_on generalizing k with
  | _ left ih =>
    have hout : (f.data.take k).length = k := by
      rw [List.length_take]
      omega
    have hcount := chunkCount_pos (orDefaultChunk_pos opts.chunkSize) (sub_pos.mpr hleft)
    have hsize := f.fits
    have hmax := f.addressable
    rw [hfile.stream] at hsize
    simp only [Bool.false_eq_true, if_false] at hsize
    unfold readChunks
    rw [dif_neg (by rw [hout]; omega), hout]
    generalize chunkCount (orDefaultChunk opts.chunkSize) (opts.total - k) = count at hcount ⊢
    rw [atomicReadFile_within hfile hk]
    have hnext : nextFilePosition (ε := FileError) k ((f.data.drop k).take count).length =
        .ok (k + ((f.data.drop k).take count).length) := by
      have hlen : ((f.data.drop k).take count).length ≤ f.data.length - k := by
        rw [List.length_take, List.length_drop]
        omega
      unfold nextFilePosition
      rw [if_neg (by omega), if_neg (by omega)]
    simp only [ne_eq, not_true_eq_false, if_false, hnext]
    by_cases hend : f.data.length ≤ k + count
    · have hrest : (f.data.drop k).take count = f.data.drop k :=
        List.take_of_length_le (by rw [List.length_drop]; omega)
      rw [dif_pos (.inl (decide_eq_true hend)), hrest, List.take_append_drop]
    · have hlen : ((f.data.drop k).take count).length = count := by
        rw [List.length_take, List.length_drop]
        omega
      rw [dif_neg (by simp only [hlen, decide_eq_true_eq]; omega), hlen, ← List.take_add, ← Nat.cast_add]
      exact ih (f.data.length - (k + count)) (by omega) (by omega) (by omega) rfl

/-! ### Whole transfers -/

/-- A file written in chunks without an error has the content that one write of the whole data leaves it with, and a
file within the bound read in chunks is read whole. -/
theorem fileTransfer_whole (hfile : Streams objects file f) :
    (∀ (start : Int) (data : Octets) (opts : FileWriteOptions) (outcomes : List (FileChunkOutcome FileError))
      (objects' : FileObjects), (0 ≤ start ∨ start = -1) → data ≠ [] →
      writeFileStream atomicWriteFile file opts start data objects = ((outcomes, none), objects') →
      ∃ p g, f.writeStream start data = .ok (p, g) ∧ objects' file = some (some g)) ∧
    (∀ opts : FileReadOptions, (f.data.length : Int) ≤ opts.total →
      readFileStream (atomicReadFile objects) file opts = (f.data, none)) := by
  constructor
  · intro start data opts outcomes objects' _ hdata hrun
    unfold writeFileStream at hrun
    split at hrun
    · simp at hrun
    · obtain ⟨p, g, hw, hg⟩ := writeChunks_writes hdata hfile.stored hrun
      exact ⟨p, g, File.writeStream_eq_ok_iff.mpr hw, hg⟩
  · intro opts htotal
    have hpos : 0 < opts.total := by
      unfold FileReadOptions.total
      split <;> omega
    have hread := readChunks_content hfile htotal (Nat.zero_le _) (by simpa using hpos)
    simpa [readFileStream] using hread

def sampleFile : File where
  record := false
  readOnly := false
  maxSize := 16
  data := [1, 2, 3]
  records := []
  addressable := by decide
  fits := by decide

def sampleFileObjects : FileObjects := fun id => if id = ⟨objectTypeFile, 1⟩ then some (some sampleFile) else none

def sampleWrite : (List (FileChunkOutcome FileError) × Option (FileTransferError FileError)) × FileObjects :=
  writeFileStream atomicWriteFile ⟨objectTypeFile, 1⟩ { chunkSize := 1 } (-1) [4, 5] sampleFileObjects

/-- The two octets appended one by one, and the file read two octets at a time. -/
theorem fileTransfer_whole_sample :
    (∃ p g, sampleFile.writeStream (-1) [4, 5] = .ok (p, g) ∧
      sampleWrite.2 ⟨objectTypeFile, 1⟩ = some (some g)) ∧
    readFileStream (atomicReadFile sampleFileObjects) ⟨objectTypeFile, 1⟩ { chunkSize := 2 } = ([1, 2, 3], none) := by
  have hfile : Streams sampleFileObjects ⟨objectTypeFile, 1⟩ sampleFile := ⟨rfl, rfl, rfl⟩
  have herr : sampleWrite.1.2 = none := Option.isNone_iff_eq_none.mp (by decide +kernel)
  have hrun : sampleWrite = ((sampleWrite.1.1, none), sampleWrite.2) := Prod.ext (Prod.ext rfl herr) rfl
  have hwhole := fileTransfer_whole hfile
  exact ⟨hwhole.1 (-1) [4, 5] _ sampleWrite.1.1 sampleWrite.2 (.inr rfl) (by decide) hrun, hwhole.2 _ (by decide)⟩

end Client

end GoBacnet
