import GoBacnet.Lib.Result
import GoBacnet.Lib.Transition
import GoBacnet.Server.File

/-!
# A File object as a sequence of octets or records

Every call on a file answers as a sequence with random access would, in every state that earlier calls lead to.
-/

namespace GoBacnet.Server

inductive FileOp
  | readStream (start : Int) (count : Nat)
  | writeStream (start : Int) (data : Octets)
  | readRecords (start : Int) (count : Nat)
  | writeRecords (start : Int) (records : List Octets)

inductive FileReply
  | octets (data : Octets) (endOfFile : Bool)
  | records (records : List Octets) (endOfFile : Bool)
  | written (start : Int)
  | failed (err : FileError)
  deriving DecidableEq, Repr

def FileReply.Failed (r : FileReply) : Prop := ∃ err, r = .failed err

namespace File

def call (f : File) : FileOp → FileReply × File
  | .readStream start count =>
    match f.readStream start count with
    | .ok (data, endOfFile) => (.octets data endOfFile, f)
    | .error err => (.failed err, f)
  | .writeStream start data =>
    match f.writeStream start data with
    | .ok (p, g) => (.written p, g)
    | .error err => (.failed err, f)
  | .readRecords start count =>
    match f.readRecords start count with
    | .ok (records, endOfFile) => (.records records endOfFile, f)
    | .error err => (.failed err, f)
  | .writeRecords start records =>
    match f.writeRecords start records with
    | .ok (p, g) => (.written p, g)
    | .error err => (.failed err, f)

def step (f : File) (op : FileOp) : Option File := some (f.call op).2

def size (f : File) : Nat := if f.record then f.records.length else f.data.length

structure Configured (cfg : FileConfig) (f : File) : Prop where
  record : f.record = cfg.record
  readOnly : f.readOnly = cfg.readOnly
  maxSize : f.maxSize = cfg.bound

end File

/-- `new` stands in the places from `p` on, every other place is as before, and places that are new and not written
hold `pad`. -/
structure Replaced {α : Type} (pad : α) (before : List α) (p : Nat) (new after : List α) : Prop where
  inside : ∀ i < new.length, after[p + i]? = new[i]?
  outside : ∀ i < before.length, i < p ∨ p + new.length ≤ i → after[i]? = before[i]?
  gap : ∀ i < p, before.length ≤ i → after[i]? = some pad
  length : after.length = max before.length (p + new.length)

/-- What a sequence with random access answers to a call, and what it is afterwards. -/
def File.Behaves (cfg : FileConfig) (f : File) : FileOp → FileReply × File → Prop
  | .readStream start count, (reply, g) =>
    g = f ∧ if cfg.record = false ∧ 0 ≤ start ∧ start ≤ f.data.length then
      reply = .octets ((f.data.drop start.toNat).take count) (f.data.length ≤ start.toNat + count)
    else reply.Failed
  | .readRecords start count, (reply, g) =>
    g = f ∧ if cfg.record = true ∧ 0 ≤ start ∧ start ≤ f.records.length then
      reply = .records ((f.records.drop start.toNat).take count) (f.records.length ≤ start.toNat + count)
    else reply.Failed
  | .writeStream start data, (reply, g) =>
    let p := if start = -1 then f.data.length else start.toNat
    if cfg.record = false ∧ cfg.readOnly = false ∧ -1 ≤ start ∧ (p + data.length : Int) ≤ cfg.bound then
      reply = .written p ∧ g.Configured cfg ∧ g.records = f.records ∧ Replaced 0 f.data p data g.data
    else reply.Failed ∧ g = f
  | .writeRecords start records, (reply, g) =>
    let p := if start = -1 ∨ start > f.records.length then f.records.length else start.toNat
    if cfg.record = true ∧ cfg.readOnly = false ∧ -1 ≤ start ∧ (p + records.length : Int) ≤ cfg.bound then
      reply = .written p ∧ g.Configured cfg ∧ g.data = f.data ∧ Replaced [] f.records p records g.records
    else reply.Failed ∧ g = f

end GoBacnet.Server

namespace GoBacnet.Proofs

open GoBacnet.Server Transition

variable {cfg : FileConfig} {f : File}

lemma replaced_write {α : Type} (pad : α) (l : List α) (p : Nat) (xs : List α) :
    Replaced pad l p xs (Overwrite.write pad l p xs) where
  inside i hi := by simp [Overwrite.getElem?_write, hi]
  outside i hi hout := by
    rw [Overwrite.getElem?_write]
    split_ifs
    · simp [List.getElem?_eq_getElem hi]
    · omega
    · rfl
  gap i hi hlen := by simp [Overwrite.getElem?_write, hi, List.getElem?_eq_none hlen]
  length := Overwrite.length_write

lemma slice_eq {α : Type} (content : List α) (start : Int) (count : Nat) :
    File.slice content start count = if 0 ≤ start ∧ start ≤ content.length then
      .ok ((content.drop start.toNat).take count, decide (content.length ≤ start.toNat + count))
    else .error .invalidFileStartPosition := by
  unfold File.slice
  by_cases hin : 0 ≤ start ∧ start ≤ content.length
  · rw [if_pos hin, if_neg (by omega)]
    dsimp only
    split_ifs with hcount
    · rw [List.drop_take, Nat.add_sub_cancel_left]
      have hend : start.toNat + count = content.length ↔ content.length ≤ start.toNat + count := by omega
      simp [hend]
    · have hend : content.length ≤ start.toNat + count := by omega
      rw [List.take_of_length_le le_rfl, List.take_of_length_le (by rw [List.length_drop]; omega)]
      simp [hend]
  · rw [if_neg hin, if_pos (by omega)]

lemma newFile_configured (h : newFile cfg = .ok f) : f.Configured cfg := by
  unfold newFile at h
  split_ifs at h <;> cases h <;> exact ⟨rfl, rfl, rfl⟩

/-- A write is carried out or refused. -/
lemma writeStream_cases (f : File) (start : Int) (data : Octets) :
    (f.record = false ∧ f.readOnly = false ∧ -1 ≤ start ∧ (f.streamPosition start + data.length : Int) ≤ f.maxSize ∧
      ∃ g, f.writeStream start data = .ok (f.streamPosition start, g) ∧ (∀ cfg, f.Configured cfg → g.Configured cfg) ∧
        g.records = f.records ∧ g.data = Overwrite.write 0 f.data (f.streamPosition start) data) ∨
    (¬ (f.record = false ∧ f.readOnly = false ∧ -1 ≤ start ∧
      (f.streamPosition start + data.length : Int) ≤ f.maxSize) ∧ ∃ e, f.writeStream start data = .error e) := by
  unfold File.writeStream
  split_ifs with hrecord hreadOnly hstart hfull
  · exact .inr ⟨by simp [hrecord], _, rfl⟩
  · exact .inr ⟨by simp [hreadOnly], _, rfl⟩
  · exact .inr ⟨by omega, _, rfl⟩
  · exact .inr ⟨by omega, _, rfl⟩
  · exact .inl ⟨by simpa using hrecord, by simpa using hreadOnly, by omega, by omega, _, rfl,
      fun _ h => ⟨h.record, h.readOnly, h.maxSize⟩, rfl, rfl⟩

lemma writeRecords_cases (f : File) (start : Int) (records : List Octets) :
    (f.record = true ∧ f.readOnly = false ∧ -1 ≤ start ∧ (f.recordPosition start + records.length : Int) ≤ f.maxSize ∧
      ∃ g, f.writeRecords start records = .ok (f.recordPosition start, g) ∧ (∀ cfg, f.Configured cfg → g.Configured cfg) ∧
        g.data = f.data ∧ g.records = Overwrite.write [] f.records (f.recordPosition start) records) ∨
    (¬ (f.record = true ∧ f.readOnly = false ∧ -1 ≤ start ∧
      (f.recordPosition start + records.length : Int) ≤ f.maxSize) ∧ ∃ e, f.writeRecords start records = .error e) := by
  unfold File.writeRecords
  split_ifs with hrecord hreadOnly hstart hfull
  · exact .inr ⟨by simpa using fun h => absurd h (by simpa using hrecord), _, rfl⟩
  · exact .inr ⟨by simp [hreadOnly], _, rfl⟩
  · exact .inr ⟨by omega, _, rfl⟩
  · exact .inr ⟨by omega, _, rfl⟩
  · exact .inl ⟨by simpa using hrecord, by simpa using hreadOnly, by omega, by omega, _, rfl,
      fun _ h => ⟨h.record, h.readOnly, h.maxSize⟩, rfl, rfl⟩

lemma call_behaves (hf : f.Configured cfg) (op : FileOp) : f.Behaves cfg op (f.call op) := by
  cases op with
  | readStream start count =>
    simp only [File.Behaves, File.call, File.readStream, slice_eq, hf.record]
    by_cases hr : cfg.record <;> simp only [hr] <;> split_ifs <;> simp_all [FileReply.Failed]
  | readRecords start count =>
    simp only [File.Behaves, File.call, File.readRecords, slice_eq, hf.record]
    by_cases hr : cfg.record <;> simp only [hr] <;> split_ifs <;> simp_all [FileReply.Failed]
  | writeStream start data =>
    simp only [File.Behaves, File.call]
    change if cfg.record = false ∧ cfg.readOnly = false ∧ -1 ≤ start ∧
      (f.streamPosition start + data.length : Int) ≤ cfg.bound then _ else _
    rw [← hf.record, ← hf.readOnly, ← hf.maxSize]
    rcases writeStream_cases f start data with ⟨hr, hw, hs, hm, g, heq, hg, hrecords, hdata⟩ | ⟨hno, e, heq⟩
    · rw [if_pos ⟨hr, hw, hs, hm⟩, heq]
      exact ⟨rfl, hg cfg hf, hrecords, hdata ▸ replaced_write 0 f.data _ data⟩
    · rw [if_neg hno, heq]
      exact ⟨⟨e, rfl⟩, rfl⟩
  | writeRecords start records =>
    simp only [File.Behaves, File.call]
    change if cfg.record = true ∧ cfg.readOnly = false ∧ -1 ≤ start ∧
      (f.recordPosition start + records.length : Int) ≤ cfg.bound then _ else _
    rw [← hf.record, ← hf.readOnly, ← hf.maxSize]
    rcases writeRecords_cases f start records with ⟨hr, hw, hs, hm, g, heq, hg, hdata, hrecords⟩ | ⟨hno, e, heq⟩
    · rw [if_pos ⟨hr, hw, hs, hm⟩, heq]
      exact ⟨rfl, hg cfg hf, hdata, hrecords ▸ replaced_write [] f.records _ records⟩
    · rw [if_neg hno, heq]
      exact ⟨⟨e, rfl⟩, rfl⟩

lemma call_configured (hf : f.Configured cfg) (op : FileOp) : (f.call op).2.Configured cfg := by
  cases op with
  | readStream start count =>
    have heq : (f.call (.readStream start count)).2 = f := (call_behaves hf (.readStream start count)).1
    rwa [heq]
  | readRecords start count =>
    have heq : (f.call (.readRecords start count)).2 = f := (call_behaves hf (.readRecords start count)).1
    rwa [heq]
  | writeStream start data =>
    rcases writeStream_cases f start data with ⟨-, -, -, -, g, heq, hg, -⟩ | ⟨-, e, heq⟩ <;> simp only [File.call, heq]
    exacts [hg cfg hf, hf]
  | writeRecords start records =>
    rcases writeRecords_cases f start records with ⟨-, -, -, -, g, heq, hg, -⟩ | ⟨-, e, heq⟩ <;>
      simp only [File.call, heq]
    exacts [hg cfg hf, hf]

/-- In every state of a file, each call answers as a sequence of octets or records does, and the sequence is never
longer than the configured bound. -/
theorem file_refines_sequence {f₀ : File} (h : newFile cfg = .ok f₀) (hf : Reachable f₀ File.step f) :
    f.size ≤ cfg.bound ∧ ∀ op, f.Behaves cfg op (f.call op) := by
  have hcfg : f.Configured cfg :=
    hf.invariant (File.Configured cfg) (newFile_configured h) fun s op s' hs _ hstep => by
      cases hstep
      exact call_configured hs op
  refine ⟨?_, call_behaves hcfg⟩
  have hfits := f.fits
  rw [hcfg.maxSize] at hfits
  unfold File.size
  split_ifs at hfits ⊢ <;> exact hfits

/-- A write behind the end of a file of two octets. -/
theorem file_refines_sequence_gap : ∃ f₀ f : File,
    newFile { instanceNumber := 1, name := "log", data := [1, 2] } = .ok f₀ ∧
      f = (f₀.call (.writeStream 4 [9])).2 ∧ f.data = [1, 2, 0, 0, 9] ∧ (f.size : Int) ≤ 1048576 := by
  obtain ⟨f₀, h₀⟩ := Except.exists_of_isOk (by decide +kernel :
    (newFile { instanceNumber := 1, name := "log", data := [1, 2] }).isOk = true)
  refine ⟨f₀, _, h₀, rfl, ?_, ?_⟩
  · have heq : (newFile { instanceNumber := 1, name := "log", data := [1, 2] }).toOption.map
        (fun f => (f.call (.writeStream 4 [9])).2.data) = some [1, 2, 0, 0, 9] := by decide +kernel
    rw [h₀] at heq
    exact Option.some.inj heq
  · exact (file_refines_sequence h₀ (.step (.writeStream 4 [9]) .init trivial rfl)).1

end GoBacnet.Proofs
