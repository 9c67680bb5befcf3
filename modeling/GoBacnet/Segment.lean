import GoBacnet.Lib.Chunks
import GoBacnet.Value

/-!
# Segmentation arithmetic

Window sizes, the reassembly of a segmented message received in order and the division of a
payload into segments, shared by the requesting and the responding side.
-/

namespace GoBacnet.Segment

def maxWindow : UInt8 := 127

/-- The number of distinct sequence numbers. -/
def maxSegments : Nat := 256

def validWindow (w : UInt8) : Bool := w ≥ 1 && w ≤ maxWindow

def window (localWindow proposed : UInt8) : UInt8 :=
  let w := if proposed > 0 ∧ proposed < localWindow then proposed else localWindow
  if w = 0 then 1 else w

/-- The result of adding one segment. -/
inductive Outcome
  | stored
  | storedAck
  | complete
  | outOfOrder
  | tooManySegments
  | tooLong
  deriving DecidableEq, Repr

/-- The segments of one message received so far. -/
structure Reassembly where
  window : UInt8
  expected : UInt8 := 0
  inWindow : UInt8 := 0
  segments : Nat := 0
  maxSegments : Int
  maxOctets : Int
  buf : Octets := []
  deriving DecidableEq, Repr

def newReassembly (window : UInt8) (maxSegments maxOctets : Int) : Reassembly where
  window := if window = 0 then 1 else window
  maxSegments := maxSegments
  maxOctets := maxOctets

namespace Reassembly

/-- Offers the segment with sequence number `seq`. -/
def add (r : Reassembly) (seq : UInt8) (more : Bool) (payload : Octets) : Reassembly × Outcome :=
  if seq ≠ r.expected then (r, .outOfOrder)
  else if (r.segments : Int) + 1 > r.maxSegments then (r, .tooManySegments)
  else if (r.buf.length : Int) + payload.length > r.maxOctets then (r, .tooLong)
  else
    let r := { r with buf := r.buf ++ payload, segments := r.segments + 1, expected := r.expected + 1,
                      inWindow := r.inWindow + 1 }
    if !more then ({ r with inWindow := 0 }, .complete)
    -- The first segment is acknowledged at once; later windows count from it.
    else if r.segments = 1 ∨ r.inWindow ≥ r.window then ({ r with inWindow := 0 }, .storedAck)
    else (r, .stored)

/-- The sequence number of the last segment received in order; 255 before the first. -/
def last (r : Reassembly) : UInt8 := r.expected - 1

end Reassembly

/-- The number of segments of at most `size` octets that carry `n` octets; an empty payload
still takes one. -/
def count (n size : Nat) : Nat :=
  if size < 1 then 0 else if n = 0 then 1 else (n + size - 1) / size

def bounds (i size n : Nat) : Nat × Nat :=
  let start := min (i * size) n
  (start, min (start + size) n)

def slice (payload : Octets) (size i : Nat) : Octets :=
  let (start, stop) := bounds i size payload.length
  (payload.drop start).take (stop - start)

lemma slice_eq_chunk (payload : Octets) (size i : Nat) : slice payload size i = Chunks.chunk payload size i := by
  simp only [slice, bounds, Chunks.chunk]
  rcases Nat.le_total (i * size) payload.length with h | h
  · rw [Nat.min_eq_left h]
    rcases Nat.le_total (i * size + size) payload.length with h' | h'
    · rw [Nat.min_eq_left h', Nat.add_sub_cancel_left]
    · rw [Nat.min_eq_right h', List.take_of_length_le (by simp), List.take_of_length_le (by simp; omega)]
  · rw [Nat.min_eq_right h, List.drop_of_length_le h, List.drop_of_length_le le_rfl]
    simp

lemma le_count_mul {n size : Nat} (hsize : 1 ≤ size) : n ≤ count n size * size := by
  unfold count
  rw [if_neg (by omega)]
  split
  · omega
  · have hdiv := Nat.div_add_mod (n + size - 1) size
    have hmod := Nat.mod_lt (n + size - 1) (by omega : size > 0)
    rw [Nat.mul_comm]
    omega

lemma count_pos {n size : Nat} (hsize : 1 ≤ size) : 1 ≤ count n size := by
  unfold count
  rw [if_neg (by omega)]
  split
  · omega
  · exact (Nat.one_le_div_iff (by omega)).mpr (by omega)

theorem chunks_count (payload : Octets) {size : Nat} (hsize : 1 ≤ size) :
    Chunks.chunks payload size (count payload.length size) = payload :=
  Chunks.chunks_of_le (le_count_mul hsize)

end GoBacnet.Segment
