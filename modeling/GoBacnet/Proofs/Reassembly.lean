import GoBacnet.Segment

/-!
# Reassembly of one message

A reassembly that is offered segments of one message of at most 256 segments, in any order and
any number of times, always holds a prefix of the message, and reports completion exactly when
the prefix is the whole message.
-/

namespace GoBacnet.Proofs

open Segment Chunks

lemma uint8_ofNat_inj {i k : Nat} (hi : i < 256) (hk : k < 256) : UInt8.ofNat i = UInt8.ofNat k ↔ i = k := by
  constructor
  · intro h
    have := congrArg UInt8.toNat h
    simpa [UInt8.toNat_ofNat', Nat.mod_eq_of_lt hi, Nat.mod_eq_of_lt hk] using this
  · rintro rfl
    rfl

lemma uint8_ofNat_succ (k : Nat) : UInt8.ofNat k + 1 = UInt8.ofNat (k + 1) := by
  apply UInt8.toNat_inj.mp
  simp [UInt8.toNat_add, UInt8.toNat_ofNat']

structure Holds (payload : Octets) (size : Nat) (r : Reassembly) (k : Nat) : Prop where
  segments : r.segments = k
  expected : r.expected = UInt8.ofNat k
  buf : r.buf = chunks payload size k

lemma holds_new (payload : Octets) (size : Nat) (window : UInt8) (maxSegments maxOctets : Int) :
    Holds payload size (newReassembly window maxSegments maxOctets) 0 :=
  ⟨rfl, rfl, rfl⟩

/-- What offering segment `i` of `n` does to a reassembly that holds the first `k`. -/
inductive AddCase (payload : Octets) (size n : Nat) (r : Reassembly) (k i : Nat) (r' : Reassembly) :
    Outcome → Prop
  | outOfOrder (hne : i ≠ k) (hr : r' = r) : AddCase payload size n r k i r' .outOfOrder
  | tooManySegments (hi : i = k) (hr : r' = r) (hlim : r.maxSegments < k + 1) :
      AddCase payload size n r k i r' .tooManySegments
  | tooLong (hi : i = k) (hr : r' = r)
      (hlim : r.maxOctets < (chunks payload size (k + 1)).length) : AddCase payload size n r k i r' .tooLong
  | stored (hi : i = k) (hmore : k + 1 < n) (h : Holds payload size r' (k + 1)) (hw : r'.window = r.window)
      (hk : k ≠ 0) (hopen : r.inWindow + 1 < r.window) (hin : r'.inWindow = r.inWindow + 1)
      (hlim : r'.maxSegments = r.maxSegments ∧ r'.maxOctets = r.maxOctets) :
      AddCase payload size n r k i r' .stored
  | storedAck (hi : i = k) (hmore : k + 1 < n) (h : Holds payload size r' (k + 1)) (hw : r'.window = r.window)
      (hfull : k = 0 ∨ r.window ≤ r.inWindow + 1) (hin : r'.inWindow = 0)
      (hlim : r'.maxSegments = r.maxSegments ∧ r'.maxOctets = r.maxOctets) :
      AddCase payload size n r k i r' .storedAck
  | complete (hi : i = k) (hlast : k + 1 = n) (h : Holds payload size r' (k + 1)) (hw : r'.window = r.window) :
      AddCase payload size n r k i r' .complete

theorem Holds.add {payload : Octets} {size n k i : Nat} {r : Reassembly} (h : Holds payload size r k)
    (hn : n ≤ 256) (hk : k < n) (hi : i < n) :
    AddCase payload size n r k i (r.add (UInt8.ofNat i) (decide (i + 1 < n)) (slice payload size i)).1
      (r.add (UInt8.ofNat i) (decide (i + 1 < n)) (slice payload size i)).2 := by
  obtain ⟨hseg, hexp, hbuf⟩ := h
  unfold Reassembly.add
  by_cases hik : i = k
  · subst hik
    rw [if_neg (by rw [hexp]; simp)]
    by_cases hmany : (r.segments : Int) + 1 > r.maxSegments
    · rw [if_pos hmany]
      exact .tooManySegments rfl rfl (by omega)
    rw [if_neg hmany]
    have hbuf' : r.buf ++ slice payload size i = chunks payload size (i + 1) := by
      rw [hbuf, slice_eq_chunk, chunks_succ]
    have hlen : (r.buf.length : Int) + (slice payload size i).length =
        (chunks payload size (i + 1)).length := by
      rw [← hbuf', List.length_append]
      push_cast
      rfl
    by_cases hlong : (r.buf.length : Int) + (slice payload size i).length > r.maxOctets
    · rw [if_pos hlong]
      exact .tooLong rfl rfl (by omega)
    rw [if_neg hlong]
    have hexp' : r.expected + 1 = UInt8.ofNat (i + 1) := by rw [hexp, uint8_ofNat_succ]
    by_cases hmore : i + 1 < n
    · simp only [hmore, decide_true, Bool.not_true, Bool.false_eq_true, if_false]
      split
      · next hfull =>
        refine .storedAck rfl hmore ⟨by simp [hseg], hexp', hbuf'⟩ rfl ?_ rfl ⟨rfl, rfl⟩
        rcases hfull with h1 | h1
        · left
          omega
        · right
          exact h1
      · next hopen =>
        push Not at hopen
        exact .stored rfl hmore ⟨by simp [hseg], hexp', hbuf'⟩ rfl (by omega) (UInt8.not_le.mp hopen.2) rfl ⟨rfl, rfl⟩
    · simp only [hmore, decide_false, Bool.not_false, if_true]
      exact .complete rfl (by omega) ⟨by simp [hseg], hexp', hbuf'⟩ rfl
  · have hne : UInt8.ofNat i ≠ r.expected := by
      rw [hexp]
      exact fun heq => hik ((uint8_ofNat_inj (by omega) (by omega)).mp heq)
    rw [if_pos hne]
    exact .outOfOrder hik rfl

lemma Holds.last {payload : Octets} {size k : Nat} {r : Reassembly} (h : Holds payload size r (k + 1)) :
    r.last = UInt8.ofNat k := by
  unfold Reassembly.last
  rw [h.expected, ← uint8_ofNat_succ]
  simp

end GoBacnet.Proofs
