import Mathlib.Tactic

/-!
# Errors and decode limits

The error sentinels a codec wraps, and the bounds that every parser applies. A limit
of zero or less stands for its default.
-/

namespace GoBacnet

inductive Sentinel where
  | malformed
  | unsupported
  | trailingData
  | limitExceeded
  | apduTooLarge
  deriving DecidableEq, Repr

/-- An error that wraps a sentinel and says what failed. -/
structure Err where
  sentinel : Sentinel
  detail : String
  deriving DecidableEq, Repr

def malformed (detail : String) : Err := ⟨.malformed, detail⟩

def unsupported (detail : String) : Err := ⟨.unsupported, detail⟩

def trailingData (detail : String) : Err := ⟨.trailingData, detail⟩

def limitExceeded (detail : String) : Err := ⟨.limitExceeded, detail⟩

def apduTooLarge (detail : String) : Err := ⟨.apduTooLarge, detail⟩

/-- Bounds on parser and reassembly allocations. -/
structure DecodeLimits where
  maxDatagramSize : Int := 0
  maxAPDUSize : Int := 0
  maxConstructedDepth : Int := 0
  maxElements : Int := 0
  maxOctetStringLength : Int := 0
  maxCharacterLength : Int := 0
  maxBitStringBits : Int := 0
  maxSegments : Int := 0
  maxReassembledAPDU : Int := 0
  deriving DecidableEq, Repr

/-- Conservative BACnet/IP IPv4 defaults. -/
def defaultDecodeLimits : DecodeLimits where
  maxDatagramSize := 65535
  maxAPDUSize := 1476
  maxConstructedDepth := 32
  maxElements := 4096
  maxOctetStringLength := 65535
  maxCharacterLength := 65535
  maxBitStringBits := 65535
  maxSegments := 64
  maxReassembledAPDU := 65535

def orDefault (configured default : Int) : Int := if configured ≤ 0 then default else configured

namespace DecodeLimits

def normalize (l : DecodeLimits) : DecodeLimits where
  maxDatagramSize := orDefault l.maxDatagramSize defaultDecodeLimits.maxDatagramSize
  maxAPDUSize := orDefault l.maxAPDUSize defaultDecodeLimits.maxAPDUSize
  maxConstructedDepth := orDefault l.maxConstructedDepth defaultDecodeLimits.maxConstructedDepth
  maxElements := orDefault l.maxElements defaultDecodeLimits.maxElements
  maxOctetStringLength := orDefault l.maxOctetStringLength defaultDecodeLimits.maxOctetStringLength
  maxCharacterLength := orDefault l.maxCharacterLength defaultDecodeLimits.maxCharacterLength
  maxBitStringBits := orDefault l.maxBitStringBits defaultDecodeLimits.maxBitStringBits
  maxSegments := orDefault l.maxSegments defaultDecodeLimits.maxSegments
  maxReassembledAPDU := orDefault l.maxReassembledAPDU defaultDecodeLimits.maxReassembledAPDU

lemma orDefault_idem (c : Int) {d : Int} (hd : 0 < d) : orDefault (orDefault c d) d = orDefault c d := by
  unfold orDefault
  split
  · rw [if_neg (by omega)]
  · rfl

@[simp] lemma normalize_normalize (l : DecodeLimits) : l.normalize.normalize = l.normalize := by
  simp only [normalize]
  congr 1 <;> exact orDefault_idem _ (by decide)

lemma orDefault_pos (c : Int) {d : Int} (hd : 0 < d) : 0 < orDefault c d := by
  unfold orDefault
  split
  · exact hd
  · omega

lemma normalize_maxElements_pos (l : DecodeLimits) : 0 < l.normalize.maxElements := orDefault_pos _ (by decide)

lemma normalize_maxConstructedDepth_pos (l : DecodeLimits) : 0 < l.normalize.maxConstructedDepth :=
  orDefault_pos _ (by decide)

end DecodeLimits

end GoBacnet
