import Mathlib.Algebra.Ring.Int.Defs
import Mathlib.Algebra.Ring.Nat

/-!
# Single precision numbers as bit patterns

The classes of IEEE 754 binary32 numbers and the comparisons of two of them. A number that is not a NaN is compared by
its sign and magnitude, read as one integer: both zeros are 0.
-/

namespace Binary32

def exponent (b : UInt32) : Nat := b.toNat / 2 ^ 23 % 2 ^ 8

def mantissa (b : UInt32) : Nat := b.toNat % 2 ^ 23

def negative (b : UInt32) : Bool := 2 ^ 31 ≤ b.toNat

def isNaN (b : UInt32) : Bool := exponent b = 255 && mantissa b ≠ 0

def isInf (b : UInt32) : Bool := exponent b = 255 && mantissa b = 0

/-- The place of a number that is not a NaN in the order. -/
def ordinal (b : UInt32) : Int := if negative b then 2 ^ 31 - b.toNat else b.toNat

def eq (a b : UInt32) : Bool := !isNaN a && !isNaN b && ordinal a = ordinal b

def lt (a b : UInt32) : Bool := !isNaN a && !isNaN b && ordinal a < ordinal b

end Binary32
