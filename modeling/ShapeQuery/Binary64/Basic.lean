/-!
# Double-precision numbers

A number literal holds a 64-bit binary floating-point number. It is kept as its bit pattern, so a
tree can hold either zero, the infinities and every NaN, and two numbers are the same value of this
type exactly when they are the same pattern. Numeric equality is a separate relation, `numEq`.

The pattern without its sign bit is the *magnitude*. Magnitudes of finite numbers increase with the
number, so rounding can be stated on them without looking at the exponent field. Every finite
number is a whole multiple of `2 ^ (-1074)`; `units` is that multiple.
-/

namespace ShapeQuery

/-- A binary floating-point number of double precision, as its bit pattern. -/
structure Binary64 where
  /-- Sign bit, eleven exponent bits and fifty-two fraction bits, from the top. -/
  bits : UInt64
deriving DecidableEq, Repr

namespace Binary64

/-! ### Fields -/

/-- The sign bit, which is bit 63. -/
def signBit : Nat := 0x8000000000000000

/-- The lowest exponent bit, which is bit 52. A normal significand has it as its leading bit. -/
def hiddenBit : Nat := 0x10000000000000

/-- The sign bit is set. -/
def isNegative (x : Binary64) : Bool := decide (signBit ≤ x.bits.toNat)

/-- The bit pattern without its sign bit. -/
def magnitude (x : Binary64) : Nat := x.bits.toNat % signBit

/-- The magnitude of the infinities: finite numbers lie below it and the NaNs above. -/
def infinityMagnitude : Nat := 0x7ff * hiddenBit

/-- The number with the given sign and magnitude. -/
def ofMagnitude (negative : Bool) (magnitude : Nat) : Binary64 :=
  ⟨UInt64.ofNat (if negative then signBit + magnitude else magnitude)⟩

/-- Neither an infinity nor a NaN. -/
def isFinite (x : Binary64) : Bool := decide (x.magnitude < infinityMagnitude)

/-- Not a number, with any payload and either sign. -/
def isNaN (x : Binary64) : Bool := decide (infinityMagnitude < x.magnitude)

/-- Positive or negative zero. -/
def isZero (x : Binary64) : Bool := decide (x.magnitude = 0)

/-! ### Distinguished numbers -/

/-- Positive zero. -/
def zero : Binary64 := ⟨0⟩

/-- Negative zero. -/
def negZero : Binary64 := ⟨0x8000000000000000⟩

/-- The NaN that stands for all of them: quiet, positive and without payload. -/
def nan : Binary64 := ⟨0x7ff8000000000000⟩

/-- Positive infinity. -/
def infinity : Binary64 := ⟨0x7ff0000000000000⟩

/-- Negative infinity. -/
def negInfinity : Binary64 := ⟨0xfff0000000000000⟩

/-! ### Equality and value -/

/-- Numeric equality: a NaN equals nothing, itself included, and the two zeros are equal. -/
def numEq (x y : Binary64) : Bool :=
  !x.isNaN && (x == y || (x.isZero && y.isZero))

/-- Every NaN replaced by `nan`. -/
def identifyNaN (x : Binary64) : Binary64 := if x.isNaN then nan else x

/-- The position of the last significand bit, in units: `0` for subnormal numbers. -/
def scale (x : Binary64) : Nat := x.magnitude / hiddenBit - 1

/-- The significand, with its leading bit when the number is normal. -/
def significand (x : Binary64) : Nat :=
  if x.magnitude < hiddenBit then x.magnitude else x.magnitude % hiddenBit + hiddenBit

/-- A finite number is, up to sign, this many times `2 ^ (-1074)`. -/
def units (x : Binary64) : Nat := x.significand <<< x.scale

end Binary64

end ShapeQuery
