import ShapeQuery.Binary64.Basic

/-!
# Rounding to double precision

Exact rationals, integers and decimals are rounded to the nearest double-precision number, a half
going to the even neighbour. Everything is computed on natural numbers: a rational is measured in
units of `2 ^ (-1074)`, of which every finite number is a whole multiple.
-/

namespace ShapeQuery

/-- The whole number nearest to `num / den`; a half goes to the even neighbour. -/
def roundHalfEven (num den : Nat) : Nat :=
  let below := num / den
  let rest := num % den
  if 2 * rest < den then below
  else if den < 2 * rest then below + 1
  else below + below % 2

namespace Binary64

/-- The magnitude of the number nearest to `num / den` units. The significand keeps 53 bits, so the
last `p` of them are dropped; a carry out of the significand lands in the exponent field, where it
belongs. Whatever lies beyond the largest finite number becomes an infinity. -/
def roundUnits (num den : Nat) : Nat :=
  let p := Nat.log2 (num / den) - 52
  min (p * hiddenBit + roundHalfEven num (den <<< p)) infinityMagnitude

/-- The number nearest to `num / den`, negated if asked. -/
def ofRatio (negative : Bool) (num den : Nat) : Binary64 :=
  ofMagnitude negative (roundUnits (num <<< 1074) den)

/-- The number nearest to an integer. -/
def ofInt (n : Int) : Binary64 := ofRatio (decide (n < 0)) n.natAbs 1

/-- How many decimal digits a natural number has; zero has one. -/
def decimalLength (n : Nat) : Nat := (Nat.toDigits 10 n).length

/-- The number nearest to `digits * 10 ^ exponent`, negated if asked. A decimal whose leading digit
stands below `10 ^ (-330)` is far under half the least number, one above `10 ^ 310` far over the
largest, so neither is written out. -/
def ofDecimal (negative : Bool) (digits : Nat) (exponent : Int) : Binary64 :=
  let top := (decimalLength digits : Int) + exponent
  if digits = 0 ∨ top < -330 then ofMagnitude negative 0
  else if 310 < top then ofMagnitude negative infinityMagnitude
  else ofRatio negative (digits * Nat.pow 10 exponent.toNat) (Nat.pow 10 (-exponent).toNat)

end Binary64

end ShapeQuery
