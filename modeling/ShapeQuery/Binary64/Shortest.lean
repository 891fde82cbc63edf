import ShapeQuery.Binary64.Rounding

/-!
# The shortest decimal of a number

A finite number is written with the fewest decimal digits that round back to it, and among those
with the digits nearest to its exact value. For each count of digits only two decimals can qualify:
the neighbours of the value on that decimal grid, one below and one above. Both are tried by
rounding them, so whatever the search returns does round back.
-/

namespace ShapeQuery

/-- The decimal number `digits * 10 ^ exponent`. -/
structure Decimal where
  /-- The digits, as one whole number. -/
  digits : Nat
  /-- The power of ten that the last digit stands for. -/
  exponent : Int
deriving DecidableEq, Repr

namespace Decimal

/-- The same decimal without trailing zero digits. -/
def trim (d : Decimal) : Decimal :=
  if h : d.digits % 10 = 0 ∧ d.digits ≠ 0 then trim ⟨d.digits / 10, d.exponent + 1⟩ else d
termination_by d.digits
decreasing_by omega

/-- The positive double-precision number nearest to a decimal. -/
def toBinary64 (d : Decimal) : Binary64 := Binary64.ofDecimal false d.digits d.exponent

end Decimal

namespace Binary64

/-- A number without its sign. -/
def abs (x : Binary64) : Binary64 := ofMagnitude false x.magnitude

/-- The power of ten of the leading digit of a positive finite number. Scaling by `10 ^ 400` first
makes even the least number exceed one, so the whole part has the digits to count. -/
def leadingExponent (x : Binary64) : Int :=
  (decimalLength ((x.units * Nat.pow 10 400) >>> 1074) : Int) - 401

/-- The exact value of a finite number, up to sign, as a decimal. -/
def exactDecimal (x : Binary64) : Decimal :=
  ⟨x.units * Nat.pow 5 1074, -1074⟩

/-- The multiple of `10 ^ exponent` that is nearest to a positive finite number among those that
round back to it, if there is one. -/
def nearestDecimal? (x : Binary64) (exponent : Int) : Option Decimal :=
  let num := x.units * Nat.pow 10 (-exponent).toNat
  let den := Nat.pow 10 exponent.toNat <<< 1074
  let lower : Decimal := ⟨num / den, exponent⟩
  let upper : Decimal := ⟨num / den + 1, exponent⟩
  let nearest : Decimal := ⟨roundHalfEven num den, exponent⟩
  [nearest, lower, upper].find? fun d ↦ decide (d.toBinary64 = x.abs)

/-- The shortest decimal of a positive finite number: the grids are tried from one digit on.
Seventeen digits always suffice; the exact value stands in for the case that never comes up. -/
def shortestDecimal (x : Binary64) : Decimal :=
  let top := x.leadingExponent
  (((List.range 17).findSome? fun (n : Nat) ↦ x.nearestDecimal? (top - n)).getD x.exactDecimal).trim

end Binary64

end ShapeQuery
