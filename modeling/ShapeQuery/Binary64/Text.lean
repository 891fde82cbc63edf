import ShapeQuery.Binary64.Shortest

/-!
# The text of a finite number

The shortest digits of a number are laid out positionally when the leading digit stands for a power
of ten from `10 ^ (-5)` to `10 ^ 15`, and in scientific notation otherwise. Positional notation
always has a digit after the point; in scientific notation the exponent always has its sign.
-/

namespace ShapeQuery

namespace Binary64

/-- The least power of ten whose leading digit is still written positionally. -/
def leastPositional : Int := -5

/-- The greatest power of ten whose leading digit is still written positionally. -/
def greatestPositional : Int := 15

/-- Digits with a point after the first `whole` of them, padded with zeros on either side so that
both parts are present. -/
def positional (digits : List Char) (whole : Int) : List Char :=
  if whole ≤ 0 then '0' :: '.' :: (List.replicate (-whole).toNat '0' ++ digits)
  else
    let n := whole.toNat
    if digits.length ≤ n then digits ++ List.replicate (n - digits.length) '0' ++ ['.', '0']
    else digits.take n ++ '.' :: digits.drop n

/-- Digits with a point after the first one, unless it stands alone, and the power of ten of that
first digit. -/
def scientific (digits : List Char) (exponent : Int) : List Char :=
  let mantissa :=
    match digits with
    | first :: second :: rest => first :: '.' :: second :: rest
    | short => short
  let sign := if exponent < 0 then '-' else '+'
  mantissa ++ 'e' :: sign :: Nat.toDigits 10 exponent.natAbs

/-- The text of a decimal. -/
def decimalText (d : Decimal) : List Char :=
  let digits := Nat.toDigits 10 d.digits
  let exponent := (digits.length : Int) - 1 + d.exponent
  if leastPositional ≤ exponent ∧ exponent ≤ greatestPositional then
    positional digits (exponent + 1)
  else scientific digits exponent

/-- The text of a finite number. Either zero has the digit zero on both sides of the point. -/
def text (x : Binary64) : List Char :=
  let unsigned := if x.isZero then ['0', '.', '0'] else decimalText x.shortestDecimal
  if x.isNegative then '-' :: unsigned else unsigned

end Binary64

end ShapeQuery
