import ShapeQuery.Unicode.CharSet

/-!
# Character tables as text

Tables of character data are written as lines of text, words separated by spaces. Two shapes occur:
*runs* divide all code points, from zero on, into stretches with one label each, and *ranges* list
code points in hexadecimal.
-/

namespace ShapeQuery

namespace Unicode

/-- The words of a table. -/
def words (table : List String) : List String := table.flatMap fun line ↦ line.splitOn " "

/-- The value of a run of decimal digits. -/
def decimalValue (digits : List Char) : Nat :=
  digits.foldl (fun n c ↦ 10 * n + (c.toNat - '0'.toNat)) 0

/-- The value of a run of hexadecimal digits in lower case. -/
def hexValue (digits : List Char) : Nat :=
  digits.foldl (fun n c ↦
    16 * n + (if c.isDigit then c.toNat - '0'.toNat else c.toNat - 'a'.toNat + 10)) 0

/-- The labels and lengths of a table of runs. A word is a label and the length of its run, which is
left out when it is one. -/
def runs (table : List String) : List (String × Nat) :=
  (words table).map fun word ↦
    let label := word.toList.takeWhile Char.isAlpha
    let length := word.toList.dropWhile Char.isAlpha
    (String.ofList label, if length.isEmpty then 1 else decimalValue length)

/-- The ranges that the runs with an accepted label cover; the first run starts at `start`. -/
def runRanges {α : Type} (accept : α → Bool) (start : Nat) : List (α × Nat) → List (Nat × Nat)
  | [] => []
  | (label, length) :: rest =>
    let later := runRanges accept (start + length) rest
    if accept label then (start, start + length - 1) :: later else later

/-- The label of the run that a point lies in; the point counts from the start of the first run. -/
def labelAt? {α : Type} (point : Nat) : List (α × Nat) → Option α
  | [] => none
  | (label, length) :: rest => if point < length then some label else labelAt? (point - length) rest

/-- The set that a table of ranges lists. A word is a code point, or two joined by a hyphen. -/
def rangeTable (table : List String) : CharSet :=
  .ofRanges <| (words table).filterMap fun word ↦
    match word.splitOn "-" with
    | [point] => some (hexValue point.toList, hexValue point.toList)
    | [first, last] => some (hexValue first.toList, hexValue last.toList)
    | _ => none

end Unicode

end ShapeQuery
