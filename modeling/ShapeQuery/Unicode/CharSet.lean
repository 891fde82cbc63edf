/-!
# Sets of characters

A set of characters is a list of ranges of code points, each given by its first and its last, in
increasing order and with a gap between any two. The operations keep that form, so equal sets have
equal lists and the number of ranges measures a set.
-/

namespace ShapeQuery

/-- A set of code points, as increasing ranges that neither overlap nor touch. -/
structure CharSet where
  ranges : List (Nat × Nat)
deriving DecidableEq, Repr

namespace CharSet

/-- The greatest code point. -/
def lastPoint : Nat := 0x10ffff

/-- No characters. -/
def empty : CharSet := ⟨[]⟩

/-- Joins ranges that overlap or touch; the ranges come in increasing order of their first points.
The range before the list is still open to growth. -/
def join (range : Nat × Nat) : List (Nat × Nat) → List (Nat × Nat)
  | [] => [range]
  | next :: rest =>
    if next.1 ≤ range.2 + 1 then join (range.1, max range.2 next.2) rest
    else range :: join next rest

/-- The set of the points in any of the given ranges. -/
def ofRanges (ranges : List (Nat × Nat)) : CharSet :=
  match ranges.mergeSort (fun a b ↦ decide (a.1 ≤ b.1)) with
  | [] => empty
  | first :: rest => ⟨join first rest⟩

/-- The set of the points from `first` to `last`. -/
def range (first last : Nat) : CharSet := ⟨[(first, last)]⟩

/-- The set of one character. -/
def single (c : Char) : CharSet := range c.toNat c.toNat

/-- Whether a code point is in the set. -/
def has (s : CharSet) (point : Nat) : Bool :=
  s.ranges.any fun r ↦ decide (r.1 ≤ point ∧ point ≤ r.2)

/-- Whether a character is in the set. -/
def contains (s : CharSet) (c : Char) : Bool := s.has c.toNat

/-- The points of either set. -/
def union (s t : CharSet) : CharSet := ofRanges (s.ranges ++ t.ranges)

/-- The gaps between increasing ranges, from the point `start` on. -/
def gaps (start : Nat) : List (Nat × Nat) → List (Nat × Nat)
  | [] => if start ≤ lastPoint then [(start, lastPoint)] else []
  | r :: rest =>
    if start < r.1 then (start, r.1 - 1) :: gaps (r.2 + 1) rest else gaps (r.2 + 1) rest

/-- The points that are not in the set. -/
def complement (s : CharSet) : CharSet := ⟨gaps 0 s.ranges⟩

/-- The points of both sets. -/
def inter (s t : CharSet) : CharSet := (s.complement.union t.complement).complement

/-- The points of the first set that are not in the second. -/
def difference (s t : CharSet) : CharSet := (s.complement.union t).complement

/-- The points of exactly one of the sets. -/
def symmetricDifference (s t : CharSet) : CharSet := (s.union t).difference (s.inter t)

/-- The points of any of the sets. -/
def unions (sets : List CharSet) : CharSet := ofRanges (sets.flatMap ranges)

/-- Whether every point of the set is below 128. -/
def isAscii (s : CharSet) : Bool := s.ranges.all fun r ↦ decide (r.2 < 0x80)

end CharSet

end ShapeQuery
