import ShapeQuery.Unicode.CharSet

/-!
# Name patterns

A pattern is a regular expression over two kinds of atoms: one character out of a set, and an
assertion about the position between two characters. The expression type takes the atoms as a
parameter, because matching first turns them into the sets of positions where they apply to a given
text and leaves the rest of the expression as it is.
-/

namespace ShapeQuery

/-- A regular expression over atoms of type `α`. -/
inductive Regex (α : Type) where
  /-- Matches the empty text. -/
  | empty
  /-- An atom. -/
  | atom (a : α)
  /-- One expression after the other. -/
  | cat (p q : Regex α)
  /-- Either of two expressions. -/
  | alt (p q : Regex α)
  /-- An expression at least `least` times and at most `most` times, if that is bounded. -/
  | rep (p : Regex α) (least : Nat) (most : Option Nat)

namespace Regex

variable {α β : Type}

/-- Replaces the atoms. -/
def map (f : α → β) : Regex α → Regex β
  | empty => empty
  | atom a => atom (f a)
  | cat p q => cat (p.map f) (q.map f)
  | alt p q => alt (p.map f) (q.map f)
  | rep p least most => rep (p.map f) least most

/-- Expressions in sequence. -/
def sequence : List (Regex α) → Regex α
  | [] => empty
  | [p] => p
  | p :: rest => cat p (sequence rest)

/-- Any of the expressions after the first, or the first. -/
def anyOf (p : Regex α) : List (Regex α) → Regex α
  | [] => p
  | q :: rest => alt p (anyOf q rest)

/-- A repetition. An unbounded repetition of an unbounded one, neither of which asks for more than
one turn, is a single repetition. -/
def repeated (p : Regex α) (least : Nat) (most : Option Nat) : Regex α :=
  match p, most with
  | rep q inner none, none =>
    if inner ≤ 1 ∧ least ≤ 1 then rep q (inner * least) none else rep p least most
  | _, _ => rep p least most

end Regex

namespace Pattern

/-- An assertion about the position between two characters. -/
inductive Look where
  | textStart
  | textEnd
  /-- The start of a line; a carriage return also ends a line if `crlf` is set. -/
  | lineStart (crlf : Bool)
  /-- The end of a line. -/
  | lineEnd (crlf : Bool)
  /-- A word character on exactly one side, or on neither or both sides if `negated`. -/
  | wordEdge (word : CharSet) (negated : Bool)
  /-- No word character before. -/
  | noWordBefore (word : CharSet)
  /-- No word character after. -/
  | noWordAfter (word : CharSet)
  /-- A word starts here. -/
  | wordStart (word : CharSet)
  /-- A word ends here. -/
  | wordEnd (word : CharSet)

/-- Whether an assertion holds between two characters; `none` is the end of the text. -/
def Look.holds (before after : Option Char) : Look → Bool
  | textStart => before.isNone
  | textEnd => after.isNone
  | lineStart crlf =>
    before.isNone || before == some '\n' || (crlf && before == some '\r' && after != some '\n')
  | lineEnd crlf =>
    after.isNone || (after == some '\n' && !(crlf && before == some '\r')) ||
      (crlf && after == some '\r')
  | wordEdge word negated => (before.any word.contains != after.any word.contains) != negated
  | noWordBefore word => !before.any word.contains
  | noWordAfter word => !after.any word.contains
  | wordStart word => !before.any word.contains && after.any word.contains
  | wordEnd word => before.any word.contains && !after.any word.contains

/-- An atom of a pattern. -/
inductive Atom where
  /-- One character of a set. -/
  | one (chars : CharSet)
  /-- An assertion, which takes up no character. -/
  | look (l : Look)

end Pattern

/-- A pattern for names. -/
abbrev Pattern := Regex Pattern.Atom

end ShapeQuery
