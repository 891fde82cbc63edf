import ShapeQuery.Pattern.Basic

/-!
# Matching a pattern

A pattern matches a text if it matches some stretch of it. The positions of a text of length `n` are
the numbers from `0` to `n`, and a set of positions is a natural number whose bit `i` says whether
`i` is in it. A pattern acts on such sets backwards: `Regex.before p after` is the set of the
positions from which `p` can reach a position of `after`. Sequence is then composition, alternative
is union, and repetition is iteration until nothing changes, so no search is ever repeated and the
order in which alternatives are tried does not matter.
-/

namespace ShapeQuery

namespace Pattern

/-- What an atom does on a given text, as a set of positions. -/
inductive Action where
  /-- Moves on by one character from the given positions. -/
  | move (positions : Nat)
  /-- Stays where it is, at the given positions. -/
  | stay (positions : Nat)

/-- The positions whose next character satisfies `p`. -/
def movePositions (p : Char → Bool) : List Char → Nat
  | [] => 0
  | c :: rest => (if p c then 1 else 0) + 2 * movePositions p rest

/-- The positions that satisfy `p`, which is told the characters on both sides. -/
def stayPositions (p : Option Char → Option Char → Bool) (before : Option Char) :
    List Char → Nat
  | [] => if p before none then 1 else 0
  | c :: rest => (if p before (some c) then 1 else 0) + 2 * stayPositions p (some c) rest

/-- What an atom does on a text. -/
def Atom.on (text : List Char) : Atom → Action
  | one chars => .move (movePositions chars.contains text)
  | look l => .stay (stayPositions (fun before after ↦ l.holds before after) none text)

/-- The positions from which an action reaches a position of `after`. -/
def Action.before (after : Nat) : Action → Nat
  | move positions => (after >>> 1) &&& positions
  | stay positions => after &&& positions

end Pattern

/-- Applies `f` `count` times, or until it changes nothing. -/
def iterate (f : Nat → Nat) : Nat → Nat → Nat
  | 0, x => x
  | count + 1, x =>
    let y := f x
    if y = x then x else iterate f count y

namespace Regex

/-- The positions from which a pattern reaches a position of `after`, on a text of length
`length`. An optional turn adds positions, and at most one more than the length can be added. -/
def before (length : Nat) : Regex Pattern.Action → Nat → Nat
  | empty, after => after
  | atom a, after => a.before after
  | cat p q, after => p.before length (q.before length after)
  | alt p q, after => p.before length after ||| q.before length after
  | rep p least most, after =>
    let optional := (most.map (· - least)).getD (length + 2)
    let closed := iterate (fun x ↦ after ||| p.before length x) optional after
    iterate (p.before length) least closed

end Regex

/-- Whether a pattern matches some stretch of a text. -/
def Pattern.isMatch (p : Pattern) (text : String) : Bool :=
  let chars := text.toList
  let everywhere := (1 <<< (chars.length + 1)) - 1
  (p.map (Pattern.Atom.on chars)).before chars.length everywhere != 0

end ShapeQuery
