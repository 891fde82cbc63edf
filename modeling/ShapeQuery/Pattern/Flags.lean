import ShapeQuery.Pattern.Basic
import ShapeQuery.Unicode.CaseFold
import ShapeQuery.Unicode.Property

/-!
# Flags and the characters they decide on

Flags change what the rest of a group means. They are resolved while a pattern is read: an atom
already holds exactly the characters that it matches. Without the Unicode flag classes range over
ASCII, and a class that would reach beyond it is refused.
-/

namespace ShapeQuery

/-- Why a text is not a pattern. -/
inductive PatternError where
  | unopenedGroup
  | unclosedGroup
  | unclosedClass
  | nothingToRepeat
  | badCount
  | badRange
  | badEscape
  | badFlags
  | badGroup
  | badGroupName
  | unknownProperty
  | beyondAscii
  | tooNested
  | tooLarge
deriving DecidableEq, Repr

namespace Pattern

/-- The settings in force at some point of a pattern. -/
structure Flags where
  /-- Case is ignored. -/
  ignoreCase : Bool
  /-- `^` and `$` match at lines. -/
  multiLine : Bool
  /-- `.` matches a line feed too. -/
  dotAll : Bool
  /-- Repetitions are lazy unless marked; which stretch is matched makes no difference here. -/
  swapGreed : Bool
  /-- Classes range over all characters, not only ASCII. -/
  unicode : Bool
  /-- A carriage return ends a line too. -/
  crlf : Bool
  /-- White space and comments in the pattern are skipped. -/
  verbose : Bool

namespace Flags

/-- The settings at the start of a pattern. -/
def initial : Flags := ⟨false, false, false, false, true, false, false⟩

/-- Turns on or off the setting that a letter stands for. -/
def set? (flags : Flags) (on : Bool) : Char → Option Flags
  | 'i' => some { flags with ignoreCase := on }
  | 'm' => some { flags with multiLine := on }
  | 's' => some { flags with dotAll := on }
  | 'U' => some { flags with swapGreed := on }
  | 'u' => some { flags with unicode := on }
  | 'R' => some { flags with crlf := on }
  | 'x' => some { flags with verbose := on }
  | _ => none

/-- All characters below 128. -/
def ascii : CharSet := .range 0 0x7f

/-- A set closed under case if case is ignored. -/
def fold (flags : Flags) (s : CharSet) : CharSet :=
  if flags.ignoreCase then
    if flags.unicode then Unicode.CaseFold.close s else (Unicode.CaseFold.close s).inter ascii
  else s

/-- A set as a class, complemented if asked. -/
def finish (flags : Flags) (negated : Bool) (s : CharSet) : Except PatternError CharSet :=
  let s := if negated then s.complement else s
  if flags.unicode || s.isAscii then .ok s else .error .beyondAscii

/-- The characters that a character in the pattern matches. -/
def literal (flags : Flags) (c : Char) : CharSet :=
  if flags.unicode || c.toNat < 0x80 then flags.fold (.single c) else .single c

/-- The characters that `.` matches. -/
def dot (flags : Flags) : Except PatternError CharSet :=
  if !flags.unicode then .error .beyondAscii
  else if flags.dotAll then .ok (.range 0 CharSet.lastPoint)
  else if flags.crlf then .ok (CharSet.unions [.single '\n', .single '\r']).complement
  else .ok (CharSet.single '\n').complement

/-- Decimal digits. -/
def digits (flags : Flags) : CharSet :=
  if flags.unicode then Unicode.decimalDigit else .range '0'.toNat '9'.toNat

/-- White space. -/
def spaces (flags : Flags) : CharSet :=
  if flags.unicode then Unicode.whiteSpace
  else .ofRanges [(0x09, 0x0d), (0x20, 0x20)]

/-- Word characters. -/
def words (flags : Flags) : CharSet :=
  if flags.unicode then Unicode.wordChar
  else .ofRanges [('0'.toNat, '9'.toNat), ('A'.toNat, 'Z'.toNat), ('_'.toNat, '_'.toNat),
    ('a'.toNat, 'z'.toNat)]

end Flags

/-- The named classes of ASCII characters, as ranges. -/
def asciiClass? : String → Option CharSet
  | "alnum" => some (.ofRanges [(0x30, 0x39), (0x41, 0x5a), (0x61, 0x7a)])
  | "alpha" => some (.ofRanges [(0x41, 0x5a), (0x61, 0x7a)])
  | "ascii" => some (.range 0x00 0x7f)
  | "blank" => some (.ofRanges [(0x09, 0x09), (0x20, 0x20)])
  | "cntrl" => some (.ofRanges [(0x00, 0x1f), (0x7f, 0x7f)])
  | "digit" => some (.range 0x30 0x39)
  | "graph" => some (.range 0x21 0x7e)
  | "lower" => some (.range 0x61 0x7a)
  | "print" => some (.range 0x20 0x7e)
  | "punct" => some (.ofRanges [(0x21, 0x2f), (0x3a, 0x40), (0x5b, 0x60), (0x7b, 0x7e)])
  | "space" => some (.ofRanges [(0x09, 0x0d), (0x20, 0x20)])
  | "upper" => some (.range 0x41 0x5a)
  | "word" => some (.ofRanges [(0x30, 0x39), (0x41, 0x5a), (0x5f, 0x5f), (0x61, 0x7a)])
  | "xdigit" => some (.ofRanges [(0x30, 0x39), (0x41, 0x46), (0x61, 0x66)])
  | _ => none

end Pattern

end ShapeQuery
