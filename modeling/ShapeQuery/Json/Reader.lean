import ShapeQuery.Json.Basic

/-!
# Reading JSON text

Reading has two stages, each a fold that can fail. The first cuts the text into tokens, one
character at a time; the second puts the tokens together, one token at a time, holding the
containers that are still open in a list. Neither uses the call stack for nesting, so there is no
limit on depth.

The grammar is strict: no comments, no trailing commas, no leading zeros, no raw control characters
in strings, and escaped surrogates only in pairs. A whole number that fits a 64-bit word stays
whole, negative zero excepted; every other number is rounded to double precision, and one that
overflows is refused.
-/

namespace ShapeQuery

namespace Json

/-! ### Numbers -/

/-- The value of a run of decimal digits. -/
def digitsValue (digits : List Char) : Nat :=
  digits.foldl (fun n c ↦ 10 * n + (c.toNat - '0'.toNat)) 0

/-- The exponent that ends a number: nothing, or the mark, an optional sign and digits. -/
def exponentValue? : List Char → Option Int
  | [] => some 0
  | mark :: rest =>
    let (negative, digits) :=
      match rest with
      | '-' :: digits => (true, digits)
      | '+' :: digits => (false, digits)
      | digits => (false, digits)
    if (mark = 'e' ∨ mark = 'E') ∧ digits ≠ [] ∧ digits.all Char.isDigit then
      some (if negative then -(digitsValue digits : Int) else digitsValue digits)
    else none

/-- The number that a text without its sign stands for. -/
def unsignedNumber? (negative : Bool) (text : List Char) : Option Number :=
  let whole := text.takeWhile Char.isDigit
  if whole = [] ∨ (whole.head? = some '0' ∧ 1 < whole.length) then none
  else
    match text.dropWhile Char.isDigit with
    | [] =>
      if negative ∧ digitsValue whole = 0 then Number.ofBinary64? Binary64.negZero
      else Number.ofInt? (if negative then -(digitsValue whole : Int) else digitsValue whole)
    | '.' :: rest =>
      let places := rest.takeWhile Char.isDigit
      if places = [] then none
      else do
        let exponent ← exponentValue? (rest.dropWhile Char.isDigit)
        Number.ofBinary64?
          (Binary64.ofDecimal negative (digitsValue (whole ++ places)) (exponent - places.length))
    | rest => do
      let exponent ← exponentValue? rest
      Number.ofBinary64? (Binary64.ofDecimal negative (digitsValue whole) exponent)

/-- The number that a text stands for. -/
def number? : List Char → Option Number
  | '-' :: text => unsignedNumber? true text
  | text => unsignedNumber? false text

/-! ### Tokens -/

/-- A lexical unit of JSON text. -/
inductive Token where
  | leftBrace
  | rightBrace
  | leftBracket
  | rightBracket
  | comma
  | colon
  | text (s : String)
  | scalar (v : Json)

/-- What the text read so far is in the middle of. Characters are held in reverse. -/
inductive Lexeme where
  /-- Between two tokens. -/
  | none
  /-- A number or one of the three words. -/
  | word (read : List Char)
  /-- A string. -/
  | text (read : List Char)
  /-- A string, after a backslash. -/
  | escape (read : List Char)
  /-- A string, in an escape that still needs `need` hexadecimal digits; `high` is the leading
  surrogate that it has to complete. -/
  | hex (read : List Char) (high : Option Nat) (need value : Nat)
  /-- A string, after a leading surrogate. -/
  | surrogate (read : List Char) (high : Nat)
  /-- A string, after a leading surrogate and a backslash. -/
  | surrogateEscape (read : List Char) (high : Nat)

/-- The tokens read so far, the last one first, and the unfinished one. -/
structure Lexer where
  tokens : List Token
  lexeme : Lexeme

namespace Lexer

/-- The token that a run of characters other than punctuation forms. -/
def wordToken? (word : List Char) : Option Token :=
  if word = ['n', 'u', 'l', 'l'] then some (.scalar .null)
  else if word = ['t', 'r', 'u', 'e'] then some (.scalar (.bool true))
  else if word = ['f', 'a', 'l', 's', 'e'] then some (.scalar (.bool false))
  else (number? word).map fun n ↦ .scalar (.number n)

/-- The punctuation token that a character forms on its own. -/
def punctuation? : Char → Option Token
  | '\x7b' => some .leftBrace
  | '\x7d' => some .rightBrace
  | '[' => some .leftBracket
  | ']' => some .rightBracket
  | ',' => some .comma
  | ':' => some .colon
  | _ => none

/-- White space between tokens. -/
def isBlank (c : Char) : Bool := c == ' ' || c == '\t' || c == '\n' || c == '\r'

/-- The character that an escape letter stands for. -/
def escaped? : Char → Option Char
  | '"' => some '"'
  | '\\' => some '\\'
  | '/' => some '/'
  | 'b' => some '\x08'
  | 'f' => some '\x0c'
  | 'n' => some '\n'
  | 'r' => some '\r'
  | 't' => some '\t'
  | _ => none

/-- The value of a hexadecimal digit. -/
def hexValue? (c : Char) : Option Nat :=
  if '0' ≤ c ∧ c ≤ '9' then some (c.toNat - '0'.toNat)
  else if 'a' ≤ c ∧ c ≤ 'f' then some (c.toNat - 'a'.toNat + 10)
  else if 'A' ≤ c ∧ c ≤ 'F' then some (c.toNat - 'A'.toNat + 10)
  else none

/-- The state after an escape with the given value, which completes the surrogate `high`. -/
def escapedUnit? (read : List Char) (high : Option Nat) (value : Nat) : Option Lexeme :=
  let trailing := 0xdc00 ≤ value ∧ value < 0xe000
  match high with
  | some h =>
    if trailing then
      some (.text (Char.ofNat (0x10000 + (h - 0xd800) * 0x400 + (value - 0xdc00)) :: read))
    else none
  | none =>
    if trailing then none
    else if 0xd800 ≤ value ∧ value < 0xdc00 then some (.surrogate read value)
    else some (.text (Char.ofNat value :: read))

/-- Reads a character between two tokens. -/
def start (tokens : List Token) (c : Char) : Lexer :=
  if isBlank c then ⟨tokens, .none⟩
  else if c = '"' then ⟨tokens, .text []⟩
  else
    match punctuation? c with
    | some token => ⟨token :: tokens, .none⟩
    | none => ⟨tokens, .word [c]⟩

/-- Reads one character. -/
def step (s : Lexer) (c : Char) : Option Lexer :=
  match s.lexeme with
  | .none => some (start s.tokens c)
  | .word read =>
    if isBlank c || c == '"' || (punctuation? c).isSome then do
      let token ← wordToken? read.reverse
      some (start (token :: s.tokens) c)
    else some ⟨s.tokens, .word (c :: read)⟩
  | .text read =>
    if c = '"' then some ⟨.text (String.ofList read.reverse) :: s.tokens, .none⟩
    else if c = '\\' then some ⟨s.tokens, .escape read⟩
    else if c < ' ' then none
    else some ⟨s.tokens, .text (c :: read)⟩
  | .escape read =>
    if c = 'u' then some ⟨s.tokens, .hex read none 4 0⟩
    else do
      let e ← escaped? c
      some ⟨s.tokens, .text (e :: read)⟩
  | .hex read high need value => do
    let digit ← hexValue? c
    let value := 16 * value + digit
    if need ≤ 1 then
      let lexeme ← escapedUnit? read high value
      some ⟨s.tokens, lexeme⟩
    else some ⟨s.tokens, .hex read high (need - 1) value⟩
  | .surrogate read high => if c = '\\' then some ⟨s.tokens, .surrogateEscape read high⟩ else none
  | .surrogateEscape read high =>
    if c = 'u' then some ⟨s.tokens, .hex read (some high) 4 0⟩ else none

/-- The tokens at the end of the text, in order. -/
def finish (s : Lexer) : Option (List Token) :=
  match s.lexeme with
  | .none => some s.tokens.reverse
  | .word read => do
    let token ← wordToken? read.reverse
    some (token :: s.tokens).reverse
  | _ => none

end Lexer

/-- The tokens of a text. -/
def tokens? (text : List Char) : Option (List Token) := do
  let s ← text.foldlM Lexer.step ⟨[], .none⟩
  s.finish

/-! ### Values -/

/-- A container that waits for the value being read: an array with the items before it, in reverse,
or an object with the members before it and the key that it belongs to. -/
inductive Hole where
  | item (done : List Json)
  | member (done : List (String × Json)) (key : String)

/-- What has been read, and so what may follow. `outer` holds the containers around the current
position, innermost first. -/
inductive Builder where
  /-- A value has to follow. -/
  | value (outer : List Hole)
  /-- An array has just been opened. -/
  | firstItem (outer : List Hole)
  /-- An item has just ended. -/
  | afterItem (outer : List Hole) (done : List Json)
  /-- An object has just been opened. -/
  | firstKey (outer : List Hole)
  /-- A key has to follow. -/
  | key (outer : List Hole) (done : List (String × Json))
  /-- A key has just been read. -/
  | afterKey (outer : List Hole) (done : List (String × Json)) (key : String)
  /-- A member has just ended. -/
  | afterMember (outer : List Hole) (done : List (String × Json))
  /-- The value is complete. -/
  | complete (v : Json)

namespace Builder

/-- Puts a finished value where it belongs. -/
def fill (v : Json) : List Hole → Builder
  | [] => complete v
  | .item done :: outer => afterItem outer (v :: done)
  | .member done name :: outer => afterMember outer (insertMember name v done)

/-- Reads the first token of a value. -/
def open? (outer : List Hole) : Token → Option Builder
  | .leftBracket => some (firstItem outer)
  | .leftBrace => some (firstKey outer)
  | .text s => some (fill (.string s) outer)
  | .scalar v => some (fill v outer)
  | _ => none

/-- Reads one token. -/
def step : Builder → Token → Option Builder
  | value outer, token => open? outer token
  | firstItem outer, .rightBracket => some (fill (.array []) outer)
  | firstItem outer, token => open? (.item [] :: outer) token
  | afterItem outer done, .comma => some (value (.item done :: outer))
  | afterItem outer done, .rightBracket => some (fill (.array done.reverse) outer)
  | firstKey outer, .rightBrace => some (fill (.object []) outer)
  | firstKey outer, .text s => some (afterKey outer [] s)
  | key outer done, .text s => some (afterKey outer done s)
  | afterKey outer done s, .colon => some (value (.member done s :: outer))
  | afterMember outer done, .comma => some (key outer done)
  | afterMember outer done, .rightBrace => some (fill (.object done) outer)
  | _, _ => none

end Builder

/-- The value that a text stands for, if it is JSON. -/
def parse? (text : String) : Option Json := do
  let tokens ← tokens? text.toList
  match ← tokens.foldlM Builder.step (.value []) with
  | .complete v => some v
  | _ => none

end Json

end ShapeQuery
