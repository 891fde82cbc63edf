import ShapeQuery.Pattern.Flags
import ShapeQuery.Pattern.Property

/-!
# Reading patterns

A pattern is read from left to right in one pass. What is still open — groups, and inside a
bracketed class the classes around it — is kept in lists, so that reading a character is a function
from state to state and the pass is a recursion on the text. A construct of several characters is
read when its first character comes up; the pass then skips as many characters as it took.
-/

namespace ShapeQuery

namespace Pattern

/-! ### Pieces of text -/

/-- White space, which a verbose pattern may hold anywhere. -/
def isSpace (c : Char) : Bool := Unicode.whiteSpace.contains c

/-- Drops white space and comments; a comment runs from `#` to the end of the line. -/
def dropBlank (inComment : Bool) : List Char → List Char
  | [] => []
  | c :: rest =>
    if inComment then dropBlank (c != '\n') rest
    else if isSpace c then dropBlank false rest
    else if c = '#' then dropBlank true rest
    else c :: rest

/-- The text from the next character that counts. -/
def Flags.skip (flags : Flags) (text : List Char) : List Char :=
  if flags.verbose then dropBlank false text else text

/-- The text up to a closing brace, and what follows the brace. Blanks are left out of the first
part in a verbose pattern. -/
def untilBrace (flags : Flags) (inComment : Bool) : List Char → Option (List Char × List Char)
  | [] => none
  | c :: rest =>
    if inComment then untilBrace flags (c != '\n') rest
    else if c = '\x7d' then some ([], rest)
    else if flags.verbose && isSpace c then untilBrace flags false rest
    else if flags.verbose && c == '#' then untilBrace flags true rest
    else (untilBrace flags false rest).map fun parts ↦ (c :: parts.1, parts.2)

/-- The value of a hexadecimal digit. -/
def hexDigit? (c : Char) : Option Nat :=
  if '0' ≤ c ∧ c ≤ '9' then some (c.toNat - '0'.toNat)
  else if 'a' ≤ c ∧ c ≤ 'f' then some (c.toNat - 'a'.toNat + 10)
  else if 'A' ≤ c ∧ c ≤ 'F' then some (c.toNat - 'A'.toNat + 10)
  else none

/-- The character whose code point the hexadecimal digits spell. -/
def hexChar? (digits : List Char) : Option Char := do
  if digits.isEmpty then none
  let point ← digits.foldlM (fun n c ↦ (hexDigit? c).map fun d ↦ 16 * n + d) 0
  if point < 0xd800 ∨ (0xdfff < point ∧ point ≤ CharSet.lastPoint) then some (Char.ofNat point)
  else none

/-- The next `count` characters that count, and the text after them. -/
def takeChars (flags : Flags) : Nat → List Char → Option (List Char × List Char)
  | 0, text => some ([], text)
  | count + 1, text =>
    match flags.skip text with
    | [] => none
    | c :: rest => (takeChars flags count rest).map fun parts ↦ (c :: parts.1, parts.2)

/-- A run of decimal digits, and the text after it. -/
def takeDigits (flags : Flags) : List Char → List Char × List Char
  | [] => ([], [])
  | c :: rest =>
    if c.isDigit then
      let parts := takeDigits flags rest
      (c :: parts.1, parts.2)
    else if flags.verbose && isSpace c then takeDigits flags rest
    else ([], c :: rest)

/-- A repetition count, which fits a 32-bit word, and the text after it. Space around it is
skipped. -/
def takeCount (flags : Flags) (text : List Char) : Except PatternError (Nat × List Char) :=
  let parts := takeDigits flags (text.dropWhile isSpace)
  let value := Unicode.decimalValue parts.1
  if parts.1.isEmpty ∨ 0xffffffff < value then .error .badCount
  else .ok (value, parts.2.dropWhile isSpace)

/-! ### Escapes -/

/-- What an escape sequence stands for. -/
inductive Escape where
  /-- A character; `byte` if it is spelled by two hexadecimal digits. -/
  | char (c : Char) (byte : Bool)
  /-- A class, complete but for its complement. -/
  | set (chars : CharSet) (negated : Bool)
  /-- An assertion. -/
  | look (l : Look)

/-- Characters with a meaning of their own, and other ASCII punctuation and controls: an escape
before them has no effect but to take the meaning away. -/
def isEscapable (c : Char) : Bool :=
  c.toNat < 0x80 && !c.isAlphanum && c != '<' && c != '>'

/-- Reads the digits of an escape by code point. -/
def readHex (flags : Flags) (count : Nat) (text : List Char) :
    Except PatternError (Escape × List Char) :=
  let parts :=
    match flags.skip text with
    | '\x7b' :: rest => (untilBrace flags false rest).map fun parts ↦ (parts, false)
    | other => (takeChars flags count other).map fun parts ↦ (parts, count == 2)
  match parts with
  | none => .error .badEscape
  | some ((digits, rest), byte) =>
    match hexChar? digits with
    | none => .error .badEscape
    | some c => .ok (.char c byte, flags.skip rest)

/-- Reads the name of a property: one letter, or a text in braces. -/
def readProperty (flags : Flags) (negated : Bool) (text : List Char) :
    Except PatternError (Escape × List Char) := do
  let (name, rest) ←
    match flags.skip text with
    | '\x7b' :: rest =>
      match untilBrace flags false rest with
      | some parts => .ok parts
      | none => .error .badEscape
    | [] => .error .badEscape
    | c :: rest => if c = '\\' then .error .badEscape else .ok ([c], rest)
  if !flags.unicode then .error .beyondAscii
  match property? name with
  | none => .error .unknownProperty
  | some (chars, others) => .ok (.set (flags.fold chars) (negated != others), rest)

/-- Reads what follows `\b`: the four kinds of half and whole word edges have a name in braces, and
any other brace belongs to a repetition. -/
def readWordEdge (flags : Flags) (text : List Char) : Except PatternError (Escape × List Char) :=
  let plain := (Escape.look (.wordEdge flags.words false), text)
  match text with
  | '\x7b' :: rest =>
    match flags.skip rest with
    | [] => .error .badEscape
    | c :: _ =>
      if !(c.isAlpha || c == '-') then .ok plain
      else
        match untilBrace flags false rest with
        | none => .error .badEscape
        | some (name, rest) =>
          match String.ofList name with
          | "start" => .ok (.look (.wordStart flags.words), rest)
          | "end" => .ok (.look (.wordEnd flags.words), rest)
          | "start-half" => .ok (.look (.noWordBefore flags.words), rest)
          | "end-half" => .ok (.look (.noWordAfter flags.words), rest)
          | _ => .error .badEscape
  | _ => .ok plain

/-- Reads an escape sequence from after its backslash. -/
def readEscape (flags : Flags) : List Char → Except PatternError (Escape × List Char)
  | [] => .error .badEscape
  | c :: rest =>
    match c with
    | 'x' => readHex flags 2 rest
    | 'u' => readHex flags 4 rest
    | 'U' => readHex flags 8 rest
    | 'p' => readProperty flags false rest
    | 'P' => readProperty flags true rest
    | 'd' => .ok (.set flags.digits false, rest)
    | 'D' => .ok (.set flags.digits true, rest)
    | 's' => .ok (.set flags.spaces false, rest)
    | 'S' => .ok (.set flags.spaces true, rest)
    | 'w' => .ok (.set flags.words false, rest)
    | 'W' => .ok (.set flags.words true, rest)
    | 'a' => .ok (.char '\x07' false, rest)
    | 'f' => .ok (.char '\x0c' false, rest)
    | 't' => .ok (.char '\t' false, rest)
    | 'n' => .ok (.char '\n' false, rest)
    | 'r' => .ok (.char '\r' false, rest)
    | 'v' => .ok (.char '\x0b' false, rest)
    | 'A' => .ok (.look .textStart, rest)
    | 'z' => .ok (.look .textEnd, rest)
    | 'b' => readWordEdge flags rest
    | 'B' => .ok (.look (.wordEdge flags.words true), rest)
    | '<' => .ok (.look (.wordStart flags.words), rest)
    | '>' => .ok (.look (.wordEnd flags.words), rest)
    | _ => if isEscapable c then .ok (.char c false, rest) else .error .badEscape

/-! ### Bracketed classes -/

/-- How two parts of a class are combined. -/
inductive SetOp where
  | inter
  | difference
  | symmetricDifference

/-- The set that a combination gives. -/
def SetOp.apply : SetOp → CharSet → CharSet → CharSet
  | inter => CharSet.inter
  | difference => CharSet.difference
  | symmetricDifference => CharSet.symmetricDifference

/-- The items of a class read so far: their union, their number and the greatest depth of brackets
among them. -/
structure Items where
  chars : CharSet
  count : Nat
  height : Nat

namespace Items

/-- No items. -/
def none : Items := ⟨.empty, 0, 0⟩

/-- Adds an item. -/
def add (items : Items) (chars : CharSet) (height : Nat) : Items :=
  ⟨items.chars.union chars, items.count + 1, max items.height height⟩

/-- The depth of the items taken together. -/
def depth (items : Items) : Nat := if 2 ≤ items.count then items.height + 1 else items.height

end Items

/-- What a part of a class stands inside. -/
inductive ClassFrame where
  /-- A bracketed class, with the items of the class around it. -/
  | bracket (negated : Bool) (outer : Items)
  /-- The right side of a combination, with the left side and its depth. -/
  | combine (op : SetOp) (left : CharSet) (height : Nat)

/-- The class that ends here: the combination it is the right side of, if any, is carried out. -/
def combineWith (flags : Flags) (items : Items) :
    List ClassFrame → (CharSet × Nat) × List ClassFrame
  | .combine op left height :: frames =>
    ((op.apply (flags.fold left) (flags.fold items.chars), max height items.depth + 1), frames)
  | frames => ((items.chars, items.depth), frames)

/-- Drops the hyphens that start a class; they are items. -/
def takeHyphens (flags : Flags) (items : Items) : List Char → Items × List Char
  | '-' :: rest => takeHyphens flags (items.add (.single '-') 0) rest
  | c :: rest =>
    if flags.verbose && isSpace c then takeHyphens flags items rest else (items, c :: rest)
  | [] => (items, [])

/-- Reads the start of a class, from after its bracket: a caret, hyphens, and a closing bracket that
comes first and so is an item. -/
def openClass (flags : Flags) (text : List Char) : Bool × Items × List Char :=
  let (negated, text) :=
    match flags.skip text with
    | '^' :: rest => (true, flags.skip rest)
    | other => (false, other)
  let (items, text) := takeHyphens flags .none text
  match text with
  | ']' :: rest =>
    if items.count = 0 then (negated, items.add (.single ']') 0, rest) else (negated, items, text)
  | _ => (negated, items, text)

/-- Reads a named ASCII class, from after its first bracket. -/
def asciiItem? (flags : Flags) : List Char → Option (CharSet × List Char)
  | ':' :: text =>
    let (negated, text) :=
      match text with
      | '^' :: rest => (true, rest)
      | other => (false, other)
    let name := text.takeWhile (· != ':')
    match text.dropWhile (· != ':') with
    | ':' :: ']' :: rest =>
      (asciiClass? (String.ofList name)).map fun s ↦
        (if negated then (flags.fold s).complement else flags.fold s, rest)
    | _ => none
  | _ => none

/-- Reads one character or escape sequence in a class. -/
def readItem (flags : Flags) : Char → List Char → Except PatternError (Escape × List Char)
  | '\\', text => readEscape flags text
  | c, text => .ok (.char c false, text)

/-- A character that stands in a class. Without the Unicode flag it has to be ASCII. -/
def classChar (flags : Flags) (c : Char) : Except PatternError Char :=
  if flags.unicode || c.toNat < 0x80 then .ok c else .error .beyondAscii

/-- Reads an item of a class or a range of characters. -/
def readRange (flags : Flags) (c : Char) (text : List Char) :
    Except PatternError (CharSet × List Char) := do
  let (first, text) ← readItem flags c text
  let text := flags.skip text
  let isRange :=
    match text with
    | '-' :: rest => (flags.skip rest).head? != some ']' && (flags.skip rest).head? != some '-'
    | _ => false
  if isRange then
    match flags.skip (text.drop 1) with
    | [] => .error .unclosedClass
    | d :: rest => do
      let (last, rest) ← readItem flags d rest
      match first, last with
      | .char a _, .char b _ =>
        let a ← classChar flags a
        let b ← classChar flags b
        if a ≤ b then .ok (.range a.toNat b.toNat, rest) else .error .badRange
      | _, _ => .error .badRange
  else
    match first with
    | .char a _ =>
      let a ← classChar flags a
      .ok (.single a, text)
    | .set chars negated =>
      let chars ← flags.finish negated chars
      .ok (chars, text)
    | .look _ => .error .badEscape

/-! ### The state of a pass -/

/-- A part of a pattern that has been read. -/
structure Part where
  pattern : Pattern
  /-- How deeply constructs are nested in it. -/
  height : Nat
  /-- Whether a repetition may follow. -/
  repeatable : Bool

/-- The parts of a sequence, the last one first, as one part. -/
def Part.sequence : List Part → Part
  | [] => ⟨.empty, 0, false⟩
  | [part] => part
  | parts =>
    ⟨.sequence (parts.reverse.map Part.pattern), (parts.map Part.height).foldl max 0 + 1, true⟩

/-- What is being read at one level of grouping. -/
structure Level where
  /-- The finished alternatives, the last one first. -/
  alternatives : List Part
  /-- The parts of the current alternative, the last one first. -/
  parts : List Part

/-- A level as one part. -/
def Level.finish (level : Level) : Part :=
  let last := Part.sequence level.parts
  match (last :: level.alternatives).reverse with
  | first :: second :: rest =>
    let all := first :: second :: rest
    ⟨.anyOf first.pattern ((second :: rest).map Part.pattern),
      (all.map Part.height).foldl max 0 + 1, true⟩
  | _ => last

/-- The state of a pass over a pattern. -/
structure State where
  /-- The settings in force. -/
  flags : Flags
  /-- The current level. -/
  level : Level
  /-- The levels around it, each with the settings that come back into force. -/
  outer : List (Level × Flags)
  /-- The names of groups so far. -/
  names : List (List Char)
  /-- The class being read, if any: what it stands inside, and its items. -/
  inClass : Option (List ClassFrame × Items)

namespace State

/-- The state before a pattern. -/
def initial : State := ⟨.initial, ⟨[], []⟩, [], [], none⟩

/-- Adds a part to the current alternative. -/
def push (s : State) (part : Part) : State :=
  { s with level := { s.level with parts := part :: s.level.parts } }

/-- Adds an atom. -/
def pushAtom (s : State) (a : Atom) (height : Nat) : State := s.push ⟨.atom a, height, true⟩

/-- Enters a group in which the given settings are in force. -/
def enterGroup (s : State) (flags : Flags) : State :=
  { s with flags := flags, level := ⟨[], []⟩, outer := (s.level, s.flags) :: s.outer }

/-- Repeats the last part. -/
def repeatLast (s : State) (least : Nat) (most : Option Nat) : Except PatternError State :=
  match s.level.parts with
  | part :: parts =>
    if part.repeatable then
      let repeated : Part := ⟨.repeated part.pattern least most, part.height + 1, true⟩
      .ok { s with level := { s.level with parts := repeated :: parts } }
    else .error .nothingToRepeat
  | [] => .error .nothingToRepeat

/-- Whether the last part can be repeated. -/
def canRepeat (s : State) : Bool := (s.level.parts.head?.map Part.repeatable).getD false

end State

/-! ### Groups -/

/-- Reads the settings of a group up to the colon or parenthesis that ends them. `seen` holds the
letters so far, `on` whether a minus sign has not come yet, and `dangling` whether it was the last
character. -/
def readFlags (flags : Flags) (seen : List Char) (on dangling : Bool) :
    List Char → Except PatternError (Flags × Bool × Char × List Char)
  | [] => .error .badFlags
  | c :: rest =>
    if c = ':' ∨ c = ')' then
      if dangling then .error .badFlags else .ok (flags, seen.isEmpty, c, rest)
    else if c = '-' then
      if on then readFlags flags seen false true rest else .error .badFlags
    else if seen.contains c then .error .badFlags
    else
      match flags.set? on c with
      | some flags => readFlags flags (c :: seen) on false rest
      | none => .error .badFlags

/-- Whether a character may stand in the name of a group. -/
def isNameChar (isFirst : Bool) (c : Char) : Bool :=
  c == '_' || Unicode.alphabetic.contains c ||
    (!isFirst && (c == '.' || c == '[' || c == ']' ||
      (Unicode.Category.chars [.nd, .nl, .no]).contains c))

/-- Reads the name of a group up to its angle bracket. -/
def readGroupName (s : State) (text : List Char) : Except PatternError (State × List Char) :=
  let name := text.takeWhile (· != '>')
  match name, text.dropWhile (· != '>') with
  | first :: others, _ :: rest =>
    if isNameChar true first && others.all (isNameChar false) && !s.names.contains name then
      .ok ({ s.enterGroup s.flags with names := name :: s.names }, rest)
    else .error .badGroupName
  | _, _ => .error .badGroupName

/-- Reads the start of a group, from after its parenthesis. -/
def readGroup (s : State) (text : List Char) : Except PatternError (State × List Char) :=
  match s.flags.skip text with
  | '?' :: 'P' :: '<' :: rest => readGroupName s rest
  | '?' :: '<' :: rest =>
    if rest.head? == some '=' || rest.head? == some '!' then .error .badGroup
    else readGroupName s rest
  | '?' :: rest => do
    let (flags, isEmpty, mark, rest) ← readFlags s.flags [] true false rest
    if mark = ':' then .ok (s.enterGroup flags, rest)
    else if isEmpty then .error .badFlags
    else .ok ({ s with flags := flags }.push ⟨.empty, 0, false⟩, rest)
  | rest => .ok (s.enterGroup s.flags, rest)

/-- Ends a group. -/
def closeGroup (s : State) : Except PatternError State :=
  match s.outer with
  | [] => .error .unopenedGroup
  | (level, flags) :: outer =>
    let inner := s.level.finish
    .ok ({ s with flags := flags, level := level, outer := outer }.push
      ⟨inner.pattern, inner.height + 1, true⟩)

/-! ### Repetitions -/

/-- Reads a repetition with counts, from after its brace. -/
def readCounts (s : State) (text : List Char) : Except PatternError (State × List Char) := do
  if !s.canRepeat then .error .nothingToRepeat
  let (least, text) ← takeCount s.flags (s.flags.skip text)
  let (most, text) ←
    match text with
    | ',' :: rest =>
      match s.flags.skip rest with
      | '\x7d' :: rest => .ok (none, '\x7d' :: rest)
      | other => do
        let (most, rest) ← takeCount s.flags other
        .ok (some most, rest)
    | other => .ok (some least, other)
  match text with
  | '\x7d' :: rest =>
    if most.any (· < least) then .error .badCount
    else do
      let s ← s.repeatLast least most
      let rest := s.flags.skip rest
      .ok (s, if rest.head? == some '?' then rest.drop 1 else rest)
  | _ => .error .badCount

/-- Reads a repetition by a sign. A question mark after it makes no difference to what matches. -/
def readRepetition (s : State) (least : Nat) (most : Option Nat) (text : List Char) :
    Except PatternError (State × List Char) := do
  let s ← s.repeatLast least most
  .ok (s, if text.head? == some '?' then text.drop 1 else text)

/-! ### The pass -/

/-- Ends the innermost class. -/
def closeClass (s : State) (frames : List ClassFrame) (items : Items) :
    Except PatternError State := do
  let ((chars, height), frames) := combineWith s.flags items frames
  match frames with
  | .bracket negated outer :: frames =>
    let chars ← s.flags.finish negated (s.flags.fold chars)
    if frames.isEmpty then .ok ({ s with inClass := none }.pushAtom (.one chars) (height + 1))
    else .ok { s with inClass := some (frames, outer.add chars (height + 1)) }
  | _ => .error .unclosedClass

/-- Reads one item inside a bracketed class. -/
def stepClass (s : State) (frames : List ClassFrame) (items : Items) (c : Char)
    (text : List Char) : Except PatternError (State × List Char) :=
  let operator (op : SetOp) (rest : List Char) : Except PatternError (State × List Char) :=
    let ((left, height), frames) := combineWith s.flags items frames
    .ok ({ s with inClass := some (.combine op left height :: frames, .none) }, rest)
  let item : Except PatternError (State × List Char) := do
    let (chars, rest) ← readRange s.flags c text
    .ok ({ s with inClass := some (frames, items.add chars 0) }, rest)
  match c, text with
  | ']', _ => do
    let s ← closeClass s frames items
    .ok (s, text)
  | '[', _ =>
    match asciiItem? s.flags text with
    | some (chars, rest) => do
      let chars ← s.flags.finish false chars
      .ok ({ s with inClass := some (frames, items.add chars 0) }, rest)
    | none =>
      let (negated, inner, rest) := openClass s.flags text
      .ok ({ s with inClass := some (.bracket negated items :: frames, inner) }, rest)
  | '&', '&' :: rest => operator .inter rest
  | '-', '-' :: rest => operator .difference rest
  | '~', '~' :: rest => operator .symmetricDifference rest
  | _, _ => item

/-- Reads one construct outside of classes. -/
def stepPattern (s : State) (c : Char) (text : List Char) :
    Except PatternError (State × List Char) :=
  match c with
  | '(' => readGroup s text
  | ')' => do
    let s ← closeGroup s
    .ok (s, text)
  | '|' =>
    let alternative := Part.sequence s.level.parts
    .ok ({ s with level := ⟨alternative :: s.level.alternatives, []⟩ }, text)
  | '[' =>
    let (negated, items, rest) := openClass s.flags text
    .ok ({ s with inClass := some ([.bracket negated .none], items) }, rest)
  | '?' => readRepetition s 0 (some 1) text
  | '*' => readRepetition s 0 none text
  | '+' => readRepetition s 1 none text
  | '\x7b' => readCounts s text
  | '.' => do
    let chars ← s.flags.dot
    .ok (s.pushAtom (.one chars) 0, text)
  | '^' =>
    let look := if s.flags.multiLine then Look.lineStart s.flags.crlf else .textStart
    .ok (s.pushAtom (.look look) 0, text)
  | '$' =>
    let look := if s.flags.multiLine then Look.lineEnd s.flags.crlf else .textEnd
    .ok (s.pushAtom (.look look) 0, text)
  | '\\' => do
    let (escape, rest) ← readEscape s.flags text
    match escape with
    | .char c byte =>
      if byte && !s.flags.unicode && 0x80 ≤ c.toNat then .error .beyondAscii
      else .ok (s.pushAtom (.one (s.flags.literal c)) 0, rest)
    | .set chars negated =>
      let chars ← s.flags.finish negated chars
      .ok (s.pushAtom (.one chars) 0, rest)
    | .look l => .ok (s.pushAtom (.look l) 0, rest)
  | c => .ok (s.pushAtom (.one (s.flags.literal c)) 0, text)

/-- Reads one construct; `text` is what follows its first character. -/
def step (s : State) (c : Char) (text : List Char) : Except PatternError (State × List Char) :=
  if s.flags.verbose && isSpace c then .ok (s, text)
  else if s.flags.verbose && c == '#' then .ok (s, dropBlank true text)
  else
    match s.inClass with
    | some (frames, items) => stepClass s frames items c text
    | none => stepPattern s c text

/-- Reads a text to its end. The first `skip` characters belong to a construct that has been
read. -/
def pass (s : State) (skip : Nat) : List Char → Except PatternError State
  | [] => .ok s
  | c :: text =>
    if skip = 0 then do
      let (s, rest) ← step s c text
      pass s (text.length - rest.length) text
    else pass s (skip - 1) text

/-- How deeply the constructs of a pattern may be nested. -/
def nestingLimit : Nat := 250

/-- The bytes of memory that a compiled pattern may take. -/
def sizeLimit : Nat := 10 * 1024 * 1024

/-- About how many bytes an atom takes when compiled. -/
def Atom.size : Atom → Nat
  | one chars =>
    if chars.isAscii then if chars.ranges.length ≤ 1 then 32 else 64 + 8 * chars.ranges.length
    else 80 * chars.ranges.length
  | look _ => 32

/-- About how many bytes a pattern takes when compiled: a repetition takes its body once for every
turn that it can count. -/
def compiledSize : Pattern → Nat
  | .empty => 0
  | .atom a => a.size
  | .cat p q => compiledSize p + compiledSize q
  | .alt p q => compiledSize p + compiledSize q + 32
  | .rep p least most => compiledSize p * most.getD (least + 1)

/-- Reads a pattern. -/
def parse (text : String) : Except PatternError Pattern := do
  let s ← pass .initial 0 text.toList
  if s.inClass.isSome then .error .unclosedClass
  if !s.outer.isEmpty then .error .unclosedGroup
  let whole := s.level.finish
  if nestingLimit < whole.height then .error .tooNested
  if sizeLimit < compiledSize whole.pattern then .error .tooLarge
  .ok whole.pattern

end Pattern

end ShapeQuery
