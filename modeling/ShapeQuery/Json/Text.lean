import ShapeQuery.Json.Basic
import ShapeQuery.Binary64.Text

/-!
# JSON text

Values are written in one of two layouts. The compact one has no white space; the indented one puts
every element of a nonempty array or object on a line of its own, two spaces deeper than its
container. Members are written in the order in which the value lists them.

Text is produced as a list of characters, which is what the recursion on values is stated on;
`Json.compact` and `Json.pretty` are the strings.
-/

namespace ShapeQuery

namespace Json

/-! ### Strings -/

/-- A character inside a JSON string. The quotation mark, the backslash and the characters below
the space are escaped, the latter by a letter where there is one; all others stand for
themselves. -/
def escape (c : Char) : List Char :=
  if c = '"' then ['\\', '"']
  else if c = '\\' then ['\\', '\\']
  else if c = '\x08' then ['\\', 'b']
  else if c = '\x0c' then ['\\', 'f']
  else if c = '\n' then ['\\', 'n']
  else if c = '\r' then ['\\', 'r']
  else if c = '\t' then ['\\', 't']
  else if c < ' ' then
    ['\\', 'u', '0', '0', Nat.digitChar (c.toNat / 16), Nat.digitChar (c.toNat % 16)]
  else [c]

/-- A JSON string literal. -/
def quote (s : String) : List Char := '"' :: (s.toList.flatMap escape ++ ['"'])

/-! ### Numbers -/

/-- The text of a number. -/
def Number.text : Number → List Char
  | integer n _ => (if n < 0 then ['-'] else []) ++ Nat.toDigits 10 n.natAbs
  | real x _ => x.text

/-! ### Layout -/

/-- The white space of a text. -/
structure Layout where
  /-- What stands before an element at the given depth and before a closing bracket. -/
  lineBreak : Nat → List Char
  /-- What stands between a key and its value. -/
  colon : List Char

/-- No white space at all. -/
def Layout.compact : Layout := ⟨fun _ ↦ [], [':']⟩

/-- One element a line, two spaces deeper for each level. -/
def Layout.indented : Layout := ⟨fun depth ↦ '\n' :: List.replicate (2 * depth) ' ', [':', ' ']⟩

/-- The elements of a container between its brackets, separated by commas. -/
def Layout.enclose (layout : Layout) (depth : Nat) (left right : Char) :
    List (List Char) → List Char
  | [] => [left, right]
  | first :: rest =>
    let next := layout.lineBreak (depth + 1)
    left :: (next ++ first ++ rest.flatMap (fun element ↦ ',' :: (next ++ element)) ++
      layout.lineBreak depth ++ [right])

mutual

/-- The text of a value that stands at the given depth. -/
def render (layout : Layout) (depth : Nat) : Json → List Char
  | null => ['n', 'u', 'l', 'l']
  | bool true => ['t', 'r', 'u', 'e']
  | bool false => ['f', 'a', 'l', 's', 'e']
  | number n => n.text
  | string s => quote s
  | array items => layout.enclose depth '[' ']' (renderItems layout (depth + 1) items)
  | object members => layout.enclose depth '\x7b' '\x7d' (renderMembers layout (depth + 1) members)

/-- The texts of the items of an array. -/
def renderItems (layout : Layout) (depth : Nat) : List Json → List (List Char)
  | [] => []
  | v :: rest => render layout depth v :: renderItems layout depth rest

/-- The texts of the members of an object. -/
def renderMembers (layout : Layout) (depth : Nat) : List (String × Json) → List (List Char)
  | [] => []
  | (key, v) :: rest =>
    (quote key ++ layout.colon ++ render layout depth v) :: renderMembers layout depth rest

end

/-- The text of a value without white space. -/
def compact (v : Json) : String := String.ofList (v.render .compact 0)

/-- The text of a value, indented by two spaces for each level. -/
def pretty (v : Json) : String := String.ofList (v.render .indented 0)

end Json

end ShapeQuery
