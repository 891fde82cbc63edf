import ShapeQuery.Unicode.Property
import ShapeQuery.Unicode.Script

/-!
# Character properties in patterns

A pattern may ask for a property by name, as in `\p{Lu}` and `\p{Greek}`, or by property and value,
as in `\p{sc=Greek}`. Names are compared without regard to case, spaces, hyphens and underscores.
-/

namespace ShapeQuery

namespace Pattern

/-- A property name as it is compared: in lower case, without separators and without characters
beyond ASCII. A leading `is` is dropped, except where what is left would be the one letter `c`,
which is the name of another property. -/
def looseName (name : List Char) : String :=
  let (marked, body) :=
    match name with
    | i :: s :: rest => if i.toLower = 'i' ∧ s.toLower = 's' then (true, rest) else (false, name)
    | _ => (false, name)
  let isSeparator := fun c : Char ↦ c == ' ' || c == '_' || c == '-'
  let lower := (body.filter fun c ↦ !isSeparator c && c.toNat < 0x80).map Char.toLower
  if marked ∧ lower = ['c'] then "isc" else String.ofList lower

/-- The characters of the general category with the given loose name. Besides the categories there
are names for all characters, for the assigned ones and for ASCII. -/
def generalCategory? (name : String) : Option CharSet :=
  match name with
  | "any" => some (.range 0 CharSet.lastPoint)
  | "assigned" => some (Unicode.Category.chars [.cn]).complement
  | "ascii" => some (.range 0 0x7f)
  | _ => (Unicode.Category.named? name).map Unicode.Category.chars

/-- The characters with the property of the given name. Three abbreviations that name both a
category or a property and something else are read as categories. -/
def named? (name : List Char) : Option CharSet :=
  let name := looseName name
  let property :=
    if name == "cf" || name == "sc" || name == "lc" then none else Unicode.property? name
  property <|> generalCategory? name <|> Unicode.Script.named? name

/-- The characters whose property has the given value. -/
def valued? (property value : List Char) : Option CharSet :=
  let property := looseName property
  if property == "gc" || property == "generalcategory" then generalCategory? (looseName value)
  else if property == "sc" || property == "script" then Unicode.Script.named? (looseName value)
  else none

/-- Splits a list at the first place where the given list occurs. -/
def splitAt? (mark : List Char) : List Char → Option (List Char × List Char)
  | [] => none
  | c :: rest =>
    if mark.isPrefixOf (c :: rest) then some ([], (c :: rest).drop mark.length)
    else (splitAt? mark rest).map fun parts ↦ (c :: parts.1, parts.2)

/-- The characters that the text between the braces of `\p{...}` asks for, and whether it asks for
all others instead. -/
def property? (text : List Char) : Option (CharSet × Bool) :=
  match splitAt? ['!', '='] text with
  | some (name, value) => (valued? name value).map fun s ↦ (s, true)
  | none =>
    match splitAt? [':'] text <|> splitAt? ['='] text with
    | some (name, value) => (valued? name value).map fun s ↦ (s, false)
    | none => (named? text).map fun s ↦ (s, false)

end Pattern

end ShapeQuery
