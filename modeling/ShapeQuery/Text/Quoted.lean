import ShapeQuery.Unicode.Property

/-!
# Quoted text in messages

Messages quote names and tags so that every character of them can be seen. The quotation mark and
the backslash are escaped, a few control characters have a letter, and a character that would not
show, or would be drawn onto its neighbour, is given by its code point.
-/

namespace ShapeQuery

namespace Text

/-- Categories whose characters do not show: controls, formats, surrogates, private use, unassigned
points and separators. -/
def hiddenCategories : List Unicode.Category := [.cc, .cf, .cs, .co, .cn, .zl, .zp, .zs]

/-- Whether a character shows on its own. The space does although it is a separator; characters that
extend the one before them and those that are ignored by default do not. -/
def isVisible (c : Char) : Bool :=
  c == ' ' ||
    !(hiddenCategories.contains (Unicode.Category.ofChar c) || Unicode.graphemeExtend.contains c ||
      Unicode.defaultIgnorable.contains c)

/-- A character inside quoted text. -/
def escape (c : Char) : List Char :=
  if c = '"' then ['\\', '"']
  else if c = '\\' then ['\\', '\\']
  else if c = '\t' then ['\\', 't']
  else if c = '\n' then ['\\', 'n']
  else if c = '\r' then ['\\', 'r']
  else if c = '\x00' then ['\\', '0']
  else if isVisible c then [c]
  else '\\' :: 'u' :: '\x7b' :: (Nat.toDigits 16 c.toNat ++ ['\x7d'])

/-- A text in quotation marks. -/
def quoted (s : String) : String :=
  String.ofList ('"' :: (s.toList.flatMap escape ++ ['"']))

end Text

end ShapeQuery
