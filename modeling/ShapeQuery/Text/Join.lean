/-!
# Joined text

Lists in messages are written one after the other with a separator between.
-/

namespace ShapeQuery

namespace Text

/-- Texts with the separator in front of each. -/
def separated (separator : String) : List String → String
  | [] => ""
  | s :: rest => separator ++ s ++ separated separator rest

/-- Texts with the separator between any two. -/
def joined (separator : String) : List String → String
  | [] => ""
  | first :: rest => first ++ separated separator rest

end Text

end ShapeQuery
