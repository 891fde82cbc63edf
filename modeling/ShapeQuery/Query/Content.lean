/-!
# Literal content

A content check restricts the literals of a subtree to one type.
-/

namespace ShapeQuery

/-- The type of literal that a subtree may hold. -/
inductive Content where
  | numbers
  | booleans
deriving DecidableEq, Repr

/-- The name of a content. -/
def Content.name : Content → String
  | numbers => "numbers"
  | booleans => "booleans"

end ShapeQuery
