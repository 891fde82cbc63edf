import ShapeQuery.Text.Quoted

/-!
# Faults in a JSON tree

What can be wrong with a JSON value that is read as a tree. A fault of a field names the kind of
the node and the field.
-/

namespace ShapeQuery

/-- Why a JSON value is not a tree. -/
inductive ReadError where
  /-- A value that stands for a node is not an object. -/
  | notAnObject
  /-- A node has no type tag, or one that is not a string. -/
  | missingType
  /-- The type tag names no kind of the sort that is expected. -/
  | unknownType (name : String)
  /-- A node lacks a field. -/
  | missingField (node field : String)
  /-- A field of a node has the wrong form. -/
  | invalidField (node field : String)
  /-- There is no operator with the spelling. -/
  | unknownOperator (symbol : String)
deriving DecidableEq, Repr

/-- The fault in words. -/
def ReadError.message : ReadError → String
  | notAnObject => "tree node must be a JSON object"
  | missingType => "tree node has no \"type\" tag"
  | unknownType name => "unknown node type " ++ Text.quoted name
  | missingField node field => node ++ " node is missing field " ++ Text.quoted field
  | invalidField node field => node ++ " node has an invalid " ++ Text.quoted field ++ " field"
  | unknownOperator symbol => "unknown operator " ++ Text.quoted symbol

end ShapeQuery
