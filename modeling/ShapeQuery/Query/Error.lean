import ShapeQuery.Query.Content
import ShapeQuery.Text.Join
import ShapeQuery.Text.Quoted
import ShapeQuery.Tree.Kind
import ShapeQuery.Tree.Operator

/-!
# Why a query does not match

A query that does not match says why. That is an ordinary answer: the caller decides whether it
means that a rule does not apply or that a check has failed. Operations that try several things
report all of the failures, so errors form trees.
-/

namespace ShapeQuery

/-- The reason for which a node does not conform to a query. -/
inductive QueryError where
  /-- The node is not of an expected kind. -/
  | typeMismatch (expected : List ExprKind) (actual : ExprKind)
  /-- The node's operator is not among the accepted ones. -/
  | operatorMismatch (op : Operator)
  /-- The node has no operator. -/
  | missingOperator (kind : ExprKind)
  /-- The node does not have the parts that the operation looks at. -/
  | structureMismatch (kind : ExprKind)
  /-- A literal is of the wrong type. -/
  | contentMismatch (content : Content) (kind : ExprKind)
  /-- A content check went deeper than it may. -/
  | depthExceeded
  /-- Nothing in the subtree is what was looked for. -/
  | noMatch
  /-- A name was expected. -/
  | noIdentifier
  /-- A name does not match a pattern. -/
  | nameMismatch (name : String)
  /-- There is no node to look at. -/
  | missingNode
  /-- Queries do not apply to statements of this kind. -/
  | unsupportedStatement (kind : StatementKind)
  /-- Several attempts failed, each for its own reason. -/
  | aggregate (errors : List QueryError)

namespace QueryError

mutual

/-- The reason in words. -/
def message : QueryError → String
  | typeMismatch expected actual =>
    "expected " ++ Text.joined " or " (expected.map ExprKind.name) ++ ", was " ++ actual.name
  | operatorMismatch op => "operator " ++ op.symbol ++ " is not accepted"
  | missingOperator kind => kind.name ++ " expression has no operator"
  | structureMismatch kind => kind.name ++ " expression does not have the required structure"
  | contentMismatch content kind =>
    kind.name ++ " node is not allowed where only " ++ content.name ++ " are accepted"
  | depthExceeded => "depth budget exhausted"
  | noMatch => "no matching node in subtree"
  | noIdentifier => "callee is not an identifier"
  | nameMismatch name => "name " ++ Text.quoted name ++ " does not match"
  | missingNode => "expected an expression, found none"
  | unsupportedStatement kind => "unsupported statement: " ++ kind.name
  | aggregate errors => "all branches failed: [" ++ Text.joined "; " (messages errors) ++ "]"

/-- The reasons in words. -/
def messages : List QueryError → List String
  | [] => []
  | e :: rest => message e :: messages rest

end

end QueryError

end ShapeQuery
