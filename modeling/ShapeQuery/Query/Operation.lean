import ShapeQuery.Pattern.Basic
import ShapeQuery.Query.Content
import ShapeQuery.Tree.Kind
import ShapeQuery.Tree.Operator

/-!
# Operations and queries

A query is a list of operations. Each operation is given a node and hands a node on to the next one,
or fails. Most hand on the node they were given; two of them *narrow*, that is, hand on a node
inside it. Some operations hold queries of their own, which they run on the parts of the node.
-/

namespace ShapeQuery

/-- A condition on the kind of a node. -/
inductive Guard where
  /-- A binary operation or an assignment. -/
  | binary
  | unary
  | assign
  /-- An assignment or a declarator. -/
  | assignOrDeclarator
  | objectLiteral
  | functionLiteral
  | call
deriving DecidableEq, Repr

/-- The kinds that a guard lets pass. -/
def Guard.kinds : Guard → List ExprKind
  | binary => [.binary, .assign]
  | unary => [.unary]
  | assign => [.assign]
  | assignOrDeclarator => [.assign, .declarator]
  | objectLiteral => [.object]
  | functionLiteral => [.function]
  | call => [.call]

/-- A step of a query. -/
inductive Operation where
  /-- Lets every node pass. -/
  | pass
  /-- Lets nodes of certain kinds pass. -/
  | guard (g : Guard)
  /-- A call of a function literal. -/
  | anonymousCall
  /-- A node whose operator is one of the given. -/
  | hasOperator (operators : List Operator)
  /-- A binary or unary operation, all of whose operands match the query. -/
  | operands (query : List Operation)
  /-- A binary operation with one operand matching the first query and the other the second. -/
  | sides (one other : List Operation)
  /-- A node whose right operand, or initial value, matches the query. -/
  | rightSide (query : List Operation)
  /-- A node that matches one of the queries. -/
  | either (alternatives : List (List Operation))
  /-- A subtree of the given content, within a number of levels. -/
  | accept (content : Content) (budget : Nat)
  /-- Narrows to a call inside the subtree: the first one that a walk leaves, or the last. -/
  | findCall (firstOnly : Bool)
  /-- Narrows a call to the name of what it calls. -/
  | calleeIdentifier
  /-- A subtree with `this` in it. -/
  | containsThis
  /-- A name that the pattern matches. -/
  | nameMatches (pattern : Pattern)

/-- A list of operations, to be applied in order. -/
abbrev Query := List Operation

namespace Operation

/-- The name of an operation. -/
def name : Operation → String
  | pass => "empty"
  | guard .binary => "must_be_binary"
  | guard .unary => "must_be_unary"
  | guard .assign => "must_be_assign"
  | guard .assignOrDeclarator => "must_be_assign_or_var"
  | guard .objectLiteral => "must_be_object_literal"
  | guard .functionLiteral => "must_be_function_literal"
  | guard .call => "must_be_call"
  | anonymousCall => "must_be_anonymous_call"
  | hasOperator _ => "has_operator"
  | operands _ => "operands"
  | sides _ _ => "one_side_other_side"
  | rightSide _ => "right_side"
  | either _ => "either"
  | accept .numbers _ => "accept_numbers"
  | accept .booleans _ => "accept_boolean"
  | findCall _ => "must_be_call_d"
  | calleeIdentifier => "call_must_have_identifier"
  | containsThis => "contains_this"
  | nameMatches _ => "name_matches"

/-- The queries that an operation holds, in order. -/
def nested : Operation → List Query
  | operands query => [query]
  | sides one other => [one, other]
  | rightSide query => [query]
  | either alternatives => alternatives
  | _ => []

end Operation

end ShapeQuery
