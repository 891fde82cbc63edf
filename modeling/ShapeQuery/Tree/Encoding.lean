import ShapeQuery.Json.Text
import ShapeQuery.Tree.Basic

/-!
# Trees as JSON

Every node becomes an object. Its `type` member names the node's kind, operators are given by their
spelling, a child that is absent is null, and the members stand in increasing order of their keys.
JSON has no NaN and no infinities; those three are written as strings.
-/

namespace ShapeQuery

namespace Interchange

/-- A number as JSON. -/
def ofNumber (x : Binary64) : Json :=
  match Json.Number.ofBinary64? x with
  | some n => .number n
  | none =>
    if x.isNaN then .string "NaN"
    else if x.isNegative then .string "-Infinity"
    else .string "Infinity"

mutual

/-- An expression as JSON. -/
def ofExpr : Expr → Json
  | .binary op left right =>
    .object [("left", ofExpr left), ("operator", .string op.symbol), ("right", ofExpr right),
      ("type", .string ExprKind.binary.name)]
  | .unary op operand postfixed =>
    .object [("operand", ofExpr operand), ("operator", .string op.symbol),
      ("postfix", .bool postfixed), ("type", .string ExprKind.unary.name)]
  | .assign op left right =>
    .object [("left", ofExpr left), ("operator", .string op.symbol), ("right", ofExpr right),
      ("type", .string ExprKind.assign.name)]
  | .declarator name (some initial) =>
    .object [("initializer", ofExpr initial), ("name", .string name),
      ("type", .string ExprKind.declarator.name)]
  | .declarator name none =>
    .object [("initializer", .null), ("name", .string name),
      ("type", .string ExprKind.declarator.name)]
  | .identifier name =>
    .object [("name", .string name), ("type", .string ExprKind.identifier.name)]
  | .thisRef => .object [("type", .string ExprKind.thisRef.name)]
  | .number value => .object [("type", .string ExprKind.number.name), ("value", ofNumber value)]
  | .string value =>
    .object [("type", .string ExprKind.string.name), ("value", .string value)]
  | .boolean value => .object [("type", .string ExprKind.boolean.name), ("value", .bool value)]
  | .call callee args =>
    .object [("arguments", .array (ofExprs args)), ("callee", ofExpr callee),
      ("type", .string ExprKind.call.name)]
  | .construct callee args =>
    .object [("arguments", .array (ofExprs args)), ("callee", ofExpr callee),
      ("type", .string ExprKind.construct.name)]
  | .function (some name) params body =>
    .object [("body", .array (ofStatements body)), ("name", ofExpr name),
      ("params", .array (ofExprs params)), ("type", .string ExprKind.function.name)]
  | .function none params body =>
    .object [("body", .array (ofStatements body)), ("name", .null),
      ("params", .array (ofExprs params)), ("type", .string ExprKind.function.name)]
  | .dot left member =>
    .object [("left", ofExpr left), ("member", ofExpr member), ("type", .string ExprKind.dot.name)]
  | .bracket left member =>
    .object [("left", ofExpr left), ("member", ofExpr member),
      ("type", .string ExprKind.bracket.name)]
  | .conditional test consequent alternate =>
    .object [("alternate", ofExpr alternate), ("consequent", ofExpr consequent),
      ("test", ofExpr test), ("type", .string ExprKind.conditional.name)]
  | .sequence items =>
    .object [("items", .array (ofExprs items)), ("type", .string ExprKind.sequence.name)]
  | .array items =>
    .object [("items", .array (ofExprs items)), ("type", .string ExprKind.array.name)]
  | .object properties =>
    .object [("properties", .array (ofProperties properties)),
      ("type", .string ExprKind.object.name)]

/-- Expressions as JSON. -/
def ofExprs : List Expr → List Json
  | [] => []
  | e :: rest => ofExpr e :: ofExprs rest

/-- The properties of an object literal as JSON. -/
def ofProperties : List (String × Expr) → List Json
  | [] => []
  | (key, e) :: rest =>
    .object [("key", .string key), ("value", ofExpr e)] :: ofProperties rest

/-- A statement as JSON. -/
def ofStatement : Statement → Json
  | .expression value =>
    .object [("expression", ofExpr value), ("type", .string StatementKind.expression.name)]
  | .returns (some argument) =>
    .object [("argument", ofExpr argument), ("type", .string StatementKind.returns.name)]
  | .returns none => .object [("argument", .null), ("type", .string StatementKind.returns.name)]
  | .declaration declarators =>
    .object [("declarations", .array (ofExprs declarators)),
      ("type", .string StatementKind.declaration.name)]
  | .block body =>
    .object [("body", .array (ofStatements body)), ("type", .string StatementKind.block.name)]
  | .branch test consequent (some alternate) =>
    .object [("alternate", ofStatement alternate), ("consequent", ofStatement consequent),
      ("test", ofExpr test), ("type", .string StatementKind.branch.name)]
  | .branch test consequent none =>
    .object [("alternate", .null), ("consequent", ofStatement consequent), ("test", ofExpr test),
      ("type", .string StatementKind.branch.name)]
  | .loop test body =>
    .object [("body", ofStatement body), ("test", ofExpr test),
      ("type", .string StatementKind.loop.name)]
  | .throws argument =>
    .object [("argument", ofExpr argument), ("type", .string StatementKind.throws.name)]
  | .empty => .object [("type", .string StatementKind.empty.name)]

/-- Statements as JSON. -/
def ofStatements : List Statement → List Json
  | [] => []
  | s :: rest => ofStatement s :: ofStatements rest

end

end Interchange

namespace Expr

/-- An expression as JSON. -/
abbrev toJson (e : Expr) : Json := Interchange.ofExpr e

/-- An expression as compact JSON text. -/
def compact (e : Expr) : String := e.toJson.compact

/-- An expression as indented JSON text. -/
def pretty (e : Expr) : String := e.toJson.pretty

end Expr

namespace Statement

/-- A statement as JSON. -/
abbrev toJson (s : Statement) : Json := Interchange.ofStatement s

/-- A statement as compact JSON text. -/
def compact (s : Statement) : String := s.toJson.compact

end Statement

end ShapeQuery
