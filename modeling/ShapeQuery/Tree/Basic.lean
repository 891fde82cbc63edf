import ShapeQuery.Binary64.Basic
import ShapeQuery.Tree.Operator
import ShapeQuery.Tree.Kind

/-!
# Expression and statement trees

The syntax trees of a small script language, as an outside parser delivers them. Expressions and
statements refer to each other, since a function literal has a body of statements.

The types admit more trees than a script can spell: a member access may have any expression as its
member, a declaration may list expressions that are not declarators, and an object may repeat a
key. Nothing in the library relies on the narrower shapes.
-/

namespace ShapeQuery

mutual

/-- An expression. -/
inductive Expr where
  /-- A binary operation, as in `a || 5`. -/
  | binary (op : Operator) (left right : Expr)
  /-- A unary operation, before or after its operand, as in `!done` and `i++`. -/
  | unary (op : Operator) (operand : Expr) (postfixed : Bool)
  /-- An assignment, plain or compound, as in `total += 1`. -/
  | assign (op : Operator) (left right : Expr)
  /-- One declared name with its initial value, if any, as `x = 1` in `var x = 1, y`. -/
  | declarator (name : String) (initial : Option Expr)
  /-- A name. -/
  | identifier (name : String)
  /-- The word `this`. -/
  | thisRef
  /-- A number literal. -/
  | number (value : Binary64)
  /-- A string literal. -/
  | string (value : String)
  /-- A boolean literal. -/
  | boolean (value : Bool)
  /-- A call, as in `f(1, 2)`. -/
  | call (callee : Expr) (args : List Expr)
  /-- A constructor call, as in `new Date(0)`. -/
  | construct (callee : Expr) (args : List Expr)
  /-- A function literal. -/
  | function (name : Option Expr) (params : List Expr) (body : List Statement)
  /-- A member access by name, as in `document.cookie`. -/
  | dot (left member : Expr)
  /-- A computed member access, as in `window["eval"]`. -/
  | bracket (left member : Expr)
  /-- A conditional expression. -/
  | conditional (test consequent alternate : Expr)
  /-- Expressions separated by commas. -/
  | sequence (items : List Expr)
  /-- An array literal. -/
  | array (items : List Expr)
  /-- An object literal: its keys and values, in order. -/
  | object (properties : List (String × Expr))

/-- A statement. -/
inductive Statement where
  /-- An expression evaluated for its effect. -/
  | expression (value : Expr)
  /-- A return, with or without a value. -/
  | returns (argument : Option Expr)
  /-- A declaration of names, as in `var a = 1, b`. -/
  | declaration (declarators : List Expr)
  /-- Statements in braces. -/
  | block (body : List Statement)
  /-- A conditional statement. -/
  | branch (test : Expr) (consequent : Statement) (alternate : Option Statement)
  /-- A loop that tests before each turn. -/
  | loop (test : Expr) (body : Statement)
  /-- A throw. -/
  | throws (argument : Expr)
  /-- The empty statement. -/
  | empty

end

namespace Expr

/-- The kind of an expression. -/
def kind : Expr → ExprKind
  | binary .. => .binary
  | unary .. => .unary
  | assign .. => .assign
  | declarator .. => .declarator
  | identifier .. => .identifier
  | thisRef => .thisRef
  | number .. => .number
  | string .. => .string
  | boolean .. => .boolean
  | call .. => .call
  | construct .. => .construct
  | function .. => .function
  | dot .. => .dot
  | bracket .. => .bracket
  | conditional .. => .conditional
  | sequence .. => .sequence
  | array .. => .array
  | object .. => .object

/-- The operator of an assignment, a binary or a unary operation. -/
def operator? : Expr → Option Operator
  | assign op _ _ => some op
  | binary op _ _ => some op
  | unary op _ _ => some op
  | _ => none

/-- The expressions directly below a node, in the order in which a walk visits them. A function
has its name and its parameters below it and never its body; an object has its values. -/
def children : Expr → List Expr
  | binary _ left right => [left, right]
  | unary _ operand _ => [operand]
  | assign _ left right => [left, right]
  | declarator _ initial => initial.toList
  | identifier _ => []
  | thisRef => []
  | number _ => []
  | string _ => []
  | boolean _ => []
  | call callee args => callee :: args
  | construct callee args => callee :: args
  | function name params _ => name.toList ++ params
  | dot left member => [left, member]
  | bracket left member => [left, member]
  | conditional test consequent alternate => [test, consequent, alternate]
  | sequence items => items
  | array items => items
  | object properties => properties.map Prod.snd

end Expr

/-- The kind of a statement. -/
def Statement.kind : Statement → StatementKind
  | expression .. => .expression
  | returns .. => .returns
  | declaration .. => .declaration
  | block .. => .block
  | branch .. => .branch
  | loop .. => .loop
  | throws .. => .throws
  | empty => .empty

end ShapeQuery
