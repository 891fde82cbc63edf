/-!
# Kinds of nodes

The kind of a node is its shape without its parts. Kinds name nodes in errors, in log lines and in
the interchange format, where the name of a node's kind is its type tag.
-/

namespace ShapeQuery

/-- The kind of an expression. -/
inductive ExprKind where
  | binary
  | unary
  | assign
  | declarator
  | identifier
  | thisRef
  | number
  | string
  | boolean
  | call
  | construct
  | function
  | dot
  | bracket
  | conditional
  | sequence
  | array
  | object
deriving DecidableEq, Repr

namespace ExprKind

/-- Every kind of expression, once. -/
def all : List ExprKind :=
  [binary, unary, assign, declarator, identifier, thisRef, number, string, boolean, call,
    construct, function, dot, bracket, conditional, sequence, array, object]

/-- The name of a kind of expression. -/
def name : ExprKind → String
  | binary => "binary"
  | unary => "unary"
  | assign => "assign"
  | declarator => "variable"
  | identifier => "identifier"
  | thisRef => "this"
  | number => "number"
  | string => "string"
  | boolean => "boolean"
  | call => "call"
  | construct => "new"
  | function => "function"
  | dot => "dot"
  | bracket => "bracket"
  | conditional => "conditional"
  | sequence => "sequence"
  | array => "array"
  | object => "object"

/-- The kind of expression with the given name. -/
def ofName? (s : String) : Option ExprKind := all.find? fun kind ↦ kind.name == s

/-- Reading a name gives back the kind, so no two kinds share one. -/
@[simp] theorem ofName?_name (kind : ExprKind) : ofName? kind.name = some kind := by
  cases kind <;> decide

end ExprKind

/-- The kind of a statement. -/
inductive StatementKind where
  | expression
  | returns
  | declaration
  | block
  | branch
  | loop
  | throws
  | empty
deriving DecidableEq, Repr

namespace StatementKind

/-- Every kind of statement, once. -/
def all : List StatementKind :=
  [expression, returns, declaration, block, branch, loop, throws, empty]

/-- The name of a kind of statement. -/
def name : StatementKind → String
  | expression => "expression_statement"
  | returns => "return_statement"
  | declaration => "variable_statement"
  | block => "block_statement"
  | branch => "if_statement"
  | loop => "while_statement"
  | throws => "throw_statement"
  | empty => "empty_statement"

/-- The kind of statement with the given name. -/
def ofName? (s : String) : Option StatementKind := all.find? fun kind ↦ kind.name == s

/-- Reading a name gives back the kind, so no two kinds share one. -/
@[simp] theorem ofName?_name (kind : StatementKind) : ofName? kind.name = some kind := by
  cases kind <;> decide

end StatementKind

end ShapeQuery
