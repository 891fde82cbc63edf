/-!
# Operators

The operators that binary, unary and assignment nodes carry. One type serves all three: which
operator stands on which kind of node is up to whoever built the tree.
-/

namespace ShapeQuery

/-- An operator of a binary, unary or assignment node. -/
inductive Operator where
  | plus
  | minus
  | times
  | divide
  | remainder
  | bitAnd
  | bitOr
  | bitXor
  | shiftLeft
  | shiftRight
  | unsignedShiftRight
  | logicalAnd
  | logicalOr
  | equal
  | notEqual
  | strictEqual
  | strictNotEqual
  | less
  | greater
  | lessOrEqual
  | greaterOrEqual
  | instanceOf
  | memberOf
  | logicalNot
  | bitNot
  | increment
  | decrement
  | typeOf
  | delete
  | void
  | assign
  | plusAssign
  | minusAssign
  | timesAssign
  | divideAssign
  | remainderAssign
deriving DecidableEq, Repr

namespace Operator

/-- Every operator, once. -/
def all : List Operator :=
  [plus, minus, times, divide, remainder, bitAnd, bitOr, bitXor, shiftLeft, shiftRight,
    unsignedShiftRight, logicalAnd, logicalOr, equal, notEqual, strictEqual, strictNotEqual, less,
    greater, lessOrEqual, greaterOrEqual, instanceOf, memberOf, logicalNot, bitNot, increment,
    decrement, typeOf, delete, void, assign, plusAssign, minusAssign, timesAssign, divideAssign,
    remainderAssign]

/-- How the operator is spelled in a script. -/
def symbol : Operator → String
  | plus => "+"
  | minus => "-"
  | times => "*"
  | divide => "/"
  | remainder => "%"
  | bitAnd => "&"
  | bitOr => "|"
  | bitXor => "^"
  | shiftLeft => "<<"
  | shiftRight => ">>"
  | unsignedShiftRight => ">>>"
  | logicalAnd => "&&"
  | logicalOr => "||"
  | equal => "=="
  | notEqual => "!="
  | strictEqual => "==="
  | strictNotEqual => "!=="
  | less => "<"
  | greater => ">"
  | lessOrEqual => "<="
  | greaterOrEqual => ">="
  | instanceOf => "instanceof"
  | memberOf => "in"
  | logicalNot => "!"
  | bitNot => "~"
  | increment => "++"
  | decrement => "--"
  | typeOf => "typeof"
  | delete => "delete"
  | void => "void"
  | assign => "="
  | plusAssign => "+="
  | minusAssign => "-="
  | timesAssign => "*="
  | divideAssign => "/="
  | remainderAssign => "%="

/-- The operator with the given spelling. -/
def ofSymbol? (s : String) : Option Operator := all.find? fun op ↦ op.symbol == s

/-- Reading a spelling gives back the operator, so no two operators share one. -/
@[simp] theorem ofSymbol?_symbol (op : Operator) : ofSymbol? op.symbol = some op := by
  cases op <;> decide

end Operator

end ShapeQuery
