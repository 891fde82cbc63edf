import ShapeQuery.Json.Basic
import ShapeQuery.Tree.Basic
import ShapeQuery.Tree.ReadError

/-!
# Trees from JSON

A JSON value is read as an expression or as a statement by its type tag. The fields of a node are
read in a fixed order and the first fault ends the reading. Fields that a kind does not have are
ignored. A child that may be absent may also be null; a unary operation without a `postfix` field
stands before its operand.

Looking a field up is itself part of the recursion, on the list of an object's members, so that
reading a tree is structural on the JSON value.
-/

namespace ShapeQuery

namespace Interchange

/-! ### Fields that are not trees -/

/-- The type tag of an object. -/
def typeTag (members : List (String × Json)) : Except ReadError String :=
  match members.lookup "type" with
  | some (.string tag) => .ok tag
  | _ => .error .missingType

/-- The member of a node that has to be there. -/
def field (node name : String) (members : List (String × Json)) : Except ReadError Json :=
  match members.lookup name with
  | some v => .ok v
  | none => .error (.missingField node name)

/-- A field that is a string. -/
def stringField (node name : String) (members : List (String × Json)) :
    Except ReadError String := do
  match ← field node name members with
  | .string s => .ok s
  | _ => .error (.invalidField node name)

/-- A field that is a boolean. -/
def boolField (node name : String) (members : List (String × Json)) : Except ReadError Bool := do
  match ← field node name members with
  | .bool b => .ok b
  | _ => .error (.invalidField node name)

/-- A field that is a boolean, or false if it is not there. -/
def flagField (node name : String) (members : List (String × Json)) : Except ReadError Bool :=
  match members.lookup name with
  | none => .ok false
  | some _ => boolField node name members

/-- The number that a JSON value stands for: a JSON number, or one of the three strings. -/
def toNumber? : Json → Option Binary64
  | .number n => some n.toBinary64
  | .string s =>
    if s = "NaN" then some .nan
    else if s = "Infinity" then some .infinity
    else if s = "-Infinity" then some .negInfinity
    else none
  | _ => none

/-- A field that is a number. -/
def numberField (node name : String) (members : List (String × Json)) :
    Except ReadError Binary64 := do
  match toNumber? (← field node name members) with
  | some x => .ok x
  | none => .error (.invalidField node name)

/-- The operator of a node. -/
def operatorField (node : String) (members : List (String × Json)) :
    Except ReadError Operator := do
  let symbol ← stringField node "operator" members
  match Operator.ofSymbol? symbol with
  | some op => .ok op
  | none => .error (.unknownOperator symbol)

/-- Whether a value is null. -/
def isNull : Json → Bool
  | .null => true
  | _ => false

/-! ### Trees -/

mutual

/-- Reads an expression. -/
def toExpr : Json → Except ReadError Expr
  | .object members => do
    let tag ← typeTag members
    match ExprKind.ofName? tag with
    | none => .error (.unknownType tag)
    | some .binary => do
      let op ← operatorField tag members
      let left ← exprField tag "left" members
      let right ← exprField tag "right" members
      .ok (.binary op left right)
    | some .unary => do
      let op ← operatorField tag members
      let operand ← exprField tag "operand" members
      let postfixed ← flagField tag "postfix" members
      .ok (.unary op operand postfixed)
    | some .assign => do
      let op ← operatorField tag members
      let left ← exprField tag "left" members
      let right ← exprField tag "right" members
      .ok (.assign op left right)
    | some .declarator => do
      let name ← stringField tag "name" members
      let initial ← optionalExprField "initializer" members
      .ok (.declarator name initial)
    | some .identifier => do
      let name ← stringField tag "name" members
      .ok (.identifier name)
    | some .thisRef => .ok .thisRef
    | some .number => do
      let value ← numberField tag "value" members
      .ok (.number value)
    | some .string => do
      let value ← stringField tag "value" members
      .ok (.string value)
    | some .boolean => do
      let value ← boolField tag "value" members
      .ok (.boolean value)
    | some .call => do
      let callee ← exprField tag "callee" members
      let args ← exprsField tag "arguments" members
      .ok (.call callee args)
    | some .construct => do
      let callee ← exprField tag "callee" members
      let args ← exprsField tag "arguments" members
      .ok (.construct callee args)
    | some .function => do
      let name ← optionalExprField "name" members
      let params ← exprsField tag "params" members
      let body ← statementsField tag "body" members
      .ok (.function name params body)
    | some .dot => do
      let left ← exprField tag "left" members
      let member ← exprField tag "member" members
      .ok (.dot left member)
    | some .bracket => do
      let left ← exprField tag "left" members
      let member ← exprField tag "member" members
      .ok (.bracket left member)
    | some .conditional => do
      let test ← exprField tag "test" members
      let consequent ← exprField tag "consequent" members
      let alternate ← exprField tag "alternate" members
      .ok (.conditional test consequent alternate)
    | some .sequence => do
      let items ← exprsField tag "items" members
      .ok (.sequence items)
    | some .array => do
      let items ← exprsField tag "items" members
      .ok (.array items)
    | some .object => do
      let properties ← propertiesField tag "properties" members
      .ok (.object properties)
  | _ => .error .notAnObject

/-- Reads a statement. -/
def toStatement : Json → Except ReadError Statement
  | .object members => do
    let tag ← typeTag members
    match StatementKind.ofName? tag with
    | none => .error (.unknownType tag)
    | some .expression => do
      let value ← exprField tag "expression" members
      .ok (.expression value)
    | some .returns => do
      let argument ← optionalExprField "argument" members
      .ok (.returns argument)
    | some .declaration => do
      let declarators ← exprsField tag "declarations" members
      .ok (.declaration declarators)
    | some .block => do
      let body ← statementsField tag "body" members
      .ok (.block body)
    | some .branch => do
      let test ← exprField tag "test" members
      let consequent ← statementField tag "consequent" members
      let alternate ← optionalStatementField "alternate" members
      .ok (.branch test consequent alternate)
    | some .loop => do
      let test ← exprField tag "test" members
      let body ← statementField tag "body" members
      .ok (.loop test body)
    | some .throws => do
      let argument ← exprField tag "argument" members
      .ok (.throws argument)
    | some .empty => .ok .empty
  | _ => .error .notAnObject

/-- A field that is an expression. -/
def exprField (node name : String) : List (String × Json) → Except ReadError Expr
  | [] => .error (.missingField node name)
  | (key, v) :: rest => if name == key then toExpr v else exprField node name rest

/-- A field that is an expression, absent or null. -/
def optionalExprField (name : String) : List (String × Json) → Except ReadError (Option Expr)
  | [] => .ok none
  | (key, v) :: rest =>
    if name == key then
      if isNull v then .ok none else (toExpr v).map some
    else optionalExprField name rest

/-- A field that is an array of expressions. -/
def exprsField (node name : String) : List (String × Json) → Except ReadError (List Expr)
  | [] => .error (.missingField node name)
  | (key, v) :: rest =>
    if name == key then
      match v with
      | .array items => toExprs items
      | _ => .error (.invalidField node name)
    else exprsField node name rest

/-- Reads expressions. -/
def toExprs : List Json → Except ReadError (List Expr)
  | [] => .ok []
  | v :: rest => do
    let e ← toExpr v
    let es ← toExprs rest
    .ok (e :: es)

/-- A field that is a statement. -/
def statementField (node name : String) : List (String × Json) → Except ReadError Statement
  | [] => .error (.missingField node name)
  | (key, v) :: rest => if name == key then toStatement v else statementField node name rest

/-- A field that is a statement, absent or null. -/
def optionalStatementField (name : String) :
    List (String × Json) → Except ReadError (Option Statement)
  | [] => .ok none
  | (key, v) :: rest =>
    if name == key then
      if isNull v then .ok none else (toStatement v).map some
    else optionalStatementField name rest

/-- A field that is an array of statements. -/
def statementsField (node name : String) : List (String × Json) → Except ReadError (List Statement)
  | [] => .error (.missingField node name)
  | (key, v) :: rest =>
    if name == key then
      match v with
      | .array items => toStatements items
      | _ => .error (.invalidField node name)
    else statementsField node name rest

/-- Reads statements. -/
def toStatements : List Json → Except ReadError (List Statement)
  | [] => .ok []
  | v :: rest => do
    let s ← toStatement v
    let ss ← toStatements rest
    .ok (s :: ss)

/-- A field that is an array of properties. -/
def propertiesField (node name : String) :
    List (String × Json) → Except ReadError (List (String × Expr))
  | [] => .error (.missingField node name)
  | (key, v) :: rest =>
    if name == key then
      match v with
      | .array items => toProperties node name items
      | _ => .error (.invalidField node name)
    else propertiesField node name rest

/-- Reads the properties of an object literal. A fault in one of them is a fault of the node. -/
def toProperties (node name : String) : List Json → Except ReadError (List (String × Expr))
  | [] => .ok []
  | v :: rest => do
    match v with
    | .object members => do
      let key ← stringField node "key" members
      let value ← exprField node "value" members
      let others ← toProperties node name rest
      .ok ((key, value) :: others)
    | _ => .error (.invalidField node name)

end

end Interchange

/-- Reads an expression from JSON. -/
abbrev Expr.ofJson (v : Json) : Except ReadError Expr := Interchange.toExpr v

/-- Reads a statement from JSON. -/
abbrev Statement.ofJson (v : Json) : Except ReadError Statement := Interchange.toStatement v

end ShapeQuery
