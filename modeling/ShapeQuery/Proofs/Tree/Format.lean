import ShapeQuery.Proofs.Results
import ShapeQuery.Tree.Reading

/-!
# The interchange format as a table

What the reader of trees asks of a JSON value is written down here as data: for each kind of node
its fields in the order in which they are read (`ExprKind.fields`, `StatementKind.fields`), and for
each field what it can hold (`Slot`). A property of an object literal is read like a node that has
no type tag, and so it is a third *shape* in which a value can be read, beside the two sorts of
tree.

The table is tied to the reader by two lemmas. A value that opens as a node is read by reading the
fields that the table lists, in that order and up to the first that fails (`Opens.read_eq`); a value
that does not open is refused with the fault that `HeadFault` names (`HeadFault.read_eq`), and every
value is of one of the two sorts (`opens_or_headFault`). Statements about the reader are proved from
these, without a case for every kind.
-/

namespace ShapeQuery

/-! ### Names of kinds -/

/-- What a search by name finds has the name. -/
theorem eq_name_of_find? {α : Type} {all : List α} {name : α → String} {s : String} {a : α}
    (h : all.find? (fun a ↦ name a == s) = some a) : s = name a := by
  have hfound := List.find?_some h
  exact (beq_iff_eq.1 hfound).symm

theorem ExprKind.ofName?_eq_some_iff {s : String} {kind : ExprKind} :
    ofName? s = some kind ↔ s = kind.name :=
  ⟨eq_name_of_find?, fun h ↦ h ▸ ofName?_name kind⟩

theorem StatementKind.ofName?_eq_some_iff {s : String} {kind : StatementKind} :
    ofName? s = some kind ↔ s = kind.name :=
  ⟨eq_name_of_find?, fun h ↦ h ▸ ofName?_name kind⟩

theorem Operator.ofSymbol?_eq_some_iff {s : String} {op : Operator} :
    ofSymbol? s = some op ↔ s = op.symbol :=
  ⟨eq_name_of_find?, fun h ↦ h ▸ ofSymbol?_symbol op⟩

namespace Interchange

/-! ### The table -/

/-- What a JSON value can be read as. -/
inductive Shape where
  | expression
  | statement
  /-- A property of an object literal. -/
  | property
deriving DecidableEq

/-- What a field of a node can hold. -/
inductive Slot where
  /-- The spelling of an operator. -/
  | operator
  | string
  | boolean
  /-- A boolean, or nothing. -/
  | flag
  /-- A number, or a string that stands for one that JSON does not have. -/
  | number
  | tree (shape : Shape)
  /-- A tree, null, or nothing. -/
  | optional (shape : Shape)
  /-- An array of trees. -/
  | list (shape : Shape)

/-- A field of a node. -/
structure Field where
  name : String
  slot : Slot

end Interchange

open Interchange (Field)

/-- The fields of an expression, in the order in which they are read. -/
def ExprKind.fields : ExprKind → List Field
  | binary => [⟨"operator", .operator⟩, ⟨"left", .tree .expression⟩, ⟨"right", .tree .expression⟩]
  | unary => [⟨"operator", .operator⟩, ⟨"operand", .tree .expression⟩, ⟨"postfix", .flag⟩]
  | assign => [⟨"operator", .operator⟩, ⟨"left", .tree .expression⟩, ⟨"right", .tree .expression⟩]
  | declarator => [⟨"name", .string⟩, ⟨"initializer", .optional .expression⟩]
  | identifier => [⟨"name", .string⟩]
  | thisRef => []
  | number => [⟨"value", .number⟩]
  | string => [⟨"value", .string⟩]
  | boolean => [⟨"value", .boolean⟩]
  | call => [⟨"callee", .tree .expression⟩, ⟨"arguments", .list .expression⟩]
  | construct => [⟨"callee", .tree .expression⟩, ⟨"arguments", .list .expression⟩]
  | function =>
    [⟨"name", .optional .expression⟩, ⟨"params", .list .expression⟩, ⟨"body", .list .statement⟩]
  | dot => [⟨"left", .tree .expression⟩, ⟨"member", .tree .expression⟩]
  | bracket => [⟨"left", .tree .expression⟩, ⟨"member", .tree .expression⟩]
  | conditional =>
    [⟨"test", .tree .expression⟩, ⟨"consequent", .tree .expression⟩,
      ⟨"alternate", .tree .expression⟩]
  | sequence => [⟨"items", .list .expression⟩]
  | array => [⟨"items", .list .expression⟩]
  | object => [⟨"properties", .list .property⟩]

/-- The fields of a statement, in the order in which they are read. -/
def StatementKind.fields : StatementKind → List Field
  | expression => [⟨"expression", .tree .expression⟩]
  | returns => [⟨"argument", .optional .expression⟩]
  | declaration => [⟨"declarations", .list .expression⟩]
  | block => [⟨"body", .list .statement⟩]
  | branch =>
    [⟨"test", .tree .expression⟩, ⟨"consequent", .tree .statement⟩,
      ⟨"alternate", .optional .statement⟩]
  | loop => [⟨"test", .tree .expression⟩, ⟨"body", .tree .statement⟩]
  | throws => [⟨"argument", .tree .expression⟩]
  | empty => []

namespace Interchange

/-- The fields of a property of an object literal, in the order in which they are read. -/
def propertyFields : List Field := [⟨"key", .string⟩, ⟨"value", .tree .expression⟩]

/-- A node whose fields are still to be read: the name that a fault in it is reported under, the
fields, and the members that they are looked up in. -/
structure Node where
  name : String
  fields : List Field
  members : List (String × Json)

/-- What the node holds in a field, if anything. -/
def Node.value? (node : Node) (f : Field) : Option Json := node.members.lookup f.name

/-- A value opens as a node if it is an object and, but for a property, has a type tag that names a
kind of the sort of tree that is expected. A property goes by the name of the node it belongs to. -/
inductive Opens : Shape → Json → Node → Prop
  | expression (kind : ExprKind) {members : List (String × Json)}
      (tag : members.lookup "type" = some (.string kind.name)) :
      Opens .expression (.object members) ⟨kind.name, kind.fields, members⟩
  | statement (kind : StatementKind) {members : List (String × Json)}
      (tag : members.lookup "type" = some (.string kind.name)) :
      Opens .statement (.object members) ⟨kind.name, kind.fields, members⟩
  | property (members : List (String × Json)) :
      Opens .property (.object members) ⟨ExprKind.object.name, propertyFields, members⟩

/-- What is wrong with a value that does not open as a node. -/
inductive HeadFault : Shape → Json → ReadError → Prop
  | notAnObject {shape : Shape} {v : Json} (tagged : shape ≠ .property)
      (h : ∀ members, v ≠ .object members) : HeadFault shape v .notAnObject
  | missingType {shape : Shape} {members : List (String × Json)} (tagged : shape ≠ .property)
      (h : ∀ tag, members.lookup "type" ≠ some (.string tag)) :
      HeadFault shape (.object members) .missingType
  | unknownExpression {members : List (String × Json)} {tag : String}
      (found : members.lookup "type" = some (.string tag))
      (h : ∀ kind : ExprKind, tag ≠ kind.name) :
      HeadFault .expression (.object members) (.unknownType tag)
  | unknownStatement {members : List (String × Json)} {tag : String}
      (found : members.lookup "type" = some (.string tag))
      (h : ∀ kind : StatementKind, tag ≠ kind.name) :
      HeadFault .statement (.object members) (.unknownType tag)
  | property {v : Json} (h : ∀ members, v ≠ .object members) :
      HeadFault .property v (.invalidField ExprKind.object.name "properties")

/-! ### Reading by the table -/

/-- Reads one property of an object literal. -/
def toProperty (node name : String) : Json → Except ReadError (String × Expr)
  | .object members => do
    let key ← stringField node "key" members
    let value ← exprField node "value" members
    .ok (key, value)
  | _ => .error (.invalidField node name)

/-- How reading a value in a shape ends. -/
def Shape.read : Shape → Json → Except ReadError Unit
  | expression, v => (toExpr v).outcome
  | statement, v => (toStatement v).outcome
  | property, v => (toProperty ExprKind.object.name "properties" v).outcome

theorem Shape.read_toExpr (v : Json) : expression.read v = (toExpr v).outcome := rfl

theorem Shape.read_toStatement (v : Json) : statement.read v = (toStatement v).outcome := rfl

theorem Shape.read_toProperty (v : Json) :
    property.read v = (toProperty ExprKind.object.name "properties" v).outcome := rfl

/-- Whether a field may be missing. -/
def Slot.mayBeAbsent : Slot → Bool
  | flag => true
  | optional _ => true
  | _ => false

/-- How reading a field ends. The name of the node and of the field show in faults only. -/
def Slot.read (node name : String) (slot : Slot) : Option Json → Except ReadError Unit
  | none => if slot.mayBeAbsent then .ok () else .error (.missingField node name)
  | some v =>
    match slot, v with
    | operator, .string s =>
      if (Operator.ofSymbol? s).isSome then .ok () else .error (.unknownOperator s)
    | string, .string _ => .ok ()
    | boolean, .bool _ => .ok ()
    | flag, .bool _ => .ok ()
    | number, v => if (toNumber? v).isSome then .ok () else .error (.invalidField node name)
    | tree shape, v => shape.read v
    | optional _, .null => .ok ()
    | optional shape, v => shape.read v
    | list shape, .array items => forM items shape.read
    | _, _ => .error (.invalidField node name)

theorem Slot.read_optional (node name : String) (shape : Shape) (v : Json) :
    (optional shape).read node name (some v) = if isNull v then .ok () else shape.read v := by
  cases v <;> rfl

/-- How reading a field of a node ends. -/
def Node.read (node : Node) (f : Field) : Except ReadError Unit :=
  f.slot.read node.name f.name (node.value? f)

/-! ### Fields that are not trees -/

section Accessors

variable (node : Node) (name : String)

theorem Node.read_string :
    node.read ⟨name, .string⟩ = (stringField node.name name node.members).outcome := by
  rw [stringField, field]
  show Slot.string.read _ _ (node.members.lookup name) = _
  rcases node.members.lookup name with - | v
  · rfl
  · cases v <;> rfl

theorem Node.read_boolean :
    node.read ⟨name, .boolean⟩ = (boolField node.name name node.members).outcome := by
  rw [boolField, field]
  show Slot.boolean.read _ _ (node.members.lookup name) = _
  rcases node.members.lookup name with - | v
  · rfl
  · cases v <;> rfl

theorem Node.read_flag :
    node.read ⟨name, .flag⟩ = (flagField node.name name node.members).outcome := by
  rw [flagField, boolField, field]
  show Slot.flag.read _ _ (node.members.lookup name) = _
  rcases node.members.lookup name with - | v
  · rfl
  · cases v <;> rfl

theorem Node.read_number :
    node.read ⟨name, .number⟩ = (numberField node.name name node.members).outcome := by
  rw [numberField, field]
  show Slot.number.read _ _ (node.members.lookup name) = _
  rcases node.members.lookup name with - | v
  · rfl
  · simp only [Slot.read, bind, Except.bind]
    cases toNumber? v <;> rfl

theorem Node.read_operator :
    node.read ⟨"operator", .operator⟩ = (operatorField node.name node.members).outcome := by
  rw [operatorField, stringField, field]
  show Slot.operator.read _ _ (node.members.lookup "operator") = _
  rcases node.members.lookup "operator" with - | v
  · rfl
  · cases v with
    | string s =>
      simp only [Slot.read, bind, Except.bind]
      cases Operator.ofSymbol? s <;> rfl
    | _ => rfl

end Accessors

/-! ### Fields that hold trees -/

/-- A search through the members of an object for a name is a case split on what is found. -/
theorem eq_elim_lookup {β : Type} {g : List (String × Json) → β} {name : String} {absent : β}
    {found : Json → β} (nil : g [] = absent)
    (cons : ∀ key v rest, g ((key, v) :: rest) = if name == key then found v else g rest)
    (members : List (String × Json)) : g members = (members.lookup name).elim absent found := by
  induction members with
  | nil => exact nil
  | cons m rest ih =>
    rw [cons, List.lookup_cons, ih]
    cases name == m.1 <;> rfl

section Lookup

variable (node name : String) (members : List (String × Json))

theorem exprField_eq : exprField node name members =
    (members.lookup name).elim (.error (.missingField node name)) toExpr :=
  eq_elim_lookup (by rw [exprField]) (fun _ _ _ ↦ by rw [exprField]) members

theorem statementField_eq : statementField node name members =
    (members.lookup name).elim (.error (.missingField node name)) toStatement :=
  eq_elim_lookup (by rw [statementField]) (fun _ _ _ ↦ by rw [statementField]) members

theorem optionalExprField_eq : optionalExprField name members =
    (members.lookup name).elim (.ok none)
      fun v ↦ if isNull v then .ok none else (toExpr v).map some :=
  eq_elim_lookup (by rw [optionalExprField]) (fun _ _ _ ↦ by rw [optionalExprField]) members

theorem optionalStatementField_eq : optionalStatementField name members =
    (members.lookup name).elim (.ok none)
      fun v ↦ if isNull v then .ok none else (toStatement v).map some :=
  eq_elim_lookup (by rw [optionalStatementField]) (fun _ _ _ ↦ by rw [optionalStatementField])
    members

theorem exprsField_eq : exprsField node name members =
    (members.lookup name).elim (.error (.missingField node name)) fun v ↦
      match v with
      | .array items => toExprs items
      | _ => .error (.invalidField node name) :=
  eq_elim_lookup (by rw [exprsField]) (fun _ v _ ↦ by cases v <;> simp [exprsField]) members

theorem statementsField_eq : statementsField node name members =
    (members.lookup name).elim (.error (.missingField node name)) fun v ↦
      match v with
      | .array items => toStatements items
      | _ => .error (.invalidField node name) :=
  eq_elim_lookup (by rw [statementsField]) (fun _ v _ ↦ by cases v <;> simp [statementsField])
    members

theorem propertiesField_eq : propertiesField node name members =
    (members.lookup name).elim (.error (.missingField node name)) fun v ↦
      match v with
      | .array items => toProperties node name items
      | _ => .error (.invalidField node name) :=
  eq_elim_lookup (by rw [propertiesField]) (fun _ v _ ↦ by cases v <;> simp [propertiesField])
    members

end Lookup

theorem toExprs_eq_mapM (items : List Json) : toExprs items = items.mapM toExpr := by
  induction items with
  | nil => rfl
  | cons v rest ih =>
    rw [toExprs, List.mapM_cons, ih]
    rfl

theorem toStatements_eq_mapM (items : List Json) : toStatements items = items.mapM toStatement := by
  induction items with
  | nil => rfl
  | cons v rest ih =>
    rw [toStatements, List.mapM_cons, ih]
    rfl

theorem toProperties_eq_mapM (node name : String) (items : List Json) :
    toProperties node name items = items.mapM (toProperty node name) := by
  induction items with
  | nil => rfl
  | cons v rest ih =>
    rw [List.mapM_cons, ← ih]
    cases v with
    | object members =>
      rw [toProperties, toProperty]
      simp [Except.ok_bind, pure, Except.pure]
    | _ => rfl

section Trees

variable {α : Type} {shape : Shape} {read : Json → Except ReadError α}
  (hread : ∀ v, shape.read v = (read v).outcome) (node : Node) (name : String)

include hread

theorem Node.read_tree :
    node.read ⟨name, .tree shape⟩ =
      ((node.value? ⟨name, .tree shape⟩).elim (Except.error (.missingField node.name name))
        read).outcome := by
  rw [Node.read]
  cases node.value? ⟨name, .tree shape⟩ with
  | none => rfl
  | some v => exact hread v

theorem Node.read_optional :
    node.read ⟨name, .optional shape⟩ =
      ((node.value? ⟨name, .optional shape⟩).elim (.ok none) fun v ↦
        if isNull v then .ok none else (read v).map some).outcome := by
  rw [Node.read]
  cases node.value? ⟨name, .optional shape⟩ with
  | none => rfl
  | some v =>
    show Slot.read _ _ (.optional _) (some v) = Except.outcome (if isNull v then _ else _)
    rw [Slot.read_optional]
    cases isNull v with
    | true => rfl
    | false => exact (hread v).trans Except.outcome_map.symm

theorem Node.read_list :
    node.read ⟨name, .list shape⟩ =
      ((node.value? ⟨name, .list shape⟩).elim (Except.error (.missingField node.name name)) fun v ↦
        match v with
        | .array items => items.mapM read
        | _ => .error (.invalidField node.name name)).outcome := by
  rw [Node.read]
  cases node.value? ⟨name, .list shape⟩ with
  | none => rfl
  | some v =>
    cases v with
    | array items =>
      show forM items shape.read = (items.mapM read).outcome
      rw [Except.outcome_mapM, funext hread]
    | _ => rfl

end Trees

section Accessors

variable (node : Node) (name : String)

theorem Node.read_expr :
    node.read ⟨name, .tree .expression⟩ = (exprField node.name name node.members).outcome := by
  rw [exprField_eq]
  exact Node.read_tree Shape.read_toExpr node name

theorem Node.read_statement :
    node.read ⟨name, .tree .statement⟩ =
      (statementField node.name name node.members).outcome := by
  rw [statementField_eq]
  exact Node.read_tree Shape.read_toStatement node name

theorem Node.read_optionalExpr :
    node.read ⟨name, .optional .expression⟩ = (optionalExprField name node.members).outcome := by
  rw [optionalExprField_eq]
  exact Node.read_optional Shape.read_toExpr node name

theorem Node.read_optionalStatement :
    node.read ⟨name, .optional .statement⟩ =
      (optionalStatementField name node.members).outcome := by
  rw [optionalStatementField_eq]
  exact Node.read_optional Shape.read_toStatement node name

theorem Node.read_exprs :
    node.read ⟨name, .list .expression⟩ = (exprsField node.name name node.members).outcome := by
  simp only [exprsField_eq, toExprs_eq_mapM]
  exact Node.read_list Shape.read_toExpr node name

theorem Node.read_statements :
    node.read ⟨name, .list .statement⟩ =
      (statementsField node.name name node.members).outcome := by
  simp only [statementsField_eq, toStatements_eq_mapM]
  exact Node.read_list Shape.read_toStatement node name

theorem Node.read_properties (fields : List Field) (members : List (String × Json)) :
    (⟨ExprKind.object.name, fields, members⟩ : Node).read ⟨"properties", .list .property⟩ =
      (propertiesField ExprKind.object.name "properties" members).outcome := by
  simp only [propertiesField_eq, toProperties_eq_mapM]
  exact Node.read_list Shape.read_toProperty _ "properties"

end Accessors

/-! ### Nodes -/

section Nodes

variable {members : List (String × Json)}

theorem typeTag_eq_ok_iff {tag : String} :
    typeTag members = .ok tag ↔ members.lookup "type" = some (.string tag) := by
  rw [typeTag]
  rcases members.lookup "type" with - | v
  · exact ⟨fun h ↦ (nomatch h), fun h ↦ (nomatch h)⟩
  · cases v <;> simp

-- with these, `simp` turns both sides into one sequence of the reader's own accesses
attribute [local simp] Node.read_string Node.read_boolean Node.read_flag Node.read_number
  Node.read_operator Node.read_expr Node.read_statement Node.read_optionalExpr
  Node.read_optionalStatement Node.read_exprs Node.read_statements Node.read_properties
  Except.outcome Except.ok_bind pure Except.pure

/-- An expression is read by reading the fields of its kind in order. -/
theorem read_expression {kind : ExprKind}
    (tag : members.lookup "type" = some (.string kind.name)) :
    Shape.expression.read (.object members) =
      forM kind.fields (⟨kind.name, kind.fields, members⟩ : Node).read := by
  rw [Shape.read, toExpr, typeTag_eq_ok_iff.2 tag, Except.ok_bind, kind.ofName?_name]
  cases kind <;> simp [ExprKind.fields]

/-- A statement is read by reading the fields of its kind in order. -/
theorem read_statement {kind : StatementKind}
    (tag : members.lookup "type" = some (.string kind.name)) :
    Shape.statement.read (.object members) =
      forM kind.fields (⟨kind.name, kind.fields, members⟩ : Node).read := by
  rw [Shape.read, toStatement, typeTag_eq_ok_iff.2 tag, Except.ok_bind, kind.ofName?_name]
  cases kind <;> simp [StatementKind.fields]

end Nodes

section Heads

variable {shape : Shape} {v : Json} {members : List (String × Json)}

/-- A value that opens as a node is read by reading the fields of the node in order. -/
theorem Opens.read_eq {node : Node} (h : Opens shape v node) :
    shape.read v = forM node.fields node.read := by
  cases h with
  | expression kind tag => exact read_expression tag
  | statement kind tag => exact read_statement tag
  | property members =>
    rw [Shape.read, toProperty]
    simp [propertyFields, Node.read_string, Node.read_expr, Except.outcome, Except.ok_bind, pure,
      Except.pure]

theorem typeTag_eq_missingType (h : ∀ tag, members.lookup "type" ≠ some (.string tag)) :
    typeTag members = .error .missingType := by
  rw [typeTag]
  split
  · rename_i tag htag
    exact absurd htag (h tag)
  · rfl

/-- A value that does not open as a node is refused. -/
theorem HeadFault.read_eq {err : ReadError} (h : HeadFault shape v err) :
    shape.read v = .error err := by
  cases h with
  | notAnObject tagged h =>
    cases v with
    | object members => exact absurd rfl (h members)
    | _ =>
      cases shape with
      | property => exact absurd rfl tagged
      | _ => rfl
  | missingType tagged h =>
    cases shape with
    | property => exact absurd rfl tagged
    | expression =>
      rw [Shape.read, toExpr, typeTag_eq_missingType h]
      rfl
    | statement =>
      rw [Shape.read, toStatement, typeTag_eq_missingType h]
      rfl
  | @unknownExpression members tag found h =>
    have hkind : ExprKind.ofName? tag = none :=
      Option.eq_none_iff_forall_ne_some.2 fun kind hk ↦ h kind (ExprKind.ofName?_eq_some_iff.1 hk)
    rw [Shape.read, toExpr, typeTag_eq_ok_iff.2 found, Except.ok_bind, hkind]
    rfl
  | @unknownStatement members tag found h =>
    have hkind : StatementKind.ofName? tag = none :=
      Option.eq_none_iff_forall_ne_some.2 fun kind hk ↦
        h kind (StatementKind.ofName?_eq_some_iff.1 hk)
    rw [Shape.read, toStatement, typeTag_eq_ok_iff.2 found, Except.ok_bind, hkind]
    rfl
  | property h =>
    cases v with
    | object members => exact absurd rfl (h members)
    | _ => rfl

/-- The tag of an object names a kind, names none, or is not there. -/
theorem opens_or_headFault_object (shape : Shape) (members : List (String × Json)) :
    (∃ node, Opens shape (.object members) node) ∨
      ∃ err, HeadFault shape (.object members) err := by
  by_cases htag : ∃ tag, members.lookup "type" = some (.string tag)
  · obtain ⟨tag, htag⟩ := htag
    cases shape with
    | expression =>
      by_cases hkind : ∃ kind : ExprKind, tag = kind.name
      · obtain ⟨kind, rfl⟩ := hkind
        exact .inl ⟨_, .expression kind htag⟩
      · exact .inr ⟨_, .unknownExpression htag (not_exists.1 hkind)⟩
    | statement =>
      by_cases hkind : ∃ kind : StatementKind, tag = kind.name
      · obtain ⟨kind, rfl⟩ := hkind
        exact .inl ⟨_, .statement kind htag⟩
      · exact .inr ⟨_, .unknownStatement htag (not_exists.1 hkind)⟩
    | property => exact .inl ⟨_, .property members⟩
  · by_cases hshape : shape = .property
    · subst hshape
      exact .inl ⟨_, .property members⟩
    · exact .inr ⟨_, .missingType hshape (not_exists.1 htag)⟩

/-- Every value opens as a node or has a fault that keeps it from that. -/
theorem opens_or_headFault (shape : Shape) (v : Json) :
    (∃ node, Opens shape v node) ∨ ∃ err, HeadFault shape v err := by
  by_cases hobject : ∃ members, v = .object members
  · obtain ⟨members, rfl⟩ := hobject
    exact opens_or_headFault_object shape members
  · by_cases hshape : shape = .property
    · subst hshape
      exact .inr ⟨_, .property (not_exists.1 hobject)⟩
    · exact .inr ⟨_, .notAnObject hshape (not_exists.1 hobject)⟩

/-! ### Values inside a node -/

theorem sizeOf_lt_of_lookup {name : String} {w : Json} (h : members.lookup name = some w) :
    sizeOf w < sizeOf (Json.object members) := by
  obtain ⟨before, after, rfl, -⟩ := List.lookup_eq_some_iff.1 h
  have hmem : (name, w) ∈ before ++ (name, w) :: after := List.mem_append_right _ List.mem_cons_self
  have hlt := List.sizeOf_lt_of_mem hmem
  simp only [Prod.mk.sizeOf_spec] at hlt
  rw [Json.object.sizeOf_spec]
  omega

/-- What a node holds in a field is smaller than the value that the node was opened from. -/
theorem Opens.sizeOf_lt {node : Node} (h : Opens shape v node) {f : Field} {w : Json}
    (hw : node.value? f = some w) : sizeOf w < sizeOf v := by
  cases h <;> exact sizeOf_lt_of_lookup hw

theorem sizeOf_lt_of_mem_array {items : List Json} {w : Json} (h : w ∈ items) :
    sizeOf w < sizeOf (Json.array items) := by
  have hlt := List.sizeOf_lt_of_mem h
  rw [Json.array.sizeOf_spec]
  omega

end Heads

end Interchange

end ShapeQuery
