import ShapeQuery.Tree.Basic

/-!
# Induction on trees

Expressions and statements refer to each other through lists, options and pairs, so the recursor
that comes with the types has a motive for each of those. A statement about trees is rarely about
any of them: it is about expressions and statements, and holds of a node because it holds of the
parts of the node.

`TreeInduction P Q` says just that, one field for each constructor, with the parts that stand in a
list or an option given by membership. `TreeInduction.expr` and `TreeInduction.statement` are the
two conclusions.
-/

namespace ShapeQuery

/-- `P` passes from the parts of an expression to the expression, and `Q` from the parts of a
statement to the statement. -/
structure TreeInduction (P : Expr → Prop) (Q : Statement → Prop) : Prop where
  binary : ∀ op left right, P left → P right → P (.binary op left right)
  unary : ∀ op operand postfixed, P operand → P (.unary op operand postfixed)
  assign : ∀ op left right, P left → P right → P (.assign op left right)
  declarator : ∀ name initial, (∀ e ∈ initial, P e) → P (.declarator name initial)
  identifier : ∀ name, P (.identifier name)
  thisRef : P .thisRef
  number : ∀ value, P (.number value)
  string : ∀ value, P (.string value)
  boolean : ∀ value, P (.boolean value)
  call : ∀ callee args, P callee → (∀ e ∈ args, P e) → P (.call callee args)
  construct : ∀ callee args, P callee → (∀ e ∈ args, P e) → P (.construct callee args)
  function : ∀ name params body, (∀ e ∈ name, P e) → (∀ e ∈ params, P e) → (∀ s ∈ body, Q s) →
    P (.function name params body)
  dot : ∀ left member, P left → P member → P (.dot left member)
  bracket : ∀ left member, P left → P member → P (.bracket left member)
  conditional : ∀ test consequent alternate, P test → P consequent → P alternate →
    P (.conditional test consequent alternate)
  sequence : ∀ items, (∀ e ∈ items, P e) → P (.sequence items)
  array : ∀ items, (∀ e ∈ items, P e) → P (.array items)
  object : ∀ properties, (∀ p ∈ properties, P p.2) → P (.object properties)
  expression : ∀ value, P value → Q (.expression value)
  returns : ∀ argument, (∀ e ∈ argument, P e) → Q (.returns argument)
  declaration : ∀ declarators, (∀ e ∈ declarators, P e) → Q (.declaration declarators)
  block : ∀ body, (∀ s ∈ body, Q s) → Q (.block body)
  branch : ∀ test consequent alternate, P test → Q consequent → (∀ s ∈ alternate, Q s) →
    Q (.branch test consequent alternate)
  loop : ∀ test body, P test → Q body → Q (.loop test body)
  throws : ∀ argument, P argument → Q (.throws argument)
  empty : Q .empty

namespace TreeInduction

variable {P : Expr → Prop} {Q : Statement → Prop}

mutual

/-- The conclusion for expressions. -/
theorem expr (h : TreeInduction P Q) : ∀ e : Expr, P e
  | .binary op left right => h.binary op left right (h.expr left) (h.expr right)
  | .unary op operand postfixed => h.unary op operand postfixed (h.expr operand)
  | .assign op left right => h.assign op left right (h.expr left) (h.expr right)
  | .declarator name initial => h.declarator name initial (h.ofOption initial)
  | .identifier name => h.identifier name
  | .thisRef => h.thisRef
  | .number value => h.number value
  | .string value => h.string value
  | .boolean value => h.boolean value
  | .call callee args => h.call callee args (h.expr callee) (h.ofList args)
  | .construct callee args => h.construct callee args (h.expr callee) (h.ofList args)
  | .function name params body =>
    h.function name params body (h.ofOption name) (h.ofList params) (h.ofStatements body)
  | .dot left member => h.dot left member (h.expr left) (h.expr member)
  | .bracket left member => h.bracket left member (h.expr left) (h.expr member)
  | .conditional test consequent alternate =>
    h.conditional test consequent alternate (h.expr test) (h.expr consequent) (h.expr alternate)
  | .sequence items => h.sequence items (h.ofList items)
  | .array items => h.array items (h.ofList items)
  | .object properties => h.object properties (h.ofProperties properties)

/-- The conclusion for statements. -/
theorem statement (h : TreeInduction P Q) : ∀ s : Statement, Q s
  | .expression value => h.expression value (h.expr value)
  | .returns argument => h.returns argument (h.ofOption argument)
  | .declaration declarators => h.declaration declarators (h.ofList declarators)
  | .block body => h.block body (h.ofStatements body)
  | .branch test consequent alternate =>
    h.branch test consequent alternate (h.expr test) (h.statement consequent)
      (h.ofStatement? alternate)
  | .loop test body => h.loop test body (h.expr test) (h.statement body)
  | .throws argument => h.throws argument (h.expr argument)
  | .empty => h.empty

theorem ofOption (h : TreeInduction P Q) : ∀ o : Option Expr, ∀ e ∈ o, P e
  | none => fun _ he ↦ nomatch he
  | some a => fun _ he ↦ Option.mem_some_iff.1 he ▸ h.expr a

theorem ofList (h : TreeInduction P Q) : ∀ es : List Expr, ∀ e ∈ es, P e
  | [] => fun _ he ↦ nomatch he
  | a :: as => List.forall_mem_cons.2 ⟨h.expr a, h.ofList as⟩

theorem ofProperties (h : TreeInduction P Q) : ∀ ps : List (String × Expr), ∀ p ∈ ps, P p.2
  | [] => fun _ hp ↦ nomatch hp
  | (_, a) :: ps => List.forall_mem_cons.2 ⟨h.expr a, h.ofProperties ps⟩

theorem ofStatement? (h : TreeInduction P Q) : ∀ o : Option Statement, ∀ s ∈ o, Q s
  | none => fun _ hs ↦ nomatch hs
  | some a => fun _ hs ↦ Option.mem_some_iff.1 hs ▸ h.statement a

theorem ofStatements (h : TreeInduction P Q) : ∀ ss : List Statement, ∀ s ∈ ss, Q s
  | [] => fun _ hs ↦ nomatch hs
  | a :: as => List.forall_mem_cons.2 ⟨h.statement a, h.ofStatements as⟩

end

end TreeInduction

end ShapeQuery
