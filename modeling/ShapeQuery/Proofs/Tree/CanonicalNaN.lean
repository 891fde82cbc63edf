import ShapeQuery.Proofs.Tree.Induction
import ShapeQuery.Tree.Equality

/-!
# Trees up to the payload of their NaNs

JSON has one spelling for all NaNs, so what a trip through JSON gives back is not the tree itself
but the tree with every NaN replaced by the one that stands for all of them. This module defines
that tree (`Expr.identifyNaN`, `Statement.identifyNaN`): the constructors, names, operators, flags,
lists and options all stay, and only the numbers change, each by `Binary64.identifyNaN`.

Equality of trees compares numbers numerically and a NaN equals nothing, so a tree equals the tree
with its NaNs identified exactly when it holds no NaN (`beq_identifyNaN_iff`). The numbers of a
tree, function bodies included, are listed by `Expr.numbers` and `Statement.numbers`.
-/

namespace ShapeQuery

/-! ### Replacing the NaNs -/

mutual

/-- The expression with every NaN in it replaced by `Binary64.nan`. -/
def Expr.identifyNaN : Expr → Expr
  | .binary op left right => .binary op left.identifyNaN right.identifyNaN
  | .unary op operand postfixed => .unary op operand.identifyNaN postfixed
  | .assign op left right => .assign op left.identifyNaN right.identifyNaN
  | .declarator name (some initial) => .declarator name (some initial.identifyNaN)
  | .declarator name none => .declarator name none
  | .identifier name => .identifier name
  | .thisRef => .thisRef
  | .number value => .number value.identifyNaN
  | .string value => .string value
  | .boolean value => .boolean value
  | .call callee args => .call callee.identifyNaN (Expr.identifyNaNs args)
  | .construct callee args => .construct callee.identifyNaN (Expr.identifyNaNs args)
  | .function (some name) params body =>
    .function (some name.identifyNaN) (Expr.identifyNaNs params) (Statement.identifyNaNs body)
  | .function none params body =>
    .function none (Expr.identifyNaNs params) (Statement.identifyNaNs body)
  | .dot left member => .dot left.identifyNaN member.identifyNaN
  | .bracket left member => .bracket left.identifyNaN member.identifyNaN
  | .conditional test consequent alternate =>
    .conditional test.identifyNaN consequent.identifyNaN alternate.identifyNaN
  | .sequence items => .sequence (Expr.identifyNaNs items)
  | .array items => .array (Expr.identifyNaNs items)
  | .object properties => .object (Expr.identifyNaNsInProperties properties)

/-- Expressions with every NaN in them replaced. -/
def Expr.identifyNaNs : List Expr → List Expr
  | [] => []
  | e :: rest => e.identifyNaN :: Expr.identifyNaNs rest

/-- The properties of an object literal with every NaN in them replaced; the keys stay. -/
def Expr.identifyNaNsInProperties : List (String × Expr) → List (String × Expr)
  | [] => []
  | (key, e) :: rest => (key, e.identifyNaN) :: Expr.identifyNaNsInProperties rest

/-- The statement with every NaN in it replaced by `Binary64.nan`. -/
def Statement.identifyNaN : Statement → Statement
  | .expression value => .expression value.identifyNaN
  | .returns (some argument) => .returns (some argument.identifyNaN)
  | .returns none => .returns none
  | .declaration declarators => .declaration (Expr.identifyNaNs declarators)
  | .block body => .block (Statement.identifyNaNs body)
  | .branch test consequent (some alternate) =>
    .branch test.identifyNaN consequent.identifyNaN (some alternate.identifyNaN)
  | .branch test consequent none => .branch test.identifyNaN consequent.identifyNaN none
  | .loop test body => .loop test.identifyNaN body.identifyNaN
  | .throws argument => .throws argument.identifyNaN
  | .empty => .empty

/-- Statements with every NaN in them replaced. -/
def Statement.identifyNaNs : List Statement → List Statement
  | [] => []
  | s :: rest => s.identifyNaN :: Statement.identifyNaNs rest

end

/-! ### The numbers of a tree -/

mutual

/-- The number literals of an expression, function bodies included. -/
def Expr.numbers : Expr → List Binary64
  | .binary _ left right => left.numbers ++ right.numbers
  | .unary _ operand _ => operand.numbers
  | .assign _ left right => left.numbers ++ right.numbers
  | .declarator _ (some initial) => initial.numbers
  | .declarator _ none => []
  | .identifier _ => []
  | .thisRef => []
  | .number value => [value]
  | .string _ => []
  | .boolean _ => []
  | .call callee args => callee.numbers ++ Expr.numbersOf args
  | .construct callee args => callee.numbers ++ Expr.numbersOf args
  | .function (some name) params body =>
    name.numbers ++ Expr.numbersOf params ++ Statement.numbersOf body
  | .function none params body => Expr.numbersOf params ++ Statement.numbersOf body
  | .dot left member => left.numbers ++ member.numbers
  | .bracket left member => left.numbers ++ member.numbers
  | .conditional test consequent alternate =>
    test.numbers ++ consequent.numbers ++ alternate.numbers
  | .sequence items => Expr.numbersOf items
  | .array items => Expr.numbersOf items
  | .object properties => Expr.numbersOfProperties properties

/-- The number literals of some expressions. -/
def Expr.numbersOf : List Expr → List Binary64
  | [] => []
  | e :: rest => e.numbers ++ Expr.numbersOf rest

/-- The number literals of the properties of an object literal. -/
def Expr.numbersOfProperties : List (String × Expr) → List Binary64
  | [] => []
  | (_, e) :: rest => e.numbers ++ Expr.numbersOfProperties rest

/-- The number literals of a statement. -/
def Statement.numbers : Statement → List Binary64
  | .expression value => value.numbers
  | .returns (some argument) => argument.numbers
  | .returns none => []
  | .declaration declarators => Expr.numbersOf declarators
  | .block body => Statement.numbersOf body
  | .branch test consequent (some alternate) =>
    test.numbers ++ consequent.numbers ++ alternate.numbers
  | .branch test consequent none => test.numbers ++ consequent.numbers
  | .loop test body => test.numbers ++ body.numbers
  | .throws argument => argument.numbers
  | .empty => []

/-- The number literals of some statements. -/
def Statement.numbersOf : List Statement → List Binary64
  | [] => []
  | s :: rest => s.numbers ++ Statement.numbersOf rest

end

/-- None of the listed numbers is a NaN. -/
def Binary64.NoNaN (xs : List Binary64) : Prop := ∀ x ∈ xs, x.isNaN = false

@[simp] theorem Binary64.noNaN_nil : NoNaN [] := fun _ hx ↦ nomatch hx

@[simp] theorem Binary64.noNaN_singleton (x : Binary64) : NoNaN [x] ↔ x.isNaN = false :=
  List.forall_mem_singleton

@[simp] theorem Binary64.noNaN_append (xs ys : List Binary64) :
    NoNaN (xs ++ ys) ↔ NoNaN xs ∧ NoNaN ys :=
  List.forall_mem_append

/-! ### Equality after replacing the NaNs -/

/-- A number equals itself with its payload dropped exactly when it is not a NaN. -/
theorem Binary64.numEq_identifyNaN_iff (x : Binary64) :
    x.numEq x.identifyNaN = true ↔ x.isNaN = false := by
  cases h : x.isNaN with
  | true => simp [numEq, h]
  | false => simp [numEq, identifyNaN, h]

open Binary64 (NoNaN)

theorem Expr.beqList_identifyNaNs_iff {es : List Expr}
    (h : ∀ e ∈ es, (e.beq e.identifyNaN = true ↔ NoNaN e.numbers)) :
    Expr.beqList es (Expr.identifyNaNs es) = true ↔ NoNaN (Expr.numbersOf es) := by
  induction es with
  | nil => simp [identifyNaNs, beqList, numbersOf]
  | cons e es ih =>
    obtain ⟨he, hes⟩ := List.forall_mem_cons.1 h
    rw [identifyNaNs, beqList, numbersOf, Bool.and_eq_true, Binary64.noNaN_append]
    exact and_congr he (ih hes)

theorem Expr.beqProperties_identifyNaNs_iff {ps : List (String × Expr)}
    (h : ∀ p ∈ ps, (p.2.beq p.2.identifyNaN = true ↔ NoNaN p.2.numbers)) :
    Expr.beqProperties ps (Expr.identifyNaNsInProperties ps) = true ↔
      NoNaN (Expr.numbersOfProperties ps) := by
  induction ps with
  | nil => simp [identifyNaNsInProperties, beqProperties, numbersOfProperties]
  | cons p ps ih =>
    obtain ⟨he, hes⟩ := List.forall_mem_cons.1 h
    rw [identifyNaNsInProperties, beqProperties, numbersOfProperties, Bool.and_eq_true,
      Bool.and_eq_true, Binary64.noNaN_append]
    exact and_congr ((and_iff_right (beq_self_eq_true _)).trans he) (ih hes)

theorem Statement.beqList_identifyNaNs_iff {ss : List Statement}
    (h : ∀ s ∈ ss, (s.beq s.identifyNaN = true ↔ NoNaN s.numbers)) :
    Statement.beqList ss (Statement.identifyNaNs ss) = true ↔ NoNaN (Statement.numbersOf ss) := by
  induction ss with
  | nil => simp [identifyNaNs, beqList, numbersOf]
  | cons s ss ih =>
    obtain ⟨hs, hss⟩ := List.forall_mem_cons.1 h
    rw [identifyNaNs, beqList, numbersOf, Bool.and_eq_true, Binary64.noNaN_append]
    exact and_congr hs (ih hss)

/-- A node compares its own fields with themselves and leaves the rest to its parts, so the numbers
decide. -/
theorem treeInduction_beq_identifyNaN :
    TreeInduction (fun e ↦ e.beq e.identifyNaN = true ↔ NoNaN e.numbers)
      (fun s ↦ s.beq s.identifyNaN = true ↔ NoNaN s.numbers) where
  binary op left right hl hr := by
    simp [Expr.identifyNaN, Expr.beq, Expr.numbers, hl, hr]
  unary op operand postfixed h := by
    simp [Expr.identifyNaN, Expr.beq, Expr.numbers, h]
  assign op left right hl hr := by
    simp [Expr.identifyNaN, Expr.beq, Expr.numbers, hl, hr]
  declarator name initial h := by
    cases initial with
    | none => simp [Expr.identifyNaN, Expr.beq, Expr.numbers]
    | some e => simp [Expr.identifyNaN, Expr.beq, Expr.numbers, h e rfl]
  identifier name := by simp [Expr.identifyNaN, Expr.beq, Expr.numbers]
  thisRef := by simp [Expr.identifyNaN, Expr.beq, Expr.numbers]
  number value := by
    simp [Expr.identifyNaN, Expr.beq, Expr.numbers, Binary64.numEq_identifyNaN_iff]
  string value := by simp [Expr.identifyNaN, Expr.beq, Expr.numbers]
  boolean value := by simp [Expr.identifyNaN, Expr.beq, Expr.numbers]
  call callee args hc ha := by
    simp [Expr.identifyNaN, Expr.beq, Expr.numbers, hc, Expr.beqList_identifyNaNs_iff ha]
  construct callee args hc ha := by
    simp [Expr.identifyNaN, Expr.beq, Expr.numbers, hc, Expr.beqList_identifyNaNs_iff ha]
  function name params body hn hp hb := by
    have hp := Expr.beqList_identifyNaNs_iff hp
    have hb := Statement.beqList_identifyNaNs_iff hb
    cases name with
    | none => simp [Expr.identifyNaN, Expr.beq, Expr.numbers, hp, hb]
    | some e => simp [Expr.identifyNaN, Expr.beq, Expr.numbers, hn e rfl, hp, hb, and_assoc]
  dot left member hl hm := by
    simp [Expr.identifyNaN, Expr.beq, Expr.numbers, hl, hm]
  bracket left member hl hm := by
    simp [Expr.identifyNaN, Expr.beq, Expr.numbers, hl, hm]
  conditional test consequent alternate ht hc ha := by
    simp [Expr.identifyNaN, Expr.beq, Expr.numbers, ht, hc, ha, and_assoc]
  sequence items h := by
    simp [Expr.identifyNaN, Expr.beq, Expr.numbers, Expr.beqList_identifyNaNs_iff h]
  array items h := by
    simp [Expr.identifyNaN, Expr.beq, Expr.numbers, Expr.beqList_identifyNaNs_iff h]
  object properties h := by
    simp [Expr.identifyNaN, Expr.beq, Expr.numbers, Expr.beqProperties_identifyNaNs_iff h]
  expression value h := by
    simp [Statement.identifyNaN, Statement.beq, Statement.numbers, h]
  returns argument h := by
    cases argument with
    | none => simp [Statement.identifyNaN, Statement.beq, Statement.numbers]
    | some e => simp [Statement.identifyNaN, Statement.beq, Statement.numbers, h e rfl]
  declaration declarators h := by
    simp [Statement.identifyNaN, Statement.beq, Statement.numbers, Expr.beqList_identifyNaNs_iff h]
  block body h := by
    simp [Statement.identifyNaN, Statement.beq, Statement.numbers,
      Statement.beqList_identifyNaNs_iff h]
  branch test consequent alternate ht hc ha := by
    cases alternate with
    | none => simp [Statement.identifyNaN, Statement.beq, Statement.numbers, ht, hc]
    | some s =>
      simp [Statement.identifyNaN, Statement.beq, Statement.numbers, ht, hc, ha s rfl, and_assoc]
  loop test body ht hb := by
    simp [Statement.identifyNaN, Statement.beq, Statement.numbers, ht, hb]
  throws argument h := by
    simp [Statement.identifyNaN, Statement.beq, Statement.numbers, h]
  empty := by simp [Statement.identifyNaN, Statement.beq, Statement.numbers]

/-- An expression equals itself with its NaNs identified exactly when it holds no NaN. -/
theorem Expr.beq_identifyNaN_iff (e : Expr) :
    (e == e.identifyNaN) = true ↔ NoNaN e.numbers :=
  treeInduction_beq_identifyNaN.expr e

/-- A statement equals itself with its NaNs identified exactly when it holds no NaN. -/
theorem Statement.beq_identifyNaN_iff (s : Statement) :
    (s == s.identifyNaN) = true ↔ NoNaN s.numbers :=
  treeInduction_beq_identifyNaN.statement s

end ShapeQuery
