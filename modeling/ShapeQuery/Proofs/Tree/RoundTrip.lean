import ShapeQuery.Proofs.Tree.CanonicalNaN
import ShapeQuery.Tree.Encoding
import ShapeQuery.Tree.Reading

/-!
# Reading back what was written

Writing a tree as JSON and reading the result gives the tree back, with its NaNs identified
(`ofJson_toJson`). It holds of every tree, also of those that no script can spell: reading looks at
the fields of a node and never at what a parser would have put there.
-/

namespace ShapeQuery

namespace Binary64

/-! ### Numbers -/

theorem isNaN_eq_false_of_isFinite {x : Binary64} (h : x.isFinite = true) : x.isNaN = false := by
  have hlt : x.magnitude < infinityMagnitude := of_decide_eq_true h
  exact decide_eq_false (by omega)

/-- What is neither finite nor a NaN is one of the two infinities. -/
theorem eq_infinity_or_eq_negInfinity {x : Binary64} (hf : x.isFinite = false)
    (hn : x.isNaN = false) : x = infinity ∨ x = negInfinity := by
  obtain ⟨bits⟩ := x
  have hlt : bits.toNat < 0x10000000000000000 := bits.toNat_lt
  have hge : ¬ bits.toNat % 0x8000000000000000 < 0x7ff0000000000000 := of_decide_eq_false hf
  have hle : ¬ 0x7ff0000000000000 < bits.toNat % 0x8000000000000000 := of_decide_eq_false hn
  by_cases hs : bits.toNat < 0x8000000000000000
  · refine Or.inl (congrArg mk (UInt64.toNat_inj.1 ?_))
    show bits.toNat = 0x7ff0000000000000
    omega
  · refine Or.inr (congrArg mk (UInt64.toNat_inj.1 ?_))
    show bits.toNat = 0xfff0000000000000
    omega

end Binary64

namespace Interchange

/-- A number is read back as it was written, but for the payload of a NaN. A finite number travels
as a JSON number; the three strings stand for what is left. -/
theorem toNumber?_ofNumber (x : Binary64) : toNumber? (ofNumber x) = some x.identifyNaN := by
  cases hf : x.isFinite with
  | true =>
    have hn := Binary64.isNaN_eq_false_of_isFinite hf
    simp [ofNumber, Json.Number.ofBinary64?, hf, toNumber?, Json.Number.toBinary64,
      Binary64.identifyNaN, hn]
  | false =>
    cases hn : x.isNaN with
    | true => simp [ofNumber, Json.Number.ofBinary64?, hf, hn, toNumber?, Binary64.identifyNaN]
    | false =>
      rcases Binary64.eq_infinity_or_eq_negInfinity hf hn with rfl | rfl
      · rfl
      · rfl

/-! ### Lists of trees -/

theorem toExprs_ofExprs {es : List Expr} (h : ∀ e ∈ es, toExpr (ofExpr e) = .ok e.identifyNaN) :
    toExprs (ofExprs es) = .ok (Expr.identifyNaNs es) := by
  induction es with
  | nil => rfl
  | cons e es ih =>
    obtain ⟨he, hes⟩ := List.forall_mem_cons.1 h
    rw [ofExprs, toExprs, he, ih hes]
    rfl

theorem toStatements_ofStatements {ss : List Statement}
    (h : ∀ s ∈ ss, toStatement (ofStatement s) = .ok s.identifyNaN) :
    toStatements (ofStatements ss) = .ok (Statement.identifyNaNs ss) := by
  induction ss with
  | nil => rfl
  | cons s ss ih =>
    obtain ⟨hs, hss⟩ := List.forall_mem_cons.1 h
    rw [ofStatements, toStatements, hs, ih hss]
    rfl

/-- Properties keep their keys and their order, whether or not a key is repeated. -/
theorem toProperties_ofProperties (node name : String) {ps : List (String × Expr)}
    (h : ∀ p ∈ ps, toExpr (ofExpr p.2) = .ok p.2.identifyNaN) :
    toProperties node name (ofProperties ps) = .ok (Expr.identifyNaNsInProperties ps) := by
  induction ps with
  | nil => rfl
  | cons p ps ih =>
    obtain ⟨hp, hps⟩ := List.forall_mem_cons.1 h
    have hvalue : exprField node "value" [("key", .string p.1), ("value", ofExpr p.2)] =
        .ok p.2.identifyNaN := hp
    rw [ofProperties, toProperties, hvalue, ih hps]
    rfl

theorem isNull_null : isNull .null = true := rfl

/-- The encoding of a tree is an object, so it is never taken for an absent child. -/
theorem isNull_ofExpr (e : Expr) : isNull (ofExpr e) = false := by
  fun_cases ofExpr e <;> rfl

theorem isNull_ofStatement (s : Statement) : isNull (ofStatement s) = false := by
  fun_cases ofStatement s <;> rfl

/-! ### Trees -/

section

-- with these, `simp` runs the reader on the members that the writer has listed
attribute [local simp] typeTag field stringField boolField flagField numberField operatorField
  exprField optionalExprField exprsField statementField optionalStatementField statementsField
  propertiesField List.lookup_cons isNull_null isNull_ofExpr isNull_ofStatement
  toNumber?_ofNumber bind Except.bind Except.map

/-- The reader finds the tag and the fields of a node where the writer put them, in whatever order
it asks for them; the parts of the node are read back by hypothesis. -/
theorem treeInduction_read_written :
    TreeInduction (fun e ↦ toExpr (ofExpr e) = .ok e.identifyNaN)
      (fun s ↦ toStatement (ofStatement s) = .ok s.identifyNaN) where
  binary op left right hl hr := by
    simp [ofExpr, toExpr, hl, hr, Expr.identifyNaN]
  unary op operand postfixed h := by
    simp [ofExpr, toExpr, h, Expr.identifyNaN]
  assign op left right hl hr := by
    simp [ofExpr, toExpr, hl, hr, Expr.identifyNaN]
  declarator name initial h := by
    cases initial with
    | none =>
      simp [ofExpr, toExpr, Expr.identifyNaN]
    | some e =>
      simp [ofExpr, toExpr, h e rfl, Expr.identifyNaN]
  identifier name := by
    simp [ofExpr, toExpr, Expr.identifyNaN]
  thisRef := by
    simp [ofExpr, toExpr, Expr.identifyNaN]
  number value := by
    simp [ofExpr, toExpr, Expr.identifyNaN]
  string value := by
    simp [ofExpr, toExpr, Expr.identifyNaN]
  boolean value := by
    simp [ofExpr, toExpr, Expr.identifyNaN]
  call callee args hc ha := by
    simp [ofExpr, toExpr, hc, toExprs_ofExprs ha, Expr.identifyNaN]
  construct callee args hc ha := by
    simp [ofExpr, toExpr, hc, toExprs_ofExprs ha, Expr.identifyNaN]
  function name params body hn hp hb := by
    cases name with
    | none =>
      simp [ofExpr, toExpr, toExprs_ofExprs hp, toStatements_ofStatements hb, Expr.identifyNaN]
    | some e =>
      simp [ofExpr, toExpr, hn e rfl, toExprs_ofExprs hp, toStatements_ofStatements hb,
        Expr.identifyNaN]
  dot left member hl hm := by
    simp [ofExpr, toExpr, hl, hm, Expr.identifyNaN]
  bracket left member hl hm := by
    simp [ofExpr, toExpr, hl, hm, Expr.identifyNaN]
  conditional test consequent alternate ht hc ha := by
    simp [ofExpr, toExpr, ht, hc, ha, Expr.identifyNaN]
  sequence items h := by
    simp [ofExpr, toExpr, toExprs_ofExprs h, Expr.identifyNaN]
  array items h := by
    simp [ofExpr, toExpr, toExprs_ofExprs h, Expr.identifyNaN]
  object properties h := by
    simp [ofExpr, toExpr, toProperties_ofProperties _ _ h, Expr.identifyNaN]
  expression value h := by
    simp [ofStatement, toStatement, h, Statement.identifyNaN]
  returns argument h := by
    cases argument with
    | none =>
      simp [ofStatement, toStatement, Statement.identifyNaN]
    | some e =>
      simp [ofStatement, toStatement, h e rfl, Statement.identifyNaN]
  declaration declarators h := by
    simp [ofStatement, toStatement, toExprs_ofExprs h, Statement.identifyNaN]
  block body h := by
    simp [ofStatement, toStatement, toStatements_ofStatements h, Statement.identifyNaN]
  branch test consequent alternate ht hc ha := by
    cases alternate with
    | none =>
      simp [ofStatement, toStatement, ht, hc, Statement.identifyNaN]
    | some s =>
      simp [ofStatement, toStatement, ht, hc, ha s rfl, Statement.identifyNaN]
  loop test body ht hb := by
    simp [ofStatement, toStatement, ht, hb, Statement.identifyNaN]
  throws argument h := by
    simp [ofStatement, toStatement, h, Statement.identifyNaN]
  empty := by
    simp [ofStatement, toStatement, Statement.identifyNaN]

end

end Interchange

/-- Writing a tree as JSON and reading it back gives the tree with its NaNs identified and nothing
else changed. It is equal to the tree it came from exactly when no NaN occurs in that, not even in
a function body. -/
theorem ofJson_toJson :
    (∀ e : Expr, Expr.ofJson e.toJson = .ok e.identifyNaN ∧
      ((e == e.identifyNaN) = true ↔ ∀ x ∈ e.numbers, x.isNaN = false)) ∧
    ∀ s : Statement, Statement.ofJson s.toJson = .ok s.identifyNaN ∧
      ((s == s.identifyNaN) = true ↔ ∀ x ∈ s.numbers, x.isNaN = false) :=
  ⟨fun e ↦ ⟨Interchange.treeInduction_read_written.expr e, e.beq_identifyNaN_iff⟩,
    fun s ↦ ⟨Interchange.treeInduction_read_written.statement s, s.beq_identifyNaN_iff⟩⟩

end ShapeQuery
