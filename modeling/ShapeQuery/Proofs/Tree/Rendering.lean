import ShapeQuery.Proofs.Json.TextRoundTrip
import ShapeQuery.Proofs.Tree.Grammar
import ShapeQuery.Proofs.Tree.Normalization

/-!
# Trees as text

Two trees have the same text, compact or indented, exactly if they are the same up to the payload of
their NaNs, and an expression and a statement never have the same text. So a text shows the tree,
whatever the names, keys and strings in it hold: quotation marks, brackets, line breaks, or text
that looks like a node.

One direction says that a NaN is written without its payload (`treeInduction_ofExpr_identifyNaN`).
The other is a detour through the readers. The value that a tree is written as has its members in
order (`treeInduction_ordered`), so it can be had back from its text; and the tree, with its NaNs
identified, can be had back from the value. That number texts are unambiguous enters through the
first of the two, and is proved there of the numbers themselves.
-/

namespace ShapeQuery

namespace Interchange

/-! ### The value of a tree is in order -/

section Ordered

open Json (Ordered ordered_object_singleton ordered_object_cons)

theorem ordered_ofNumber (x : Binary64) : Ordered (ofNumber x) := by
  rw [ofNumber]
  split
  · exact .number _
  · split
    · exact .string _
    · split <;> exact .string _

theorem ordered_ofExprs {es : List Expr} (h : ∀ e ∈ es, Ordered (ofExpr e)) :
    Ordered (.array (ofExprs es)) := by
  rw [ofExprs_eq_map]
  exact .array (List.forall_mem_map.2 h)

theorem ordered_ofStatements {ss : List Statement} (h : ∀ s ∈ ss, Ordered (ofStatement s)) :
    Ordered (.array (ofStatements ss)) := by
  rw [ofStatements_eq_map]
  exact .array (List.forall_mem_map.2 h)

-- with these, `simp` goes through the members of a node, and `decide` compares their keys
attribute [local simp] ordered_object_singleton ordered_object_cons Ordered.null Ordered.bool
  Ordered.string

theorem ordered_ofProperties {ps : List (String × Expr)} (h : ∀ p ∈ ps, Ordered (ofExpr p.2)) :
    Ordered (.array (ofProperties ps)) := by
  rw [ofProperties_eq_map]
  refine .array (List.forall_mem_map.2 fun p hp ↦ ?_)
  simp (disch := decide) [ofProperty, h p hp]

theorem treeInduction_ordered :
    TreeInduction (fun e ↦ Ordered (ofExpr e)) (fun s ↦ Ordered (ofStatement s)) where
  binary op left right hl hr := by
    simp (disch := decide) [ofExpr, hl, hr]
  unary op operand postfixed h := by
    simp (disch := decide) [ofExpr, h]
  assign op left right hl hr := by
    simp (disch := decide) [ofExpr, hl, hr]
  declarator name initial h := by
    cases initial with
    | none => simp (disch := decide) [ofExpr]
    | some e => simp (disch := decide) [ofExpr, h e rfl]
  identifier name := by
    simp (disch := decide) [ofExpr]
  thisRef := by
    simp (disch := decide) [ofExpr]
  number value := by
    simp (disch := decide) [ofExpr, ordered_ofNumber]
  string value := by
    simp (disch := decide) [ofExpr]
  boolean value := by
    simp (disch := decide) [ofExpr]
  call callee args hc ha := by
    simp (disch := decide) [ofExpr, hc, ordered_ofExprs ha]
  construct callee args hc ha := by
    simp (disch := decide) [ofExpr, hc, ordered_ofExprs ha]
  function name params body hn hp hb := by
    have hparams := ordered_ofExprs hp
    have hbody := ordered_ofStatements hb
    cases name with
    | none => simp (disch := decide) [ofExpr, hparams, hbody]
    | some e => simp (disch := decide) [ofExpr, hn e rfl, hparams, hbody]
  dot left member hl hm := by
    simp (disch := decide) [ofExpr, hl, hm]
  bracket left member hl hm := by
    simp (disch := decide) [ofExpr, hl, hm]
  conditional test consequent alternate ht hc ha := by
    simp (disch := decide) [ofExpr, ht, hc, ha]
  sequence items h := by
    simp (disch := decide) [ofExpr, ordered_ofExprs h]
  array items h := by
    simp (disch := decide) [ofExpr, ordered_ofExprs h]
  object properties h := by
    simp (disch := decide) [ofExpr, ordered_ofProperties h]
  expression value h := by
    simp (disch := decide) [ofStatement, h]
  returns argument h := by
    cases argument with
    | none => simp (disch := decide) [ofStatement]
    | some e => simp (disch := decide) [ofStatement, h e rfl]
  declaration declarators h := by
    simp (disch := decide) [ofStatement, ordered_ofExprs h]
  block body h := by
    simp (disch := decide) [ofStatement, ordered_ofStatements h]
  branch test consequent alternate ht hc ha := by
    cases alternate with
    | none => simp (disch := decide) [ofStatement, ht, hc]
    | some s => simp (disch := decide) [ofStatement, ht, hc, ha s rfl]
  loop test body ht hb := by
    simp (disch := decide) [ofStatement, ht, hb]
  throws argument h := by
    simp (disch := decide) [ofStatement, h]
  empty := by
    simp (disch := decide) [ofStatement]

end Ordered

/-! ### A NaN is written without its payload -/

theorem ofNumber_identifyNaN (x : Binary64) : ofNumber x.identifyNaN = ofNumber x := by
  cases hnan : x.isNaN with
  | false => rw [Binary64.identifyNaN, hnan, if_neg Bool.false_ne_true]
  | true =>
    have hfinite : ¬ x.isFinite = true := by
      intro hfinite
      rw [Binary64.isNaN_eq_false_of_isFinite hfinite] at hnan
      cases hnan
    have hnone : Json.Number.ofBinary64? x = none := dif_neg hfinite
    rw [Binary64.identifyNaN, hnan, if_pos rfl, ofNumber, ofNumber, hnone]
    simp only [hnan, if_true]
    rfl

theorem ofExprs_identifyNaNs {es : List Expr} (h : ∀ e ∈ es, ofExpr e.identifyNaN = ofExpr e) :
    ofExprs (Expr.identifyNaNs es) = ofExprs es := by
  induction es with
  | nil => rfl
  | cons e es ih =>
    obtain ⟨he, hes⟩ := List.forall_mem_cons.1 h
    rw [Expr.identifyNaNs, ofExprs, ofExprs, he, ih hes]

theorem ofStatements_identifyNaNs {ss : List Statement}
    (h : ∀ s ∈ ss, ofStatement s.identifyNaN = ofStatement s) :
    ofStatements (Statement.identifyNaNs ss) = ofStatements ss := by
  induction ss with
  | nil => rfl
  | cons s ss ih =>
    obtain ⟨hs, hss⟩ := List.forall_mem_cons.1 h
    rw [Statement.identifyNaNs, ofStatements, ofStatements, hs, ih hss]

theorem ofProperties_identifyNaNs {ps : List (String × Expr)}
    (h : ∀ p ∈ ps, ofExpr p.2.identifyNaN = ofExpr p.2) :
    ofProperties (Expr.identifyNaNsInProperties ps) = ofProperties ps := by
  induction ps with
  | nil => rfl
  | cons p ps ih =>
    obtain ⟨hp, hps⟩ := List.forall_mem_cons.1 h
    rw [Expr.identifyNaNsInProperties, ofProperties, ofProperties, hp, ih hps]

theorem treeInduction_ofExpr_identifyNaN :
    TreeInduction (fun e ↦ ofExpr e.identifyNaN = ofExpr e)
      (fun s ↦ ofStatement s.identifyNaN = ofStatement s) where
  binary op left right hl hr := by
    simp only [Expr.identifyNaN, ofExpr, hl, hr]
  unary op operand postfixed h := by
    simp only [Expr.identifyNaN, ofExpr, h]
  assign op left right hl hr := by
    simp only [Expr.identifyNaN, ofExpr, hl, hr]
  declarator name initial h := by
    cases initial with
    | none => rfl
    | some e => simp only [Expr.identifyNaN, ofExpr, h e rfl]
  identifier name := rfl
  thisRef := rfl
  number value := by
    simp only [Expr.identifyNaN, ofExpr, ofNumber_identifyNaN]
  string value := rfl
  boolean value := rfl
  call callee args hc ha := by
    simp only [Expr.identifyNaN, ofExpr, hc, ofExprs_identifyNaNs ha]
  construct callee args hc ha := by
    simp only [Expr.identifyNaN, ofExpr, hc, ofExprs_identifyNaNs ha]
  function name params body hn hp hb := by
    have hparams := ofExprs_identifyNaNs hp
    have hbody := ofStatements_identifyNaNs hb
    cases name with
    | none => simp only [Expr.identifyNaN, ofExpr, hparams, hbody]
    | some e => simp only [Expr.identifyNaN, ofExpr, hn e rfl, hparams, hbody]
  dot left member hl hm := by
    simp only [Expr.identifyNaN, ofExpr, hl, hm]
  bracket left member hl hm := by
    simp only [Expr.identifyNaN, ofExpr, hl, hm]
  conditional test consequent alternate ht hc ha := by
    simp only [Expr.identifyNaN, ofExpr, ht, hc, ha]
  sequence items h := by
    simp only [Expr.identifyNaN, ofExpr, ofExprs_identifyNaNs h]
  array items h := by
    simp only [Expr.identifyNaN, ofExpr, ofExprs_identifyNaNs h]
  object properties h := by
    simp only [Expr.identifyNaN, ofExpr, ofProperties_identifyNaNs h]
  expression value h := by
    simp only [Statement.identifyNaN, ofStatement, h]
  returns argument h := by
    cases argument with
    | none => rfl
    | some e => simp only [Statement.identifyNaN, ofStatement, h e rfl]
  declaration declarators h := by
    simp only [Statement.identifyNaN, ofStatement, ofExprs_identifyNaNs h]
  block body h := by
    simp only [Statement.identifyNaN, ofStatement, ofStatements_identifyNaNs h]
  branch test consequent alternate ht hc ha := by
    cases alternate with
    | none => simp only [Statement.identifyNaN, ofStatement, ht, hc]
    | some s => simp only [Statement.identifyNaN, ofStatement, ht, hc, ha s rfl]
  loop test body ht hb := by
    simp only [Statement.identifyNaN, ofStatement, ht, hb]
  throws argument h := by
    simp only [Statement.identifyNaN, ofStatement, h]
  empty := rfl

/-! ### Values of different trees -/

/-- Two expressions are written as the same value if they are the same up to their NaNs. -/
theorem ofExpr_eq_iff (a b : Expr) : ofExpr a = ofExpr b ↔ a.identifyNaN = b.identifyNaN := by
  constructor
  · intro h
    have hread := treeInduction_read_written.expr a
    rw [h, treeInduction_read_written.expr b] at hread
    exact (Except.ok.inj hread).symm
  · intro h
    rw [← treeInduction_ofExpr_identifyNaN.expr a, h, treeInduction_ofExpr_identifyNaN.expr b]

/-- Two statements are written as the same value if they are the same up to their NaNs. -/
theorem ofStatement_eq_iff (s t : Statement) :
    ofStatement s = ofStatement t ↔ s.identifyNaN = t.identifyNaN := by
  constructor
  · intro h
    have hread := treeInduction_read_written.statement s
    rw [h, treeInduction_read_written.statement t] at hread
    exact (Except.ok.inj hread).symm
  · intro h
    rw [← treeInduction_ofExpr_identifyNaN.statement s, h,
      treeInduction_ofExpr_identifyNaN.statement t]

/-- No expression and statement are written as the same value: it would be read as both. -/
theorem ofExpr_ne_ofStatement (a : Expr) (s : Statement) : ofExpr a ≠ ofStatement s := by
  intro h
  have hexpr : Shape.expression.read (ofExpr a) = .ok () := by
    rw [Shape.read_toExpr, treeInduction_read_written.expr a]
    rfl
  have hstatement : Shape.statement.read (ofExpr a) = .ok () := by
    rw [h, Shape.read_toStatement, treeInduction_read_written.statement s]
    rfl
  have hspells := (Shape.read_eq_ok_iff _ _).1 hexpr
  exact hspells.not_statement ((Shape.read_eq_ok_iff _ _).1 hstatement)

end Interchange

open Interchange (treeInduction_ordered)

/-- Two expressions have the same text, in either layout, if they are the same up to the payload of
their NaNs; so do two statements. An expression and a statement never have the same text, nor do a
number and a string, nor the two zeros. -/
theorem text_eq_iff_identifyNaN_eq :
    (∀ a b : Expr, (a.compact = b.compact ↔ a.identifyNaN = b.identifyNaN) ∧
      (a.pretty = b.pretty ↔ a.identifyNaN = b.identifyNaN)) ∧
    (∀ s t : Statement, s.compact = t.compact ↔ s.identifyNaN = t.identifyNaN) ∧
    (∀ (a : Expr) (s : Statement), a.compact ≠ s.compact ∧ a.pretty ≠ s.compact) ∧
    (∀ (x : Binary64) (r : String), (Expr.number x).compact ≠ (Expr.string r).compact) ∧
    (Expr.number .zero).compact ≠ (Expr.number .negZero).compact := by
  have hexpr := treeInduction_ordered.expr
  have hstatement := treeInduction_ordered.statement
  have hcompact : ∀ a b : Expr, a.compact = b.compact ↔ a.identifyNaN = b.identifyNaN :=
    fun a b ↦ (Json.compact_eq_iff (hexpr a) (hexpr b)).trans (Interchange.ofExpr_eq_iff a b)
  refine ⟨fun a b ↦ ⟨hcompact a b, ?_⟩, fun s t ↦ ?_, fun a s ↦ ⟨fun h ↦ ?_, fun h ↦ ?_⟩,
    fun x r h ↦ ?_, fun h ↦ ?_⟩
  · exact (Json.pretty_eq_iff (hexpr a) (hexpr b)).trans (Interchange.ofExpr_eq_iff a b)
  · exact (Json.compact_eq_iff (hstatement s) (hstatement t)).trans
      (Interchange.ofStatement_eq_iff s t)
  · exact Interchange.ofExpr_ne_ofStatement a s
      ((Json.compact_eq_iff (hexpr a) (hstatement s)).1 h)
  · exact Interchange.ofExpr_ne_ofStatement a s
      (Json.eq_of_pretty_eq_compact (hexpr a) (hstatement s) h)
  · cases (hcompact _ _).1 h
  · have hzeros : Binary64.zero.identifyNaN = Binary64.negZero.identifyNaN :=
      Expr.number.inj ((hcompact _ _).1 h)
    exact absurd hzeros (by decide)

end ShapeQuery
