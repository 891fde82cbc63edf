import ShapeQuery.Proofs.Binary64.Rounding
import ShapeQuery.Proofs.Json.Members
import ShapeQuery.Proofs.Tree.Format
import ShapeQuery.Proofs.Tree.RoundTrip

/-!
# Reading a value and writing it again

What is written for a tree that was read from a JSON value is not that value but its *normal form*
(`Interchange.normalize`): only the fields that count are there, in increasing order of their names,
a child that was absent is null, an operator stands before its operand unless the field says
otherwise, and the numbers of number literals are double-precision ones. The normal form is defined
on the value, without the tree.

`toJson_of_ofJson_eq_ok` is the agreement of the two. The proof goes by the size of the value and
follows the reader, field by field: what an access finds is written as the normal form of the field
(`Reencodes.tree` and those beside it). The same induction shows that a tree that was read holds no
NaN but the one that JSON spells, so that reading the normal form gives back the very tree, not just
the tree with its NaNs identified.

That the rounded number can be written as a number at all is a fact about rounding: no whole number
of sixty-four bits is rounded to an infinity (`Binary64.isFinite_ofInt`).
-/

namespace ShapeQuery

/-! ### Numbers -/

namespace Json.Number

/-- The double-precision value of a JSON number is finite. -/
theorem isFinite_toBinary64 (n : Json.Number) : n.toBinary64.isFinite = true := by
  cases n with
  | integer n fits => exact Binary64.isFinite_ofInt (by omega)
  | real x finite => exact finite

/-- The number as a double-precision one. -/
def rounded (n : Json.Number) : Json.Number := real n.toBinary64 n.isFinite_toBinary64

end Json.Number

namespace Interchange

/-! ### Normal forms -/

/-- The fields that count in an object: the type tag and the fields of the kind that it names. A
property has no tag. -/
def Shape.kept : Shape → List (String × Json) → List Field
  | expression, members =>
    match typeTag members with
    | .ok tag => ((ExprKind.ofName? tag).map fun kind ↦ ⟨"type", .string⟩ :: kind.fields).getD []
    | .error _ => []
  | statement, members =>
    match typeTag members with
    | .ok tag =>
      ((StatementKind.ofName? tag).map fun kind ↦ ⟨"type", .string⟩ :: kind.fields).getD []
    | .error _ => []
  | property, _ => propertyFields

/-- What is written for a field that is absent. -/
def Slot.default? : Slot → Option Json
  | flag => some (.bool false)
  | optional _ => some .null
  | _ => none

mutual

/-- The value with the fields that count, each in its normal form. -/
def normalize (shape : Shape) : Json → Json
  | .object members =>
    .ofMembers ((shape.kept members).filterMap fun f ↦
      (normalizeField f members).map (Prod.mk f.name))
  | v => v

/-- The normal form of a field: a number is rounded, a tree and the items of a list are normalized,
and what may be absent is written out. -/
def normalizeField (f : Field) : List (String × Json) → Option Json
  | [] => f.slot.default?
  | (key, v) :: rest =>
    if f.name == key then
      match f.slot, v with
      | .number, .number n => some (.number n.rounded)
      | .tree shape, v => some (normalize shape v)
      | .optional shape, v => some (normalize shape v)
      | .list shape, .array items => some (.array (normalizeItems shape items))
      | _, v => some v
    else normalizeField f rest

/-- The normal forms of the items of a list. -/
def normalizeItems (shape : Shape) : List Json → List Json
  | [] => []
  | v :: rest => normalize shape v :: normalizeItems shape rest

end

/-- The normal form of what a field holds. -/
def Slot.normalize : Slot → Json → Json
  | number, .number n => .number n.rounded
  | tree shape, v => Interchange.normalize shape v
  | optional shape, v => Interchange.normalize shape v
  | list shape, .array items => .array (normalizeItems shape items)
  | _, v => v

theorem normalizeField_eq (name : String) (slot : Slot) (members : List (String × Json)) :
    normalizeField ⟨name, slot⟩ members =
      (members.lookup name).elim slot.default? fun v ↦ some (slot.normalize v) := by
  refine eq_elim_lookup (by rw [normalizeField]) (fun key v rest ↦ ?_) members
  cases slot <;> cases v <;> simp [normalizeField, Slot.normalize]

section Heads

variable {members : List (String × Json)}

theorem Shape.kept_expression {kind : ExprKind} (tag : typeTag members = .ok kind.name) :
    Shape.expression.kept members = ⟨"type", .string⟩ :: kind.fields := by
  rw [Shape.kept, tag]
  simp [kind.ofName?_name]

theorem Shape.kept_statement {kind : StatementKind} (tag : typeTag members = .ok kind.name) :
    Shape.statement.kept members = ⟨"type", .string⟩ :: kind.fields := by
  rw [Shape.kept, tag]
  simp [kind.ofName?_name]

theorem normalize_typeTag {tag : String} (h : typeTag members = .ok tag) :
    normalizeField ⟨"type", .string⟩ members = some (.string tag) := by
  rw [normalizeField_eq, typeTag_eq_ok_iff.1 h]
  rfl

end Heads

/-! ### Fields that are not trees -/

section Leaves

variable {node name : String} {members : List (String × Json)}

theorem normalize_stringField {s : String} (h : stringField node name members = .ok s) :
    normalizeField ⟨name, .string⟩ members = some (.string s) := by
  rw [stringField, field] at h
  rw [normalizeField_eq]
  generalize members.lookup name = v? at h ⊢
  rcases v? with - | v
  · cases h
  · cases v <;> cases h
    rfl

theorem normalize_boolField {b : Bool} (h : boolField node name members = .ok b) :
    normalizeField ⟨name, .boolean⟩ members = some (.bool b) := by
  rw [boolField, field] at h
  rw [normalizeField_eq]
  generalize members.lookup name = v? at h ⊢
  rcases v? with - | v
  · cases h
  · cases v <;> cases h
    rfl

theorem normalize_flagField {b : Bool} (h : flagField node name members = .ok b) :
    normalizeField ⟨name, .flag⟩ members = some (.bool b) := by
  rw [flagField, boolField, field] at h
  rw [normalizeField_eq]
  generalize members.lookup name = v? at h ⊢
  rcases v? with - | v
  · cases h
    rfl
  · cases v <;> cases h
    rfl

theorem normalize_operatorField {op : Operator} (h : operatorField node members = .ok op) :
    normalizeField ⟨"operator", .operator⟩ members = some (.string op.symbol) := by
  rw [operatorField] at h
  obtain ⟨symbol, hsymbol, h⟩ := Except.bind_eq_ok_iff.1 h
  have hfield : normalizeField ⟨"operator", .operator⟩ members = some (.string symbol) := by
    have := normalize_stringField hsymbol
    rw [normalizeField_eq] at this ⊢
    exact this
  cases hop : Operator.ofSymbol? symbol with
  | none => rw [hop] at h; cases h
  | some op' =>
    rw [hop] at h
    cases h
    rw [hfield, Operator.ofSymbol?_eq_some_iff.1 hop]

/-- What stands for a number is written as that number, and the number is no NaN with a payload. -/
theorem normalize_of_toNumber? {v : Json} {x : Binary64} (h : toNumber? v = some x) :
    Slot.number.normalize v = ofNumber x ∧ x.identifyNaN = x := by
  cases v with
  | number n =>
    obtain rfl : n.toBinary64 = x := Option.some.inj h
    have hfinite := n.isFinite_toBinary64
    refine ⟨?_, if_neg ?_⟩
    · rw [ofNumber, Json.Number.ofBinary64?, dif_pos hfinite]
      rfl
    · rw [Binary64.isNaN_eq_false_of_isFinite hfinite]
      exact Bool.false_ne_true
  | string s =>
    by_cases hnan : s = "NaN"
    · subst hnan
      cases h
      exact ⟨rfl, rfl⟩
    by_cases hinf : s = "Infinity"
    · subst hinf
      cases h
      exact ⟨rfl, rfl⟩
    by_cases hneg : s = "-Infinity"
    · subst hneg
      cases h
      exact ⟨rfl, rfl⟩
    simp [toNumber?, hnan, hinf, hneg] at h
  | _ => cases h

theorem normalize_numberField {x : Binary64} (h : numberField node name members = .ok x) :
    normalizeField ⟨name, .number⟩ members = some (ofNumber x) ∧ x.identifyNaN = x := by
  rw [numberField, field] at h
  rw [normalizeField_eq]
  generalize members.lookup name = v? at h ⊢
  rcases v? with - | v
  · cases h
  · rw [Except.ok_bind] at h
    cases hx : toNumber? v with
    | none => rw [hx] at h; cases h
    | some y =>
      rw [hx] at h
      cases h
      obtain ⟨hnormal, hnan⟩ := normalize_of_toNumber? hx
      exact ⟨congrArg some hnormal, hnan⟩

end Leaves

/-! ### Fields that hold trees -/

/-- What is to be shown of the values below a size that are read in a shape: if such a value is
read, its normal form is what is written for the result, and the result is clean. -/
def Reencodes {α : Type} (n : Nat) (shape : Shape) (read : Json → Except ReadError α)
    (write : α → Json) (Clean : α → Prop) : Prop :=
  ∀ v a, sizeOf v < n → read v = .ok a → normalize shape v = write a ∧ Clean a

section Trees

variable {α : Type} {shape : Shape} {read : Json → Except ReadError α} {write : α → Json}
  {Clean : α → Prop} {name : String} {err : ReadError} {members : List (String × Json)}

theorem Reencodes.tree (ih : Reencodes (sizeOf (Json.object members)) shape read write Clean)
    {a : α} (h : (members.lookup name).elim (.error err) read = .ok a) :
    normalizeField ⟨name, .tree shape⟩ members = some (write a) ∧ Clean a := by
  rw [normalizeField_eq]
  cases hv : members.lookup name with
  | none => rw [hv] at h; cases h
  | some v =>
    rw [hv] at h
    obtain ⟨hnormal, hclean⟩ := ih v a (sizeOf_lt_of_lookup hv) h
    exact ⟨congrArg some hnormal, hclean⟩

/-- An absent child is written as null, and so is a child that is null. -/
theorem Reencodes.optional
    (ih : Reencodes (sizeOf (Json.object members)) shape read write Clean) {o : Option α}
    (h : ((members.lookup name).elim (.ok none) fun v ↦
      if isNull v then .ok none else (read v).map some) = .ok o) :
    normalizeField ⟨name, .optional shape⟩ members = some (Json.ofOption write o) ∧
      ∀ a ∈ o, Clean a := by
  rw [normalizeField_eq]
  cases hv : members.lookup name with
  | none =>
    rw [hv] at h
    cases h
    exact ⟨rfl, fun _ ha ↦ nomatch ha⟩
  | some v =>
    rw [hv] at h
    by_cases hnull : isNull v = true
    · cases (if_pos hnull).symm.trans h
      cases v with
      | null => exact ⟨by simp [Slot.normalize, normalize, Json.ofOption], fun _ ha ↦ nomatch ha⟩
      | _ => cases hnull
    · have hmap : (read v).map some = .ok o := (if_neg hnull).symm.trans h
      cases hread : read v with
      | error err => rw [hread] at hmap; cases hmap
      | ok a =>
        rw [hread] at hmap
        cases hmap
        obtain ⟨hnormal, hclean⟩ := ih v a (sizeOf_lt_of_lookup hv) hread
        refine ⟨congrArg some hnormal, fun b hb ↦ ?_⟩
        obtain rfl := Option.mem_some_iff.1 hb
        exact hclean

theorem Reencodes.items {n : Nat} (ih : Reencodes n shape read write Clean) {items : List Json}
    (hn : sizeOf (Json.array items) < n) {as : List α} (h : items.mapM read = .ok as) :
    normalizeItems shape items = as.map write ∧ ∀ a ∈ as, Clean a := by
  have hitem : ∀ v ∈ items, ∀ a, read v = .ok a → normalize shape v = write a ∧ Clean a :=
    fun v hv a ↦ ih v a (Nat.lt_trans (sizeOf_lt_of_mem_array hv) hn)
  -- from here on the size of the list does not matter, only what is known of its items
  clear hn
  induction items generalizing as with
  | nil =>
    cases h
    exact ⟨by rw [normalizeItems]; rfl, List.forall_mem_nil _⟩
  | cons v rest ihrest =>
    rw [List.mapM_cons, Except.bind_eq_ok_iff] at h
    obtain ⟨a, ha, h⟩ := h
    obtain ⟨as, has, h⟩ := Except.bind_eq_ok_iff.1 h
    cases h
    obtain ⟨hv, hrest⟩ := List.forall_mem_cons.1 hitem
    obtain ⟨hnormal, hclean⟩ := hv a ha
    obtain ⟨hnormals, hcleans⟩ := ihrest has hrest
    rw [normalizeItems, hnormal, hnormals]
    exact ⟨rfl, List.forall_mem_cons.2 ⟨hclean, hcleans⟩⟩

theorem Reencodes.list (ih : Reencodes (sizeOf (Json.object members)) shape read write Clean)
    {as : List α} {err' : ReadError}
    (h : ((members.lookup name).elim (.error err) fun v ↦
      match v with
      | .array items => items.mapM read
      | _ => .error err') = .ok as) :
    normalizeField ⟨name, .list shape⟩ members = some (.array (as.map write)) ∧
      ∀ a ∈ as, Clean a := by
  rw [normalizeField_eq]
  cases hv : members.lookup name with
  | none => rw [hv] at h; cases h
  | some v =>
    rw [hv] at h
    cases v with
    | array items =>
      obtain ⟨hnormal, hclean⟩ := ih.items (sizeOf_lt_of_lookup hv) h
      exact ⟨congrArg (fun vs ↦ some (Json.array vs)) hnormal, hclean⟩
    | _ => cases h

end Trees

/-! ### Lists of trees -/

theorem ofExprs_eq_map (es : List Expr) : ofExprs es = es.map ofExpr := by
  induction es with
  | nil => rfl
  | cons e es ih => rw [ofExprs, ih, List.map_cons]

theorem ofStatements_eq_map (ss : List Statement) : ofStatements ss = ss.map ofStatement := by
  induction ss with
  | nil => rfl
  | cons s ss ih => rw [ofStatements, ih, List.map_cons]

/-- A property of an object literal as JSON. -/
def ofProperty (p : String × Expr) : Json :=
  .object [("key", .string p.1), ("value", ofExpr p.2)]

theorem ofProperties_eq_map (ps : List (String × Expr)) :
    ofProperties ps = ps.map ofProperty := by
  induction ps with
  | nil => rfl
  | cons p ps ih =>
    rw [ofProperties, ih, List.map_cons]
    rfl

end Interchange

theorem Expr.identifyNaNs_eq_self {es : List Expr} (h : ∀ e ∈ es, e.identifyNaN = e) :
    Expr.identifyNaNs es = es := by
  induction es with
  | nil => rfl
  | cons e es ih =>
    obtain ⟨he, hes⟩ := List.forall_mem_cons.1 h
    rw [identifyNaNs, he, ih hes]

theorem Expr.identifyNaNsInProperties_eq_self {ps : List (String × Expr)}
    (h : ∀ p ∈ ps, p.2.identifyNaN = p.2) : Expr.identifyNaNsInProperties ps = ps := by
  induction ps with
  | nil => rfl
  | cons p ps ih =>
    obtain ⟨hp, hps⟩ := List.forall_mem_cons.1 h
    rw [identifyNaNsInProperties, hp, ih hps]

theorem Statement.identifyNaNs_eq_self {ss : List Statement} (h : ∀ s ∈ ss, s.identifyNaN = s) :
    Statement.identifyNaNs ss = ss := by
  induction ss with
  | nil => rfl
  | cons s ss ih =>
    obtain ⟨hs, hss⟩ := List.forall_mem_cons.1 h
    rw [identifyNaNs, hs, ih hss]

namespace Interchange

/-! ### Nodes -/

/-- Expressions and statements below a size are written in the normal form of what they were read
from, and hold no NaN with a payload. -/
structure Reencoded (n : Nat) : Prop where
  expr : Reencodes n .expression toExpr ofExpr fun e ↦ e.identifyNaN = e
  statement : Reencodes n .statement toStatement ofStatement fun s ↦ s.identifyNaN = s

namespace Reencoded

section Fields

variable {node name : String} {members : List (String × Json)}
  (ih : Reencoded (sizeOf (Json.object members)))

include ih

theorem exprField {e : Expr} (h : exprField node name members = .ok e) :
    normalizeField ⟨name, .tree .expression⟩ members = some (ofExpr e) ∧ e.identifyNaN = e := by
  rw [exprField_eq] at h
  exact ih.expr.tree h

theorem statementField {s : Statement} (h : statementField node name members = .ok s) :
    normalizeField ⟨name, .tree .statement⟩ members = some (ofStatement s) ∧
      s.identifyNaN = s := by
  rw [statementField_eq] at h
  exact ih.statement.tree h

theorem optionalExprField {o : Option Expr} (h : optionalExprField name members = .ok o) :
    normalizeField ⟨name, .optional .expression⟩ members = some (Json.ofOption ofExpr o) ∧
      ∀ e ∈ o, e.identifyNaN = e := by
  rw [optionalExprField_eq] at h
  exact ih.expr.optional h

theorem optionalStatementField {o : Option Statement}
    (h : optionalStatementField name members = .ok o) :
    normalizeField ⟨name, .optional .statement⟩ members = some (Json.ofOption ofStatement o) ∧
      ∀ s ∈ o, s.identifyNaN = s := by
  rw [optionalStatementField_eq] at h
  exact ih.statement.optional h

theorem exprsField {es : List Expr} (h : exprsField node name members = .ok es) :
    normalizeField ⟨name, .list .expression⟩ members = some (.array (ofExprs es)) ∧
      Expr.identifyNaNs es = es := by
  simp only [exprsField_eq, toExprs_eq_mapM] at h
  obtain ⟨hnormal, hclean⟩ := ih.expr.list h
  rw [ofExprs_eq_map]
  exact ⟨hnormal, Expr.identifyNaNs_eq_self hclean⟩

theorem statementsField {ss : List Statement} (h : statementsField node name members = .ok ss) :
    normalizeField ⟨name, .list .statement⟩ members = some (.array (ofStatements ss)) ∧
      Statement.identifyNaNs ss = ss := by
  simp only [statementsField_eq, toStatements_eq_mapM] at h
  obtain ⟨hnormal, hclean⟩ := ih.statement.list h
  rw [ofStatements_eq_map]
  exact ⟨hnormal, Statement.identifyNaNs_eq_self hclean⟩

end Fields

theorem mono {m n : Nat} (ih : Reencoded n) (h : m ≤ n) : Reencoded m where
  expr v e hv := ih.expr v e (Nat.lt_of_lt_of_le hv h)
  statement v s hv := ih.statement v s (Nat.lt_of_lt_of_le hv h)

-- with these, `simp` puts the fields that count in order, and `decide` compares their names
attribute [local simp] List.filterMap_cons Json.ofMembers Json.insertMember_nil
  Json.insertMember_of_lt Json.insertMember_of_gt Json.ofOption ofExpr ofStatement
  Expr.identifyNaN Statement.identifyNaN

/-- A property of an object literal is one more node, without a type tag. It is an item of a list,
so the size is not that of the node it belongs to. -/
theorem property {n : Nat} (ih : Reencoded n) (node name : String) :
    Reencodes n .property (toProperty node name) ofProperty fun p ↦ p.2.identifyNaN = p.2 := by
  intro v p hv h
  cases v with
  | object members =>
    rw [toProperty] at h
    obtain ⟨key, hkey, h⟩ := Except.bind_eq_ok_iff.1 h
    obtain ⟨value, hvalue, h⟩ := Except.bind_eq_ok_iff.1 h
    cases h
    have hkey := normalize_stringField hkey
    obtain ⟨hvalue, hclean⟩ := (ih.mono (Nat.le_of_lt hv)).exprField hvalue
    refine ⟨?_, hclean⟩
    simp (disch := decide) [normalize, Shape.kept, propertyFields, hkey, hvalue, ofProperty]
  | _ => cases h

section Nodes

variable {members : List (String × Json)} (ih : Reencoded (sizeOf (Json.object members)))

include ih

theorem propertiesField {node name : String} {ps : List (String × Expr)}
    (h : propertiesField node name members = .ok ps) :
    normalizeField ⟨name, .list .property⟩ members = some (.array (ofProperties ps)) ∧
      Expr.identifyNaNsInProperties ps = ps := by
  simp only [propertiesField_eq, toProperties_eq_mapM] at h
  obtain ⟨hnormal, hclean⟩ := (ih.property node name).list h
  rw [ofProperties_eq_map]
  exact ⟨hnormal, Expr.identifyNaNsInProperties_eq_self hclean⟩

theorem ofExpr_eq {e : Expr} (h : toExpr (.object members) = .ok e) :
    normalize .expression (.object members) = ofExpr e ∧ e.identifyNaN = e := by
  rw [toExpr] at h
  obtain ⟨tag, htag, h⟩ := Except.bind_eq_ok_iff.1 h
  cases hkind : ExprKind.ofName? tag with
  | none => rw [hkind] at h; cases h
  | some kind =>
    obtain rfl := ExprKind.ofName?_eq_some_iff.1 hkind
    have htype := normalize_typeTag htag
    rw [normalize, Shape.kept_expression htag]
    -- in each case `h` says what the accesses of the kind found, in their order
    cases kind <;> simp only [hkind, Except.bind_eq_ok_iff, Except.ok.injEq] at h
    case binary | assign =>
      obtain ⟨op, hop, left, hleft, right, hright, rfl⟩ := h
      simp (disch := decide) [ExprKind.fields, htype, normalize_operatorField hop,
        ih.exprField hleft, ih.exprField hright]
    case unary =>
      obtain ⟨op, hop, operand, hoperand, postfixed, hpostfixed, rfl⟩ := h
      simp (disch := decide) [ExprKind.fields, htype, normalize_operatorField hop,
        ih.exprField hoperand, normalize_flagField hpostfixed]
    case declarator =>
      obtain ⟨name, hname, initial, hinitial, rfl⟩ := h
      have hname := normalize_stringField hname
      obtain ⟨hinitial, hclean⟩ := ih.optionalExprField hinitial
      cases initial with
      | none => simp (disch := decide) [ExprKind.fields, htype, hname, hinitial]
      | some e => simp (disch := decide) [ExprKind.fields, htype, hname, hinitial, hclean e rfl]
    case identifier =>
      obtain ⟨name, hname, rfl⟩ := h
      simp (disch := decide) [ExprKind.fields, htype, normalize_stringField hname]
    case thisRef =>
      subst h
      simp (disch := decide) [ExprKind.fields, htype]
    case number =>
      obtain ⟨value, hvalue, rfl⟩ := h
      simp (disch := decide) [ExprKind.fields, htype, normalize_numberField hvalue]
    case string =>
      obtain ⟨value, hvalue, rfl⟩ := h
      simp (disch := decide) [ExprKind.fields, htype, normalize_stringField hvalue]
    case boolean =>
      obtain ⟨value, hvalue, rfl⟩ := h
      simp (disch := decide) [ExprKind.fields, htype, normalize_boolField hvalue]
    case call | construct =>
      obtain ⟨callee, hcallee, args, hargs, rfl⟩ := h
      simp (disch := decide) [ExprKind.fields, htype, ih.exprField hcallee, ih.exprsField hargs]
    case function =>
      obtain ⟨name, hname, params, hparams, body, hbody, rfl⟩ := h
      have hparams := ih.exprsField hparams
      have hbody := ih.statementsField hbody
      obtain ⟨hname, hclean⟩ := ih.optionalExprField hname
      cases name with
      | none => simp (disch := decide) [ExprKind.fields, htype, hname, hparams, hbody]
      | some e =>
        simp (disch := decide) [ExprKind.fields, htype, hname, hclean e rfl, hparams, hbody]
    case dot | bracket =>
      obtain ⟨left, hleft, member, hmember, rfl⟩ := h
      simp (disch := decide) [ExprKind.fields, htype, ih.exprField hleft, ih.exprField hmember]
    case conditional =>
      obtain ⟨test, htest, consequent, hconsequent, alternate, halternate, rfl⟩ := h
      simp (disch := decide) [ExprKind.fields, htype, ih.exprField htest, ih.exprField hconsequent,
        ih.exprField halternate]
    case sequence | array =>
      obtain ⟨items, hitems, rfl⟩ := h
      simp (disch := decide) [ExprKind.fields, htype, ih.exprsField hitems]
    case object =>
      obtain ⟨properties, hproperties, rfl⟩ := h
      simp (disch := decide) [ExprKind.fields, htype, ih.propertiesField hproperties]

theorem ofStatement_eq {s : Statement} (h : toStatement (.object members) = .ok s) :
    normalize .statement (.object members) = ofStatement s ∧ s.identifyNaN = s := by
  rw [toStatement] at h
  obtain ⟨tag, htag, h⟩ := Except.bind_eq_ok_iff.1 h
  cases hkind : StatementKind.ofName? tag with
  | none => rw [hkind] at h; cases h
  | some kind =>
    obtain rfl := StatementKind.ofName?_eq_some_iff.1 hkind
    have htype := normalize_typeTag htag
    rw [normalize, Shape.kept_statement htag]
    cases kind <;> simp only [hkind, Except.bind_eq_ok_iff, Except.ok.injEq] at h
    case expression =>
      obtain ⟨value, hvalue, rfl⟩ := h
      simp (disch := decide) [StatementKind.fields, htype, ih.exprField hvalue]
    case returns =>
      obtain ⟨argument, hargument, rfl⟩ := h
      obtain ⟨hargument, hclean⟩ := ih.optionalExprField hargument
      cases argument with
      | none => simp (disch := decide) [StatementKind.fields, htype, hargument]
      | some e => simp (disch := decide) [StatementKind.fields, htype, hargument, hclean e rfl]
    case declaration =>
      obtain ⟨declarators, hdeclarators, rfl⟩ := h
      simp (disch := decide) [StatementKind.fields, htype, ih.exprsField hdeclarators]
    case block =>
      obtain ⟨body, hbody, rfl⟩ := h
      simp (disch := decide) [StatementKind.fields, htype, ih.statementsField hbody]
    case branch =>
      obtain ⟨test, htest, consequent, hconsequent, alternate, halternate, rfl⟩ := h
      have htest := ih.exprField htest
      have hconsequent := ih.statementField hconsequent
      obtain ⟨halternate, hclean⟩ := ih.optionalStatementField halternate
      cases alternate with
      | none => simp (disch := decide) [StatementKind.fields, htype, htest, hconsequent, halternate]
      | some s =>
        simp (disch := decide) [StatementKind.fields, htype, htest, hconsequent, halternate,
          hclean s rfl]
    case loop =>
      obtain ⟨test, htest, body, hbody, rfl⟩ := h
      simp (disch := decide) [StatementKind.fields, htype, ih.exprField htest,
        ih.statementField hbody]
    case throws =>
      obtain ⟨argument, hargument, rfl⟩ := h
      simp (disch := decide) [StatementKind.fields, htype, ih.exprField hargument]
    case empty =>
      subst h
      simp (disch := decide) [StatementKind.fields, htype]

end Nodes

end Reencoded

/-- What is written for a tree that was read is the normal form of the value. The induction is on
the size of the value. -/
theorem reencoded (n : Nat) : Reencoded n := by
  induction n with
  | zero =>
    constructor
    · exact fun _ _ hn ↦ absurd hn (Nat.not_lt_zero _)
    · exact fun _ _ hn ↦ absurd hn (Nat.not_lt_zero _)
  | succ n ih =>
    constructor
    · intro v e hv h
      cases v with
      | object members => exact (ih.mono (Nat.le_of_lt_succ hv)).ofExpr_eq h
      | _ => cases h
    · intro v s hv h
      cases v with
      | object members => exact (ih.mono (Nat.le_of_lt_succ hv)).ofStatement_eq h
      | _ => cases h

end Interchange

open Interchange (normalize)

/-- What is written for a tree that was read from a value is the normal form of the value. So the
value comes back as it is exactly if it is in normal form, writing and reading once more changes
nothing, and the normal form is read as the same tree. -/
theorem toJson_of_ofJson_eq_ok (v : Json) :
    (∀ e : Expr, Expr.ofJson v = .ok e →
      e.toJson = normalize .expression v ∧
      (e.toJson = v ↔ normalize .expression v = v) ∧
      (Expr.ofJson e.toJson).map Expr.toJson = .ok e.toJson ∧
      Expr.ofJson (normalize .expression v) = .ok e) ∧
    ∀ s : Statement, Statement.ofJson v = .ok s →
      s.toJson = normalize .statement v ∧
      (s.toJson = v ↔ normalize .statement v = v) ∧
      (Statement.ofJson s.toJson).map Statement.toJson = .ok s.toJson ∧
      Statement.ofJson (normalize .statement v) = .ok s := by
  have hwritten := Interchange.reencoded (sizeOf v + 1)
  constructor
  · intro e h
    obtain ⟨hnormal, hclean⟩ := hwritten.expr v e (Nat.lt_succ_self _) h
    have hread : Expr.ofJson e.toJson = .ok e := by
      have := Interchange.treeInduction_read_written.expr e
      rwa [hclean] at this
    rw [hread, hnormal]
    exact ⟨rfl, Iff.rfl, rfl, hread⟩
  · intro s h
    obtain ⟨hnormal, hclean⟩ := hwritten.statement v s (Nat.lt_succ_self _) h
    have hread : Statement.ofJson s.toJson = .ok s := by
      have := Interchange.treeInduction_read_written.statement s
      rwa [hclean] at this
    rw [hread, hnormal]
    exact ⟨rfl, Iff.rfl, rfl, hread⟩

/-- The call `f(-1, function () { return; })` and the statement `return;`, with a number that is not
a double-precision one, a member that does not count, and what may be absent left out. -/
theorem toJson_of_ofJson_eq_ok_call :
    let stop : Json := .object [("type", .string "return_statement")]
    let one : Json :=
      .object [("type", .string "number"), ("value", .number (.integer 1 (by decide)))]
    let v : Json := .object [
      ("arguments", .array [
        .object [("operand", one), ("operator", .string "-"), ("type", .string "unary")],
        .object [("body", .array [stop]), ("params", .array []), ("type", .string "function")]]),
      ("callee", .object [("name", .string "f"), ("type", .string "identifier")]),
      ("line", .number (.integer 7 (by decide))),
      ("type", .string "call")]
    let e : Expr := .call (.identifier "f")
      [.unary .minus (.number (Binary64.ofInt 1)) false, .function none [] [.returns none]]
    (Expr.ofJson v = .ok e ∧ e.toJson = normalize .expression v) ∧
      Statement.ofJson stop = .ok (.returns none) ∧
      (Statement.returns none).toJson = normalize .statement stop := by
  intro stop one v e
  have he : Expr.ofJson v = .ok e := rfl
  have hstop : Statement.ofJson stop = .ok (.returns none) := rfl
  exact ⟨⟨he, ((toJson_of_ofJson_eq_ok v).1 e he).1⟩,
    hstop, ((toJson_of_ofJson_eq_ok stop).2 _ hstop).1⟩

end ShapeQuery
