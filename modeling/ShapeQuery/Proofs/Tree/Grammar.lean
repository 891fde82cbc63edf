import ShapeQuery.Proofs.Tree.Format

/-!
# The grammar of JSON trees

Which JSON values spell a tree is defined here by induction on the value, without reading it:
`Spells` says it of values and `Fills` of the fields of a node, over the table of fields. What the
table does not list is not restricted.

`ofJson_eq_ok_iff_spells` is the agreement with the reader: it accepts the values of the grammar and
no others. A tag names a kind of one sort only (`ExprKind.name_ne_name`), so no value spells both an
expression and a statement.
-/

namespace ShapeQuery

theorem ExprKind.name_ne_name (kind : ExprKind) (kind' : StatementKind) :
    kind.name ≠ kind'.name := by
  cases kind <;> cases kind' <;> simp [ExprKind.name, StatementKind.name]

namespace Interchange

/-! ### Values that spell a tree -/

mutual

/-- The values that spell a tree of the given shape: those that open as a node all of whose fields
are filled. -/
inductive Spells : Shape → Json → Prop
  | node {shape : Shape} {v : Json} {node : Node} (opens : Opens shape v node)
      (fields : ∀ f ∈ node.fields, Fills f.slot (node.value? f)) : Spells shape v

/-- What a field can hold, the field being absent if it holds nothing. -/
inductive Fills : Slot → Option Json → Prop
  | operator (op : Operator) : Fills .operator (some (.string op.symbol))
  | string (s : String) : Fills .string (some (.string s))
  | boolean (b : Bool) : Fills .boolean (some (.bool b))
  | flag (b : Bool) : Fills .flag (some (.bool b))
  | noFlag : Fills .flag none
  | number (n : Json.Number) : Fills .number (some (.number n))
  | nan : Fills .number (some (.string "NaN"))
  | infinity : Fills .number (some (.string "Infinity"))
  | negInfinity : Fills .number (some (.string "-Infinity"))
  | tree {shape : Shape} {v : Json} (h : Spells shape v) : Fills (.tree shape) (some v)
  | absent (shape : Shape) : Fills (.optional shape) none
  | null (shape : Shape) : Fills (.optional shape) (some .null)
  | present {shape : Shape} {v : Json} (h : Spells shape v) : Fills (.optional shape) (some v)
  | list {shape : Shape} {items : List Json} (h : ∀ v ∈ items, Spells shape v) :
      Fills (.list shape) (some (.array items))

end

/-! ### Fields -/

/-- The values that stand for a number. -/
theorem isSome_toNumber?_iff {v : Json} :
    (toNumber? v).isSome = true ↔ Fills .number (some v) := by
  constructor
  · intro h
    cases v with
    | number n => exact .number n
    | string s =>
      by_cases hnan : s = "NaN"
      · exact hnan ▸ .nan
      by_cases hinf : s = "Infinity"
      · exact hinf ▸ .infinity
      by_cases hneg : s = "-Infinity"
      · exact hneg ▸ .negInfinity
      simp [toNumber?, hnan, hinf, hneg] at h
    | _ => cases h
  · intro h
    cases h <;> rfl

/-- The strings that spell an operator. -/
theorem isSome_ofSymbol?_iff {s : String} :
    (Operator.ofSymbol? s).isSome = true ↔ Fills .operator (some (.string s)) := by
  rw [Option.isSome_iff_exists]
  constructor
  · rintro ⟨op, hop⟩
    obtain rfl := Operator.ofSymbol?_eq_some_iff.1 hop
    exact .operator op
  · intro h
    cases h with
    | operator op => exact ⟨op, op.ofSymbol?_symbol⟩

theorem ite_error_eq_ok_iff {c : Prop} [Decidable c] {err : ReadError} :
    (if c then .ok () else .error err : Except ReadError Unit) = .ok () ↔ c := by
  by_cases hc : c <;> simp [hc]

/-- The values below a size of which it is known that they are read if they spell a tree. -/
def UnderstoodBelow (n : Nat) : Prop :=
  ∀ w : Json, sizeOf w < n → ∀ shape : Shape, shape.read w = .ok () ↔ Spells shape w

section Fields

variable {n : Nat} {node name : String} {shape : Shape}

theorem read_absent_eq_ok_iff {slot : Slot} :
    slot.read node name none = .ok () ↔ Fills slot none := by
  rw [Slot.read, ite_error_eq_ok_iff]
  constructor
  · intro h
    cases slot with
    | flag => exact .noFlag
    | optional shape => exact .absent shape
    | _ => cases h
  · intro h
    cases h <;> rfl

theorem read_list_eq_ok_iff (ih : UnderstoodBelow n) {items : List Json}
    (hitems : sizeOf (Json.array items) < n) :
    forM items shape.read = .ok () ↔ Fills (.list shape) (some (.array items)) := by
  have hitem : ∀ w ∈ items, (shape.read w = .ok () ↔ Spells shape w) := fun w hw ↦
    ih w (Nat.lt_trans (sizeOf_lt_of_mem_array hw) hitems) shape
  rw [Except.forM_eq_ok_iff, forall₂_congr hitem]
  constructor
  · exact .list
  · intro h
    cases h with
    | list h => exact h

theorem isNull_iff {v : Json} : isNull v = true ↔ v = .null := by
  cases v <;> simp [isNull]

theorem read_optional_eq_ok_iff (ih : UnderstoodBelow n) {v : Json} (hv : sizeOf v < n) :
    (Slot.optional shape).read node name (some v) = .ok () ↔ Fills (.optional shape) (some v) := by
  rw [Slot.read_optional]
  by_cases hnull : isNull v = true
  · obtain rfl := isNull_iff.1 hnull
    exact ⟨fun _ ↦ .null shape, fun _ ↦ rfl⟩
  · rw [if_neg hnull, ih v hv]
    constructor
    · exact .present
    · intro h
      cases h with
      | null => exact absurd rfl hnull
      | present h => exact h

/-- A field is read if it is filled. -/
theorem Slot.read_eq_ok_iff (ih : UnderstoodBelow n) {slot : Slot} {v : Json} (hv : sizeOf v < n) :
    slot.read node name (some v) = .ok () ↔ Fills slot (some v) := by
  cases slot with
  | operator =>
    cases v with
    | string s => exact ite_error_eq_ok_iff.trans isSome_ofSymbol?_iff
    | _ => exact ⟨fun h ↦ (nomatch h), fun h ↦ (nomatch h)⟩
  | string =>
    cases v with
    | string s => exact ⟨fun _ ↦ .string s, fun _ ↦ rfl⟩
    | _ => exact ⟨fun h ↦ (nomatch h), fun h ↦ (nomatch h)⟩
  | boolean =>
    cases v with
    | bool b => exact ⟨fun _ ↦ .boolean b, fun _ ↦ rfl⟩
    | _ => exact ⟨fun h ↦ (nomatch h), fun h ↦ (nomatch h)⟩
  | flag =>
    cases v with
    | bool b => exact ⟨fun _ ↦ .flag b, fun _ ↦ rfl⟩
    | _ => exact ⟨fun h ↦ (nomatch h), fun h ↦ (nomatch h)⟩
  | number => exact ite_error_eq_ok_iff.trans isSome_toNumber?_iff
  | tree shape =>
    refine (ih v hv shape).trans ⟨.tree, fun h ↦ ?_⟩
    cases h with
    | tree h => exact h
  | optional shape => exact read_optional_eq_ok_iff ih hv
  | list shape =>
    cases v with
    | array items => exact read_list_eq_ok_iff ih hv
    | _ => exact ⟨fun h ↦ (nomatch h), fun h ↦ (nomatch h)⟩

end Fields

/-! ### Trees -/

/-- A field of a node is read if it is filled. -/
theorem Opens.read_field_eq_ok_iff {shape : Shape} {v : Json} {node : Node}
    (h : Opens shape v node) (ih : UnderstoodBelow (sizeOf v)) (f : Field) :
    node.read f = .ok () ↔ Fills f.slot (node.value? f) := by
  rw [Node.read]
  rcases hvalue : node.value? f with - | w
  · exact read_absent_eq_ok_iff
  · exact Slot.read_eq_ok_iff ih (h.sizeOf_lt hvalue)

theorem read_eq_ok_iff_of_below {v : Json} (ih : UnderstoodBelow (sizeOf v)) (shape : Shape) :
    shape.read v = .ok () ↔ Spells shape v := by
  constructor
  · intro h
    rcases opens_or_headFault shape v with ⟨node, hopens⟩ | ⟨err, hfault⟩
    · rw [hopens.read_eq, Except.forM_eq_ok_iff] at h
      exact .node hopens fun f hf ↦ (hopens.read_field_eq_ok_iff ih f).1 (h f hf)
    · rw [hfault.read_eq] at h
      cases h
  · rintro ⟨hopens, hfields⟩
    rw [hopens.read_eq, Except.forM_eq_ok_iff]
    exact fun f hf ↦ (hopens.read_field_eq_ok_iff ih f).2 (hfields f hf)

theorem understoodBelow (n : Nat) : UnderstoodBelow n := by
  induction n with
  | zero => exact fun w hw ↦ absurd hw (Nat.not_lt_zero _)
  | succ n ih =>
    intro w hw shape
    exact read_eq_ok_iff_of_below (fun u hu ↦ ih u (by omega)) shape

/-- A value is read in a shape if it spells a tree of the shape. -/
theorem Shape.read_eq_ok_iff (shape : Shape) (v : Json) :
    shape.read v = .ok () ↔ Spells shape v :=
  read_eq_ok_iff_of_below (understoodBelow _) shape

/-- No value spells an expression and a statement: its tag would name a kind of each sort. -/
theorem Spells.not_statement {v : Json} (h : Spells .expression v) : ¬ Spells .statement v := by
  rintro ⟨hstatement, -⟩
  obtain ⟨hexpression, -⟩ := h
  cases hexpression with
  | expression kind tag =>
    cases hstatement with
    | statement kind' tag' =>
      have hname : kind.name = kind'.name := by
        rw [tag] at tag'
        exact Json.string.inj (Option.some.inj tag')
      exact kind.name_ne_name kind' hname

end Interchange

open Interchange (Spells Shape)

/-- The reader accepts the values that spell a tree of the sort that it is asked for, and no others.
No value is read as both an expression and a statement. -/
theorem ofJson_eq_ok_iff_spells (v : Json) :
    ((∃ e, Expr.ofJson v = .ok e) ↔ Spells .expression v) ∧
    ((∃ s, Statement.ofJson v = .ok s) ↔ Spells .statement v) ∧
    ¬ ((∃ e, Expr.ofJson v = .ok e) ∧ ∃ s, Statement.ofJson v = .ok s) := by
  have hexpr : (∃ e, Expr.ofJson v = .ok e) ↔ Spells .expression v :=
    Except.outcome_eq_ok_iff.symm.trans (Shape.read_eq_ok_iff .expression v)
  have hstatement : (∃ s, Statement.ofJson v = .ok s) ↔ Spells .statement v :=
    Except.outcome_eq_ok_iff.symm.trans (Shape.read_eq_ok_iff .statement v)
  refine ⟨hexpr, hstatement, ?_⟩
  rw [hexpr, hstatement]
  exact fun h ↦ h.1.not_statement h.2

end ShapeQuery
