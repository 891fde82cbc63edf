import ShapeQuery.Proofs.Tree.Grammar

/-!
# The fault that is reported

A JSON value can fail to spell a tree in many places at once, and the reader reports one fault. This
module says which: the first one in the order in which the fields are listed, the items of a list
stand, and a node's own tag comes before what is inside it.

`FirstFault shape v path err` is that statement, with the way down to the fault as a path. At the
end of the path is the fault itself, which is a matter of one place only: the head of a node
(`HeadFault`) or one of its fields (`FieldFault`). Every step of the path leads into a field that
the reader reads, and along it everything that is read before that step is in order, at the node of
the fault (`Node.Reaches`) and at each node above it (`FirstFault.inside`).

`ofJson_eq_error_iff_firstFault` is the agreement with the reader, in both directions. A fault is
reported with the name of a kind wherever it is reported with the name of a node
(`ReadError.NamesKind`).
-/

namespace ShapeQuery

/-- The node that a fault of a field is reported under has the name of a kind. -/
def ReadError.NamesKind : ReadError → Prop
  | missingField node _ | invalidField node _ =>
    (∃ kind : ExprKind, node = kind.name) ∨ ∃ kind : StatementKind, node = kind.name
  | _ => True

namespace Interchange

/-! ### Faults and the way to them -/

/-- The JSON form that a field asks for, apart from what is inside a tree. -/
def Slot.HasForm : Slot → Json → Prop
  | operator, v => ∃ s, v = .string s
  | string, v => ∃ s, v = .string s
  | boolean, v => ∃ b, v = .bool b
  | flag, v => ∃ b, v = .bool b
  | number, v => Fills .number (some v)
  | tree _, _ => True
  | optional _, _ => True
  | list _, v => ∃ items, v = .array items

/-- What is wrong with a field itself, apart from what is inside a tree that it holds: it is absent,
of the wrong form, or no operator has the spelling. -/
inductive FieldFault (node : String) (f : Field) : Option Json → ReadError → Prop
  | missing (required : f.slot.mayBeAbsent = false) :
      FieldFault node f none (.missingField node f.name)
  | invalid {v : Json} (form : ¬ f.slot.HasForm v) :
      FieldFault node f (some v) (.invalidField node f.name)
  | unknownOperator {s : String} (slot : f.slot = .operator) (h : ∀ op : Operator, s ≠ op.symbol) :
      FieldFault node f (some (.string s)) (.unknownOperator s)

/-- A step on the way to a position in a value. -/
inductive Step where
  /-- Into the member of a node. -/
  | member (name : String)
  /-- Into an item of a list. -/
  | item (index : Nat)

/-- The reader gets as far as a field of a node: the fields before it are filled. -/
def Node.Reaches (node : Node) (f : Field) : Prop :=
  ∃ before after, node.fields = before ++ f :: after ∧ ∀ g ∈ before, Fills g.slot (node.value? g)

/-- The values that are read as trees in a field, with the steps to them from there: the tree that
the field holds, or an item of its list, if the items before that one spell trees. -/
inductive Enters : Slot → Option Json → List Step → Shape → Json → Prop
  | tree (shape : Shape) (v : Json) : Enters (.tree shape) (some v) [] shape v
  | present (shape : Shape) {v : Json} (h : v ≠ .null) :
      Enters (.optional shape) (some v) [] shape v
  | item {shape : Shape} {before : List Json} (v : Json) (after : List Json)
      (h : ∀ w ∈ before, Spells shape w) :
      Enters (.list shape) (some (.array (before ++ v :: after))) [.item before.length] shape v

/-- The first fault of a value that is read in a shape, and the path to it. -/
inductive FirstFault : Shape → Json → List Step → ReadError → Prop
  | head {shape : Shape} {v : Json} {err : ReadError} (fault : HeadFault shape v err) :
      FirstFault shape v [] err
  | field {shape : Shape} {v : Json} {node : Node} {f : Field} {err : ReadError}
      (opens : Opens shape v node) (reaches : node.Reaches f)
      (fault : FieldFault node.name f (node.value? f) err) :
      FirstFault shape v [.member f.name] err
  | inside {shape shape' : Shape} {v w : Json} {node : Node} {f : Field} {steps path : List Step}
      {err : ReadError} (opens : Opens shape v node) (reaches : node.Reaches f)
      (enters : Enters f.slot (node.value? f) steps shape' w)
      (rest : FirstFault shape' w path err) :
      FirstFault shape v (.member f.name :: (steps ++ path)) err

/-! ### Fields -/

section Fields

variable {node name : String} {v : Json} {err : ReadError}

theorem Slot.read_of_not_hasForm {slot : Slot} (h : ¬ slot.HasForm v) :
    slot.read node name (some v) = .error (.invalidField node name) := by
  cases slot with
  | number => exact if_neg fun hsome ↦ h (isSome_toNumber?_iff.1 hsome)
  | tree shape => exact absurd trivial h
  | optional shape => exact absurd trivial h
  | operator | string =>
    cases v with
    | string s => exact absurd ⟨s, rfl⟩ h
    | _ => rfl
  | boolean | flag =>
    cases v with
    | bool b => exact absurd ⟨b, rfl⟩ h
    | _ => rfl
  | list shape =>
    cases v with
    | array items => exact absurd ⟨items, rfl⟩ h
    | _ => rfl

theorem FieldFault.read_eq {f : Field} {v? : Option Json} (h : FieldFault node f v? err) :
    f.slot.read node f.name v? = .error err := by
  cases h with
  | missing required =>
    rw [Slot.read, required]
    rfl
  | invalid form => exact Slot.read_of_not_hasForm form
  | unknownOperator slot h =>
    rw [slot]
    refine if_neg fun hsome ↦ ?_
    obtain ⟨op, hop⟩ := Option.isSome_iff_exists.1 hsome
    exact h op (Operator.ofSymbol?_eq_some_iff.1 hop)

/-- A fault inside a tree is a fault of the field that holds it. -/
theorem Enters.read_eq {slot : Slot} {v? : Option Json} {steps : List Step} {shape : Shape}
    (h : Enters slot v? steps shape v) (herr : shape.read v = .error err) :
    slot.read node name v? = .error err := by
  cases h with
  | tree => exact herr
  | present _ hnull =>
    rw [Slot.read_optional, if_neg fun h ↦ hnull (isNull_iff.1 h)]
    exact herr
  | @item _ before _ after hbefore =>
    refine Except.forM_eq_error_iff.2 ⟨before, v, after, rfl, fun w hw ↦ ?_, herr⟩
    exact (shape.read_eq_ok_iff w).2 (hbefore w hw)

/-- Reading a field fails on account of the field itself or of a tree that is read there. -/
theorem fieldFault_or_enters {f : Field} {v? : Option Json}
    (h : f.slot.read node f.name v? = .error err) :
    FieldFault node f v? err ∨
      ∃ steps shape w, Enters f.slot v? steps shape w ∧ shape.read w = .error err := by
  obtain ⟨name, slot⟩ := f
  rcases v? with - | v
  · cases hrequired : slot.mayBeAbsent with
    | true => rw [Slot.read, hrequired] at h; cases h
    | false =>
      rw [Slot.read, hrequired] at h
      cases h
      exact .inl (.missing hrequired)
  by_cases hform : slot.HasForm v
  · -- a field of the right form fails at an operator or inside a tree
    cases slot with
    | operator =>
      obtain ⟨s, rfl⟩ := hform
      by_cases hsome : (Operator.ofSymbol? s).isSome = true
      · cases (if_pos hsome).symm.trans h
      · cases (if_neg hsome).symm.trans h
        refine .inl (.unknownOperator rfl fun op hop ↦ hsome ?_)
        rw [hop, Operator.ofSymbol?_symbol]
        rfl
    | string => obtain ⟨s, rfl⟩ := hform; cases h
    | boolean => obtain ⟨b, rfl⟩ := hform; cases h
    | flag => obtain ⟨b, rfl⟩ := hform; cases h
    | number => cases (if_pos (isSome_toNumber?_iff.2 hform)).symm.trans h
    | tree shape => exact .inr ⟨[], shape, v, .tree shape v, h⟩
    | optional shape =>
      rw [Slot.read_optional] at h
      by_cases hnull : isNull v = true
      · rw [if_pos hnull] at h; cases h
      · rw [if_neg hnull] at h
        exact .inr ⟨[], shape, v, .present shape fun hv ↦ hnull (isNull_iff.2 hv), h⟩
    | list shape =>
      obtain ⟨items, rfl⟩ := hform
      obtain ⟨before, w, after, rfl, hbefore, hw⟩ := Except.forM_eq_error_iff.1 h
      refine .inr ⟨_, shape, w, .item w after fun u hu ↦ ?_, hw⟩
      exact (shape.read_eq_ok_iff u).1 (hbefore u hu)
  · rw [Slot.read_of_not_hasForm hform] at h
    cases h
    exact .inl (.invalid hform)

/-- What is read as a tree in a field is the value of the field or smaller. -/
theorem Enters.exists_sizeOf_le {slot : Slot} {v? : Option Json} {steps : List Step} {shape : Shape}
    {w : Json} (h : Enters slot v? steps shape w) : ∃ u, v? = some u ∧ sizeOf w ≤ sizeOf u := by
  cases h with
  | tree => exact ⟨w, rfl, Nat.le_refl _⟩
  | present => exact ⟨w, rfl, Nat.le_refl _⟩
  | @item _ before _ after =>
    have hmem : w ∈ before ++ w :: after := List.mem_append_right _ List.mem_cons_self
    exact ⟨_, rfl, Nat.le_of_lt (sizeOf_lt_of_mem_array hmem)⟩

end Fields

/-! ### Trees -/

section Trees

variable {shape : Shape} {v : Json} {node : Node} {f : Field} {err : ReadError}

/-- If the fields before a field are filled, its failure is the failure of the node. -/
theorem Opens.read_eq_error (h : Opens shape v node) (hreaches : node.Reaches f)
    (herr : node.read f = .error err) : shape.read v = .error err := by
  obtain ⟨before, after, hsplit, hbefore⟩ := hreaches
  rw [h.read_eq, Except.forM_eq_error_iff]
  refine ⟨before, f, after, hsplit, fun g hg ↦ ?_, herr⟩
  exact (h.read_field_eq_ok_iff (understoodBelow _) g).2 (hbefore g hg)

/-- A node that fails does so at a field such that those before it are filled. -/
theorem Opens.exists_reaches (h : Opens shape v node) (herr : shape.read v = .error err) :
    ∃ f, node.Reaches f ∧ node.read f = .error err := by
  rw [h.read_eq] at herr
  obtain ⟨before, f, after, hsplit, hbefore, hf⟩ := Except.forM_eq_error_iff.1 herr
  refine ⟨f, ⟨before, after, hsplit, fun g hg ↦ ?_⟩, hf⟩
  exact (h.read_field_eq_ok_iff (understoodBelow _) g).1 (hbefore g hg)

/-- The first fault is the one that is reported. -/
theorem FirstFault.read_eq {path : List Step} (h : FirstFault shape v path err) :
    shape.read v = .error err := by
  induction h with
  | head fault => exact fault.read_eq
  | field opens reaches fault => exact opens.read_eq_error reaches fault.read_eq
  | inside opens reaches enters _ ih => exact opens.read_eq_error reaches (enters.read_eq ih)

/-- A value that is refused has a first fault. The induction is on the size of the value: a fault
that is not at the top is in a tree that is read in one of the fields. -/
theorem exists_firstFault (n : Nat) (hn : sizeOf v < n) (h : shape.read v = .error err) :
    ∃ path, FirstFault shape v path err := by
  induction n generalizing shape v with
  | zero => exact absurd hn (Nat.not_lt_zero _)
  | succ n ih =>
    rcases opens_or_headFault shape v with ⟨node, hopens⟩ | ⟨err', hfault⟩
    · obtain ⟨f, hreaches, hf⟩ := hopens.exists_reaches h
      rcases fieldFault_or_enters hf with hfault | ⟨steps, shape', w, henters, hw⟩
      · exact ⟨_, .field hopens hreaches hfault⟩
      · -- the fault is further down, in a value that is smaller
        obtain ⟨u, hvalue, hle⟩ := henters.exists_sizeOf_le
        have hlt := hopens.sizeOf_lt hvalue
        obtain ⟨path, hpath⟩ := ih (by omega) hw
        exact ⟨_, .inside hopens hreaches henters hpath⟩
    · obtain rfl : err' = err := Except.error.inj (hfault.read_eq.symm.trans h)
      exact ⟨[], .head hfault⟩

theorem Shape.read_eq_error_iff (shape : Shape) (v : Json) (err : ReadError) :
    shape.read v = .error err ↔ ∃ path, FirstFault shape v path err :=
  ⟨exists_firstFault _ (Nat.lt_succ_self _), fun ⟨_, h⟩ ↦ h.read_eq⟩

/-! ### Names in faults -/

theorem Opens.name_eq (h : Opens shape v node) :
    (∃ kind : ExprKind, node.name = kind.name) ∨ ∃ kind : StatementKind, node.name = kind.name := by
  cases h with
  | expression kind tag => exact .inl ⟨kind, rfl⟩
  | statement kind tag => exact .inr ⟨kind, rfl⟩
  | property members => exact .inl ⟨.object, rfl⟩

theorem FieldFault.namesKind {v? : Option Json} (h : FieldFault node.name f v? err)
    (hopens : Opens shape v node) : err.NamesKind := by
  cases h with
  | missing => exact hopens.name_eq
  | invalid => exact hopens.name_eq
  | unknownOperator => trivial

theorem FirstFault.namesKind {path : List Step} (h : FirstFault shape v path err) :
    err.NamesKind := by
  induction h with
  | head fault =>
    cases fault with
    | property => exact .inl ⟨.object, rfl⟩
    | _ => trivial
  | field opens reaches fault => exact fault.namesKind opens
  | inside opens reaches enters rest ih => exact ih

end Trees

end Interchange

open Interchange (FirstFault Shape)

/-- The reader fails with an error exactly if that is the first fault of the value in reading order;
a fault of a field names a kind. -/
theorem ofJson_eq_error_iff_firstFault (v : Json) (err : ReadError) :
    (Expr.ofJson v = .error err ↔
      ∃ path, FirstFault .expression v path err ∧ err.NamesKind) ∧
    (Statement.ofJson v = .error err ↔
      ∃ path, FirstFault .statement v path err ∧ err.NamesKind) := by
  have hnames (shape : Shape) : shape.read v = .error err ↔
      ∃ path, FirstFault shape v path err ∧ err.NamesKind := by
    rw [shape.read_eq_error_iff]
    exact exists_congr fun path ↦ ⟨fun h ↦ ⟨h, h.namesKind⟩, fun h ↦ h.1⟩
  exact ⟨Except.outcome_eq_error_iff.symm.trans (hnames .expression),
    Except.outcome_eq_error_iff.symm.trans (hnames .statement)⟩

end ShapeQuery
