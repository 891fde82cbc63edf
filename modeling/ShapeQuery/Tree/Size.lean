import ShapeQuery.Tree.Basic

/-!
# Sizes of trees

Walks and checks keep the nodes that are still to be visited in a list. They end because the
children of a node are together smaller than the node; this module says so. The sizes appear in
termination arguments and nowhere else.
-/

namespace ShapeQuery

namespace Expr

/-- The sizes of some trees, added up. -/
noncomputable def totalSize : List Expr → Nat
  | [] => 0
  | e :: rest => sizeOf e + totalSize rest

@[simp] theorem totalSize_nil : totalSize [] = 0 := rfl

@[simp] theorem totalSize_cons (e : Expr) (rest : List Expr) :
    totalSize (e :: rest) = sizeOf e + totalSize rest := rfl

@[simp] theorem totalSize_append (es fs : List Expr) :
    totalSize (es ++ fs) = totalSize es + totalSize fs := by
  induction es with
  | nil => simp
  | cons e es ih => simp [ih, Nat.add_assoc]

theorem totalSize_le_sizeOf (es : List Expr) : totalSize es ≤ sizeOf es := by
  induction es with
  | nil => simp
  | cons e es ih => simp; omega

theorem totalSize_map_snd_le_sizeOf (ps : List (String × Expr)) :
    totalSize (ps.map Prod.snd) ≤ sizeOf ps := by
  induction ps with
  | nil => simp
  | cons p ps ih =>
    obtain ⟨k, e⟩ := p
    simp
    omega

/-- The children of a node are together smaller than the node. -/
theorem totalSize_children_lt (e : Expr) : totalSize e.children < sizeOf e := by
  cases e with
  | declarator name initial =>
    cases initial with
    | none => simp [children]
    | some e => simp [children]; omega
  | call callee args => have := totalSize_le_sizeOf args; simp [children]; omega
  | construct callee args => have := totalSize_le_sizeOf args; simp [children]; omega
  | function name params body =>
    have := totalSize_le_sizeOf params
    cases name <;> simp [children] <;> omega
  | sequence items => have := totalSize_le_sizeOf items; simp [children]; omega
  | array items => have := totalSize_le_sizeOf items; simp [children]; omega
  | object properties =>
    have := totalSize_map_snd_le_sizeOf properties
    simp [children]
    omega
  | _ => simp [children] <;> omega

end Expr

end ShapeQuery
