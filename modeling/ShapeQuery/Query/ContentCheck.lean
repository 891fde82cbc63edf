import ShapeQuery.Query.Error
import ShapeQuery.Tree.Size

/-!
# Checking the content of a subtree

A content check goes through a subtree of operations and declarators and accepts it if all of its
literals are of the wanted type. Each level uses up one unit of a budget before its node is looked
at. The nodes still to be checked are kept in a list, each with the budget that is left for it, so
the check does not recurse however large the budget.
-/

namespace ShapeQuery

/-- Whether a node by itself is compatible with the content: literals of another type are not. -/
def Content.admits : Content → Expr → Bool
  | numbers, .string _ => false
  | numbers, .boolean _ => false
  | booleans, .string _ => false
  | booleans, .number _ => false
  | _, _ => true

namespace Content

/-- What a check does with one node: fails, or goes on to the nodes below it. -/
def descend (content : Content) (e : Expr) : Except QueryError (List Expr) :=
  if content.admits e then
    match e with
    | .binary _ left right => .ok [left, right]
    | .unary _ operand _ => .ok [operand]
    | .declarator _ (some initial) => .ok [initial]
    | .number _ => .ok []
    | .string _ => .ok []
    | .boolean _ => .ok []
    | _ => .error (.structureMismatch e.kind)
  else .error (.contentMismatch content e.kind)

/-- The nodes to go on to are the children of the node. -/
theorem eq_children_of_descend {content : Content} {e : Expr} {below : List Expr}
    (h : content.descend e = .ok below) : below = e.children := by
  unfold descend at h
  split at h
  · cases e with
    | binary op left right => exact (Except.ok.inj h).symm
    | unary op operand postfixed => exact (Except.ok.inj h).symm
    | declarator name initial =>
      cases initial with
      | none => cases h
      | some initial => exact (Except.ok.inj h).symm
    | number value => exact (Except.ok.inj h).symm
    | string value => exact (Except.ok.inj h).symm
    | boolean value => exact (Except.ok.inj h).symm
    | _ => cases h
  · cases h

/-- The nodes to go on to are together smaller than the node. -/
theorem totalSize_lt_of_descend {content : Content} {e : Expr} {below : List Expr}
    (h : content.descend e = .ok below) : Expr.totalSize below < sizeOf e := by
  rw [eq_children_of_descend h]
  exact e.totalSize_children_lt

/-- Checks the listed nodes in order, each within its budget. -/
def checkAll (content : Content) : List (Expr × Nat) → Except QueryError Unit
  | [] => .ok ()
  | (_, 0) :: _ => .error .depthExceeded
  | (e, budget + 1) :: rest =>
    match _h : content.descend e with
    | .error err => .error err
    | .ok below => checkAll content (below.map (fun c ↦ (c, budget)) ++ rest)
termination_by todo => Expr.totalSize (todo.map Prod.fst)
decreasing_by
  have := totalSize_lt_of_descend _h
  simp [Function.comp_def]
  omega

/-- Checks a subtree within a budget of levels. -/
def check (content : Content) (e : Expr) (budget : Nat) : Except QueryError Unit :=
  content.checkAll [(e, budget)]

end Content

end ShapeQuery
