import Mathlib.Algebra.GroupWithZero.Nat
import ShapeQuery.Proofs.Query.Recasting

/-!
# Occurrences of `this`

How often `this` occurs in a tree is defined here by recursion on the tree, kind by kind and part by
part, without a walk (`Expr.thisOccurrences`). The body of a function is the only part that is left
out: a `this` in there is not the one around the function.

A walk that counts `this` finds that number (`Visitor.state_thisCounter_eq`). The walk knows a node
by its list of children, so the one thing to see is that this list has every part of the node that
the recursion goes into, once and of every kind (`Expr.thisOccurrences_eq`).

The counter stays below the number of nodes (`Expr.thisCount_le_nodeCount`): it fits wherever that
number does.
-/

namespace ShapeQuery

/-! ### Counting by recursion -/

mutual

/-- How often `this` occurs in an expression outside of function bodies. -/
def Expr.thisOccurrences : Expr → Nat
  | .binary _ left right => left.thisOccurrences + right.thisOccurrences
  | .unary _ operand _ => operand.thisOccurrences
  | .assign _ left right => left.thisOccurrences + right.thisOccurrences
  | .declarator _ (some initial) => initial.thisOccurrences
  | .declarator _ none => 0
  | .identifier _ => 0
  | .thisRef => 1
  | .number _ => 0
  | .string _ => 0
  | .boolean _ => 0
  | .call callee args => callee.thisOccurrences + Expr.thisOccurrencesIn args
  | .construct callee args => callee.thisOccurrences + Expr.thisOccurrencesIn args
  | .function (some name) params _ => name.thisOccurrences + Expr.thisOccurrencesIn params
  | .function none params _ => Expr.thisOccurrencesIn params
  | .dot left member => left.thisOccurrences + member.thisOccurrences
  | .bracket left member => left.thisOccurrences + member.thisOccurrences
  | .conditional test consequent alternate =>
    test.thisOccurrences + consequent.thisOccurrences + alternate.thisOccurrences
  | .sequence items => Expr.thisOccurrencesIn items
  | .array items => Expr.thisOccurrencesIn items
  | .object properties => Expr.thisOccurrencesInValues properties

/-- How often `this` occurs in some expressions. -/
def Expr.thisOccurrencesIn : List Expr → Nat
  | [] => 0
  | e :: rest => e.thisOccurrences + Expr.thisOccurrencesIn rest

/-- How often `this` occurs in the values of some properties. -/
def Expr.thisOccurrencesInValues : List (String × Expr) → Nat
  | [] => 0
  | (_, e) :: rest => e.thisOccurrences + Expr.thisOccurrencesInValues rest

end

namespace Expr

theorem thisOccurrencesIn_eq (es : List Expr) :
    thisOccurrencesIn es = (es.map thisOccurrences).sum := by
  induction es with
  | nil => rfl
  | cons e es ih => rw [thisOccurrencesIn, ih, List.map_cons, List.sum_cons]

theorem thisOccurrencesInValues_eq (ps : List (String × Expr)) :
    thisOccurrencesInValues ps = ((ps.map Prod.snd).map thisOccurrences).sum := by
  induction ps with
  | nil => rfl
  | cons p ps ih => rw [thisOccurrencesInValues, ih, List.map_cons, List.map_cons, List.sum_cons]

/-- `this` occurs in a node as often as in its children together, and once more if the node is
`this`. -/
theorem thisOccurrences_eq (e : Expr) :
    e.thisOccurrences =
      (e.children.map thisOccurrences).sum + if e.isThis then 1 else 0 := by
  cases e with
  | declarator name initial => cases initial <;> simp [thisOccurrences, children, isThis]
  | function name params body =>
    cases name <;> simp [thisOccurrences, thisOccurrencesIn_eq, children, isThis]
  | object properties => simp [thisOccurrences, thisOccurrencesInValues_eq, children, isThis]
  | _ => simp [thisOccurrences, thisOccurrencesIn_eq, children, isThis, Nat.add_assoc]

end Expr

/-! ### Counting in a walk -/

/-- A tour enters as many places that are `this` as there are occurrences. -/
theorem Place.countP_entersThis_tour (p : Place) :
    p.tour.countP Event.entersThis = p.node.thisOccurrences := by
  induction p using children_induction with
  | step p ih =>
    have hbelow : (p.children.flatMap tour).countP Event.entersThis =
        (p.node.children.map Expr.thisOccurrences).sum := by
      rw [List.countP_flatMap, ← p.map_node_children, List.map_map]
      exact congrArg List.sum (List.map_congr_left ih)
    rw [p.tour_eq, List.countP_cons, List.countP_append, hbelow, p.node.thisOccurrences_eq]
    rfl

namespace Visitor

theorem state_thisCounter_eq (p : Place) :
    (thisCounter.walk p 0).state = p.node.thisOccurrences := by
  rw [state_thisCounter, p.countP_entersThis_tour]

/-- The counter of nodes goes up by one with every place that is entered. -/
theorem state_nodeCounter (p : Place) :
    (nodeCounter.walk p 0).state = p.tour.countP fun e ↦ e.left?.isNone := by
  have hnotify : ∀ n e, nodeCounter.notify n e = n + if e.left?.isNone then 1 else 0 := by
    intro n e
    cases e <;> rfl
  rw [state_walk, heard_of_never_done _ fun _ ↦ rfl, foldl_counter hnotify, Nat.zero_add]

end Visitor

theorem Expr.thisCount_le_nodeCount (e : Expr) : e.thisCount ≤ e.nodeCount := by
  rw [thisCount, nodeCount, Visitor.state_thisCounter, Visitor.state_nodeCounter]
  refine List.countP_mono_left fun event _ hthis ↦ ?_
  cases event with
  | enter p => rfl
  | leave p => cases hthis

/-- A walk counts `this` as often as it occurs in the tree outside of function bodies, which is at
most the number of nodes that are walked. The operation that asks for `this` lets a place pass if it
occurs there, and fails otherwise. -/
theorem thisCount_eq_thisOccurrences :
    (∀ e : Expr, e.thisCount = e.thisOccurrences ∧ e.thisCount ≤ e.nodeCount) ∧
    ∀ n : Place, (Operation.containsThis.apply n).value =
      if n.node.thisOccurrences = 0 then .error .noMatch else .ok n := by
  refine ⟨fun e ↦ ⟨Visitor.state_thisCounter_eq (.root e), e.thisCount_le_nodeCount⟩, fun n ↦ ?_⟩
  rw [Operation.apply, foundThis, Visitor.state_thisCounter_eq]

/-- In `this.f(this, function (x = this) { this; })` the last one does not count. -/
example :
    let function : Expr :=
      .function none [.declarator "x" (some .thisRef)] [.expression .thisRef]
    (Expr.call (.dot .thisRef (.identifier "f")) [.thisRef, function]).thisOccurrences = 3 := rfl

end ShapeQuery
