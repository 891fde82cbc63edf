import ShapeQuery.Tree.Basic

/-!
# Places in a tree

A query answers with a node of the tree that it was given, and two equal nodes at different places
are different answers. A *place* is a node together with the way down to it: the indices of the
children that lead there, in the numbering of `Expr.children`. The last step comes first, so that
going down is a `cons` and places share their way.
-/

namespace ShapeQuery

/-- A node and the way down to it. -/
structure Place where
  /-- The indices of the children on the way, the last one first. -/
  trail : List Nat
  /-- The node at the place. -/
  node : Expr

namespace Place

/-- The top of a tree. -/
def root (e : Expr) : Place := ⟨[], e⟩

/-- The place of the child with the given index, which is the given node. -/
def child (p : Place) (i : Nat) (e : Expr) : Place := ⟨i :: p.trail, e⟩

/-- The places of all children, in order. -/
def children (p : Place) : List Place := p.node.children.mapIdx p.child

/-- The kind of the node at the place. -/
abbrev kind (p : Place) : ExprKind := p.node.kind

end Place

end ShapeQuery
