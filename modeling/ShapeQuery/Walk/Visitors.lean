import ShapeQuery.Walk.Basic

/-!
# Visitors

The visitors that the library itself uses: one that finds calls, one that counts occurrences of
`this`, one that counts nodes, and one that records what it is told.
-/

namespace ShapeQuery

namespace Expr

/-- A call or a constructor call. -/
def isCall : Expr → Bool
  | call .. => true
  | construct .. => true
  | _ => false

/-- The word `this`. -/
def isThis : Expr → Bool
  | thisRef => true
  | _ => false

end Expr

namespace Visitor

/-- Finds calls. A call is found when it is left, so the calls inside it are found before it. The
walk ends at the first one if only that is wanted; otherwise a later one replaces an earlier one. -/
def callFinder (firstOnly : Bool) : Visitor (Option Place) where
  enter found _ := found
  leave found p := if p.node.isCall then some p else found
  done found := firstOnly && found.isSome

/-- Counts the occurrences of `this`. -/
def thisCounter : Visitor Nat where
  enter n p := if p.node.isThis then n + 1 else n
  leave n _ := n
  done _ := false

/-- Counts the nodes that are entered. -/
def nodeCounter : Visitor Nat where
  enter n _ := n + 1
  leave n _ := n
  done _ := false

/-- Records the events, the last one first, and ends the walk once there are as many as the
limit. -/
def recorder (limit : Option Nat) : Visitor (Nat × List Event) where
  enter s p := (s.1 + 1, .enter p :: s.2)
  leave s p := (s.1 + 1, .leave p :: s.2)
  done s := limit.any fun n ↦ decide (n ≤ s.1)

end Visitor

/-- The walk that looks for a call at or below a place. -/
def Place.findCall (p : Place) (firstOnly : Bool) : Walk (Option Place) :=
  (Visitor.callFinder firstOnly).walk p none

namespace Expr

/-- How often `this` occurs in a tree, function bodies left out. -/
def thisCount (e : Expr) : Nat := (Visitor.thisCounter.walk (.root e) 0).state

/-- How many nodes a walk enters. -/
def nodeCount (e : Expr) : Nat := (Visitor.nodeCounter.walk (.root e) 0).state

/-- The kind of a node, with its name or text if it is an identifier, a string or a declarator. -/
def label (e : Expr) : String :=
  match e with
  | identifier name => e.kind.name ++ " " ++ name
  | string value => e.kind.name ++ " " ++ value
  | declarator name _ => e.kind.name ++ " " ++ name
  | _ => e.kind.name

end Expr

/-- An event in words. -/
def Event.text : Event → String
  | enter p => "enter " ++ p.node.label
  | leave p => "leave " ++ p.node.label

/-- The walk that records events until there are as many as the limit. -/
def Expr.recordWalk (limit : Option Nat) (e : Expr) : Walk (Nat × List Event) :=
  (Visitor.recorder limit).walk (.root e) (0, [])

/-- The recorded events, in order. -/
def Walk.events (w : Walk (Nat × List Event)) : List Event := w.state.2.reverse

end ShapeQuery
