import ShapeQuery.Proofs.Walk.Reports

/-!
# What the finding visitors find

Two visitors look for something in a tree: one for a call, one for `this`. This module says what
they find without mentioning the walk.

A call is found when it is left, so the order in which calls are found is the post-order of the
tree (`Place.postorder`), in which a place comes after everything below it. The walk that wants only
the first call ends there; the other one hears the whole tour and keeps the last
(`Place.state_findCall`). The visitor that counts `this` never ends the walk, and so it counts every
place of the tour that is `this` (`Visitor.state_thisCounter`).
-/

namespace ShapeQuery

/-! ### Post-order -/

namespace Place

/-- A place and everything below it, each place after the ones below it, and the children in
order. -/
def postorder (p : Place) : List Place :=
  (p.children.attach.flatMap fun c ↦ postorder c.1) ++ [p]
termination_by sizeOf p.node
decreasing_by exact sizeOf_lt_of_mem_children c.2

theorem postorder_eq (p : Place) : p.postorder = p.children.flatMap postorder ++ [p] := by
  rw [postorder, List.flatMap_subtype (g := postorder) fun _ _ ↦ rfl, List.unattach_attach]

end Place

/-- The place that is left in an event. -/
def Event.left? : Event → Option Place
  | .enter _ => none
  | .leave p => some p

/-- A tour leaves the places in post-order. -/
theorem Place.filterMap_left?_tour (p : Place) : p.tour.filterMap Event.left? = p.postorder := by
  induction p using children_induction with
  | step p ih =>
    have hbelow : (p.children.flatMap tour).filterMap Event.left? =
        p.children.flatMap postorder := by
      rw [List.filterMap_flatMap]
      exact List.flatMap_congr ih
    rw [p.tour_eq, p.postorder_eq, List.filterMap_cons_none rfl, List.filterMap_append, hbelow]
    rfl

/-! ### Finding a call -/

/-- The calls at and below a place, in post-order. -/
def Place.calls (p : Place) : List Place := p.postorder.filter fun q ↦ q.node.isCall

/-- The call that is left in an event. -/
def Event.call? (e : Event) : Option Place := e.left?.filter fun q ↦ q.node.isCall

theorem Place.filterMap_call?_tour (p : Place) : p.tour.filterMap Event.call? = p.calls := by
  rw [calls, ← p.filterMap_left?_tour, List.filter_filterMap]
  rfl

namespace Visitor

/-- A finder takes the call that is left in an event, if there is one, in place of what it had. -/
theorem notify_callFinder (firstOnly : Bool) (found : Option Place) (e : Event) :
    (callFinder firstOnly).notify found e = e.call?.or found := by
  cases e with
  | enter p => rfl
  | leave p =>
    by_cases hcall : p.node.isCall = true
    · simp [notify, callFinder, Event.call?, Event.left?, Option.filter, hcall]
    · simp [notify, callFinder, Event.call?, Event.left?, Option.filter, hcall]

/-- A finder that hears everything has the last call, if there is one. -/
theorem foldl_callFinder (firstOnly : Bool) (found : Option Place) (events : List Event) :
    events.foldl (callFinder firstOnly).notify found =
      (events.filterMap Event.call?).getLast?.or found := by
  induction events generalizing found with
  | nil => rfl
  | cons e rest ih =>
    rw [List.foldl_cons, ih, notify_callFinder, List.filterMap_cons]
    cases e.call? with
    | none => rfl
    | some p =>
      rw [List.getLast?_cons, Option.some_or, Option.some_or]
      cases (rest.filterMap Event.call?).getLast? <;> rfl

/-- A finder that ends the walk at the first call has that one, if there is one. -/
theorem foldl_heard_callFinder (events : List Event) :
    ((callFinder true).heard none events).foldl (callFinder true).notify none =
      (events.filterMap Event.call?).head? := by
  induction events with
  | nil => rfl
  | cons e rest ih =>
    rw [heard, notify_callFinder, Option.or_none, List.filterMap_cons]
    cases hcall : e.call? with
    | none =>
      -- nothing is found in this event, so the finder is not done and listens on
      show (e :: (callFinder true).heard none rest).foldl _ none = _
      rw [List.foldl_cons, notify_callFinder, hcall]
      exact ih
    | some p =>
      show [e].foldl _ none = some p
      rw [List.foldl_cons, notify_callFinder, hcall]
      rfl

end Visitor

/-- The call that is found is the first in post-order, or the last. -/
theorem Place.state_findCall (p : Place) (firstOnly : Bool) :
    (p.findCall firstOnly).state = if firstOnly then p.calls.head? else p.calls.getLast? := by
  rw [findCall, Visitor.state_walk]
  cases firstOnly with
  | true =>
    rw [Visitor.foldl_heard_callFinder, p.filterMap_call?_tour]
    rfl
  | false =>
    rw [Visitor.heard_of_never_done _ (fun _ ↦ rfl), Visitor.foldl_callFinder,
      p.filterMap_call?_tour, Option.or_none]
    rfl

/-! ### Counting `this` -/

theorem Expr.isThis_iff {e : Expr} : e.isThis = true ↔ e = .thisRef := by
  cases e <;> simp [isThis]

/-- Whether `this` is entered in an event. -/
def Event.entersThis : Event → Bool
  | .enter p => p.node.isThis
  | .leave _ => false

namespace Visitor

/-- A visitor that goes up by one with certain events has counted them. -/
theorem foldl_counter {v : Visitor Nat} {counts : Event → Bool}
    (h : ∀ n e, v.notify n e = n + if counts e then 1 else 0) (n : Nat) (events : List Event) :
    events.foldl v.notify n = n + events.countP counts := by
  induction events generalizing n with
  | nil => rfl
  | cons e rest ih =>
    rw [List.foldl_cons, ih, h, List.countP_cons]
    omega

/-- The counter goes up by one with every `this` that is entered. -/
theorem foldl_thisCounter (n : Nat) (events : List Event) :
    events.foldl thisCounter.notify n = n + events.countP Event.entersThis := by
  refine foldl_counter (fun n e ↦ ?_) n events
  cases e with
  | enter p =>
    show (if p.node.isThis then n + 1 else n) = n + if p.node.isThis then 1 else 0
    split <;> rfl
  | leave p => rfl

theorem state_thisCounter (p : Place) :
    (thisCounter.walk p 0).state = p.tour.countP Event.entersThis := by
  rw [state_walk, heard_of_never_done _ fun _ ↦ rfl, foldl_thisCounter, Nat.zero_add]

/-- The counter finds something if some walked place is `this`. -/
theorem state_thisCounter_ne_zero_iff (p : Place) :
    (thisCounter.walk p 0).state ≠ 0 ↔ ∃ q, p.Walked q ∧ q.node = .thisRef := by
  rw [state_thisCounter, ← Nat.pos_iff_ne_zero, List.countP_pos_iff]
  constructor
  · rintro ⟨e, he, hthis⟩
    refine ⟨e.place, (Place.mem_tour_iff e).1 he, ?_⟩
    cases e with
    | enter q => exact Expr.isThis_iff.1 hthis
    | leave q => cases hthis
  · rintro ⟨q, hq, hthis⟩
    exact ⟨.enter q, (Place.mem_tour_iff (.enter q)).2 hq, Expr.isThis_iff.2 hthis⟩

end Visitor

end ShapeQuery
