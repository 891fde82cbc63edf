import ShapeQuery.Proofs.Query.Meaning

/-!
# Looking for a call

An operation that narrows to a call asks a walk for it, for the first call that the walk leaves or
for the last. Which one that is can be said without the walk: the calls of the subtree in post-order
are `Place.calls`, and what is handed on is the first or the last of them, or the operation fails
because there are none (`foundCall_value`).

The walk for the first call ends there. It reports what the full walk reports up to the leaving of
the first call, and the full walk has found nothing before it (`Walk.Turns.split`,
`Visitor.heard_callFinder`): the visitor is asked after every report whether it is done, but a place
that is entered never changes what it has found.
-/

namespace ShapeQuery

universe u

variable {σ : Type u} {p c : Place}

/-! ### Walks in stretches -/

/-- A walk that reports one stretch after another is somewhere in between. -/
theorem Walk.Turns.split {v : Visitor σ} {w w' : Walk σ} {before after : List Event}
    (h : Walk.Turns v w (before ++ after) w') :
    ∃ midway, Walk.Turns v w before midway ∧ Walk.Turns v midway after w' := by
  induction before generalizing w with
  | nil => exact ⟨w, .refl w, h⟩
  | cons e before ih =>
    cases h with
    | turn going next later =>
      obtain ⟨midway, hbefore, hafter⟩ := ih later
      exact ⟨midway, .turn going next hbefore, hafter⟩

/-! ### The first call -/

theorem Event.call?_eq_some_iff {e : Event} : e.call? = some c ↔ e = .leave c ∧ c.node.isCall := by
  cases e with
  | enter q => simp [call?, left?]
  | leave q =>
    simp only [call?, left?, Option.filter_eq_some_iff, Option.some.injEq, Event.leave.injEq]

/-- The first call in post-order is the first that a tour leaves. -/
theorem Place.exists_split_tour_of_head?_calls (h : p.calls.head? = some c) :
    c.node.isCall = true ∧ ∃ before after,
      p.tour = before ++ .leave c :: after ∧ ∀ e ∈ before, e.call? = none := by
  rw [← p.filterMap_call?_tour, List.head?_filterMap, List.findSome?_eq_some_iff] at h
  obtain ⟨before, e, after, htour, hcall, hbefore⟩ := h
  obtain ⟨rfl, hc⟩ := Event.call?_eq_some_iff.1 hcall
  exact ⟨hc, before, after, htour, hbefore⟩

namespace Visitor

/-- A finder has nothing as long as no call is left. -/
theorem foldl_callFinder_eq_none {events : List Event} (h : ∀ e ∈ events, e.call? = none)
    (firstOnly : Bool) : events.foldl (callFinder firstOnly).notify none = none := by
  rw [foldl_callFinder, List.filterMap_eq_nil_iff.2 h]
  rfl

/-- A finder of the first call listens until that call is left. -/
theorem heard_callFinder (hc : c.node.isCall = true) {before : List Event}
    (hbefore : ∀ e ∈ before, e.call? = none) (after : List Event) :
    (callFinder true).heard none (before ++ .leave c :: after) = before ++ [.leave c] := by
  induction before with
  | nil =>
    have hfound : (callFinder true).notify none (.leave c) = some c := if_pos hc
    rw [List.nil_append, heard, hfound]
    rfl
  | cons e before ih =>
    obtain ⟨he, hbefore⟩ := List.forall_mem_cons.1 hbefore
    have hnothing : (callFinder true).notify none e = none := by
      rw [notify_callFinder, he]
      rfl
    rw [List.cons_append, heard, hnothing, ih hbefore]
    rfl

end Visitor

/-! ### What is handed on -/

/-- The call that is handed on is the first or the last one in post-order. -/
theorem foundCall_value (firstOnly : Bool) (p : Place) :
    (foundCall firstOnly p).value =
      (if firstOnly then p.calls.head? else p.calls.getLast?).elim (.error .noMatch) .ok := by
  rw [← p.state_findCall]
  rfl

/-- Looking for a call fails for one reason only, that there is none. -/
theorem foundCall_eq_error_iff {firstOnly : Bool} {err : QueryError} :
    (foundCall firstOnly p).value = .error err ↔ err = .noMatch ∧ p.calls = [] := by
  rw [foundCall_value]
  rcases p.calls with - | ⟨first, later⟩
  · cases firstOnly <;> simp [eq_comm]
  · cases firstOnly <;> simp [List.getLast?_cons]

/-- Narrowing to a call hands on the first or the last of the calls in post-order, and fails exactly
if there are none. A walk for the first one takes the turns of the full walk, up to where that one
finds something for the first time. -/
theorem findCall_hands_on_first_or_last (p : Place) :
    (∀ firstOnly, ((Operation.findCall firstOnly).apply p).value =
      (if firstOnly then p.calls.head? else p.calls.getLast?).elim (.error .noMatch) .ok) ∧
    (∀ firstOnly,
      ((Operation.findCall firstOnly).apply p).value = .error .noMatch ↔ p.calls = []) ∧
    ∀ c, ((Operation.findCall true).apply p).value = .ok c → ∃ before after midway,
      Walk.Turns (.callFinder false) (.start p none) before midway ∧ midway.state = none ∧
      Walk.Turns (.callFinder false) midway (.leave c :: after) (p.findCall false) ∧
      Walk.Turns (.callFinder true) (.start p none) (before ++ [.leave c]) (p.findCall true) := by
  simp only [Operation.apply]
  refine ⟨fun firstOnly ↦ foundCall_value firstOnly p,
    fun firstOnly ↦ foundCall_eq_error_iff.trans (and_iff_right rfl), fun c hc ↦ ?_⟩
  obtain ⟨hcall, before, after, htour, hbefore⟩ :=
    Place.exists_split_tour_of_head?_calls (foundCall_eq_ok_iff.1 hc)
  have hfull := (Visitor.turns_walk (.callFinder false) p none).1
  rw [Visitor.heard_of_never_done _ (fun _ ↦ rfl), htour] at hfull
  obtain ⟨midway, hfirst, hlater⟩ := hfull.split
  have hshort := (Visitor.turns_walk (.callFinder true) p none).1
  rw [htour, Visitor.heard_callFinder hcall hbefore] at hshort
  refine ⟨before, after, midway, hfirst, ?_, hlater, hshort⟩
  rw [hfirst.state_eq]
  exact Visitor.foldl_callFinder_eq_none hbefore false

/-- In `f(g())()` the first call that is left is `g()`, and the last is the whole. -/
theorem findCall_hands_on_first_or_last_nested :
    let g : Expr := .call (.identifier "g") []
    let f : Expr := .call (.identifier "f") [g]
    let p : Place := .root (.call f [])
    let first : Place := (p.child 0 f).child 1 g
    p.calls = [first, p.child 0 f, p] ∧
      ((Operation.findCall true).apply p).value = .ok first ∧
      ((Operation.findCall false).apply p).value = .ok p ∧
      ∃ before, Walk.Turns (.callFinder true) (.start p none) (before ++ [.leave first])
        (p.findCall true) := by
  intro g f p first
  have hcalls : p.calls = [first, p.child 0 f, p] := by cbv
  obtain ⟨hvalue, -, hturns⟩ := findCall_hands_on_first_or_last p
  have hfirst : ((Operation.findCall true).apply p).value = .ok first := by
    rw [hvalue, hcalls]
    rfl
  obtain ⟨before, -, -, -, -, -, hshort⟩ := hturns first hfirst
  refine ⟨hcalls, hfirst, ?_, before, hshort⟩
  rw [hvalue, hcalls]
  rfl

end ShapeQuery
