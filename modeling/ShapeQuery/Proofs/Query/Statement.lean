import ShapeQuery.Query.Statement

/-!
# The trees of a statement

A query on a statement is a query on trees: on those that `Statement.queried` lists, one after the
other. If there are any, the run on the statement is the run on each of them in turn
(`Query.executeStatement_eq_executeEach`). If there are none, the kind of the statement decides, and
nothing is captured (`Query.executeStatement_of_queried_nil`).
-/

namespace ShapeQuery

/-- The trees that a query on a statement is run on, in order. -/
def Statement.queried : Statement → List Expr
  | .expression e => [e]
  | .returns argument => argument.toList
  | .declaration declarators => declarators
  | _ => []

namespace Query

variable {query : Query}

/-- On one tree, a run in turn is a run. -/
theorem executeEach_singleton (e : Expr) (c : Capture) :
    query.executeEach [e] c = (Query.execute query (.root e) c).verdict := by
  rw [executeEach, Run.verdict]
  cases (Query.execute query (.root e) c).result with
  | error err => rfl
  | ok p => simp only [executeEach, List.append_nil]; rfl

/-- A run on a statement with trees in it is the run on each of them in turn. -/
theorem executeStatement_eq_executeEach {s : Statement} (h : s.queried ≠ []) (c : Capture) :
    query.executeStatement s c = query.executeEach s.queried c := by
  cases s with
  | expression e => exact (executeEach_singleton e c).symm
  | returns argument =>
    cases argument with
    | none => exact absurd rfl h
    | some e => exact (executeEach_singleton e c).symm
  | declaration declarators => rfl
  | _ => exact absurd rfl h

/-- The run on a statement without trees depends on the kind of the statement. -/
theorem executeStatement_of_queried_nil {s : Statement} (h : s.queried = []) (c : Capture) :
    query.executeStatement s c =
      match s.kind with
      | .declaration => ⟨.ok (), c, []⟩
      | .returns => ⟨if query.isEmpty then .ok () else .error .missingNode, c, []⟩
      | kind => ⟨.error (.unsupportedStatement kind), c, [.rejecting kind]⟩ := by
  cases s with
  | expression e => cases h
  | returns argument =>
    cases argument with
    | none => rfl
    | some e => cases h
  | declaration declarators =>
    obtain rfl : declarators = [] := h
    rfl
  | _ => rfl

end Query

end ShapeQuery
