import ShapeQuery.Proofs.Query.Context

/-!
# Two sides in either order

An operation for two sides tries two queries on the operands of a binary operation, first in one
order and then in the other. Each attempt runs both queries, whether or not the first one fails, and
reports the failures in the order of the queries (`Query.pairFailures`).

The two attempts on the swapped operands are the same two attempts, the other way round; with both
the operands and the queries swapped they come in the same order, but each reports in reverse
(`Query.pairFailures_swap`). The operation is a function of the two attempts alone
(`Operation.value_sides`), and so it is symmetric in both of its arguments, with the errors mirrored
(`sides_symmetric`).

An operand is at another place after it has been swapped. It makes no difference, because how a run
ends depends on the subtree and not on where it stands (`Query.outcome_execute`).
-/

namespace ShapeQuery

variable {one other : Query} {e f : Expr}

/-! ### One attempt -/

/-- What two queries fail with if each is run on a tree of its own: no error, the error of one of
them, or both errors in order. -/
def Query.pairFailures (one other : Query) (e f : Expr) : List QueryError :=
  failures [(one.run e).result, (other.run f).result]

namespace Query

theorem pairFailures_swap (one other : Query) (e f : Expr) :
    pairFailures other one f e = (pairFailures one other e f).reverse := by
  rw [pairFailures, pairFailures, failures, failures, ← List.filterMap_reverse]
  rfl

theorem pairFailures_eq_nil_iff :
    pairFailures one other e f = [] ↔
      (one.run e).isMatch = true ∧ (other.run f).isMatch = true := by
  rw [pairFailures, failures_eq_nil_iff, List.forall_mem_cons, List.forall_mem_singleton,
    Run.isMatch, Run.isMatch, Except.isOk_iff, Except.isOk_iff]

/-- An attempt inside a tree fails with what the queries fail with on the subtrees. -/
theorem failures_execute (one other : Query) (n m : Place) :
    failures [(Query.execute one n .empty).result, (Query.execute other m .empty).result] =
      pairFailures one other n.node m.node := by
  refine failures_congr ?_
  simp only [List.map_cons, List.map_nil, outcome_execute]

end Query

/-! ### Both attempts -/

/-- The value of an operation for two sides depends on what each of its attempts fails with. -/
theorem Operation.value_sides (one other : Query) (t : List Nat) (op : Operator)
    (left right : Expr) :
    ((Operation.sides one other).apply ⟨t, .binary op left right⟩).value =
      if (one.pairFailures other left right).isEmpty || (one.pairFailures other right left).isEmpty
      then .ok ⟨t, .binary op left right⟩
      else .error (.aggregate [.aggregate (one.pairFailures other left right),
        .aggregate (one.pairFailures other right left)]) := by
  simp only [Operation.apply, requireAll, Query.failures_execute, Place.child]
  rcases one.pairFailures other left right with - | ⟨x, xs⟩
  · rfl
  · rcases one.pairFailures other right left with - | ⟨y, ys⟩
    · rfl
    · rfl

theorem Operation.isOk_value_sides (one other : Query) (t : List Nat) (op : Operator)
    (left right : Expr) :
    ((Operation.sides one other).apply ⟨t, .binary op left right⟩).value.isOk =
      ((one.pairFailures other left right).isEmpty ||
        (one.pairFailures other right left).isEmpty) := by
  rw [value_sides]
  cases (one.pairFailures other left right).isEmpty ||
    (one.pairFailures other right left).isEmpty <;> rfl

/-- An operation for two sides accepts a binary operation if it accepts the one with the operands
swapped, and if the operation with the queries swapped accepts it: that is, if the queries match the
operands in one order or in the other. Where it fails, it does so with two aggregates. They come in
the other order if the operands are swapped, and with their errors in reverse if the operands and
the queries are swapped. -/
theorem sides_symmetric (one other : Query) (op : Operator) (left right : Expr) (t : List Nat) :
    let value := fun (one other : Query) (left right : Expr) ↦
      ((Operation.sides one other).apply ⟨t, .binary op left right⟩).value
    (value one other left right).isOk = (value one other right left).isOk ∧
    (value one other left right).isOk = (value other one left right).isOk ∧
    ((value one other left right).isOk = true ↔
      ((one.run left).isMatch = true ∧ (other.run right).isMatch = true) ∨
        (one.run right).isMatch = true ∧ (other.run left).isMatch = true) ∧
    ∀ err, value one other left right = .error err → ∃ xs ys,
      err = .aggregate [.aggregate xs, .aggregate ys] ∧
      value one other right left = .error (.aggregate [.aggregate ys, .aggregate xs]) ∧
      value other one right left =
        .error (.aggregate [.aggregate xs.reverse, .aggregate ys.reverse]) := by
  intro value
  have hswapped : ∀ e f, other.pairFailures one f e = (one.pairFailures other e f).reverse :=
    one.pairFailures_swap other
  refine ⟨?_, ?_, ?_, fun err herr ↦ ?_⟩
  · simp only [value, Operation.isOk_value_sides]
    exact Bool.or_comm _ _
  · simp only [value, Operation.isOk_value_sides, hswapped, List.isEmpty_reverse]
    exact Bool.or_comm _ _
  · simp only [value, Operation.isOk_value_sides, Bool.or_eq_true, List.isEmpty_iff,
      Query.pairFailures_eq_nil_iff]
  · -- both attempts have failed, and so they have in the other order
    have hfailed : ((one.pairFailures other left right).isEmpty ||
        (one.pairFailures other right left).isEmpty) = false := by
      rw [← Operation.isOk_value_sides one other t op]
      exact congrArg Except.isOk herr
    refine ⟨one.pairFailures other left right, one.pairFailures other right left, ?_, ?_, ?_⟩
    · simp only [value, Operation.value_sides, hfailed] at herr
      exact (Except.error.inj herr).symm
    · rw [Bool.or_comm] at hfailed
      simp only [value, Operation.value_sides, hfailed]
      rfl
    · simp only [value, Operation.value_sides, hswapped, List.isEmpty_reverse, hfailed]
      rfl

/-- On `x + 0` a query for a call and one for a number match in neither order. The first attempt
fails on one side and the second on both. -/
theorem sides_symmetric_neither_order :
    let call : Query := [.guard .call]
    let number : Query := [.accept .numbers 1]
    let x : Expr := .identifier "x"
    let zero : Expr := .number .zero
    let first : QueryError := .typeMismatch [.call] .identifier
    let second : QueryError := .typeMismatch [.call] .number
    let third : QueryError := .structureMismatch .identifier
    ((Operation.sides call number).apply (.root (.binary .plus x zero))).value =
        .error (.aggregate [.aggregate [first], .aggregate [second, third]]) ∧
      ((Operation.sides call number).apply (.root (.binary .plus zero x))).value =
        .error (.aggregate [.aggregate [second, third], .aggregate [first]]) ∧
      ((Operation.sides number call).apply (.root (.binary .plus zero x))).value =
        .error (.aggregate [.aggregate [first], .aggregate [third, second]]) := by
  intro call number x zero first second third
  have hfailed : ((Operation.sides call number).apply (.root (.binary .plus x zero))).value =
      .error (.aggregate [.aggregate [first], .aggregate [second, third]]) := by cbv
  obtain ⟨-, -, -, herror⟩ := sides_symmetric call number .plus x zero []
  obtain ⟨xs, ys, heq, hoperands, hboth⟩ := herror _ hfailed
  obtain ⟨rfl, rfl⟩ : [first] = xs ∧ [second, third] = ys := by
    simpa only [QueryError.aggregate.injEq, List.cons.injEq, and_true] using heq
  exact ⟨hfailed, hoperands, hboth⟩

end ShapeQuery
