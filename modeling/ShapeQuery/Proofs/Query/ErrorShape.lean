import ShapeQuery.Proofs.Query.Diagnosis

/-!
# The shape of an error

An error has the shape of the operation that failed. Operations that try several things fail with an
aggregate of what they tried, those that pass a failure on do so as it is, and all others fail with
a reason of their own, which is not an aggregate (`Operation.Reports`). The errors inside an
aggregate are those of queries that are run alone, on the operands or on the same node; so what is
said of the whole error can be said of each of them again.

Two consequences are drawn by induction on the query. An aggregate is empty only if an operation
offers no alternatives, and aggregates are nested at most twice as deep as operations with queries
inside are (`QueryError.Within`): twice, because an operation for two sides wraps each of its two
attempts and then both together.
-/

namespace ShapeQuery

variable {n : Place} {err : QueryError}

/-! ### Errors inside errors -/

namespace QueryError

/-- Whether an error is put together from others. -/
def isAggregate : QueryError → Bool
  | aggregate _ => true
  | _ => false

/-- An error is part of another if it is that error or part of one that is put together in it. -/
inductive PartOf (x : QueryError) : QueryError → Prop
  | refl : PartOf x x
  | inside {err : QueryError} {errors : List QueryError} (hmem : err ∈ errors)
      (h : PartOf x err) : PartOf x (.aggregate errors)

mutual

/-- How deep aggregates are nested in an error. -/
def nesting : QueryError → Nat
  | aggregate errors => nestingAmong errors + 1
  | _ => 0

/-- The deepest nesting of aggregates in several errors. -/
def nestingAmong : List QueryError → Nat
  | [] => 0
  | err :: rest => max err.nesting (nestingAmong rest)

end

theorem nestingAmong_le {errors : List QueryError} {k : Nat} (h : ∀ err ∈ errors, err.nesting ≤ k) :
    nestingAmong errors ≤ k := by
  induction errors with
  | nil => exact Nat.zero_le k
  | cons err rest ih =>
    obtain ⟨hfirst, hrest⟩ := List.forall_mem_cons.1 h
    exact Nat.max_le.2 ⟨hfirst, ih hrest⟩

/-- What is said here of errors: they have no empty aggregate in them, as far as `clean` holds, and
aggregates nested no deeper than `k`. -/
structure Within (clean : Prop) (k : Nat) (err : QueryError) : Prop where
  nonempty : clean → ¬ (aggregate []).PartOf err
  nesting_le : err.nesting ≤ k

namespace Within

variable {clean clean' : Prop} {k k' : Nat}

theorem mono (h : Within clean k err) (hclean : clean' → clean) (hk : k ≤ k') :
    Within clean' k' err :=
  ⟨h.nonempty ∘ hclean, h.nesting_le.trans hk⟩

theorem of_isAggregate (h : err.isAggregate = false) : Within clean k err where
  nonempty _ hpart := by
    cases hpart with
    | refl => cases h
    | inside => cases h
  nesting_le := by
    cases err with
    | aggregate errors => cases h
    | _ => exact Nat.zero_le k

/-- Putting errors together nests them one level deeper. -/
theorem aggregate {errors : List QueryError} (hne : clean → errors ≠ [])
    (h : ∀ err ∈ errors, Within clean k err) : Within clean (k + 1) (.aggregate errors) where
  nonempty hclean hpart := by
    cases hpart with
    | refl => exact hne hclean rfl
    | inside hmem hpart => exact (h _ hmem).nonempty hclean hpart
  nesting_le := Nat.succ_le_succ (nestingAmong_le fun err herr ↦ (h err herr).nesting_le)

end Within

end QueryError

/-! ### Queries inside queries -/

mutual

/-- How deep queries are nested in an operation. -/
def Operation.nesting : Operation → Nat
  | .operands query => Query.nesting query + 1
  | .sides one other => max (Query.nesting one) (Query.nesting other) + 1
  | .rightSide query => Query.nesting query + 1
  | .either alternatives => Query.nestingAmong alternatives + 1
  | _ => 0

/-- How deep operations with queries inside are nested in a query. -/
def Query.nesting : List Operation → Nat
  | [] => 0
  | op :: rest => max op.nesting (Query.nesting rest)

/-- The deepest nesting in several queries. -/
def Query.nestingAmong : List (List Operation) → Nat
  | [] => 0
  | query :: rest => max (Query.nesting query) (Query.nestingAmong rest)

end

theorem Query.nesting_le_nestingAmong {alternatives : List Query} {query : Query}
    (h : query ∈ alternatives) : Query.nesting query ≤ Query.nestingAmong alternatives := by
  induction alternatives with
  | nil => cases h
  | cons first rest ih =>
    rw [nestingAmong]
    rcases List.mem_cons.1 h with rfl | h
    · exact Nat.le_max_left _ _
    · exact (ih h).trans (Nat.le_max_right _ _)

/-- A query inside an operation is nested less deep than the operation. -/
theorem Operation.nesting_lt_of_mem_nested {op : Operation} {query : Query}
    (h : query ∈ op.nested) : Query.nesting query < op.nesting := by
  cases op with
  | operands nested =>
    obtain rfl := List.mem_singleton.1 h
    exact Nat.le_refl _
  | sides one other =>
    rcases List.mem_pair.1 h with rfl | rfl
    · exact Nat.succ_le_succ (Nat.le_max_left _ _)
    · exact Nat.succ_le_succ (Nat.le_max_right _ _)
  | rightSide nested =>
    obtain rfl := List.mem_singleton.1 h
    exact Nat.le_refl _
  | either alternatives => exact Nat.succ_le_succ (Query.nesting_le_nestingAmong h)
  | _ => cases h

theorem Operation.not_occursIn_nil (op : Operation) : ¬ op.OccursIn [] := by
  rintro (hmem | ⟨houter, -, -⟩)
  · exact List.not_mem_nil hmem
  · exact List.not_mem_nil houter

theorem Operation.occursIn_cons_iff {op first : Operation} {rest : Query} :
    op.OccursIn (first :: rest) ↔
      op = first ∨ (∃ nested ∈ first.nested, op.OccursIn nested) ∨ op.OccursIn rest := by
  constructor
  · rintro (hmem | ⟨houter, hnested, h⟩)
    · exact (List.mem_cons.1 hmem).imp id (.inr ∘ .here)
    · rcases List.mem_cons.1 houter with rfl | houter
      · exact .inr (.inl ⟨_, hnested, h⟩)
      · exact .inr (.inr (.inside houter hnested h))
  · rintro (rfl | ⟨nested, hnested, h⟩ | h)
    · exact .here List.mem_cons_self
    · exact .inside List.mem_cons_self hnested h
    · exact h.mono (List.subset_cons_self first rest)

/-! ### What an operation fails with -/

/-- What one query on one tree and another on another fail with together: the error of the one, of
the other, or of both in order. -/
inductive Query.PairReports (one : Query) (e : Expr) (other : Query) (f : Expr) : QueryError → Prop
  | first {x : QueryError} (hone : (one.run e).result = .error x)
      (hother : (other.run f).isMatch = true) : PairReports one e other f (.aggregate [x])
  | second {y : QueryError} (hone : (one.run e).isMatch = true)
      (hother : (other.run f).result = .error y) : PairReports one e other f (.aggregate [y])
  | both {x y : QueryError} (hone : (one.run e).result = .error x)
      (hother : (other.run f).result = .error y) : PairReports one e other f (.aggregate [x, y])

/-- The shape of the errors that an operation fails with at a node. -/
def Operation.Reports : Operation → Expr → QueryError → Prop
  | .operands query, .binary _ left right, err => Query.PairReports query left query right err
  | .operands query, .unary _ operand _, err => (Query.run query operand).result = .error err
  | .sides one other, .binary _ left right, err =>
    ∃ first second, err = .aggregate [first, second] ∧
      Query.PairReports one left other right first ∧ Query.PairReports one right other left second
  | .rightSide query, .assign _ _ right, err => (Query.run query right).result = .error err
  | .rightSide query, .binary _ _ right, err => (Query.run query right).result = .error err
  | .rightSide query, .declarator _ (some initial), err =>
    (Query.run query initial).result = .error err
  | .either alternatives, e, err =>
    ∃ errors, err = .aggregate errors ∧
      List.Forall₂ (fun query err ↦ (Query.run query e).result = .error err) alternatives errors
  | _, _, err => err.isAggregate = false

/-- Two runs inside a tree fail together with what they fail with alone. -/
theorem Query.pairReports_of_requireAll {one other : Query} {p m : Place}
    (h : requireAll p [(Query.execute one n .empty).result,
      (Query.execute other m .empty).result] = .error err) :
    Query.PairReports one n.node other m.node err := by
  have hone := one.isMatch_execute n .empty
  have hother := other.isMatch_execute m .empty
  rcases hx : (Query.execute one n .empty).result with x | a
  · rcases hy : (Query.execute other m .empty).result with y | b
    · rw [hx, hy] at h
      obtain rfl : .aggregate [x, y] = err := Except.error.inj h
      exact .both (execute_eq_error_iff.1 hx) (execute_eq_error_iff.1 hy)
    · rw [hx, hy] at h
      obtain rfl : .aggregate [x] = err := Except.error.inj h
      rw [Run.isMatch, hy] at hother
      exact .first (execute_eq_error_iff.1 hx) hother.symm
  · rcases hy : (Query.execute other m .empty).result with y | b
    · rw [hx, hy] at h
      obtain rfl : .aggregate [y] = err := Except.error.inj h
      rw [Run.isMatch, hx] at hone
      exact .second hone.symm (execute_eq_error_iff.1 hy)
    · rw [hx, hy] at h
      cases h

namespace Operation

theorem reports_operands {query : Query}
    (h : ((Operation.operands query).apply n).value = .error err) :
    (Operation.operands query).Reports n.node err := by
  obtain ⟨trail, node⟩ := n
  cases node with
  | binary op left right => exact Query.pairReports_of_requireAll h
  | unary op operand postfixed =>
    exact Query.execute_eq_error_iff.1 (Except.map_eq_error_iff.1 h)
  | _ =>
    obtain rfl : QueryError.structureMismatch _ = err := Except.error.inj h
    rfl

theorem reports_sides {one other : Query}
    (h : ((Operation.sides one other).apply n).value = .error err) :
    (Operation.sides one other).Reports n.node err := by
  obtain ⟨trail, node⟩ := n
  cases node with
  | binary op left right =>
    obtain ⟨first, second, rfl, hfirst, hsecond⟩ := apply_sides_eq_error rfl h
    exact ⟨first, second, rfl, Query.pairReports_of_requireAll hfirst,
      Query.pairReports_of_requireAll hsecond⟩
  | _ =>
    obtain rfl : QueryError.typeMismatch [.binary] _ = err := Except.error.inj h
    rfl

theorem reports_rightSide {query : Query}
    (h : ((Operation.rightSide query).apply n).value = .error err) :
    (Operation.rightSide query).Reports n.node err := by
  obtain ⟨trail, node⟩ := n
  cases node with
  | assign op left right => exact Query.execute_eq_error_iff.1 (Except.map_eq_error_iff.1 h)
  | binary op left right => exact Query.execute_eq_error_iff.1 (Except.map_eq_error_iff.1 h)
  | declarator name initial =>
    cases initial with
    | none =>
      obtain ⟨-, rfl⟩ := ite_eq_error_iff.1 h
      rfl
    | some initial => exact Query.execute_eq_error_iff.1 (Except.map_eq_error_iff.1 h)
  | _ =>
    obtain rfl : QueryError.structureMismatch _ = err := Except.error.inj h
    rfl

theorem reports_either {alternatives : List Query}
    (h : ((Operation.either alternatives).apply n).value = .error err) :
    (Operation.either alternatives).Reports n.node err := by
  rw [value_either, Except.map_eq_error_iff, Except.mapError_eq_error_iff] at h
  obtain ⟨errors, herrors, rfl⟩ := h
  have hresults := tryEach_eq_error_iff.1 herrors
  rw [← List.forall₂_eq_eq_eq, List.forall₂_map_left_iff, List.forall₂_map_right_iff] at hresults
  exact ⟨errors, rfl, hresults.imp fun query err hresult ↦ Query.execute_eq_error_iff.1 hresult⟩

end Operation

/-! ### Reasons of an operation's own -/

theorem isAggregate_of_expectKind {expected : List ExprKind}
    (h : expectKind expected n = .error err) : err.isAggregate = false := by
  obtain ⟨-, rfl⟩ := ite_eq_error_iff.1 h
  rfl

theorem isAggregate_of_expectAnonymousCall (h : expectAnonymousCall n = .error err) :
    err.isAggregate = false := by
  rw [expectAnonymousCall_eq] at h
  split at h
  · exact isAggregate_of_expectKind (Except.map_eq_error_iff.1 h)
  · exact isAggregate_of_expectKind h

theorem isAggregate_of_expectOperator {operators : List Operator}
    (h : expectOperator operators n = .error err) : err.isAggregate = false := by
  rw [expectOperator] at h
  split at h
  · exact Except.error.inj h ▸ rfl
  · obtain ⟨-, rfl⟩ := ite_eq_error_iff.1 h
    rfl

theorem isAggregate_of_calleeName (h : calleeName n = .error err) : err.isAggregate = false := by
  rw [calleeName] at h
  split at h
  · dsimp only at h
    split at h
    · cases h
    · split at h
      · cases h
      · exact Except.error.inj h ▸ rfl
    · exact Except.error.inj h ▸ rfl
  · exact isAggregate_of_expectKind h

theorem isAggregate_of_expectName {pattern : Pattern} (h : expectName pattern n = .error err) :
    err.isAggregate = false := by
  rw [expectName] at h
  split at h
  · obtain ⟨-, rfl⟩ := ite_eq_error_iff.1 h
    rfl
  · exact Except.error.inj h ▸ rfl

theorem isAggregate_of_check {content : Content} {budget : Nat}
    (h : content.check n.node budget = .error err) : err.isAggregate = false := by
  rw [Content.check_eq_verdict] at h
  obtain ⟨w, -, ⟨rfl, -⟩ | ⟨-, rfl⟩⟩ := Content.exists_walked_of_verdict_eq_error h
  · rfl
  · rw [Content.refusal]
    split <;> rfl

theorem isAggregate_of_foundThis (h : (foundThis n).value = .error err) :
    err.isAggregate = false := by
  rw [foundThis] at h
  dsimp only at h
  rw [← ite_not] at h
  obtain ⟨-, rfl⟩ := ite_eq_error_iff.1 h
  rfl

/-- Every operation fails with an error of its shape. -/
theorem Operation.reports_of_apply {op : Operation} (h : (op.apply n).value = .error err) :
    op.Reports n.node err := by
  cases op with
  | pass => cases h
  | guard g => exact isAggregate_of_expectKind h
  | anonymousCall => exact isAggregate_of_expectAnonymousCall h
  | hasOperator operators => exact isAggregate_of_expectOperator h
  | operands query => exact reports_operands h
  | sides one other => exact reports_sides h
  | rightSide query => exact reports_rightSide h
  | either alternatives => exact reports_either h
  | accept content budget => exact isAggregate_of_check (Except.map_eq_error_iff.1 h)
  | findCall firstOnly =>
    obtain ⟨rfl, -⟩ := foundCall_eq_error_iff.1 h
    rfl
  | calleeIdentifier => exact isAggregate_of_calleeName h
  | containsThis => exact isAggregate_of_foundThis h
  | nameMatches pattern => exact isAggregate_of_expectName h

/-! ### Runs -/

/-- A run that fails does so at an operation that is reached. -/
theorem Query.exists_failing {query : Query} {c : Capture}
    (h : (Query.execute query n c).result = .error err) :
    ∃ before op after p, query = before ++ op :: after ∧
      (Query.execute before n .empty).result = .ok p ∧ (op.apply p).value = .error err := by
  induction query generalizing n c with
  | nil => cases h
  | cons op rest ih =>
    rw [execute] at h
    rcases hvalue : (op.apply n).value with first | q
    · rw [hvalue] at h
      obtain rfl : first = err := Except.error.inj h
      exact ⟨[], op, rest, n, rfl, rfl, hvalue⟩
    · rw [hvalue] at h
      obtain ⟨before, op', after, p, rfl, hreached, hfailed⟩ := ih h
      refine ⟨op :: before, op', after, p, rfl, ?_, hfailed⟩
      rw [execute, hvalue]
      exact (Query.result_execute before q _).trans hreached

/-- A query keeps its errors within bounds if they have no empty aggregate, provided that no choice
inside the query is without alternatives, and if they are nested at most twice as deep as it is. -/
def Query.Contained (query : Query) : Prop :=
  ∀ e err, (query.run e).result = .error err →
    err.Within (¬ (Operation.either []).OccursIn query) (2 * Query.nesting query)

/-- The same for what an operation fails with. -/
def Operation.Contained (op : Operation) : Prop :=
  ∀ e err, op.Reports e err → err.Within (¬ (Operation.either []).OccursIn [op]) (2 * op.nesting)

theorem Query.PairReports.within {one other : Query} {e f : Expr} {clean : Prop} {k : Nat}
    (h : Query.PairReports one e other f err)
    (hone : ∀ x, (one.run e).result = .error x → x.Within clean k)
    (hother : ∀ y, (other.run f).result = .error y → y.Within clean k) :
    err.Within clean (k + 1) := by
  cases h with
  | first hx _ =>
    exact .aggregate (fun _ ↦ List.cons_ne_nil _ _) (List.forall_mem_singleton.2 (hone _ hx))
  | second _ hy =>
    exact .aggregate (fun _ ↦ List.cons_ne_nil _ _) (List.forall_mem_singleton.2 (hother _ hy))
  | both hx hy =>
    exact .aggregate (fun _ ↦ List.cons_ne_nil _ _)
      (List.forall_mem_cons.2 ⟨hone _ hx, List.forall_mem_singleton.2 (hother _ hy)⟩)

/-- An operation keeps its errors within bounds if the queries inside it do. -/
theorem Operation.contained_of_nested (op : Operation) (h : ∀ query ∈ op.nested, query.Contained) :
    op.Contained := by
  intro e err hreports
  -- an error of a query inside is nested at least two levels less deep than is allowed here
  have hinside : ∀ query ∈ op.nested, ∀ e err, (query.run e).result = .error err →
      err.Within (¬ (Operation.either []).OccursIn [op]) (2 * op.nesting - 2) := by
    intro query hquery e err herr
    have hnesting := nesting_lt_of_mem_nested hquery
    refine (h query hquery e err herr).mono (mt fun hoccurs ↦ ?_) (by omega)
    exact .inside List.mem_cons_self hquery hoccurs
  cases op with
  | operands query =>
    have hquery := hinside query List.mem_cons_self
    cases e with
    | binary _ left right =>
      refine (Query.PairReports.within hreports (hquery left) (hquery right)).mono id ?_
      simp only [Operation.nesting]
      omega
    | unary _ operand _ => exact (hquery operand err hreports).mono id (Nat.sub_le _ _)
    | _ => exact .of_isAggregate hreports
  | sides one other =>
    have hone := hinside one List.mem_cons_self
    have hother := hinside other (List.mem_cons_of_mem _ List.mem_cons_self)
    cases e with
    | binary _ left right =>
      obtain ⟨first, second, rfl, hfirst, hsecond⟩ := hreports
      have hattempts := List.forall_mem_cons.2 ⟨hfirst.within (hone left) (hother right),
        List.forall_mem_singleton.2 (hsecond.within (hone right) (hother left))⟩
      refine (QueryError.Within.aggregate (fun _ ↦ List.cons_ne_nil _ _) hattempts).mono id ?_
      simp only [Operation.nesting]
      omega
    | _ => exact .of_isAggregate hreports
  | rightSide query =>
    have hquery := hinside query List.mem_cons_self
    cases e with
    | assign _ _ right => exact (hquery right err hreports).mono id (Nat.sub_le _ _)
    | binary _ _ right => exact (hquery right err hreports).mono id (Nat.sub_le _ _)
    | declarator _ initial =>
      cases initial with
      | none => exact .of_isAggregate hreports
      | some initial => exact (hquery initial err hreports).mono id (Nat.sub_le _ _)
    | _ => exact .of_isAggregate hreports
  | either alternatives =>
    obtain ⟨errors, rfl, herrors⟩ := hreports
    refine (QueryError.Within.aggregate (k := 2 * (Operation.either alternatives).nesting - 2)
      (fun hclean hnil ↦ ?_) fun err herr ↦ ?_).mono id ?_
    · subst hnil
      obtain rfl : alternatives = [] := List.forall₂_nil_right_iff.1 herrors
      exact hclean (.here List.mem_cons_self)
    · obtain ⟨i, hi, rfl⟩ := List.getElem_of_mem herr
      have hlt : i < alternatives.length := herrors.length_eq ▸ hi
      exact hinside _ (List.getElem_mem hlt) e _ (herrors.get hlt hi)
    · simp only [Operation.nesting]
      omega
  | _ => exact .of_isAggregate hreports

theorem Query.contained_cons {op : Operation} {rest : Query} (hop : op.Contained)
    (hrest : rest.Contained) : Query.Contained (op :: rest) := by
  intro e err herr
  rw [run, execute] at herr
  rcases hvalue : (op.apply (.root e)).value with first | q
  · rw [hvalue] at herr
    obtain rfl : first = err := Except.error.inj herr
    refine (hop e first (Operation.reports_of_apply hvalue)).mono (mt fun hoccurs ↦ ?_) ?_
    · exact hoccurs.mono (List.cons_subset.2 ⟨List.mem_cons_self, List.nil_subset _⟩)
    · exact Nat.mul_le_mul_left 2 (Nat.le_max_left _ _)
  · rw [hvalue] at herr
    refine (hrest q.node err (execute_eq_error_iff.1 herr)).mono (mt fun hoccurs ↦ ?_) ?_
    · exact hoccurs.mono (List.subset_cons_self op rest)
    · exact Nat.mul_le_mul_left 2 (Nat.le_max_right _ _)

/-- Every query keeps its errors within bounds. -/
theorem Query.contained (query : Query) : query.Contained :=
  QueryInduction.query (P := Operation.Contained)
    { step := Operation.contained_of_nested
      nil := fun _ _ h ↦ (nomatch h)
      cons := fun _ _ ↦ Query.contained_cons } query

/-- The error of a run that fails has the shape of the first operation that does, at the place that
the operations before it lead to; what is put together in it are errors of runs of the queries
inside the operation, of which the same is true. If no choice in the query is without alternatives,
then no aggregate in the error is empty, and aggregates are nested at most twice as deep in the
error as operations with queries inside are in the query. -/
theorem run_error_mirrors_query (query : Query) (e : Expr) (err : QueryError)
    (h : (query.run e).result = .error err) :
    (∃ before op after p, query = before ++ op :: after ∧ (Query.run before e).result = .ok p ∧
      (op.apply p).value = .error err ∧ op.Reports p.node err) ∧
    (¬ (Operation.either []).OccursIn query → ¬ (QueryError.aggregate []).PartOf err) ∧
    err.nesting ≤ 2 * Query.nesting query := by
  obtain ⟨before, op, after, p, hquery, hreached, hfailed⟩ := Query.exists_failing h
  obtain ⟨hnonempty, hnesting⟩ := query.contained e err h
  exact ⟨⟨before, op, after, p, hquery, hreached, hfailed, Operation.reports_of_apply hfailed⟩,
    hnonempty, hnesting⟩

/-- In `this * 0` there is no call on either side. One side holds `this`, so that the first attempt
fails with one error and the second with two, and the bound on the nesting is reached. -/
theorem run_error_mirrors_query_product :
    let e : Expr := .binary .times .thisRef (.number .zero)
    let query : Query := [.pass, .sides [.containsThis] [.guard .call]]
    let err : QueryError := .aggregate [.aggregate [.typeMismatch [.call] .number],
      .aggregate [.noMatch, .typeMismatch [.call] .thisRef]]
    (query.run e).result = .error err ∧ err.nesting = 2 * Query.nesting query ∧
      (∃ before op after p, query = before ++ op :: after ∧ (Query.run before e).result = .ok p ∧
        (op.apply p).value = .error err ∧ op.Reports p.node err) ∧
      ¬ (QueryError.aggregate []).PartOf err := by
  intro e query err
  have hrun : (query.run e).result = .error err := by cbv
  obtain ⟨hshape, hnonempty, -⟩ := run_error_mirrors_query query e err hrun
  refine ⟨hrun, rfl, hshape, hnonempty ?_⟩
  simp [query, Operation.occursIn_cons_iff, Operation.not_occursIn_nil, Operation.nested]

end ShapeQuery
