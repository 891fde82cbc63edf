import ShapeQuery.Proofs.Query.ContentCheck
import ShapeQuery.Proofs.Query.Induction
import ShapeQuery.Proofs.Walk.Finders
import ShapeQuery.Query.Run

/-!
# What a query means

A query leads from a place to a place. `Operation.Leads` and `Query.Leads` say when, by recursion on
the query and in terms of the tree alone: there are no results, errors, captures or logs in them, no
walk, no list of nodes still to be checked, and no order in which the parts of a node are tried.
Where the result of a query inside an operation does not matter, all that is asked is that it leads
somewhere.

`execute_decides_leads` is the agreement of the two: a run ends at a place if the query
leads there, and fails if the query leads nowhere. In particular a query leads from a place to at
most one. The proof has one lemma for each operation, for the operations without queries inside
about the function that they are (`expectKind_eq_ok_iff` and those after it), for the others under
the assumption that the queries inside are understood (`Query.Understood`); the run lemma puts them
together by induction on the query.
-/

namespace ShapeQuery

/-! ### Where a query leads -/

mutual

/-- Where an operation leads from a place. Two operations narrow; from a place that they accept, the
others lead to that same place. -/
@[simp] def Operation.Leads : Operation → Place → Place → Prop
  | .pass, n, m => m = n
  | .guard g, n, m => m = n ∧ n.kind ∈ g.kinds
  | .anonymousCall, n, m =>
    m = n ∧ ∃ callee args, n.node = .call callee args ∧ callee.kind = .function
  | .hasOperator operators, n, m =>
    m = n ∧ ∃ op ∈ operators,
      (∃ left right, n.node = .assign op left right) ∨
      (∃ left right, n.node = .binary op left right) ∨
      ∃ operand postfixed, n.node = .unary op operand postfixed
  | .operands query, n, m =>
    m = n ∧
      ((∃ op left right, n.node = .binary op left right ∧
          (∃ x, Query.Leads query (n.child 0 left) x) ∧
          ∃ x, Query.Leads query (n.child 1 right) x) ∨
        ∃ op operand postfixed, n.node = .unary op operand postfixed ∧
          ∃ x, Query.Leads query (n.child 0 operand) x)
  | .sides one other, n, m =>
    m = n ∧ ∃ op left right, n.node = .binary op left right ∧
      (((∃ x, Query.Leads one (n.child 0 left) x) ∧ ∃ x, Query.Leads other (n.child 1 right) x) ∨
        (∃ x, Query.Leads one (n.child 1 right) x) ∧ ∃ x, Query.Leads other (n.child 0 left) x)
  | .rightSide query, n, m =>
    m = n ∧
      ((∃ op left right, n.node = .assign op left right ∧
          ∃ x, Query.Leads query (n.child 1 right) x) ∨
        (∃ op left right, n.node = .binary op left right ∧
          ∃ x, Query.Leads query (n.child 1 right) x) ∨
        (∃ name initial, n.node = .declarator name (some initial) ∧
          ∃ x, Query.Leads query (n.child 0 initial) x) ∨
        ∃ name, n.node = .declarator name none ∧ query = [])
  | .either alternatives, n, m => m = n ∧ Query.SomeLeads alternatives n
  | .accept content budget, n, m => m = n ∧ content.Pure n.node ∧ n.node.height ≤ budget
  | .findCall firstOnly, n, m => (if firstOnly then n.calls.head? else n.calls.getLast?) = some m
  | .calleeIdentifier, n, m =>
    (∃ name args, n.node = .call (.identifier name) args ∧ m = n.child 0 (.identifier name)) ∨
      ∃ left name args, n.node = .call (.dot left (.identifier name)) args ∧
        m = (n.child 0 (.dot left (.identifier name))).child 1 (.identifier name)
  | .containsThis, n, m => m = n ∧ ∃ p, n.Walked p ∧ p.node = .thisRef
  | .nameMatches pattern, n, m =>
    m = n ∧ ∃ name, n.node = .identifier name ∧ pattern.isMatch name = true

/-- Where a query leads from a place: through one place after each of its operations. -/
@[simp] def Query.Leads : List Operation → Place → Place → Prop
  | [], n, m => m = n
  | op :: rest, n, m => ∃ k, Operation.Leads op n k ∧ Query.Leads rest k m

/-- One of the queries leads somewhere. -/
@[simp] def Query.SomeLeads : List (List Operation) → Place → Prop
  | [], _ => False
  | query :: rest, n => (∃ m, Query.Leads query n m) ∨ Query.SomeLeads rest n

end

/-! ### Operations without queries inside -/

variable {n m : Place}

/-- A place that passes under a condition. -/
theorem ite_eq_ok_iff {c : Prop} [Decidable c] {err : QueryError} :
    (if c then .ok n else .error err : Except QueryError Place) = .ok m ↔ m = n ∧ c := by
  by_cases hc : c
  · rw [if_pos hc, Except.ok.injEq]
    exact ⟨fun h ↦ ⟨h.symm, hc⟩, fun h ↦ h.1.symm⟩
  · rw [if_neg hc]
    exact ⟨fun h ↦ (nomatch h), fun h ↦ absurd h.2 hc⟩

/-- A place that passes if a result is good. -/
theorem map_const_eq_ok_iff {α : Type} {result : Except QueryError α} :
    (result.map fun _ ↦ n) = .ok m ↔ m = n ∧ ∃ a, result = .ok a := by
  cases result with
  | error err => exact ⟨fun h ↦ (nomatch h), fun ⟨_, _, h⟩ ↦ (nomatch h)⟩
  | ok a =>
    show Except.ok n = .ok m ↔ _
    rw [Except.ok.injEq]
    exact ⟨fun h ↦ ⟨h.symm, a, rfl⟩, fun h ↦ h.1.symm⟩

theorem expectKind_eq_ok_iff {expected : List ExprKind} :
    expectKind expected n = .ok m ↔ m = n ∧ n.kind ∈ expected := by
  rw [expectKind, ite_eq_ok_iff, List.contains_iff_mem]

theorem expectKind_singleton_eq_ok_iff {kind : ExprKind} :
    expectKind [kind] n = .ok m ↔ m = n ∧ n.kind = kind := by
  rw [expectKind_eq_ok_iff, List.mem_singleton]

theorem expectAnonymousCall_eq_ok_iff :
    expectAnonymousCall n = .ok m ↔ Operation.anonymousCall.Leads n m := by
  obtain ⟨trail, node⟩ := n
  cases node with
  | call callee args =>
    -- the callee is checked by kind, but it is the call that is handed on
    show (expectKind [.function] (Place.child ⟨trail, _⟩ 0 callee)).map _ = .ok m ↔ _
    rw [map_const_eq_ok_iff, Operation.Leads]
    refine and_congr_right fun _ ↦ ⟨fun ⟨_, h⟩ ↦ ?_, fun ⟨_, _, h, hkind⟩ ↦ ?_⟩
    · exact ⟨callee, args, rfl, (expectKind_singleton_eq_ok_iff.1 h).2⟩
    · cases h
      exact ⟨_, expectKind_singleton_eq_ok_iff.2 ⟨rfl, hkind⟩⟩
  | _ =>
    rw [Operation.Leads]
    refine ⟨fun h ↦ ?_, fun ⟨_, _, _, h, _⟩ ↦ (nomatch h)⟩
    cases (expectKind_singleton_eq_ok_iff.1 h).2

theorem Expr.operator?_eq_some_iff {e : Expr} {op : Operator} :
    e.operator? = some op ↔
      (∃ left right, e = .assign op left right) ∨ (∃ left right, e = .binary op left right) ∨
        ∃ operand postfixed, e = .unary op operand postfixed := by
  cases e <;> simp [operator?]

theorem expectOperator_eq_ok_iff {operators : List Operator} :
    expectOperator operators n = .ok m ↔ (Operation.hasOperator operators).Leads n m := by
  simp only [Operation.Leads, ← Expr.operator?_eq_some_iff]
  rcases hop : n.node.operator? with - | op
  · simp [expectOperator, hop]
  · simp only [expectOperator, hop]
    rw [ite_eq_ok_iff, List.contains_iff_mem]
    simp

theorem calleeName_eq_ok_iff : calleeName n = .ok m ↔ Operation.calleeIdentifier.Leads n m := by
  obtain ⟨trail, node⟩ := n
  rw [Operation.Leads]
  cases node with
  | call callee args =>
    cases callee with
    | identifier name => simp [calleeName, eq_comm]
    | dot left member => cases member <;> simp [calleeName, eq_comm]
    | _ => simp [calleeName]
  | _ =>
    refine ⟨fun h ↦ ?_, ?_⟩
    · cases (expectKind_singleton_eq_ok_iff.1 h).2
    · rintro (⟨_, _, h, _⟩ | ⟨_, _, _, h, _⟩) <;> cases h

theorem expectName_eq_ok_iff {pattern : Pattern} :
    expectName pattern n = .ok m ↔ (Operation.nameMatches pattern).Leads n m := by
  obtain ⟨trail, node⟩ := n
  rw [Operation.Leads]
  cases node with
  | identifier name =>
    show (if pattern.isMatch name then _ else _) = _ ↔ _
    rw [ite_eq_ok_iff]
    simp
  | _ => simp [expectName]

/-- Looking for a call leads to the first or the last one in post-order. -/
theorem foundCall_eq_ok_iff {firstOnly : Bool} :
    (foundCall firstOnly n).value = .ok m ↔ (Operation.findCall firstOnly).Leads n m := by
  rw [Operation.Leads, ← n.state_findCall]
  show (n.findCall firstOnly).state.elim _ _ = _ ↔ _
  cases (n.findCall firstOnly).state with
  | none => simp
  | some p => simp

/-- A place passes if `this` is walked from it. -/
theorem foundThis_eq_ok_iff :
    (foundThis n).value = .ok m ↔ Operation.containsThis.Leads n m := by
  rw [Operation.Leads, ← Visitor.state_thisCounter_ne_zero_iff]
  show (if (Visitor.thisCounter.walk n 0).state = 0 then _ else _) = _ ↔ _
  rw [← ite_not, ite_eq_ok_iff]

/-- A place passes if its subtree is pure and no higher than the budget. -/
theorem check_eq_ok_iff {content : Content} {budget : Nat} :
    ((content.check n.node budget).map fun _ ↦ n) = .ok m ↔
      (Operation.accept content budget).Leads n m := by
  rw [map_const_eq_ok_iff, Content.check_eq_verdict, Operation.Leads, ← Content.verdict_eq_ok_iff]
  exact and_congr_right fun _ ↦ ⟨fun ⟨_, h⟩ ↦ h, fun h ↦ ⟨(), h⟩⟩

/-! ### Operations with queries inside -/

/-- Several results are all good if none of them is a failure. -/
theorem failures_eq_nil_iff {α : Type} {results : List (Except QueryError α)} :
    failures results = [] ↔ ∀ r ∈ results, ∃ a, r = .ok a := by
  rw [failures, List.filterMap_eq_nil_iff]
  refine forall₂_congr fun r _ ↦ ?_
  cases r <;> simp

/-- A place passes if all results are good. -/
theorem requireAll_eq_ok_iff {α : Type} {results : List (Except QueryError α)} :
    requireAll n results = .ok m ↔ m = n ∧ ∀ r ∈ results, ∃ a, r = .ok a := by
  rw [← failures_eq_nil_iff, requireAll]
  cases failures results with
  | nil => simp [eq_comm]
  | cons err errors => simp

theorem requireAll_pair_eq_ok_iff {α : Type} {first second : Except QueryError α} :
    requireAll n [first, second] = .ok m ↔
      m = n ∧ (∃ a, first = .ok a) ∧ ∃ a, second = .ok a := by
  rw [requireAll_eq_ok_iff, List.forall_mem_cons, List.forall_mem_singleton]

/-- A query is understood if its runs end where it leads. -/
def Query.Understood (query : Query) : Prop :=
  ∀ n c m, (Query.execute query n c).result = .ok m ↔ Query.Leads query n m

theorem Query.Understood.exists_ok_iff {query : Query} (h : query.Understood) (n : Place)
    (c : Capture) :
    (∃ m, (Query.execute query n c).result = .ok m) ↔ ∃ m, Query.Leads query n m :=
  exists_congr (h n c)

/-- A place passes on account of a query on another one if the query leads somewhere from there. -/
theorem Query.Understood.map_eq_ok_iff {query : Query} (h : query.Understood) (p : Place) :
    ((Query.execute query p .empty).result.map fun _ ↦ n) = .ok m ↔
      m = n ∧ ∃ x, Query.Leads query p x := by
  rw [map_const_eq_ok_iff, h.exists_ok_iff]

/-- An operation is understood if it hands on the place that it leads to. -/
def Operation.Understood (op : Operation) : Prop :=
  ∀ n m, (op.apply n).value = .ok m ↔ op.Leads n m

theorem understood_operands {query : Query} (h : query.Understood) :
    (Operation.operands query).Understood := by
  rintro ⟨trail, node⟩ m
  rw [Operation.Leads]
  cases node with
  | binary op left right =>
    show requireAll _ [_, _] = .ok m ↔ _
    rw [requireAll_pair_eq_ok_iff, h.exists_ok_iff, h.exists_ok_iff]
    simp
  | unary op operand postfixed =>
    show Except.map _ _ = .ok m ↔ _
    rw [h.map_eq_ok_iff]
    simp
  | _ => simp [Operation.apply]

/-- The second order of the operands is tried if the first one fails. -/
theorem apply_sides_eq_ok_iff {one other : Query} {op : Operator} {left right : Expr}
    (hn : n.node = .binary op left right) :
    ((Operation.sides one other).apply n).value = .ok m ↔
      requireAll n [(Query.execute one (n.child 0 left) .empty).result,
        (Query.execute other (n.child 1 right) .empty).result] = .ok m ∨
      requireAll n [(Query.execute one (n.child 1 right) .empty).result,
        (Query.execute other (n.child 0 left) .empty).result] = .ok m := by
  simp only [Operation.apply, hn]
  rcases hfirst : requireAll n [(Query.execute one (n.child 0 left) .empty).result,
    (Query.execute other (n.child 1 right) .empty).result] with first | p
  · rcases requireAll n [(Query.execute one (n.child 1 right) .empty).result,
      (Query.execute other (n.child 0 left) .empty).result] with second | p
    · simp
    · simp
  · -- the first order has matched; the second one would hand on the same place
    obtain rfl : p = n := (requireAll_eq_ok_iff.1 hfirst).1
    refine ⟨Or.inl, ?_⟩
    rintro (h | h)
    · exact h
    · rw [(requireAll_eq_ok_iff.1 h).1]

theorem understood_sides {one other : Query} (hone : one.Understood) (hother : other.Understood) :
    (Operation.sides one other).Understood := by
  rintro ⟨trail, node⟩ m
  rw [Operation.Leads]
  cases node with
  | binary op left right =>
    rw [apply_sides_eq_ok_iff rfl, requireAll_pair_eq_ok_iff, requireAll_pair_eq_ok_iff,
      hone.exists_ok_iff, hone.exists_ok_iff, hother.exists_ok_iff, hother.exists_ok_iff,
      ← and_or_left]
    simp
  | _ => simp [Operation.apply]

theorem understood_rightSide {query : Query} (h : query.Understood) :
    (Operation.rightSide query).Understood := by
  rintro ⟨trail, node⟩ m
  rw [Operation.Leads]
  cases node with
  | assign op left right =>
    show Except.map _ _ = .ok m ↔ _
    rw [h.map_eq_ok_iff]
    simp
  | binary op left right =>
    show Except.map _ _ = .ok m ↔ _
    rw [h.map_eq_ok_iff]
    simp
  | declarator name initial =>
    cases initial with
    | none =>
      -- there is no place to run the query at, and so only its length can count
      show (if query.isEmpty then _ else _) = _ ↔ _
      rw [ite_eq_ok_iff, List.isEmpty_iff]
      simp
    | some initial =>
      show Except.map _ _ = .ok m ↔ _
      rw [h.map_eq_ok_iff]
      simp
  | _ => simp [Operation.apply]

/-- One of several queries matches if one of them leads somewhere; the errors of those tried before
it do not matter. -/
theorem tryEach_eq_ok_iff {alternatives : List Query}
    (h : ∀ query ∈ alternatives, query.Understood) :
    (Query.tryEach alternatives n).value = .ok () ↔ Query.SomeLeads alternatives n := by
  induction alternatives with
  | nil => simp [Query.tryEach, Query.SomeLeads]
  | cons query rest ih =>
    obtain ⟨hquery, hrest⟩ := List.forall_mem_cons.1 h
    rw [Query.SomeLeads, ← hquery.exists_ok_iff n .empty, ← ih hrest, Query.tryEach]
    cases (Query.execute query n .empty).result with
    | ok m => simp
    | error err =>
      rcases hrest : (Query.tryEach rest n).value with errors | done
      · simp [Except.mapError, hrest]
      · simp [Except.mapError, hrest]

theorem understood_either {alternatives : List Query}
    (h : ∀ query ∈ alternatives, query.Understood) :
    (Operation.either alternatives).Understood := by
  intro n m
  rw [Operation.Leads, ← tryEach_eq_ok_iff h, Operation.apply]
  cases (Query.tryEach alternatives n).value with
  | ok a => simp [eq_comm]
  | error errors => simp

/-! ### Runs -/

/-- An operation is understood if the queries inside it are. -/
theorem understood_of_nested (op : Operation) (h : ∀ query ∈ op.nested, query.Understood) :
    op.Understood := by
  cases op with
  | pass => exact fun n m ↦ by simp [Operation.apply, Operation.Leads, eq_comm]
  | guard g => exact fun n m ↦ by rw [Operation.apply, Operation.Leads, expectKind_eq_ok_iff]
  | anonymousCall => exact fun n m ↦ by rw [Operation.apply, expectAnonymousCall_eq_ok_iff]
  | hasOperator operators => exact fun n m ↦ by rw [Operation.apply, expectOperator_eq_ok_iff]
  | operands query => exact understood_operands (List.forall_mem_singleton.1 h)
  | sides one other =>
    obtain ⟨hone, hother⟩ := List.forall_mem_cons.1 h
    exact understood_sides hone (List.forall_mem_singleton.1 hother)
  | rightSide query => exact understood_rightSide (List.forall_mem_singleton.1 h)
  | either alternatives => exact understood_either h
  | accept content budget => exact fun n m ↦ by rw [Operation.apply, check_eq_ok_iff]
  | findCall firstOnly => exact fun n m ↦ by rw [Operation.apply, foundCall_eq_ok_iff]
  | calleeIdentifier => exact fun n m ↦ by rw [Operation.apply, calleeName_eq_ok_iff]
  | containsThis => exact fun n m ↦ by rw [Operation.apply, foundThis_eq_ok_iff]
  | nameMatches pattern => exact fun n m ↦ by rw [Operation.apply, expectName_eq_ok_iff]

/-- A run that has passed the first operation goes on from where it leads. -/
theorem understood_cons {op : Operation} {rest : Query} (hop : op.Understood)
    (hrest : rest.Understood) : Query.Understood (op :: rest) := by
  intro n c m
  rw [Query.Leads, Query.execute]
  simp only [← hop n]
  cases (op.apply n).value with
  | error err => simp
  | ok k =>
    -- the capture has changed, but the rest is understood whatever the capture
    show (Query.execute rest k (c.offer k)).result = .ok m ↔ _
    rw [hrest]
    simp

/-- Every query is understood. -/
theorem Query.understood (query : Query) : query.Understood :=
  QueryInduction.query (P := Operation.Understood)
    { step := understood_of_nested
      nil := fun n c m ↦ by simp [Query.execute, Query.Leads, eq_comm]
      cons := fun _ _ ↦ understood_cons } query

/-- A run ends at a place exactly if the query leads there, and it fails exactly if the query leads
nowhere, whatever has been captured before. -/
theorem execute_decides_leads (query : Query) (n : Place) (c : Capture) :
    (∀ m, (Query.execute query n c).result = .ok m ↔ Query.Leads query n m) ∧
    ((∃ err, (Query.execute query n c).result = .error err) ↔ ∀ m, ¬ Query.Leads query n m) := by
  refine ⟨query.understood n c, ?_⟩
  simp only [← query.understood n c]
  cases (Query.execute query n c).result with
  | ok m => simp
  | error err => simp

end ShapeQuery
