import ShapeQuery.Proofs.Query.CallSearch
import ShapeQuery.Proofs.Query.Context

/-!
# Why a run fails

An error is a tree whose leaves are reasons (`QueryError.reasons`): operations that try several
things report all of their failures together. This module says that no reason is made up. Each comes
from an operation of the query, at whatever depth (`Operation.OccursIn`), which was applied at some
place of the tree and found there, or below, what the reason says (`Operation.Explains`).

The reasons of an operation that holds queries are reasons of theirs (`Query.Explained.inside`),
passed on as they are or put together (`Query.Explained.aggregate`). Those of the other operations
are their own. A content check is the one that may find its reason at a distance: what it does not
get past is walked from where it starts, and if it has run out of budget, as many levels down as the
budget says (`Content.exists_walked_of_verdict_eq_error`).

Nothing is said about which of several reasons is reported first, and nothing about the shape of the
tree that they form.
-/

namespace ShapeQuery

/-! ### Reasons -/

namespace QueryError

mutual

/-- The errors inside an error that are not put together from others, in order. -/
def reasons : QueryError → List QueryError
  | aggregate errors => reasonsOf errors
  | err => [err]

/-- The reasons inside several errors. -/
def reasonsOf : List QueryError → List QueryError
  | [] => []
  | err :: rest => err.reasons ++ reasonsOf rest

end

theorem reasonsOf_eq_flatMap (errors : List QueryError) :
    reasonsOf errors = errors.flatMap reasons := by
  induction errors with
  | nil => rfl
  | cons err rest ih => rw [reasonsOf, ih, List.flatMap_cons]

theorem mem_reasons_aggregate {errors : List QueryError} {reason : QueryError} :
    reason ∈ (aggregate errors).reasons ↔ ∃ err ∈ errors, reason ∈ err.reasons := by
  rw [reasons, reasonsOf_eq_flatMap, List.mem_flatMap]

end QueryError

/-! ### Operations and what they blame -/

/-- An operation occurs in a query as one of its operations, or in a query inside one of them. -/
inductive Operation.OccursIn (op : Operation) : Query → Prop
  | here {query : Query} (h : op ∈ query) : OccursIn op query
  | inside {query nested : Query} {outer : Operation} (houter : outer ∈ query)
      (hnested : nested ∈ outer.nested) (h : OccursIn op nested) : OccursIn op query

theorem Operation.OccursIn.mono {op : Operation} {query query' : Query} (h : op.OccursIn query)
    (hsub : query ⊆ query') : op.OccursIn query' := by
  cases h with
  | here hmem => exact .here (hsub hmem)
  | inside houter hnested h => exact .inside (hsub houter) hnested h

/-- The lists of kinds of which an operation asks that a node be one. -/
def Operation.expectations : Operation → List (List ExprKind)
  | .guard g => [g.kinds]
  | .anonymousCall => [[.call], [.function]]
  | .sides _ _ => [[.binary]]
  | .calleeIdentifier => [[.call]]
  | _ => []

/-- `op.Explains p w err`: the error is what the operation, applied at `p`, has to say about
`w`. -/
inductive Operation.Explains : Operation → Place → Place → QueryError → Prop
  /-- The node is of no kind that the operation asks for. -/
  | kind {op : Operation} {p w : Place} {expected : List ExprKind}
      (hop : expected ∈ op.expectations) (h : w.kind ∉ expected) :
      Explains op p w (.typeMismatch expected w.kind)
  /-- The node has another operator. -/
  | operator {operators : List Operator} {p : Place} {op : Operator}
      (hp : p.node.operator? = some op) (h : op ∉ operators) :
      Explains (.hasOperator operators) p p (.operatorMismatch op)
  /-- The node is of a kind that has no operator. -/
  | noOperator {operators : List Operator} {p : Place} (h : p.kind ∉ [.assign, .binary, .unary]) :
      Explains (.hasOperator operators) p p (.missingOperator p.kind)
  /-- The node has no operands. -/
  | noOperands {query : Query} {p : Place} (h : p.kind ∉ [.binary, .unary]) :
      Explains (.operands query) p p (.structureMismatch p.kind)
  /-- The node has no right side. -/
  | noRightSide {query : Query} {p : Place} (h : p.kind ∉ [.assign, .binary, .declarator]) :
      Explains (.rightSide query) p p (.structureMismatch p.kind)
  /-- The node has a right side, but there is nothing there to run the query on. -/
  | noInitial {query : Query} {p : Place} {name : String} (hp : p.node = .declarator name none)
      (h : query ≠ []) : Explains (.rightSide query) p p .missingNode
  /-- The node is neither a literal nor something that a content check goes past. -/
  | shape {content : Content} {budget : Nat} {p w : Place}
      (h : w.kind ∉ [.binary, .unary, .number, .string, .boolean])
      (hinitial : ∀ name initial, w.node ≠ .declarator name (some initial)) :
      Explains (.accept content budget) p w (.structureMismatch w.kind)
  /-- The node is a literal of another type. -/
  | literal {content : Content} {budget : Nat} {p w : Place}
      (hkind : w.kind ∈ [.number, .string, .boolean]) (h : content.admits w.node = false) :
      Explains (.accept content budget) p w (.contentMismatch content w.kind)
  /-- The node is further down than the budget allows. -/
  | depth {content : Content} {budget : Nat} {p w : Place}
      (h : w.trail.length = p.trail.length + budget) :
      Explains (.accept content budget) p w .depthExceeded
  /-- There is no call in the subtree. -/
  | noCall {firstOnly : Bool} {p : Place} (h : ∀ q, p.Walked q → q.node.isCall = false) :
      Explains (.findCall firstOnly) p p .noMatch
  /-- There is no `this` in the subtree. -/
  | noThis {p : Place} (h : ∀ q, p.Walked q → q.node ≠ .thisRef) :
      Explains .containsThis p p .noMatch
  /-- What is called is neither a name nor a member that is a name. -/
  | unnamedCallee {p : Place} {callee : Expr} {args : List Expr} (hp : p.node = .call callee args)
      (h : callee.kind ≠ .identifier)
      (hmember : ∀ left member, callee = .dot left member → member.kind ≠ .identifier) :
      Explains .calleeIdentifier p p .noIdentifier
  /-- The node is not a name. -/
  | notName {pattern : Pattern} {p : Place} (h : p.kind ≠ .identifier) :
      Explains (.nameMatches pattern) p p .noIdentifier
  /-- The node is a name that the pattern does not match. -/
  | name {pattern : Pattern} {p : Place} {name : String} (hp : p.node = .identifier name)
      (h : pattern.isMatch name = false) :
      Explains (.nameMatches pattern) p p (.nameMismatch name)

/-- What an operation explains is a reason, and not put together from others. -/
theorem Operation.Explains.reasons_eq {op : Operation} {p w : Place} {err : QueryError}
    (h : op.Explains p w err) : err.reasons = [err] := by
  cases h <;> rfl

/-- Every reason inside the error is explained by an operation of the query, applied somewhere at or
below the place. -/
def Query.Explained (query : Query) (n : Place) (err : QueryError) : Prop :=
  ∀ reason ∈ err.reasons, ∃ (op : Operation) (p w : Place),
    op.OccursIn query ∧ n.Walked p ∧ p.Walked w ∧ op.Explains p w reason

namespace Query.Explained

variable {query query' : Query} {op : Operation} {n m w : Place} {err : QueryError}

theorem mono (h : query.Explained m err) (hsub : query ⊆ query') (hm : n.Walked m) :
    query'.Explained n err := by
  intro reason hreason
  obtain ⟨op, p, w, hop, hp, hw, hexplains⟩ := h reason hreason
  exact ⟨op, p, w, hop.mono hsub, hm.trans hp, hw, hexplains⟩

/-- An operation has a reason of its own. -/
theorem single (hw : n.Walked w) (h : op.Explains n w err) : Query.Explained [op] n err := by
  intro reason hreason
  rw [h.reasons_eq, List.mem_singleton] at hreason
  subst hreason
  exact ⟨op, n, w, .here List.mem_cons_self, .refl n, hw, h⟩

/-- The reasons of a query inside an operation are reasons of the operation. -/
theorem inside (hquery : query ∈ op.nested) (hm : n.Walked m) (h : query.Explained m err) :
    Query.Explained [op] n err := by
  intro reason hreason
  obtain ⟨op', p, w, hop, hp, hw, hexplains⟩ := h reason hreason
  exact ⟨op', p, w, .inside List.mem_cons_self hquery hop, hm.trans hp, hw, hexplains⟩

theorem aggregate {errors : List QueryError} (h : ∀ err ∈ errors, query.Explained n err) :
    query.Explained n (.aggregate errors) := by
  intro reason hreason
  obtain ⟨err, herr, hreason⟩ := QueryError.mem_reasons_aggregate.1 hreason
  exact h err herr reason hreason

end Query.Explained

/-- An operation accounts for its failures if it explains every error that it fails with. -/
def Operation.Accounts (op : Operation) : Prop :=
  ∀ n err, (op.apply n).value = .error err → Query.Explained [op] n err

/-- A query accounts for its failures if its operations explain every error of its runs. -/
def Query.Accounts (query : Query) : Prop :=
  ∀ n c err, (Query.execute query n c).result = .error err → query.Explained n err

/-! ### Operations without queries inside -/

section Single

variable {n m : Place} {err : QueryError}

theorem ite_eq_error_iff {c : Prop} [Decidable c] {refused : QueryError} :
    (if c then .ok n else .error refused : Except QueryError Place) = .error err ↔
      ¬ c ∧ refused = err := by
  by_cases hc : c
  · simp [hc]
  · rw [if_neg hc, Except.error.injEq]
    exact ⟨fun h ↦ ⟨hc, h⟩, And.right⟩

/-- An operation explains a place below that is not of a kind that it asks for. -/
theorem explained_of_expectKind {op : Operation} {expected : List ExprKind}
    (hop : expected ∈ op.expectations) (hm : n.Walked m) (h : expectKind expected m = .error err) :
    Query.Explained [op] n err := by
  obtain ⟨hkind, rfl⟩ := ite_eq_error_iff.1 h
  exact .single hm (.kind hop (mt List.contains_iff_mem.2 hkind))

theorem accounts_guard (g : Guard) : (Operation.guard g).Accounts := by
  intro n err h
  rw [Operation.apply] at h
  exact explained_of_expectKind List.mem_cons_self (.refl n) h

theorem accounts_anonymousCall : Operation.anonymousCall.Accounts := by
  intro n err h
  rw [Operation.apply, expectAnonymousCall_eq] at h
  split at h
  case h_1 callee rest _ hchildren =>
    have hcallee : callee ∈ n.children := hchildren ▸ List.mem_cons_self
    exact explained_of_expectKind (List.mem_cons_of_mem _ List.mem_cons_self)
      ((Place.Walked.refl n).child hcallee) (Except.map_eq_error_iff.1 h)
  case h_2 => exact explained_of_expectKind List.mem_cons_self (.refl n) h

theorem Expr.operator?_eq_none_iff {e : Expr} :
    e.operator? = none ↔ e.kind ∉ [.assign, .binary, .unary] := by
  cases e <;> simp [operator?, kind]

theorem accounts_hasOperator (operators : List Operator) :
    (Operation.hasOperator operators).Accounts := by
  intro n err h
  rw [Operation.apply, expectOperator] at h
  rcases hop : n.node.operator? with - | op
  · simp only [hop] at h
    obtain rfl := Except.error.inj h
    exact .single (.refl n) (.noOperator (Expr.operator?_eq_none_iff.1 hop))
  · simp only [hop] at h
    obtain ⟨hmem, rfl⟩ := ite_eq_error_iff.1 h
    exact .single (.refl n) (.operator hop (mt List.contains_iff_mem.2 hmem))

theorem accounts_calleeIdentifier : Operation.calleeIdentifier.Accounts := by
  rintro ⟨trail, node⟩ err h
  rw [Operation.apply] at h
  cases node with
  | call callee args =>
    -- the way to a name ends at a callee that is no name, or at a member that is none
    cases callee with
    | identifier name => cases h
    | dot left member =>
      cases member with
      | identifier name => cases h
      | _ =>
        obtain rfl : QueryError.noIdentifier = err := Except.error.inj h
        exact .single (.refl _) (.unnamedCallee rfl (by simp [Expr.kind]) (by simp [Expr.kind]))
    | _ =>
      obtain rfl : QueryError.noIdentifier = err := Except.error.inj h
      exact .single (.refl _) (.unnamedCallee rfl (by simp [Expr.kind]) (by simp))
  | _ => exact explained_of_expectKind List.mem_cons_self (.refl _) h

theorem accounts_nameMatches (pattern : Pattern) : (Operation.nameMatches pattern).Accounts := by
  rintro ⟨trail, node⟩ err h
  rw [Operation.apply] at h
  cases node with
  | identifier name =>
    obtain ⟨hmatch, rfl⟩ := ite_eq_error_iff.1 h
    exact .single (.refl _) (.name rfl (Bool.eq_false_iff.2 hmatch))
  | _ =>
    obtain rfl : QueryError.noIdentifier = err := Except.error.inj h
    exact .single (.refl _) (.notName (by simp [Place.kind, Expr.kind]))

theorem accounts_findCall (firstOnly : Bool) : (Operation.findCall firstOnly).Accounts := by
  intro n err h
  rw [Operation.apply] at h
  obtain ⟨rfl, hcalls⟩ := foundCall_eq_error_iff.1 h
  exact .single (.refl n) (.noCall (Place.calls_eq_nil_iff.1 hcalls))

theorem accounts_containsThis : Operation.containsThis.Accounts := by
  intro n err h
  rw [Operation.apply, foundThis] at h
  dsimp only at h
  rw [← ite_not] at h
  obtain ⟨hzero, rfl⟩ := ite_eq_error_iff.1 h
  refine .single (.refl n) (.noThis fun q hq hthis ↦ hzero ?_)
  exact (Visitor.state_thisCounter_ne_zero_iff n).2 ⟨q, hq, hthis⟩

/-- A content check that fails has come to a place that it does not get past, or has run out of
budget as many levels down as the budget says. -/
theorem Content.exists_walked_of_verdict_eq_error {content : Content} {budget : Nat}
    (h : content.verdict budget n.node = .error err) :
    ∃ w, n.Walked w ∧
      ((err = .depthExceeded ∧ w.trail.length = n.trail.length + budget) ∨
        (¬ content.Supports w.node ∧ err = content.refusal w.kind)) := by
  induction budget generalizing n with
  | zero =>
    rw [verdict] at h
    exact ⟨n, .refl n, .inl ⟨(Except.error.inj h).symm, rfl⟩⟩
  | succ budget ih =>
    rw [verdict_succ] at h
    by_cases hn : content.Supports n.node
    · -- the check goes on to the children, each one level down with one unit of budget less
      rw [descend_eq_ok_iff_children.2 ⟨hn, rfl⟩, Except.ok_bind, ← Place.map_node_children,
        List.forM_map, Except.forM_eq_error_iff] at h
      obtain ⟨before, c, after, hchildren, -, hc⟩ := h
      have hmem : c ∈ n.children := hchildren ▸ List.mem_append_right _ List.mem_cons_self
      obtain ⟨w, hw, hreason⟩ := ih hc
      refine ⟨w, ((Place.Walked.refl n).child hmem).trans hw, hreason.imp_left (And.imp_right ?_)⟩
      intro hlevel
      rw [hlevel, Place.length_trail_of_mem_children hmem]
      omega
    · rw [descend_eq_refusal hn] at h
      exact ⟨n, .refl n, .inr ⟨hn, (Except.error.inj h).symm⟩⟩

/-- The literals that a content check does not get past are those of another type. -/
theorem Content.admits_eq_false {content : Content} {e : Expr}
    (hkind : e.kind ∈ [.number, .string, .boolean]) (h : ¬ content.Supports e) :
    content.admits e = false := by
  have hother : e.kind ≠ content.literalKind := fun hliteral ↦ h (.literal hliteral)
  cases e with
  | number value =>
    cases content with
    | numbers => exact absurd rfl hother
    | booleans => rfl
  | string value => cases content <;> rfl
  | boolean value =>
    cases content with
    | numbers => rfl
    | booleans => exact absurd rfl hother
  | _ => simp [Expr.kind] at hkind

/-- A content check refuses literals of another type for their content, and everything else that it
does not get past for its shape. -/
theorem Content.explains_refusal {content : Content} {budget : Nat} {p w : Place}
    (h : ¬ content.Supports w.node) :
    (Operation.accept content budget).Explains p w (content.refusal w.kind) := by
  by_cases hliteral : w.kind ∈ [.number, .string, .boolean]
  · rw [refusal, if_pos hliteral]
    exact .literal hliteral (admits_eq_false hliteral h)
  · rw [refusal, if_neg hliteral]
    refine .shape (fun hmem ↦ ?_) fun name initial hw ↦ h (hw ▸ .declarator name initial)
    rcases List.mem_cons.1 hmem with hbinary | hmem
    · exact h (supports_iff.2 (.inl hbinary))
    · rcases List.mem_cons.1 hmem with hunary | hmem
      · exact h (supports_iff.2 (.inr (.inl hunary)))
      · exact hliteral hmem

theorem accounts_accept (content : Content) (budget : Nat) :
    (Operation.accept content budget).Accounts := by
  intro n err h
  rw [Operation.apply, Content.check_eq_verdict] at h
  obtain ⟨w, hw, ⟨rfl, hlevel⟩ | ⟨hrefused, rfl⟩⟩ :=
    Content.exists_walked_of_verdict_eq_error (Except.map_eq_error_iff.1 h)
  · exact .single hw (.depth hlevel)
  · exact .single hw (Content.explains_refusal hrefused)

end Single

/-! ### Operations with queries inside -/

section Nested

variable {n m : Place} {err : QueryError}

theorem mem_failures_iff {α : Type} {results : List (Except QueryError α)} :
    err ∈ failures results ↔ .error err ∈ results := by
  rw [failures, List.mem_filterMap]
  constructor
  · rintro ⟨r, hr, herr⟩
    cases r with
    | ok a => cases herr
    | error e => exact Option.some.inj herr ▸ hr
  · intro h
    exact ⟨_, h, rfl⟩

/-- Results that are not all good fail with all of their errors. -/
theorem requireAll_eq_error_iff {α : Type} {results : List (Except QueryError α)} :
    requireAll n results = .error err ↔
      failures results ≠ [] ∧ err = .aggregate (failures results) := by
  rw [requireAll]
  cases failures results with
  | nil => simp
  | cons first rest => simp [eq_comm]

/-- The queries for two sides fail together if they match in neither order. -/
theorem apply_sides_eq_error {one other : Query} {op : Operator} {left right : Expr}
    (hn : n.node = .binary op left right)
    (h : ((Operation.sides one other).apply n).value = .error err) :
    ∃ first second, err = .aggregate [first, second] ∧
      requireAll n [(Query.execute one (n.child 0 left) .empty).result,
        (Query.execute other (n.child 1 right) .empty).result] = .error first ∧
      requireAll n [(Query.execute one (n.child 1 right) .empty).result,
        (Query.execute other (n.child 0 left) .empty).result] = .error second := by
  simp only [Operation.apply, hn] at h
  rcases hfirst : requireAll n [(Query.execute one (n.child 0 left) .empty).result,
    (Query.execute other (n.child 1 right) .empty).result] with first | p
  · rcases hsecond : requireAll n [(Query.execute one (n.child 1 right) .empty).result,
      (Query.execute other (n.child 0 left) .empty).result] with second | p
    · simp only [hfirst, hsecond] at h
      exact ⟨first, second, (Except.error.inj h).symm, rfl, rfl⟩
    · simp only [hfirst, hsecond] at h
      cases h
  · simp only [hfirst] at h
    cases h

/-- Alternatives that all fail do so with the error of each. -/
theorem tryEach_eq_error_iff {alternatives : List Query} {errors : List QueryError} :
    (Query.tryEach alternatives n).value = .error errors ↔
      (alternatives.map fun query ↦ (Query.execute query n .empty).result) = errors.map .error := by
  induction alternatives generalizing errors with
  | nil => simp [Query.tryEach, eq_comm]
  | cons query rest ih =>
    rw [Query.tryEach, List.map_cons]
    rcases (Query.execute query n .empty).result with first | m
    · show (Query.tryEach rest n).value.mapError (first :: ·) = _ ↔ _
      rw [Except.mapError_eq_error_iff, eq_comm (b := errors.map _), List.map_eq_cons_iff]
      constructor
      · rintro ⟨later, hlater, rfl⟩
        exact ⟨first, later, rfl, rfl, (ih.1 hlater).symm⟩
      · rintro ⟨err, later, rfl, herr, hlater⟩
        exact ⟨later, ih.2 hlater.symm, by rw [Except.error.inj herr]⟩
    · cases errors <;> simp

/-- Two failures that are put together are explained if each of them is. -/
theorem explained_of_requireAll {query : Query} {first second : Except QueryError Place}
    (h : requireAll n [first, second] = .error err)
    (hfirst : ∀ err, first = .error err → query.Explained m err)
    (hsecond : ∀ err, second = .error err → query.Explained m err) : query.Explained m err := by
  obtain ⟨-, rfl⟩ := requireAll_eq_error_iff.1 h
  refine .aggregate fun err herr ↦ ?_
  rcases List.mem_pair.1 (mem_failures_iff.1 herr) with heq | heq
  · exact hfirst err heq.symm
  · exact hsecond err heq.symm

/-- An operation explains the failure of a query that it runs on a child. -/
theorem Query.Accounts.explained_child {query : Query} (h : query.Accounts) {op : Operation}
    (hquery : query ∈ op.nested) {i : Nat} {e : Expr} (hchild : n.node.children[i]? = some e)
    (herr : (Query.execute query (n.child i e) .empty).result = .error err) :
    Query.Explained [op] n err :=
  .inside hquery ((Place.Walked.refl n).child (Place.child_mem_children hchild))
    (h _ .empty err herr)

theorem accounts_operands {query : Query} (h : query.Accounts) :
    (Operation.operands query).Accounts := by
  rintro ⟨trail, node⟩ err herr
  have hquery : query ∈ (Operation.operands query).nested := List.mem_cons_self
  cases node with
  | binary op left right =>
    have hboth : requireAll _ [_, _] = .error err := herr
    exact explained_of_requireAll hboth (fun _ hl ↦ h.explained_child hquery rfl hl)
      fun _ hr ↦ h.explained_child hquery rfl hr
  | unary op operand postfixed =>
    have hoperand : Except.map _ _ = .error err := herr
    exact h.explained_child hquery rfl (Except.map_eq_error_iff.1 hoperand)
  | _ =>
    obtain rfl : QueryError.structureMismatch _ = err := Except.error.inj herr
    exact .single (.refl _) (.noOperands (by simp [Place.kind, Expr.kind]))

theorem accounts_sides {one other : Query} (hone : one.Accounts) (hother : other.Accounts) :
    (Operation.sides one other).Accounts := by
  rintro ⟨trail, node⟩ err herr
  have hfirst : one ∈ (Operation.sides one other).nested := List.mem_cons_self
  have hsecond : other ∈ (Operation.sides one other).nested :=
    List.mem_cons_of_mem _ List.mem_cons_self
  cases node with
  | binary op left right =>
    obtain ⟨x, y, rfl, hx, hy⟩ := apply_sides_eq_error rfl herr
    -- each order of the operands has failed with errors of its own
    refine .aggregate (List.forall_mem_cons.2 ⟨?_, List.forall_mem_singleton.2 ?_⟩)
    · exact explained_of_requireAll hx (fun _ hl ↦ hone.explained_child hfirst rfl hl)
        fun _ hr ↦ hother.explained_child hsecond rfl hr
    · exact explained_of_requireAll hy (fun _ hr ↦ hone.explained_child hfirst rfl hr)
        fun _ hl ↦ hother.explained_child hsecond rfl hl
  | _ =>
    obtain rfl : QueryError.typeMismatch [.binary] _ = err := Except.error.inj herr
    exact .single (.refl _) (.kind List.mem_cons_self (by simp [Place.kind, Expr.kind]))

theorem accounts_rightSide {query : Query} (h : query.Accounts) :
    (Operation.rightSide query).Accounts := by
  rintro ⟨trail, node⟩ err herr
  have hquery : query ∈ (Operation.rightSide query).nested := List.mem_cons_self
  cases node with
  | assign op left right =>
    have hright : Except.map _ _ = .error err := herr
    exact h.explained_child hquery rfl (Except.map_eq_error_iff.1 hright)
  | binary op left right =>
    have hright : Except.map _ _ = .error err := herr
    exact h.explained_child hquery rfl (Except.map_eq_error_iff.1 hright)
  | declarator name initial =>
    cases initial with
    | none =>
      obtain ⟨hempty, rfl⟩ := ite_eq_error_iff.1 herr
      exact .single (.refl _) (.noInitial rfl (mt List.isEmpty_iff.2 hempty))
    | some initial =>
      have hinitial : Except.map _ _ = .error err := herr
      exact h.explained_child hquery rfl (Except.map_eq_error_iff.1 hinitial)
  | _ =>
    obtain rfl : QueryError.structureMismatch _ = err := Except.error.inj herr
    exact .single (.refl _) (.noRightSide (by simp [Place.kind, Expr.kind]))

theorem accounts_either {alternatives : List Query} (h : ∀ query ∈ alternatives, query.Accounts) :
    (Operation.either alternatives).Accounts := by
  intro n err herr
  rw [Operation.value_either, Except.map_eq_error_iff, Except.mapError_eq_error_iff] at herr
  obtain ⟨errors, herrors, rfl⟩ := herr
  refine .aggregate fun err herr ↦ ?_
  have hmem : .error err ∈ alternatives.map fun query ↦ (Query.execute query n .empty).result :=
    tryEach_eq_error_iff.1 herrors ▸ List.mem_map_of_mem herr
  obtain ⟨query, hquery, hresult⟩ := List.mem_map.1 hmem
  exact .inside hquery (.refl n) (h query hquery n .empty err hresult)

end Nested

/-! ### Runs -/

/-- An operation accounts for its failures if the queries inside it do. -/
theorem accounts_of_nested (op : Operation) (h : ∀ query ∈ op.nested, query.Accounts) :
    op.Accounts := by
  cases op with
  | pass => exact fun n err herr ↦ (nomatch herr)
  | guard g => exact accounts_guard g
  | anonymousCall => exact accounts_anonymousCall
  | hasOperator operators => exact accounts_hasOperator operators
  | operands query => exact accounts_operands (List.forall_mem_singleton.1 h)
  | sides one other =>
    obtain ⟨hone, hother⟩ := List.forall_mem_cons.1 h
    exact accounts_sides hone (List.forall_mem_singleton.1 hother)
  | rightSide query => exact accounts_rightSide (List.forall_mem_singleton.1 h)
  | either alternatives => exact accounts_either h
  | accept content budget => exact accounts_accept content budget
  | findCall firstOnly => exact accounts_findCall firstOnly
  | calleeIdentifier => exact accounts_calleeIdentifier
  | containsThis => exact accounts_containsThis
  | nameMatches pattern => exact accounts_nameMatches pattern

/-- A run that fails does so at its first operation, or later and from a place below. -/
theorem accounts_cons {op : Operation} {rest : Query} (hop : op.Accounts)
    (hrest : rest.Accounts) : Query.Accounts (op :: rest) := by
  intro n c err herr
  rw [Query.execute] at herr
  rcases hvalue : (op.apply n).value with first | k
  · rw [hvalue] at herr
    obtain rfl : first = err := Except.error.inj herr
    have hsub : [op] ⊆ op :: rest := List.cons_subset.2 ⟨List.mem_cons_self, List.nil_subset _⟩
    exact (hop n first hvalue).mono hsub (.refl n)
  · rw [hvalue] at herr
    have hk : n.Walked k := Operation.walked_of_leads ((op.understood n k).1 hvalue)
    exact (hrest k (c.offer k) err herr).mono (List.subset_cons_self op rest) hk

/-- Every query accounts for its failures. -/
theorem Query.accounts (query : Query) : query.Accounts :=
  QueryInduction.query (P := Operation.Accounts)
    { step := accounts_of_nested
      nil := fun _ _ _ h ↦ (nomatch h)
      cons := fun _ _ ↦ accounts_cons } query

/-- Every reason that a failed run reports, at whatever depth of the error, is explained by an
operation that occurs in the query, applied at a place that a full walk enters and on account of a
place that a full walk enters, at or below the other. -/
theorem run_error_is_explained (query : Query) (e : Expr) (err : QueryError)
    (h : (query.run e).result = .error err) :
    ∀ reason ∈ err.reasons, ∃ (op : Operation) (p w : Place), op.OccursIn query ∧
      .enter p ∈ (e.recordWalk none).events ∧ .enter w ∈ (e.recordWalk none).events ∧
      p.Walked w ∧ op.Explains p w reason := by
  intro reason hreason
  obtain ⟨op, p, w, hop, hp, hw, hexplains⟩ := query.accounts (.root e) .empty err h reason hreason
  exact ⟨op, p, w, hop, Expr.enter_mem_events_iff.2 hp, Expr.enter_mem_events_iff.2 (hp.trans hw),
    hw, hexplains⟩

/-- In `this + (0 + "")` neither operand is a number or holds a call. There are four reasons, and
that the budget is used up is explained by one of the operations for the right operand. -/
theorem run_error_is_explained_sum :
    let e : Expr := .binary .plus .thisRef (.binary .plus (.number .zero) (.string ""))
    let query : Query := [.operands [.either [[.accept .numbers 1], [.findCall true]]]]
    let err : QueryError := .aggregate
      [.aggregate [.structureMismatch .thisRef, .noMatch], .aggregate [.depthExceeded, .noMatch]]
    (query.run e).result = .error err ∧
      err.reasons = [.structureMismatch .thisRef, .noMatch, .depthExceeded, .noMatch] ∧
      ∃ (op : Operation) (p w : Place), op.OccursIn query ∧
        .enter p ∈ (e.recordWalk none).events ∧ .enter w ∈ (e.recordWalk none).events ∧
        p.Walked w ∧ op.Explains p w .depthExceeded := by
  intro e query err
  have hrun : (query.run e).result = .error err := by cbv
  have hreasons : err.reasons = [.structureMismatch .thisRef, .noMatch, .depthExceeded, .noMatch] :=
    rfl
  refine ⟨hrun, hreasons, run_error_is_explained query e err hrun .depthExceeded ?_⟩
  rw [hreasons]
  exact List.mem_cons_of_mem _ (List.mem_cons_of_mem _ List.mem_cons_self)

end ShapeQuery
