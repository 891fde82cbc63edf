import ShapeQuery.Proofs.Query.CallSearch
import ShapeQuery.Proofs.Query.Sides

/-!
# What the log of a run is made of

The log of a run can be read without the run, as the lines that are written of it (`Query.lines`).
It has a line for each operation that is applied, up to the first that fails, and after it the
operation's own lines. Those of an operation with queries inside are the lines of these queries when
they are run alone on the subtrees, one after the other (`Operation.lines`), and which of them there
are shows what has been tried:

* both operands of a binary operation are looked at, even if the first does not match;
* an operation for two sides tries the second order only if the first has failed, and each order
  runs both of its queries;
* alternatives are tried until one matches (`Query.tried`).

Beyond that there is a line where nothing that was tried has matched, and one where a walk was ended
because it has found its call. Nothing else is logged. In particular no line says where in a tree a
run takes place, so a log is the same wherever the subtree stands (`Query.log_execute`).
-/

namespace ShapeQuery

universe u

variable {σ : Type u}

/-! ### Walks -/

namespace Visitor

/-- A visitor that never wants to end does not end a walk. -/
theorem stopIn_of_never_done (v : Visitor σ) (h : ∀ s, v.done s = false) (s : σ)
    (events : List Event) : v.stopIn s events = none := by
  induction events generalizing s with
  | nil => rfl
  | cons e rest ih => rw [stopIn, h, if_neg Bool.false_ne_true, ih]

/-- A finder of the first call ends the walk when it leaves that call. -/
theorem stopIn_callFinder (events : List Event) :
    (callFinder true).stopIn none events = (events.filterMap Event.call?).head?.map .leave := by
  induction events with
  | nil => rfl
  | cons e rest ih =>
    rw [stopIn, notify_callFinder, Option.or_none, List.filterMap_cons]
    rcases hcall : e.call? with - | c
    · exact ih
    · obtain ⟨rfl, -⟩ := Event.call?_eq_some_iff.1 hcall
      rfl

end Visitor

/-- A walk for the first call has an entry about the call if it finds one. -/
theorem log_foundCall_first (p : Place) :
    (foundCall true p).log =
      (foundCall true p).value.toOption.toList.map fun c ↦ .stoppedLeaving c.kind := by
  have hlog : (foundCall true p).log = (p.calls.head?.map .leave).toList.map .ofStop := by
    show (p.findCall true).log = _
    rw [Place.findCall, Visitor.log_walk, Visitor.stopIn_callFinder, p.filterMap_call?_tour]
  rw [hlog, foundCall_value, if_pos rfl]
  cases p.calls.head? <;> rfl

theorem log_foundCall_last (p : Place) : (foundCall false p).log = [] := by
  show (p.findCall false).log = _
  rw [Place.findCall, Visitor.log_walk, Visitor.stopIn_of_never_done _ fun _ ↦ rfl]
  rfl

theorem log_foundThis (p : Place) : (foundThis p).log = [] := by
  show (Visitor.thisCounter.walk p 0).log = _
  rw [Visitor.log_walk, Visitor.stopIn_of_never_done _ fun _ ↦ rfl]
  rfl

/-! ### Operations -/

/-- The lines that a run on a tree logs. -/
def Query.lines (query : Query) (e : Expr) : List String := (query.run e).log.map LogEntry.line

theorem Query.lines_execute (query : Query) (p : Place) (c : Capture) :
    (Query.execute query p c).log.map LogEntry.line = query.lines p.node :=
  congrArg (List.map LogEntry.line) (query.log_execute p c)

/-- The alternatives that are tried on a tree: those up to and including the first that matches. -/
def Query.tried (alternatives : List Query) (e : Expr) : List Query :=
  alternatives.take ((alternatives.findIdx fun query ↦ (query.run e).isMatch) + 1)

theorem Query.tried_cons (query : Query) (rest : List Query) (e : Expr) :
    Query.tried (query :: rest) e =
      if (query.run e).isMatch then [query] else query :: Query.tried rest e := by
  rw [tried, List.findIdx_cons]
  cases (query.run e).isMatch <;> rfl

/-- The lines that an operation at a place adds to a log. -/
def Operation.lines (op : Operation) (p : Place) : List String :=
  match op, p.node with
  | .operands query, .binary _ left right => Query.lines query left ++ Query.lines query right
  | .operands query, .unary _ operand _ => Query.lines query operand
  | .sides one other, .binary _ left right =>
    Query.lines one left ++ Query.lines other right ++
      if (Query.run one left).isMatch && (Query.run other right).isMatch then []
      else
        Query.lines one right ++ Query.lines other left ++
          if (Query.run one right).isMatch && (Query.run other left).isMatch then []
          else ["DEBUG neither operand order matched " ++ p.kind.name]
  | .rightSide query, .assign _ _ right => Query.lines query right
  | .rightSide query, .binary _ _ right => Query.lines query right
  | .rightSide query, .declarator _ (some initial) => Query.lines query initial
  | .either alternatives, e =>
    (Query.tried alternatives e).flatMap (fun query ↦ Query.lines query e) ++
      if alternatives.any fun query ↦ (Query.run query e).isMatch then []
      else ["DEBUG none of " ++ toString alternatives.length ++ " alternatives matched " ++
        p.kind.name]
  | .findCall true, _ =>
    ((Operation.findCall true).apply p).value.toOption.toList.map fun c ↦
      "TRACE walk stopped on leaving " ++ c.kind.name
  | _, _ => []

/-- An attempt at two sides fails if one of its queries does not match. -/
theorem Query.isEmpty_pairFailures (one other : Query) (e f : Expr) :
    (one.pairFailures other e f).isEmpty = ((one.run e).isMatch && (other.run f).isMatch) := by
  rw [Bool.eq_iff_iff, List.isEmpty_iff, pairFailures_eq_nil_iff, Bool.and_eq_true]

namespace Operation

theorem lines_operands (query : Query) (p : Place) :
    ((Operation.operands query).apply p).log.map LogEntry.line =
      (Operation.operands query).lines p := by
  obtain ⟨trail, node⟩ := p
  cases node with
  | binary op left right =>
    show ((Query.execute query _ .empty).log ++ (Query.execute query _ .empty).log).map _ = _
    rw [List.map_append, Query.lines_execute, Query.lines_execute]
    rfl
  | unary op operand postfixed => exact Query.lines_execute query _ .empty
  | _ => rfl

theorem lines_sides (one other : Query) (p : Place) :
    ((Operation.sides one other).apply p).log.map LogEntry.line =
      (Operation.sides one other).lines p := by
  obtain ⟨trail, node⟩ := p
  cases node with
  | binary op left right =>
    simp only [Operation.apply, requireAll, Query.failures_execute, Place.child, lines,
      ← Query.isEmpty_pairFailures]
    rcases one.pairFailures other left right with - | ⟨x, xs⟩
    · simp [Query.lines_execute]
    · rcases one.pairFailures other right left with - | ⟨y, ys⟩
      · simp [Query.lines_execute]
      · simp [Query.lines_execute, LogEntry.line_eq]
  | _ => rfl

theorem lines_rightSide (query : Query) (p : Place) :
    ((Operation.rightSide query).apply p).log.map LogEntry.line =
      (Operation.rightSide query).lines p := by
  obtain ⟨trail, node⟩ := p
  cases node with
  | assign op left right => exact Query.lines_execute query _ .empty
  | binary op left right => exact Query.lines_execute query _ .empty
  | declarator name initial =>
    cases initial with
    | none => rfl
    | some initial => exact Query.lines_execute query _ .empty
  | _ => rfl

/-- The alternatives after the first that matches are not run. -/
theorem lines_tryEach (alternatives : List Query) (p : Place) :
    (Query.tryEach alternatives p).log.map LogEntry.line =
        (Query.tried alternatives p.node).flatMap (fun query ↦ query.lines p.node) ∧
      (Query.tryEach alternatives p).value.isOk =
        alternatives.any fun query ↦ (query.run p.node).isMatch := by
  induction alternatives with
  | nil => exact ⟨rfl, rfl⟩
  | cons query rest ih =>
    obtain ⟨hlines, hvalue⟩ := ih
    have hquery := query.lines_execute p .empty
    rw [Query.tryEach, Query.tried_cons, List.any_cons, ← query.isMatch_execute p .empty,
      Run.isMatch]
    rcases (Query.execute query p .empty).result with err | q
    · show (_ ++ _ : List LogEntry).map _ = (query :: Query.tried rest p.node).flatMap _ ∧
        (Except.mapError _ (Query.tryEach rest p).value).isOk = (false || _)
      rw [List.map_append, List.flatMap_cons, hlines, hquery, Bool.false_or, ← hvalue]
      exact ⟨rfl, by cases (Query.tryEach rest p).value <;> rfl⟩
    · exact ⟨hquery.trans (List.append_nil _).symm, rfl⟩

theorem lines_either (alternatives : List Query) (p : Place) :
    ((Operation.either alternatives).apply p).log.map LogEntry.line =
      (Operation.either alternatives).lines p := by
  obtain ⟨hlines, hvalue⟩ := lines_tryEach alternatives p
  rw [Operation.apply, lines, ← hlines, ← hvalue]
  rcases (Query.tryEach alternatives p).value with errors | u
  · show (_ ++ [LogEntry.noAlternative alternatives.length p.kind]).map _ = _
    rw [List.map_append, List.map_singleton, LogEntry.line_eq]
    rfl
  · exact (List.append_nil _).symm

theorem lines_findCall_first (p : Place) :
    ((Operation.findCall true).apply p).log.map LogEntry.line =
      (Operation.findCall true).lines p := by
  show (foundCall true p).log.map _ = _
  rw [log_foundCall_first, List.map_map]
  refine List.map_congr_left fun c _ ↦ ?_
  exact LogEntry.line_eq (.stoppedLeaving c.kind)

/-- What an operation adds to a log. -/
theorem lines_apply (op : Operation) (p : Place) :
    (op.apply p).log.map LogEntry.line = op.lines p := by
  cases op with
  | operands query => exact lines_operands query p
  | sides one other => exact lines_sides one other p
  | rightSide query => exact lines_rightSide query p
  | either alternatives => exact lines_either alternatives p
  | findCall firstOnly =>
    cases firstOnly with
    | true => exact lines_findCall_first p
    | false => exact congrArg (List.map LogEntry.line) (log_foundCall_last p)
  | containsThis => exact congrArg (List.map LogEntry.line) (log_foundThis p)
  | _ => rfl

end Operation

/-! ### Runs -/

/-- The operations that a run applies, each with the place that it is applied at: all of them, or
those up to and including the first that fails. -/
def Query.applied (query : Query) (p : Place) : List (Operation × Place) :=
  query.zip (p :: query.handedOn p)

/-- The log of a run is made of the lines about the operations that it applies. -/
theorem Query.lines_execute_eq (query : Query) (p : Place) (c : Capture) :
    (Query.execute query p c).log.map LogEntry.line = (query.applied p).flatMap fun (op, p) ↦
      ("TRACE applying " ++ op.name ++ " to " ++ p.kind.name) :: op.lines p := by
  induction query generalizing p c with
  | nil => rfl
  | cons op rest ih =>
    have happlying := LogEntry.line_eq (.applying op.name p.kind)
    have hop := op.lines_apply p
    rw [execute, applied, handedOn, List.zip_cons_cons, List.flatMap_cons]
    rcases (op.apply p).value with err | q
    · -- the operation is the last that is applied
      rw [List.zip_nil_right]
      show LogEntry.line _ :: (op.apply p).log.map _ = _
      rw [happlying, hop]
      exact (List.append_nil _).symm
    · show LogEntry.line _ :: ((op.apply p).log ++ (Query.execute rest q _).log).map _ = _
      rw [happlying, List.map_append, hop, ih q]
      rfl

/-- The log of a run has, for every operation up to and including the first that fails, a line that
it is applied, followed by what it adds. Wherever a tree stands and whatever the capture holds, the
log of a run on it is the same. -/
theorem run_log_composes (query : Query) (e : Expr) :
    (query.lines e = (query.applied (.root e)).flatMap fun (op, p) ↦
      ("TRACE applying " ++ op.name ++ " to " ++ p.kind.name) :: op.lines p) ∧
    ∀ (trail : List Nat) (c : Capture),
      (Query.execute query ⟨trail, e⟩ c).log = (query.run e).log :=
  ⟨query.lines_execute_eq (.root e) .empty, fun trail ↦ query.log_execute ⟨trail, e⟩⟩

/-- On `f() + 0` the second order is tried after the first has failed, and the walk for a call is
ended in it. The operator is not one of those wanted then, and nothing else is tried. -/
example :
    let e : Expr := .binary .plus (.call (.identifier "f") []) (.number .zero)
    Query.lines [.either [[.sides [.accept .numbers 1] [.findCall true], .hasOperator [.minus]]]]
        e =
      ["TRACE applying either to binary",
        "TRACE applying one_side_other_side to binary",
        "TRACE applying accept_numbers to call", "TRACE applying must_be_call_d to number",
        "TRACE applying accept_numbers to number",
        "TRACE applying must_be_call_d to call", "TRACE walk stopped on leaving call",
        "TRACE applying has_operator to binary",
        "DEBUG none of 1 alternatives matched binary"] := by
  decide +kernel

end ShapeQuery
