import ShapeQuery.Proofs.Query.Narrowing
import ShapeQuery.Proofs.Query.Recasting

/-!
# Queries inside queries

A *context* is a query with a hole in it where a query can be put, at any depth: the frames around
the hole, the outermost first (`Query.Context`). A frame is a query one of whose operations has a
hole in place of a query that it holds (`Query.Frame`, `Operation.Hole`).

What a query contributes to the query around it is little. The operation that holds it hands on a
place of its own, so it does not matter where the query inside leads, only whether it leads
somewhere; and for an initial value that is absent it matters whether the query has operations at
all. A frame is monotone in these two (`Query.Frame.leads_mono`), hence so is a context
(`Query.Context.implies_fill`). An error of the query inside may be passed on, but nothing else
about how it fails (`Query.Context.endsAs_fill`).

`fill_congr_of_same_verdict` puts this together for a query that is replaced by an equivalent one.
That the two are equivalent is asked of runs on trees only; a run inside a tree ends as the run on
the subtree (`Query.outcome_execute`), because a move of the whole tree to another position is a
recasting.
-/

namespace ShapeQuery

/-! ### Contexts -/

/-- An operation with a hole in place of one of the queries that it holds. -/
inductive Operation.Hole where
  /-- The query for the operands. -/
  | operands
  /-- The first of two queries for two sides, beside the second. -/
  | firstSide (other : Query)
  /-- The second of two queries for two sides, beside the first. -/
  | secondSide (one : Query)
  /-- The query for the right side. -/
  | rightSide
  /-- An alternative, between others. -/
  | alternative (before after : List Query)

/-- The operation with a query in its hole. -/
def Operation.Hole.fill : Operation.Hole → Query → Operation
  | .operands, query => .operands query
  | .firstSide other, query => .sides query other
  | .secondSide one, query => .sides one query
  | .rightSide, query => .rightSide query
  | .alternative before after, query => .either (before ++ query :: after)

/-- The holes of operations are where the queries are that they hold. -/
theorem Operation.mem_nested_iff {op : Operation} {query : Query} :
    query ∈ op.nested ↔ ∃ hole : Operation.Hole, hole.fill query = op := by
  constructor
  · intro h
    cases op with
    | operands q =>
      obtain rfl := List.mem_singleton.1 h
      exact ⟨.operands, rfl⟩
    | sides one other =>
      rcases List.mem_pair.1 h with rfl | rfl
      · exact ⟨.firstSide other, rfl⟩
      · exact ⟨.secondSide one, rfl⟩
    | rightSide q =>
      obtain rfl := List.mem_singleton.1 h
      exact ⟨.rightSide, rfl⟩
    | either alternatives =>
      obtain ⟨before, after, rfl⟩ := List.append_of_mem h
      exact ⟨.alternative before after, rfl⟩
    | _ => exact absurd h List.not_mem_nil
  · rintro ⟨hole, rfl⟩
    cases hole with
    | alternative before after => exact List.mem_append_right _ List.mem_cons_self
    | secondSide one => exact List.mem_cons_of_mem _ List.mem_cons_self
    | _ => exact List.mem_cons_self

/-- A query with a hole inside one of its operations. -/
structure Query.Frame where
  /-- The operations before the one with the hole. -/
  before : Query
  /-- The operation with the hole. -/
  hole : Operation.Hole
  /-- The operations after it. -/
  after : Query

/-- The query with a query in its hole. -/
def Query.Frame.fill (frame : Query.Frame) (query : Query) : Query :=
  frame.before ++ frame.hole.fill query :: frame.after

/-- A query with a hole at any depth: the frames around the hole, the outermost first. -/
abbrev Query.Context := List Query.Frame

/-- The query with a query in its hole. Without frames that is the query itself. -/
def Query.Context.fill (context : Query.Context) (query : Query) : Query :=
  context.foldr Query.Frame.fill query

/-! ### What a context makes of where a query leads -/

theorem Query.someLeads_iff {alternatives : List Query} {n : Place} :
    Query.SomeLeads alternatives n ↔ ∃ query ∈ alternatives, ∃ m, Query.Leads query n m := by
  induction alternatives with
  | nil => simp
  | cons query rest ih => rw [SomeLeads, ih, List.exists_mem_cons_iff]

theorem Query.leads_append {first second : Query} {n m : Place} :
    Query.Leads (first ++ second) n m ↔
      ∃ k, Query.Leads first n k ∧ Query.Leads second k m := by
  induction first generalizing n with
  | nil => simp
  | cons op rest ih =>
    simp only [List.cons_append, Leads, ih]
    exact ⟨fun ⟨k, hop, j, hrest, hsecond⟩ ↦ ⟨j, ⟨k, hop, hrest⟩, hsecond⟩,
      fun ⟨j, ⟨k, hop, hrest⟩, hsecond⟩ ↦ ⟨k, hop, j, hrest, hsecond⟩⟩

/-- Wherever the first query matches the second one does, and the second has no operations if the
first has none. -/
structure Query.Implies (q q' : Query) : Prop where
  leads : ∀ {n : Place}, (∃ m, Query.Leads q n m) → ∃ m, Query.Leads q' n m
  nil : q = [] → q' = []

variable {q q' : Query} {n m : Place}

/-- An operation is monotone in the queries that it holds. -/
theorem Operation.Hole.leads_mono (hole : Operation.Hole) (h : q.Implies q')
    (hleads : (hole.fill q).Leads n m) : (hole.fill q').Leads n m := by
  cases hole with
  | operands =>
    obtain ⟨rfl, ⟨op, left, right, hn, hl, hr⟩ | ⟨op, operand, postfixed, hn, ho⟩⟩ := hleads
    · exact ⟨rfl, .inl ⟨op, left, right, hn, h.leads hl, h.leads hr⟩⟩
    · exact ⟨rfl, .inr ⟨op, operand, postfixed, hn, h.leads ho⟩⟩
  | firstSide other =>
    obtain ⟨rfl, op, left, right, hn, ⟨hl, hr⟩ | ⟨hr, hl⟩⟩ := hleads
    · exact ⟨rfl, op, left, right, hn, .inl ⟨h.leads hl, hr⟩⟩
    · exact ⟨rfl, op, left, right, hn, .inr ⟨h.leads hr, hl⟩⟩
  | secondSide one =>
    obtain ⟨rfl, op, left, right, hn, ⟨hl, hr⟩ | ⟨hr, hl⟩⟩ := hleads
    · exact ⟨rfl, op, left, right, hn, .inl ⟨hl, h.leads hr⟩⟩
    · exact ⟨rfl, op, left, right, hn, .inr ⟨hr, h.leads hl⟩⟩
  | rightSide =>
    obtain ⟨rfl, ⟨op, left, right, hn, hr⟩ | ⟨op, left, right, hn, hr⟩ | ⟨name, initial, hn, hi⟩ |
      ⟨name, hn, hnil⟩⟩ := hleads
    · exact ⟨rfl, .inl ⟨op, left, right, hn, h.leads hr⟩⟩
    · exact ⟨rfl, .inr (.inl ⟨op, left, right, hn, h.leads hr⟩)⟩
    · exact ⟨rfl, .inr (.inr (.inl ⟨name, initial, hn, h.leads hi⟩))⟩
    · -- here the query inside is not run, and so it is not enough that it matches less
      exact ⟨rfl, .inr (.inr (.inr ⟨name, hn, h.nil hnil⟩))⟩
  | alternative before after =>
    obtain ⟨rfl, hsome⟩ := hleads
    refine ⟨rfl, Query.someLeads_iff.2 ?_⟩
    obtain ⟨query, hmem, hquery⟩ := Query.someLeads_iff.1 hsome
    rcases List.mem_append.1 hmem with hbefore | hmem
    · exact ⟨query, List.mem_append_left _ hbefore, hquery⟩
    · rcases List.mem_cons.1 hmem with rfl | hafter
      · exact ⟨q', List.mem_append_right _ List.mem_cons_self, h.leads hquery⟩
      · exact ⟨query, List.mem_append_right _ (List.mem_cons_of_mem _ hafter), hquery⟩

namespace Query

/-- An operation can be replaced by one that leads wherever it does. -/
theorem leads_replace {before after : Query} {op op' : Operation}
    (h : ∀ {n m}, op.Leads n m → op'.Leads n m) (hleads : Query.Leads (before ++ op :: after) n m) :
    Query.Leads (before ++ op' :: after) n m := by
  obtain ⟨k, hbefore, j, hop, hafter⟩ := leads_append.1 hleads
  exact leads_append.2 ⟨k, hbefore, j, h hop, hafter⟩

theorem Frame.leads_mono (frame : Frame) (h : q.Implies q')
    (hleads : Query.Leads (frame.fill q) n m) : Query.Leads (frame.fill q') n m :=
  leads_replace (frame.hole.leads_mono h) hleads

theorem Frame.fill_ne_nil (frame : Frame) (q : Query) : frame.fill q ≠ [] :=
  List.append_ne_nil_of_right_ne_nil _ (List.cons_ne_nil _ _)

/-- A query that matches more makes the query around it match more. -/
theorem Context.implies_fill (context : Context) (h : q.Implies q') :
    Query.Implies (context.fill q) (context.fill q') := by
  induction context with
  | nil => exact h
  | cons frame rest ih =>
    exact ⟨fun ⟨m, hm⟩ ↦ ⟨m, frame.leads_mono ih hm⟩,
      fun hnil ↦ absurd hnil (frame.fill_ne_nil _)⟩

end Query

/-! ### Runs inside a tree -/

/-- The same place in a tree that has been put at the end of a trail. -/
def Place.under (base : List Nat) (p : Place) : Place := ⟨p.trail ++ base, p.node⟩

theorem recasting_under (base : List Nat) : Recasting (Place.under base) where
  kind _ := rfl
  operator? _ := rfl
  name? _ := rfl
  children p := by
    refine List.ext_getElem (by simp [Place.children, Place.under]) fun i _ _ ↦ ?_
    simp [Place.children, Place.child, Place.under]

namespace Query

/-- A run from a place inside a tree is the run on the subtree, moved to where the subtree is. -/
theorem execute_eq_map_run (query : Query) (n : Place) :
    Query.execute query n .empty = (query.run n.node).map (Place.under n.trail) :=
  (recasting_under n.trail).execute_map query (.root n.node) .empty

/-- A run from a place inside a tree ends as the run on the subtree. -/
theorem outcome_execute (query : Query) (n : Place) (c : Capture) :
    (Query.execute query n c).result.outcome = (query.run n.node).result.outcome := by
  rw [result_execute, execute_eq_map_run, Run.map, Except.outcome_map]

theorem execute_eq_error_iff {query : Query} {c : Capture} {err : QueryError} :
    (Query.execute query n c).result = .error err ↔ (query.run n.node).result = .error err := by
  rw [← Except.outcome_eq_error_iff, outcome_execute, Except.outcome_eq_error_iff]

theorem isMatch_execute (query : Query) (n : Place) (c : Capture) :
    (Query.execute query n c).isMatch = (query.run n.node).isMatch :=
  (Except.outcome_eq_outcome_iff.1 (outcome_execute query n c)).1

/-- A run from a place inside a tree has the log of the run on the subtree. -/
theorem log_execute (query : Query) (n : Place) (c : Capture) :
    (Query.execute query n c).log = (query.run n.node).log := by
  rw [execute_eq, execute_eq_map_run]
  rfl

/-- A query leads somewhere from a place if it matches the subtree. -/
theorem exists_leads_iff {query : Query} :
    (∃ m, Query.Leads query n m) ↔ (query.run n.node).isMatch = true := by
  rw [← query.understood.exists_ok_iff n .empty, ← Except.outcome_eq_ok_iff, outcome_execute,
    Except.outcome_eq_ok_iff, Run.isMatch, Except.isOk_iff]

theorem implies_of_isMatch_eq (hmatch : ∀ e, (q.run e).isMatch = (q'.run e).isMatch)
    (hempty : q.isEmpty = q'.isEmpty) : q.Implies q' where
  leads h := exists_leads_iff.2 ((hmatch _).symm.trans (exists_leads_iff.1 h))
  nil h := List.isEmpty_iff.1 (hempty.symm.trans (List.isEmpty_iff.2 h))

end Query

/-! ### Errors that a context passes on -/

/-- Two queries end alike if they match at the same places and fail with the same error
elsewhere. -/
def Query.EndsAs (q q' : Query) : Prop :=
  ∀ n, (Query.execute q n .empty).result.outcome = (Query.execute q' n .empty).result.outcome

/-- Whether queries end alike can be told from runs on trees. -/
theorem Query.endsAs_iff :
    q.EndsAs q' ↔ (∀ e, (q.run e).isMatch = (q'.run e).isMatch) ∧
      ∀ e err, (q.run e).result = .error err ↔ (q'.run e).result = .error err := by
  rw [← forall_and]
  simp only [Run.isMatch, ← Except.outcome_eq_outcome_iff]
  refine ⟨fun h e ↦ h (.root e), fun h n ↦ ?_⟩
  rw [outcome_execute, outcome_execute, h]

theorem map_const_congr {α β : Type} {result : Except QueryError α} {result' : Except QueryError β}
    (p : Place) (h : result.outcome = result'.outcome) :
    (result.map fun _ ↦ p) = result'.map fun _ ↦ p := by
  cases result <;> cases result' <;> cases h <;> rfl

theorem requireAll_pair_congr {a b a' b' : Except QueryError Place} (p : Place)
    (ha : a.outcome = a'.outcome) (hb : b.outcome = b'.outcome) :
    requireAll p [a, b] = requireAll p [a', b'] :=
  requireAll_congr p (by rw [List.map_cons, List.map_cons, ha, hb]; rfl)

namespace Operation

theorem value_operands_congr (h : q.EndsAs q') (n : Place) :
    ((Operation.operands q).apply n).value = ((Operation.operands q').apply n).value := by
  rw [apply_operands, apply_operands]
  split
  · exact requireAll_pair_congr n (h _) (h _)
  · exact map_const_congr n (h _)
  · rfl

theorem value_sides_congr {one one' other other' : Query} (hone : one.EndsAs one')
    (hother : other.EndsAs other') (n : Place) :
    ((Operation.sides one other).apply n).value =
      ((Operation.sides one' other').apply n).value := by
  rw [apply_sides, apply_sides]
  split
  case h_1 left right _ _ =>
    have hfirst := requireAll_pair_congr n (hone left) (hother right)
    have hsecond := requireAll_pair_congr n (hone right) (hother left)
    simp only [hfirst, hsecond]
    rcases requireAll n [(Query.execute one' left .empty).result,
      (Query.execute other' right .empty).result] with first | p
    · rcases requireAll n [(Query.execute one' right .empty).result,
        (Query.execute other' left .empty).result] with second | p
      · rfl
      · rfl
    · rfl
  case h_2 => rfl

theorem value_rightSide_congr (h : q.EndsAs q') (hempty : q.isEmpty = q'.isEmpty) (n : Place) :
    ((Operation.rightSide q).apply n).value = ((Operation.rightSide q').apply n).value := by
  rw [apply_rightSide, apply_rightSide]
  split
  · exact map_const_congr n (h _)
  · exact map_const_congr n (h _)
  · exact map_const_congr n (h _)
  · rw [hempty]
  · rfl

/-- What an alternative contributes is how it ends, wherever it stands. -/
theorem value_tryEach_congr (h : q.EndsAs q') (before after : List Query) (n : Place) :
    (Query.tryEach (before ++ q :: after) n).value =
      (Query.tryEach (before ++ q' :: after) n).value := by
  -- the alternatives before are tried as they were; those after it only if it fails
  induction before with
  | nil =>
    have hq := h n
    simp only [List.nil_append, Query.tryEach]
    rcases hresult : (Query.execute q n .empty).result with err | m
    · rw [hresult] at hq
      rw [Except.outcome_eq_error_iff.1 hq.symm]
    · rw [hresult] at hq
      obtain ⟨m', hm'⟩ := Except.outcome_eq_ok_iff.1 hq.symm
      rw [hm']
  | cons first before ih =>
    simp only [List.cons_append, Query.tryEach]
    cases (Query.execute first n .empty).result with
    | error err => exact congrArg (Except.mapError (err :: ·)) ih
    | ok m => rfl

theorem value_either (alternatives : List Query) (n : Place) :
    ((Operation.either alternatives).apply n).value =
      ((Query.tryEach alternatives n).value.mapError .aggregate).map fun _ ↦ n := by
  rw [Operation.apply]
  cases (Query.tryEach alternatives n).value <;> rfl

/-- What an operation hands on, and the error that it fails with, depend on how the queries inside
it end and on which of them are without operations. -/
theorem Hole.value_congr (hole : Hole) (h : q.EndsAs q') (hempty : q.isEmpty = q'.isEmpty)
    (n : Place) : ((hole.fill q).apply n).value = ((hole.fill q').apply n).value := by
  cases hole with
  | operands => exact value_operands_congr h n
  | firstSide other => exact value_sides_congr h (fun _ ↦ rfl) n
  | secondSide one => exact value_sides_congr (fun _ ↦ rfl) h n
  | rightSide => exact value_rightSide_congr h hempty n
  | alternative before after =>
    rw [fill, fill, value_either, value_either, value_tryEach_congr h]

end Operation

namespace Query

/-- An operation can be replaced by one with the same values. -/
theorem result_replace {op op' : Operation} (h : ∀ n, (op.apply n).value = (op'.apply n).value)
    (before after : Query) (n : Place) (c : Capture) :
    (Query.execute (before ++ op :: after) n c).result =
      (Query.execute (before ++ op' :: after) n c).result := by
  induction before generalizing n c with
  | nil =>
    rw [List.nil_append, List.nil_append, execute, execute, h n]
    cases (op'.apply n).value <;> rfl
  | cons first before ih =>
    rw [List.cons_append, List.cons_append, execute, execute]
    cases (first.apply n).value with
    | error err => rfl
    | ok p => exact ih p _

theorem Frame.result_congr (frame : Frame) (h : q.EndsAs q') (hempty : q.isEmpty = q'.isEmpty)
    (n : Place) (c : Capture) :
    (Query.execute (frame.fill q) n c).result = (Query.execute (frame.fill q') n c).result :=
  result_replace (frame.hole.value_congr h hempty) frame.before frame.after n c

theorem Frame.isEmpty_fill (frame : Frame) (q : Query) : (frame.fill q).isEmpty = false :=
  List.isEmpty_eq_false_iff.2 (frame.fill_ne_nil q)

/-- Queries that end alike make the queries around them end alike. -/
theorem Context.endsAs_fill (context : Context) (h : q.EndsAs q')
    (hempty : q.isEmpty = q'.isEmpty) :
    Query.EndsAs (context.fill q) (context.fill q') ∧
      List.isEmpty (context.fill q) = List.isEmpty (context.fill q') := by
  induction context with
  | nil => exact ⟨h, hempty⟩
  | cons frame rest ih =>
    refine ⟨fun n ↦ congrArg Except.outcome (frame.result_congr ih.1 ih.2 n .empty), ?_⟩
    exact (frame.isEmpty_fill _).trans (frame.isEmpty_fill _).symm

/-! ### What is left of a query in its context -/

/-- An operation can be replaced by one that leads to the same places, for all that is captured. -/
theorem capture_replace {op op' : Operation} (h : ∀ n m, op.Leads n m ↔ op'.Leads n m)
    (before after : Query) (n : Place) (c : Capture) :
    (Query.execute (before ++ op :: after) n c).capture =
      (Query.execute (before ++ op' :: after) n c).capture := by
  rw [execute_eq _ n c, execute_eq (before ++ op' :: after) n c, Capture.mk.injEq]
  refine congrArg c.collected.or ?_
  -- only the first operation counts, and it may be the one that is replaced or another
  cases before with
  | nil =>
    rw [List.nil_append, List.nil_append, head?_handedOn_cons, head?_handedOn_cons]
    refine Except.toOption_congr fun m ↦ ?_
    rw [Operation.understood, Operation.understood, h]
  | cons first before =>
    rw [List.cons_append, List.cons_append, head?_handedOn_cons, head?_handedOn_cons]

/-- What a run captures does not depend on which place a query inside narrows to. -/
theorem Frame.capture_congr (frame : Frame) (h : q.Implies q') (h' : q'.Implies q) (n : Place)
    (c : Capture) :
    (Query.execute (frame.fill q) n c).capture = (Query.execute (frame.fill q') n c).capture :=
  capture_replace (fun _ _ ↦ ⟨frame.hole.leads_mono h, frame.hole.leads_mono h'⟩)
    frame.before frame.after n c

theorem Frame.toOption_result_congr (frame : Frame) (h : q.Implies q') (h' : q'.Implies q)
    (n : Place) (c : Capture) :
    (Query.execute (frame.fill q) n c).result.toOption =
      (Query.execute (frame.fill q') n c).result.toOption := by
  refine Except.toOption_congr fun m ↦ ?_
  rw [Query.understood, Query.understood]
  exact ⟨frame.leads_mono h, frame.leads_mono h'⟩

end Query

/-- The first call is found where the last one is, and otherwise both fail in the same way. -/
theorem Query.endsAs_findCall : Query.EndsAs [.findCall true] [.findCall false] := by
  have hresult : ∀ (firstOnly : Bool) (n : Place),
      (Query.execute [.findCall firstOnly] n .empty).result =
        (if firstOnly then n.calls.head? else n.calls.getLast?).elim (.error .noMatch) .ok := by
    intro firstOnly n
    rw [← n.state_findCall, Query.execute, Operation.apply, foundCall]
    cases (n.findCall firstOnly).state <;> rfl
  intro n
  rw [hresult, hresult]
  cases n.calls with
  | nil => rfl
  | cons first later =>
    rw [List.getLast?_cons]
    rfl

/-- A query inside a query can be replaced by one with the same verdict on every tree, if both have
operations or neither has: the query around it then matches the same, ends at the same place and
captures the same. If the two also fail with the same errors, so does the query around them. That
neither or both have operations has to be asked for, on account of initial values that are
absent. -/
theorem fill_congr_of_same_verdict :
    (∀ (context : Query.Context) (q q' : Query), context ≠ [] →
      (∀ e, (q.run e).isMatch = (q'.run e).isMatch) → q.isEmpty = q'.isEmpty →
      (∀ n c,
        (Query.execute (context.fill q) n c).isMatch =
          (Query.execute (context.fill q') n c).isMatch ∧
        (Query.execute (context.fill q) n c).result.toOption =
          (Query.execute (context.fill q') n c).result.toOption ∧
        (Query.execute (context.fill q) n c).capture =
          (Query.execute (context.fill q') n c).capture) ∧
      ((∀ e err, (q.run e).result = .error err ↔ (q'.run e).result = .error err) →
        ∀ n c, (Query.execute (context.fill q) n c).result =
          (Query.execute (context.fill q') n c).result)) ∧
    ∃ q q' : Query, (∀ e, (q.run e).isMatch = (q'.run e).isMatch) ∧
      ∃ e, (Query.run [.rightSide q] e).isMatch ≠ (Query.run [.rightSide q'] e).isMatch := by
  constructor
  · intro context q q' hcontext hmatch hempty
    obtain ⟨frame, rest, rfl⟩ := List.exists_cons_of_ne_nil hcontext
    -- what stands in the outermost frame need not agree in more than this
    have himplies : Query.Implies (Query.Context.fill rest q) (Query.Context.fill rest q') :=
      Query.Context.implies_fill rest (Query.implies_of_isMatch_eq hmatch hempty)
    have himplied : Query.Implies (Query.Context.fill rest q') (Query.Context.fill rest q) :=
      Query.Context.implies_fill rest
        (Query.implies_of_isMatch_eq (fun e ↦ (hmatch e).symm) hempty.symm)
    refine ⟨fun n c ↦ ?_, fun herror n c ↦ ?_⟩
    · have hlast := frame.toOption_result_congr himplies himplied n c
      refine ⟨?_, hlast, ?_⟩
      · rw [Run.isMatch, Run.isMatch, ← Except.isSome_toOption, ← Except.isSome_toOption]
        exact congrArg Option.isSome hlast
      · exact frame.capture_congr himplies himplied n c
    · obtain ⟨hends, hnone⟩ :=
        Query.Context.endsAs_fill rest (Query.endsAs_iff.2 ⟨hmatch, herror⟩) hempty
      exact frame.result_congr hends hnone n c
  · -- both match everything, but one of them has an operation
    refine ⟨[], [.pass], fun _ ↦ ?_, .declarator "x" none, ?_⟩
    · rfl
    · decide

/-- Queries for the first and for the last call, in place of each other in an alternative for the
right side of an assignment. They end at different places. -/
theorem fill_congr_of_same_verdict_findCall :
    let q : Query := [.findCall true]
    let q' : Query := [.findCall false]
    let context : Query.Context :=
      [⟨[.guard .assign], .rightSide, [.pass]⟩, ⟨[], .alternative [[.containsThis]] [], []⟩]
    let e : Expr := .assign .assign (.identifier "x")
      (.call (.identifier "f") [.call (.identifier "g") []])
    (∀ e, (q.run e).isMatch = (q'.run e).isMatch) ∧
      (q.run e).result.toOption.map Place.trail ≠ (q'.run e).result.toOption.map Place.trail ∧
      (Query.run (context.fill q) e).isMatch = true ∧
      (Query.run (context.fill q) e).result = (Query.run (context.fill q') e).result ∧
      (Query.run (context.fill q) e).capture = (Query.run (context.fill q') e).capture := by
  intro q q' context e
  obtain ⟨hmatch, herror⟩ := Query.endsAs_iff.1 Query.endsAs_findCall
  obtain ⟨hsame, herrors⟩ :=
    fill_congr_of_same_verdict.1 context q q' (List.cons_ne_nil _ _) hmatch rfl
  obtain ⟨-, -, hcapture⟩ := hsame (.root e) .empty
  exact ⟨hmatch, by decide +kernel, by decide +kernel, herrors herror (.root e) .empty, hcapture⟩

end ShapeQuery
