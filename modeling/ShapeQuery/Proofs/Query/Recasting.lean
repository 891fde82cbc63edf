import ShapeQuery.Proofs.Query.ContentWalk
import ShapeQuery.Proofs.Query.Induction

/-!
# What a run looks at

A run looks at four things of a place: the kind of its node, the operator, the name if it is an
identifier, and the places of its children. A map of places that keeps them is a *recasting*
(`Recasting`); it may change anything else about the nodes, and where in a larger tree they are.

A run from the recast place is the run from the place, recast: it takes the same turns, fails with
the same error and logs the same entries, and what it hands on, it hands on recast
(`Recasting.execute_map`). The walks inside a run follow a recasting through their tours
(`Recasting.tour_eq`), and content checks do not notice it (`Recasting.check_eq`). For the
operations with queries inside, an equation first says what they do in terms of kind and children
alone (`apply_operands` and those after it); that is all that the induction on the query needs.
-/

namespace ShapeQuery

universe u

variable {f : Place → Place}

/-- The name of an identifier. -/
def Expr.name? : Expr → Option String
  | .identifier name => some name
  | _ => none

/-- A map of places that keeps what a run looks at. -/
structure Recasting (f : Place → Place) : Prop where
  kind : ∀ p, (f p).kind = p.kind
  operator? : ∀ p, (f p).node.operator? = p.node.operator?
  name? : ∀ p, (f p).node.name? = p.node.name?
  children : ∀ p, (f p).children = p.children.map f

/-! ### Walks -/

/-- The same event at the recast place. -/
def Event.map (f : Place → Place) : Event → Event
  | .enter p => .enter (f p)
  | .leave p => .leave (f p)

/-- The tour of a recast place is the tour of the place, recast. -/
theorem Recasting.tour_eq (hf : Recasting f) (p : Place) :
    (f p).tour = p.tour.map (Event.map f) := by
  induction p using Place.children_induction with
  | step p ih =>
    have hbelow : (p.children.map f).flatMap Place.tour =
        (p.children.flatMap Place.tour).map (Event.map f) := by
      rw [List.flatMap_map, List.map_flatMap]
      exact List.flatMap_congr ih
    rw [(f p).tour_eq, p.tour_eq, hf.children, hbelow, List.map_cons, List.map_append]
    rfl

/-- A visitor follows a recasting if what it hears about the recast places changes its state as what
it hears about the places does, up to a map of its states, and it gets done at the same time. -/
structure Visitor.Follows {σ : Type u} (v : Visitor σ) (f : Place → Place) (g : σ → σ) : Prop where
  notify : ∀ s e, v.notify (g s) (e.map f) = g (v.notify s e)
  done : ∀ s, v.done (g s) = v.done s

namespace Visitor.Follows

variable {σ : Type u} {v : Visitor σ} {g : σ → σ}

theorem heard (h : v.Follows f g) (s : σ) (events : List Event) :
    v.heard (g s) (events.map (Event.map f)) = (v.heard s events).map (Event.map f) := by
  induction events generalizing s with
  | nil => rfl
  | cons e rest ih =>
    rw [List.map_cons, Visitor.heard, Visitor.heard, h.notify, h.done, ih]
    split <;> rfl

theorem stopIn (h : v.Follows f g) (s : σ) (events : List Event) :
    v.stopIn (g s) (events.map (Event.map f)) = (v.stopIn s events).map (Event.map f) := by
  induction events generalizing s with
  | nil => rfl
  | cons e rest ih =>
    rw [List.map_cons, Visitor.stopIn, Visitor.stopIn, h.notify, h.done, ih]
    split <;> rfl

theorem foldl (h : v.Follows f g) (s : σ) (events : List Event) :
    (events.map (Event.map f)).foldl v.notify (g s) = g (events.foldl v.notify s) := by
  induction events generalizing s with
  | nil => rfl
  | cons e rest ih => rw [List.map_cons, List.foldl_cons, List.foldl_cons, h.notify, ih]

theorem state_walk (h : v.Follows f g) (hf : Recasting f) (p : Place) (s : σ) :
    (v.walk (f p) (g s)).state = g (v.walk p s).state := by
  rw [Visitor.state_walk, Visitor.state_walk, hf.tour_eq, h.heard, h.foldl]

/-- The log of a walk has kinds in it and no places. -/
theorem log_walk (h : v.Follows f g) (hf : Recasting f) (p : Place) (s : σ) :
    (v.walk (f p) (g s)).log = (v.walk p s).log := by
  have hentry : ∀ e : Event, LogEntry.ofStop (e.map f) = LogEntry.ofStop e := by
    intro e
    cases e with
    | enter q => exact congrArg LogEntry.stoppedEntering (hf.kind q)
    | leave q => exact congrArg LogEntry.stoppedLeaving (hf.kind q)
  rw [Visitor.log_walk, Visitor.log_walk, hf.tour_eq, h.stopIn]
  cases v.stopIn s p.tour with
  | none => rfl
  | some e => exact congrArg (fun entry ↦ [entry]) (hentry e)

end Visitor.Follows

theorem Expr.isCall_eq_of_kind {e e' : Expr} (h : e.kind = e'.kind) : e.isCall = e'.isCall := by
  have hiff : ∀ e : Expr, e.isCall = (e.kind == .call || e.kind == .construct) := by
    intro e
    cases e <;> rfl
  rw [hiff, hiff, h]

theorem Expr.isThis_eq_of_kind {e e' : Expr} (h : e.kind = e'.kind) : e.isThis = e'.isThis := by
  have hiff : ∀ e : Expr, e.isThis = (e.kind == .thisRef) := by
    intro e
    cases e <;> rfl
  rw [hiff, hiff, h]

/-- The call that is found from the recast place is the one that is found, recast. -/
theorem Recasting.follows_callFinder (hf : Recasting f) (firstOnly : Bool) :
    (Visitor.callFinder firstOnly).Follows f (Option.map f) where
  notify found e := by
    cases e with
    | enter p => rfl
    | leave p =>
      show (if (f p).node.isCall then some (f p) else found.map f) =
        (if p.node.isCall then some p else found).map f
      rw [Expr.isCall_eq_of_kind (hf.kind p)]
      split <;> rfl
  done found := by cases found <;> rfl

theorem Recasting.follows_thisCounter (hf : Recasting f) :
    Visitor.thisCounter.Follows f id where
  notify n e := by
    cases e with
    | enter p =>
      show (if (f p).node.isThis then n + 1 else n) = if p.node.isThis then n + 1 else n
      rw [Expr.isThis_eq_of_kind (hf.kind p)]
    | leave p => rfl
  done _ := rfl

/-! ### Content checks -/

namespace Content

variable {content : Content}

/-- Whether a node is supported can be told from its kind and from whether it has children. -/
theorem supports_iff {e : Expr} :
    content.Supports e ↔ e.kind = .binary ∨ e.kind = .unary ∨
      (e.kind = .declarator ∧ e.children ≠ []) ∨ e.kind = content.literalKind := by
  constructor
  · rintro (⟨op, left, right⟩ | ⟨op, operand, postfixed⟩ | ⟨name, initial⟩ | hkind)
    · exact .inl rfl
    · exact .inr (.inl rfl)
    · exact .inr (.inr (.inl ⟨rfl, List.cons_ne_nil _ _⟩))
    · exact .inr (.inr (.inr hkind))
  · rintro (hkind | hkind | ⟨hkind, hchildren⟩ | hkind)
    · cases e <;> cases hkind
      exact .binary _ _ _
    · cases e <;> cases hkind
      exact .unary _ _ _
    · cases e <;> cases hkind
      rename_i name initial
      cases initial with
      | none => exact absurd rfl hchildren
      | some initial => exact .declarator name initial
    · exact .literal hkind

/-- The error for a node of the given kind that a check does not get past. -/
def refusal (content : Content) (kind : ExprKind) : QueryError :=
  if kind ∈ [.number, .string, .boolean] then .contentMismatch content kind
  else .structureMismatch kind

theorem descend_eq_refusal {e : Expr} (h : ¬ content.Supports e) :
    content.descend e = .error (content.refusal e.kind) := by
  cases e with
  | binary op left right => exact absurd (.binary op left right) h
  | unary op operand postfixed => exact absurd (.unary op operand postfixed) h
  | declarator name initial =>
    cases initial with
    | none => cases content <;> rfl
    | some initial => exact absurd (.declarator name initial) h
  | number value =>
    cases content with
    | numbers => exact absurd (.literal rfl) h
    | booleans => rfl
  | boolean value =>
    cases content with
    | numbers => rfl
    | booleans => exact absurd (.literal rfl) h
  | _ => cases content <;> rfl

end Content

theorem Place.map_node_children (p : Place) : p.children.map Place.node = p.node.children := by
  refine List.ext_getElem (by simp [Place.children]) fun i _ _ ↦ ?_
  simp [Place.children, Place.child]

/-- A content check does not notice a recasting. -/
theorem Recasting.verdict_eq (hf : Recasting f) (content : Content) (budget : Nat) (p : Place) :
    content.verdict budget (f p).node = content.verdict budget p.node := by
  induction budget generalizing p with
  | zero => rw [Content.verdict, Content.verdict]
  | succ budget ih =>
    have hkind : (f p).node.kind = p.node.kind := hf.kind p
    have hnil : (f p).node.children = [] ↔ p.node.children = [] := by
      rw [← Place.map_node_children, ← Place.map_node_children, List.map_eq_nil_iff,
        List.map_eq_nil_iff, hf.children, List.map_eq_nil_iff]
    have hsupports : content.Supports (f p).node ↔ content.Supports p.node := by
      rw [Content.supports_iff, Content.supports_iff, hkind, ne_eq, ne_eq, hnil]
    rw [Content.verdict_succ, Content.verdict_succ]
    by_cases hp : content.Supports p.node
    · rw [Content.descend_eq_ok_iff_children.2 ⟨hp, rfl⟩,
        Content.descend_eq_ok_iff_children.2 ⟨hsupports.2 hp, rfl⟩, Except.ok_bind, Except.ok_bind,
        ← Place.map_node_children, ← Place.map_node_children, hf.children, List.forM_map,
        List.forM_map, List.forM_map]
      exact congrArg (forM p.children) (funext ih)
    · rw [Content.descend_eq_refusal hp, Content.descend_eq_refusal (mt hsupports.1 hp), hkind]

theorem Recasting.check_eq (hf : Recasting f) (content : Content) (budget : Nat) (p : Place) :
    content.check (f p).node budget = content.check p.node budget := by
  rw [Content.check_eq_verdict, Content.check_eq_verdict, hf.verdict_eq]

/-! ### What an operation does, in terms of kinds and children -/

theorem Place.children_of_call {p : Place} {callee : Expr} {args : List Expr}
    (h : p.node = .call callee args) :
    p.children = p.child 0 callee :: args.mapIdx fun i ↦ p.child (i + 1) := by
  rw [Place.children, h, Expr.children, List.mapIdx_cons]

theorem expectAnonymousCall_eq (p : Place) :
    expectAnonymousCall p =
      match p.kind, p.children with
      | .call, callee :: _ => (expectKind [.function] callee).map fun _ ↦ p
      | _, _ => expectKind [.call] p := by
  obtain ⟨trail, node⟩ := p
  cases node with
  | call callee args =>
    rw [Place.children_of_call rfl]
    rfl
  | _ => rfl

theorem calleeName_eq (p : Place) :
    calleeName p =
      match p.kind, p.children with
      | .call, callee :: _ =>
        match callee.kind, callee.children with
        | .identifier, _ => .ok callee
        | .dot, [_, member] =>
          match member.kind with
          | .identifier => .ok member
          | _ => .error .noIdentifier
        | _, _ => .error .noIdentifier
      | _, _ => expectKind [.call] p := by
  obtain ⟨trail, node⟩ := p
  cases node with
  | call callee args =>
    rw [Place.children_of_call rfl]
    cases callee with
    | dot left member => cases member <;> rfl
    | _ => rfl
  | _ => rfl

theorem expectName_eq (pattern : Pattern) (p : Place) :
    expectName pattern p =
      match p.node.name? with
      | some name => if pattern.isMatch name then .ok p else .error (.nameMismatch name)
      | none => .error .noIdentifier := by
  obtain ⟨trail, node⟩ := p
  cases node <;> rfl

theorem apply_operands (query : Query) (p : Place) :
    (Operation.operands query).apply p =
      match p.kind, p.children with
      | .binary, [left, right] =>
        let l := Query.execute query left .empty
        let r := Query.execute query right .empty
        ⟨requireAll p [l.result, r.result], l.log ++ r.log⟩
      | .unary, [operand] =>
        let r := Query.execute query operand .empty
        ⟨r.result.map fun _ ↦ p, r.log⟩
      | kind, _ => ⟨.error (.structureMismatch kind), []⟩ := by
  obtain ⟨trail, node⟩ := p
  cases node <;> rfl

theorem apply_sides (one other : Query) (p : Place) :
    (Operation.sides one other).apply p =
      match p.kind, p.children with
      | .binary, [left, right] =>
        let l := Query.execute one left .empty
        let r := Query.execute other right .empty
        match requireAll p [l.result, r.result] with
        | .ok p => ⟨.ok p, l.log ++ r.log⟩
        | .error first =>
          let r' := Query.execute one right .empty
          let l' := Query.execute other left .empty
          let log := l.log ++ r.log ++ r'.log ++ l'.log
          match requireAll p [r'.result, l'.result] with
          | .ok p => ⟨.ok p, log⟩
          | .error second => ⟨.error (.aggregate [first, second]), log ++ [.neitherOrder .binary]⟩
      | kind, _ => ⟨.error (.typeMismatch [.binary] kind), []⟩ := by
  obtain ⟨trail, node⟩ := p
  cases node <;> rfl

theorem apply_rightSide (query : Query) (p : Place) :
    (Operation.rightSide query).apply p =
      match p.kind, p.children with
      | .assign, [_, right] =>
        let r := Query.execute query right .empty
        ⟨r.result.map fun _ ↦ p, r.log⟩
      | .binary, [_, right] =>
        let r := Query.execute query right .empty
        ⟨r.result.map fun _ ↦ p, r.log⟩
      | .declarator, [initial] =>
        let r := Query.execute query initial .empty
        ⟨r.result.map fun _ ↦ p, r.log⟩
      | .declarator, [] => ⟨if query.isEmpty then .ok p else .error .missingNode, []⟩
      | kind, _ => ⟨.error (.structureMismatch kind), []⟩ := by
  obtain ⟨trail, node⟩ := p
  cases node with
  | declarator name initial => cases initial <;> rfl
  | _ => rfl

/-! ### Operations without queries inside -/

namespace Recasting

theorem expectKind_map (hf : Recasting f) (expected : List ExprKind) (p : Place) :
    expectKind expected (f p) = (expectKind expected p).map f := by
  rw [expectKind, expectKind, hf.kind]
  split <;> rfl

theorem expectAnonymousCall_map (hf : Recasting f) (p : Place) :
    expectAnonymousCall (f p) = (expectAnonymousCall p).map f := by
  rw [expectAnonymousCall_eq, expectAnonymousCall_eq, hf.kind, hf.children]
  cases p.kind with
  | call =>
    cases p.children with
    | nil => exact hf.expectKind_map [.call] p
    | cons callee rest =>
      simp only [List.map_cons, hf.expectKind_map]
      cases expectKind [.function] callee <;> rfl
  | _ => exact hf.expectKind_map [.call] p

theorem expectOperator_map (hf : Recasting f) (operators : List Operator) (p : Place) :
    expectOperator operators (f p) =
      (expectOperator operators p).map f := by
  rw [expectOperator, expectOperator, hf.operator?, hf.kind]
  rcases p.node.operator? with - | op
  · rfl
  · cases hmem : operators.contains op <;> simp only [hmem] <;> rfl

/-- From a call, the two ways to a name both go through children. -/
theorem calleeName_map (hf : Recasting f) (p : Place) :
    calleeName (f p) = (calleeName p).map f := by
  rw [calleeName_eq, calleeName_eq, hf.kind, hf.children]
  cases p.kind with
  | call =>
    rcases p.children with - | ⟨callee, rest⟩
    · exact hf.expectKind_map [.call] p
    · simp only [List.map_cons, hf.kind callee, hf.children callee]
      cases callee.kind with
      | dot =>
        rcases callee.children with - | ⟨left, - | ⟨member, - | ⟨extra, more⟩⟩⟩
        · rfl
        · rfl
        · simp only [List.map_cons, List.map_nil, hf.kind member]
          cases member.kind <;> rfl
        · rfl
      | _ => rfl
  | _ => exact hf.expectKind_map [.call] p

theorem expectName_map (hf : Recasting f) (pattern : Pattern) (p : Place) :
    expectName pattern (f p) = (expectName pattern p).map f := by
  rw [expectName_eq, expectName_eq, hf.name?]
  rcases p.node.name? with - | name
  · rfl
  · cases hmatch : pattern.isMatch name <;> simp only [hmatch] <;> rfl

theorem foundCall_map (hf : Recasting f) (firstOnly : Bool) (p : Place) :
    foundCall firstOnly (f p) =
      ⟨(foundCall firstOnly p).value.map f, (foundCall firstOnly p).log⟩ := by
  have hstate := (hf.follows_callFinder firstOnly).state_walk hf p none
  have hlog := (hf.follows_callFinder firstOnly).log_walk hf p none
  simp only [Option.map_none] at hstate hlog
  simp only [foundCall, Place.findCall, hstate, hlog]
  cases ((Visitor.callFinder firstOnly).walk p none).state <;> rfl

theorem foundThis_map (hf : Recasting f) (p : Place) :
    foundThis (f p) = ⟨(foundThis p).value.map f, (foundThis p).log⟩ := by
  have hstate := hf.follows_thisCounter.state_walk hf p 0
  have hlog := hf.follows_thisCounter.log_walk hf p 0
  simp only [id_eq] at hstate hlog
  simp only [foundThis, hstate, hlog]
  split <;> rfl

end Recasting

/-! ### Operations with queries inside -/

/-- What a capture holds, recast. -/
def Capture.map (f : Place → Place) (c : Capture) : Capture := ⟨c.collected.map f⟩

theorem Capture.map_offer (f : Place → Place) (c : Capture) (p : Place) :
    (c.map f).offer (f p) = (c.offer p).map f := by
  obtain ⟨collected⟩ := c
  cases collected <;> rfl

/-- A run with its places recast. -/
def Run.map (f : Place → Place) (r : Run Place) : Run Place :=
  ⟨r.result.map f, r.capture.map f, r.log⟩

/-- A query commutes with a map of places if its run from an image is the image of its run. -/
def Query.Commutes (f : Place → Place) (query : Query) : Prop :=
  ∀ p c, Query.execute query (f p) (c.map f) = (Query.execute query p c).map f

/-- An operation commutes with a map of places if what it does at an image is the image of what it
does. -/
def Operation.Commutes (f : Place → Place) (op : Operation) : Prop :=
  ∀ p, op.apply (f p) = ⟨(op.apply p).value.map f, (op.apply p).log⟩

theorem Query.Commutes.execute_empty {query : Query} (h : query.Commutes f) (p : Place) :
    Query.execute query (f p) .empty = (Query.execute query p .empty).map f :=
  h p .empty

/-- What several results fail with does not depend on what those that are good have found. -/
theorem failures_congr {α β : Type} {results : List (Except QueryError α)}
    {results' : List (Except QueryError β)}
    (h : results.map Except.outcome = results'.map Except.outcome) :
    failures results = failures results' := by
  have houtcome : ∀ {γ : Type} (rs : List (Except QueryError γ)),
      failures rs = failures (rs.map Except.outcome) := by
    intro γ rs
    rw [failures, failures, List.filterMap_map]
    refine List.filterMap_congr fun r _ ↦ ?_
    cases r <;> rfl
  rw [houtcome results, h, ← houtcome]

theorem requireAll_congr {α β : Type} {results : List (Except QueryError α)}
    {results' : List (Except QueryError β)} (p : Place)
    (h : results.map Except.outcome = results'.map Except.outcome) :
    requireAll p results = requireAll p results' := by
  rw [requireAll, requireAll, failures_congr h]

theorem requireAll_map (f : Place → Place) (p : Place) (results : List (Except QueryError Place)) :
    requireAll (f p) (results.map (Except.map f)) = (requireAll p results).map f := by
  have houtcomes :
      (results.map (Except.map f)).map Except.outcome = results.map Except.outcome := by
    rw [List.map_map]
    exact List.map_congr_left fun _ _ ↦ Except.outcome_map
  rw [requireAll_congr (f p) houtcomes, requireAll, requireAll]
  cases failures results <;> rfl

theorem requireAll_pair_map (f : Place → Place) (p : Place) (a b : Except QueryError Place) :
    requireAll (f p) [a.map f, b.map f] = (requireAll p [a, b]).map f :=
  requireAll_map f p [a, b]

/-- A place that passes on account of a result does so after a recasting. -/
theorem map_const_map (f : Place → Place) (p : Place) (result : Except QueryError Place) :
    ((result.map f).map fun _ ↦ f p) = (result.map fun _ ↦ p).map f := by
  cases result <;> rfl

namespace Recasting

theorem operands (hf : Recasting f) {query : Query} (h : query.Commutes f) :
    (Operation.operands query).Commutes f := by
  intro p
  rw [apply_operands, apply_operands, hf.kind, hf.children]
  cases p.kind with
  | binary =>
    rcases p.children with - | ⟨left, - | ⟨right, - | ⟨extra, more⟩⟩⟩
    · rfl
    · rfl
    · simp only [List.map_cons, List.map_nil, h.execute_empty, Run.map, requireAll_pair_map]
    · rfl
  | unary =>
    rcases p.children with - | ⟨operand, - | ⟨extra, more⟩⟩
    · rfl
    · simp only [List.map_cons, List.map_nil, h.execute_empty, Run.map, map_const_map]
    · rfl
  | _ => rfl

theorem sides (hf : Recasting f) {one other : Query} (hone : one.Commutes f)
    (hother : other.Commutes f) : (Operation.sides one other).Commutes f := by
  intro p
  rw [apply_sides, apply_sides, hf.kind, hf.children]
  cases p.kind with
  | binary =>
    rcases p.children with - | ⟨left, - | ⟨right, - | ⟨extra, more⟩⟩⟩
    · rfl
    · rfl
    · simp only [List.map_cons, List.map_nil, hone.execute_empty, hother.execute_empty, Run.map,
        requireAll_pair_map]
      rcases requireAll p [(Query.execute one left .empty).result,
        (Query.execute other right .empty).result] with first | q
      · rcases requireAll p [(Query.execute one right .empty).result,
          (Query.execute other left .empty).result] with second | q
        · rfl
        · rfl
      · rfl
    · rfl
  | _ => rfl

theorem rightSide (hf : Recasting f) {query : Query} (h : query.Commutes f) :
    (Operation.rightSide query).Commutes f := by
  intro p
  rw [apply_rightSide, apply_rightSide, hf.kind, hf.children]
  cases p.kind with
  | assign =>
    rcases p.children with - | ⟨left, - | ⟨right, - | ⟨extra, more⟩⟩⟩
    · rfl
    · rfl
    · simp only [List.map_cons, List.map_nil, h.execute_empty, Run.map, map_const_map]
    · rfl
  | binary =>
    rcases p.children with - | ⟨left, - | ⟨right, - | ⟨extra, more⟩⟩⟩
    · rfl
    · rfl
    · simp only [List.map_cons, List.map_nil, h.execute_empty, Run.map, map_const_map]
    · rfl
  | declarator =>
    rcases p.children with - | ⟨initial, - | ⟨extra, more⟩⟩
    · cases query <;> rfl
    · simp only [List.map_cons, List.map_nil, h.execute_empty, Run.map, map_const_map]
    · rfl
  | _ => rfl

/-- The alternatives fail with the same errors, and the same one matches first. -/
theorem tryEach_map {alternatives : List Query}
    (h : ∀ query ∈ alternatives, query.Commutes f) (p : Place) :
    Query.tryEach alternatives (f p) = Query.tryEach alternatives p := by
  induction alternatives with
  | nil => rfl
  | cons query rest ih =>
    obtain ⟨hquery, hrest⟩ := List.forall_mem_cons.1 h
    rw [Query.tryEach, Query.tryEach, hquery.execute_empty, ih hrest, Run.map]
    cases (Query.execute query p .empty).result <;> rfl

theorem either (hf : Recasting f) {alternatives : List Query}
    (h : ∀ query ∈ alternatives, query.Commutes f) :
    (Operation.either alternatives).Commutes f := by
  intro p
  rw [Operation.apply, Operation.apply, tryEach_map h, hf.kind]
  cases (Query.tryEach alternatives p).value <;> rfl

/-! ### Runs -/

/-- An operation commutes with a recasting if the queries inside it do. -/
theorem commutes_of_nested (hf : Recasting f) (op : Operation)
    (h : ∀ query ∈ op.nested, query.Commutes f) : op.Commutes f := by
  cases op with
  | pass => exact fun p ↦ rfl
  | guard g => exact fun p ↦ by rw [Operation.apply, Operation.apply, hf.expectKind_map]
  | anonymousCall =>
    exact fun p ↦ by rw [Operation.apply, Operation.apply, hf.expectAnonymousCall_map]
  | hasOperator operators =>
    exact fun p ↦ by rw [Operation.apply, Operation.apply, hf.expectOperator_map]
  | operands query => exact hf.operands (List.forall_mem_singleton.1 h)
  | sides one other =>
    obtain ⟨hone, hother⟩ := List.forall_mem_cons.1 h
    exact hf.sides hone (List.forall_mem_singleton.1 hother)
  | rightSide query => exact hf.rightSide (List.forall_mem_singleton.1 h)
  | either alternatives => exact hf.either h
  | accept content budget =>
    intro p
    rw [Operation.apply, Operation.apply, hf.check_eq]
    cases content.check p.node budget <;> rfl
  | findCall firstOnly =>
    exact fun p ↦ by rw [Operation.apply, Operation.apply, hf.foundCall_map]
  | calleeIdentifier =>
    exact fun p ↦ by rw [Operation.apply, Operation.apply, hf.calleeName_map]
  | containsThis => exact fun p ↦ by rw [Operation.apply, Operation.apply, hf.foundThis_map]
  | nameMatches pattern =>
    exact fun p ↦ by rw [Operation.apply, Operation.apply, hf.expectName_map]

theorem commutes_cons (hf : Recasting f) {op : Operation} {rest : Query} (hop : op.Commutes f)
    (hrest : rest.Commutes f) : Query.Commutes f (op :: rest) := by
  intro p c
  rw [Query.execute, Query.execute, hop p, hf.kind]
  rcases (op.apply p).value with err | q
  · rfl
  · simp only [Except.map, Capture.map_offer, hrest q (c.offer q), Run.map]

/-- A run from a recast place is the run from the place, recast. -/
theorem execute_map (hf : Recasting f) (query : Query) : query.Commutes f :=
  QueryInduction.query (P := Operation.Commutes f)
    { step := hf.commutes_of_nested
      nil := fun _ _ ↦ rfl
      cons := fun _ _ ↦ hf.commutes_cons } query

end Recasting

end ShapeQuery
