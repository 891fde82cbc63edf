import ShapeQuery.Proofs.Query.ContentCheck
import ShapeQuery.Proofs.Walk.Finders
import ShapeQuery.Query.Run

/-!
# A content check as a walk sees it

A content check and a walk go through a tree independently of each other: the check has its own
list of nodes and its own way down from a node (`Content.descend`), the walk has the children. A
rule that trusts a content check to keep calls and `this` out of a subtree relies on the two
agreeing.

They agree on every node that a check gets past: what the check goes on to from there is the node's
children, all of them and in order (`Content.descend_eq_ok_iff_children`). So a check succeeds
exactly if every place that a full walk enters is one that the content supports and lies fewer
levels down than the budget, the top being at level zero (`Content.verdict_eq_ok_iff_walked`). A
place is as many levels down as its trail is long.

`check_eq_ok_iff_entered` says so about the check and the walk that run, and draws the consequence
for the two operations that look for something inside a subtree.
-/

namespace ShapeQuery

/-! ### What a full walk enters -/

/-- Without a limit the whole tour is recorded. -/
theorem Expr.events_recordWalk (e : Expr) : (e.recordWalk none).events = (Place.root e).tour := by
  rw [Walk.events, recordWalk, Visitor.state_walk, Visitor.heard_of_never_done _ fun _ ↦ rfl,
    Visitor.foldl_recorder, List.append_nil, List.reverse_reverse]

/-- A full walk enters the walked places. -/
theorem Expr.enter_mem_events_iff {e : Expr} {p : Place} :
    .enter p ∈ (e.recordWalk none).events ↔ (Place.root e).Walked p := by
  rw [events_recordWalk, Place.mem_tour_iff]
  rfl

namespace Place

/-- The walked places are the ones in the post-order. -/
theorem mem_postorder_iff {root p : Place} : p ∈ root.postorder ↔ root.Walked p := by
  rw [← root.filterMap_left?_tour, List.mem_filterMap]
  constructor
  · rintro ⟨e, he, hleft⟩
    cases e with
    | enter q => cases hleft
    | leave q =>
      obtain rfl : q = p := Option.some.inj hleft
      exact (mem_tour_iff (.leave q)).1 he
  · intro h
    exact ⟨.leave p, (mem_tour_iff (.leave p)).2 h, rfl⟩

/-- There are no calls if none is walked. -/
theorem calls_eq_nil_iff {p : Place} : p.calls = [] ↔ ∀ q, p.Walked q → q.node.isCall = false := by
  rw [calls, List.filter_eq_nil_iff]
  simp only [mem_postorder_iff, Bool.not_eq_true]

/-- The children of a place hold the children of its node. -/
theorem forall_mem_children_iff {n : Place} {P : Expr → Prop} :
    (∀ e ∈ n.node.children, P e) ↔ ∀ c ∈ n.children, P c.node := by
  constructor
  · intro h c hc
    obtain ⟨i, hi, rfl⟩ := List.mem_mapIdx.1 hc
    exact h _ (List.getElem_mem hi)
  · intro h e he
    obtain ⟨i, hi, rfl⟩ := List.getElem_of_mem he
    exact h (n.child i n.node.children[i]) (List.mem_mapIdx.2 ⟨i, hi, rfl⟩)

theorem length_trail_of_mem_children {n c : Place} (h : c ∈ n.children) :
    c.trail.length = n.trail.length + 1 := by
  obtain ⟨i, _, rfl⟩ := List.mem_mapIdx.1 h
  rfl

/-- What holds at a place and everywhere below it holds at the place and at and below each child. -/
theorem forall_walked_iff {n : Place} {P : Place → Prop} :
    (∀ p, n.Walked p → P p) ↔ P n ∧ ∀ c ∈ n.children, ∀ p, c.Walked p → P p := by
  constructor
  · intro h
    exact ⟨h n (.refl n), fun c hc p hp ↦ h p (walked_iff.2 (.inr ⟨c, hc, hp⟩))⟩
  · rintro ⟨hn, hbelow⟩ p hp
    rcases walked_iff.1 hp with rfl | ⟨c, hc, hcp⟩
    · exact hn
    · exact hbelow c hc p hcp

end Place

/-! ### The check and the children -/

namespace Content

/-- A node that can stand in a subtree of the content: a binary or unary operation, a declarator
with an initial value, or a literal of the content's own kind. -/
inductive Supports (content : Content) : Expr → Prop
  | binary (op : Operator) (left right : Expr) : Supports content (.binary op left right)
  | unary (op : Operator) (operand : Expr) (postfixed : Bool) :
      Supports content (.unary op operand postfixed)
  | declarator (name : String) (initial : Expr) :
      Supports content (.declarator name (some initial))
  | literal {e : Expr} (h : e.kind = content.literalKind) : Supports content e

variable {content : Content}

theorem children_of_literalKind {e : Expr} (h : e.kind = content.literalKind) :
    e.children = [] := by
  cases content <;> cases e <;> cases h <;> rfl

/-- A check gets past the nodes that the content supports, and goes on to all of their children. -/
theorem descend_eq_ok_iff_children {e : Expr} {below : List Expr} :
    content.descend e = .ok below ↔ content.Supports e ∧ below = e.children := by
  rw [descend_eq_ok_iff]
  constructor
  · rintro (⟨hkind, rfl⟩ | ⟨op, left, right, rfl, rfl⟩ | ⟨op, operand, postfixed, rfl, rfl⟩ |
      ⟨name, initial, rfl, rfl⟩)
    · exact ⟨.literal hkind, (children_of_literalKind hkind).symm⟩
    · exact ⟨.binary op left right, rfl⟩
    · exact ⟨.unary op operand postfixed, rfl⟩
    · exact ⟨.declarator name initial, rfl⟩
  · rintro ⟨hsupports, rfl⟩
    cases hsupports with
    | binary op left right => exact .inr (.inl ⟨op, left, right, rfl, rfl⟩)
    | unary op operand postfixed => exact .inr (.inr (.inl ⟨op, operand, postfixed, rfl, rfl⟩))
    | declarator name initial => exact .inr (.inr (.inr ⟨name, initial, rfl, rfl⟩))
    | literal hkind => exact .inl ⟨hkind, children_of_literalKind hkind⟩

/-- With one more unit of budget the node has to be supported and the children have to pass. -/
theorem verdict_succ_eq_ok_iff (budget : Nat) (e : Expr) :
    content.verdict (budget + 1) e = .ok () ↔
      content.Supports e ∧ ∀ c ∈ e.children, content.verdict budget c = .ok () := by
  rw [verdict_succ, Except.bind_eq_ok_iff]
  constructor
  · rintro ⟨below, hdescend, hbelow⟩
    obtain ⟨hsupports, rfl⟩ := descend_eq_ok_iff_children.1 hdescend
    exact ⟨hsupports, Except.forM_eq_ok_iff.1 hbelow⟩
  · rintro ⟨hsupports, hbelow⟩
    exact ⟨e.children, descend_eq_ok_iff_children.2 ⟨hsupports, rfl⟩,
      Except.forM_eq_ok_iff.2 hbelow⟩

/-- A check succeeds if all walked places are supported and fewer levels down than the budget. -/
theorem verdict_eq_ok_iff_walked (budget : Nat) (n : Place) :
    content.verdict budget n.node = .ok () ↔
      ∀ p, n.Walked p → content.Supports p.node ∧ p.trail.length < n.trail.length + budget := by
  induction budget generalizing n with
  | zero =>
    constructor
    · intro h
      rw [verdict] at h
      cases h
    · intro h
      exact absurd (h n (.refl n)).2 (Nat.lt_irrefl _)
  | succ budget ih =>
    -- a child is one level further down and is checked with one unit of budget less
    have hchild : ∀ c ∈ n.children, (content.verdict budget c.node = .ok () ↔ ∀ p, c.Walked p →
        content.Supports p.node ∧ p.trail.length < n.trail.length + (budget + 1)) := by
      intro c hc
      rw [ih c, Place.length_trail_of_mem_children hc, Nat.add_assoc, Nat.add_comm 1]
    have hlevel : n.trail.length < n.trail.length + (budget + 1) := by omega
    rw [verdict_succ_eq_ok_iff, Place.forall_walked_iff, Place.forall_mem_children_iff,
      forall₂_congr hchild, and_iff_left hlevel]

theorem check_eq_ok_iff_walked (budget : Nat) (e : Expr) :
    content.check e budget = .ok () ↔
      ∀ p, (Place.root e).Walked p → content.Supports p.node ∧ p.trail.length < budget := by
  rw [check_eq_verdict]
  show content.verdict budget (Place.root e).node = .ok () ↔ _
  rw [verdict_eq_ok_iff_walked]
  simp only [Place.root, List.length_nil, Nat.zero_add]

/-- There are no calls and there is no `this` among the supported nodes. -/
theorem Supports.isCall_eq_false {e : Expr} (h : content.Supports e) : e.isCall = false := by
  cases h with
  | literal hkind => cases content <;> cases e <;> cases hkind <;> rfl
  | _ => rfl

theorem Supports.ne_thisRef {e : Expr} (h : content.Supports e) : e ≠ .thisRef := by
  rintro rfl
  cases h with
  | literal hkind => cases content <;> cases hkind

end Content

/-! ### Looking for something in a subtree that passes -/

/-- A walk finds no call if none is walked. -/
theorem foundCall_eq_noMatch {n : Place} (h : ∀ p, n.Walked p → p.node.isCall = false)
    (firstOnly : Bool) : (foundCall firstOnly n).value = .error .noMatch := by
  show (n.findCall firstOnly).state.elim _ _ = _
  rw [n.state_findCall, Place.calls_eq_nil_iff.2 h]
  cases firstOnly <;> rfl

/-- A walk finds no `this` if none is walked. -/
theorem foundThis_eq_noMatch {n : Place} (h : ∀ p, n.Walked p → p.node ≠ .thisRef) :
    (foundThis n).value = .error .noMatch := by
  have hzero : (Visitor.thisCounter.walk n 0).state = 0 := by
    by_contra hne
    obtain ⟨p, hp, hthis⟩ := (Visitor.state_thisCounter_ne_zero_iff n).1 hne
    exact h p hp hthis
  show (if (Visitor.thisCounter.walk n 0).state = 0 then _ else _) = _
  rw [if_pos hzero]

/-- An operation that accepts a place on account of its content has checked every walked place. -/
theorem Content.supports_of_accept {content : Content} {budget : Nat} {n m : Place}
    (h : ((Operation.accept content budget).apply n).value = .ok m) {p : Place}
    (hp : n.Walked p) : content.Supports p.node := by
  have hcheck : content.verdict budget n.node = .ok () := by
    rw [← Content.check_eq_verdict]
    simp only [Operation.apply] at h
    cases hresult : content.check n.node budget with
    | error err => rw [hresult] at h; cases h
    | ok u => rfl
  exact ((Content.verdict_eq_ok_iff_walked budget n).1 hcheck p hp).1

/-- A content check succeeds exactly if every place that a full walk enters holds a node that the
content supports and is fewer levels down than the budget. Where it does, there is nothing to find
for the operations that look for `this` and for a call, the first or the last. -/
theorem check_eq_ok_iff_entered (content : Content) (budget : Nat) :
    (∀ e : Expr, content.check e budget = .ok () ↔
      ∀ p, .enter p ∈ (e.recordWalk none).events →
        content.Supports p.node ∧ p.trail.length < budget) ∧
    ∀ n m : Place, ((Operation.accept content budget).apply n).value = .ok m →
      (Operation.containsThis.apply n).value = .error .noMatch ∧
      ∀ firstOnly, ((Operation.findCall firstOnly).apply n).value = .error .noMatch := by
  constructor
  · intro e
    rw [Content.check_eq_ok_iff_walked]
    exact forall_congr' fun p ↦ imp_congr_left Expr.enter_mem_events_iff.symm
  · intro n m h
    simp only [Operation.apply]
    exact ⟨foundThis_eq_noMatch fun p hp ↦ (Content.supports_of_accept h hp).ne_thisRef,
      foundCall_eq_noMatch fun p hp ↦ (Content.supports_of_accept h hp).isCall_eq_false⟩

/-- The tree `0 + -0` passes with a budget of three levels, and no call and no `this` is found. -/
theorem check_eq_ok_iff_entered_sum :
    let n : Place := .root (.binary .plus (.number .zero) (.unary .minus (.number .zero) false))
    ((Operation.accept .numbers 3).apply n).value = .ok n ∧
      (Operation.containsThis.apply n).value = .error .noMatch ∧
      ∀ firstOnly, ((Operation.findCall firstOnly).apply n).value = .error .noMatch := by
  intro n
  have haccept : ((Operation.accept .numbers 3).apply n).value = .ok n := by
    simp only [Operation.apply, Content.check_eq_verdict]
    rfl
  exact ⟨haccept, (check_eq_ok_iff_entered .numbers 3).2 n n haccept⟩

end ShapeQuery
