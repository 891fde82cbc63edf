import ShapeQuery.Proofs.Query.Recasting

/-!
# The budget as a threshold

The budget of a content check says how many levels down it may go. This module is about one tree and
all budgets. Below a certain budget every check runs out of it, and from there on every check ends
in the same way.

A check looks at the nodes of a tree in pre-order (`Place.outline`), and whether a place is too
deep, refused or let pass depends on its level and its node alone (`Content.look`). So the check is
one pass over that list, in which no budget runs down: what was the budget is a bound on the level
(`Content.verdict_eq_forM_outline`). Without the bound the pass ends at the first place that is
refused, and the places up to there are those it inspects (`Content.inspected`). With it the pass
ends in the same way if all of those are above the bound, and if not then at the first of them that
is too deep (`Content.forM_look`). What comes after the refused place plays no part, however deep.

Thus a deep left operand may hide what is wrong with the right one, and it does so for all budgets
up to its own depth. There is no budget in between at which the fault would show.
-/

namespace ShapeQuery

/-! ### The places in the way of a check -/

/-- The places in a tree at the end of a trail that are reached through operands of binary and unary
operations and through initial values, in pre-order. -/
def Expr.outline : Expr → List Nat → List Place
  | .binary op left right, t =>
    ⟨t, .binary op left right⟩ :: (left.outline (0 :: t) ++ right.outline (1 :: t))
  | .unary op operand postfixed, t => ⟨t, .unary op operand postfixed⟩ :: operand.outline (0 :: t)
  | .declarator name (some initial), t =>
    ⟨t, .declarator name (some initial)⟩ :: initial.outline (0 :: t)
  | e, t => [⟨t, e⟩]

namespace Place

/-- The places that are reached from a place, in pre-order. -/
def outline (p : Place) : List Place := p.node.outline p.trail

/-- One more than the deepest level among some places. A place is as many levels down as its trail
is long. -/
def levels (ps : List Place) : Nat := (ps.map fun p ↦ p.trail.length + 1).foldr max 0

@[simp] theorem levels_nil : levels [] = 0 := rfl

@[simp] theorem levels_cons (p : Place) (ps : List Place) :
    levels (p :: ps) = max (p.trail.length + 1) (levels ps) := rfl

@[simp] theorem levels_append (ps qs : List Place) :
    levels (ps ++ qs) = max (levels ps) (levels qs) := by
  induction ps with
  | nil => simp
  | cons p ps ih => rw [List.cons_append, levels_cons, levels_cons, ih, Nat.max_assoc]

end Place

/-- A tree takes up as many levels as it is high. -/
theorem Expr.levels_outline (e : Expr) (t : List Nat) :
    Place.levels (e.outline t) = t.length + e.height := by
  fun_induction Expr.outline e t with
  | case1 op left right t ihl ihr =>
    rw [Place.levels_cons, Place.levels_append, ihl, ihr, height]
    simp only [List.length_cons]
    omega
  | case2 op operand postfixed t ih =>
    rw [Place.levels_cons, ih, height]
    simp only [List.length_cons]
    omega
  | case3 name initial t ih =>
    rw [Place.levels_cons, ih, height]
    simp only [List.length_cons]
    omega
  | case4 e t hbinary hunary hdeclarator =>
    rw [Place.levels_cons, Place.levels_nil, height]
    · exact Nat.max_zero _
    · exact hbinary
    · exact hunary
    · exact hdeclarator

/-! ### The check as a pass -/

namespace Content

variable {content : Content}

/-- Below a place that a check gets past, the outline goes on with the children. -/
theorem outline_of_supports {p : Place} (h : content.Supports p.node) :
    p.outline = p :: p.children.flatMap Place.outline := by
  obtain ⟨t, e⟩ := p
  cases h with
  | binary op left right =>
    show _ :: (left.outline (0 :: t) ++ right.outline (1 :: t)) =
      _ :: (left.outline (0 :: t) ++ (right.outline (1 :: t) ++ []))
    rw [List.append_nil]
  | unary op operand postfixed =>
    show _ :: operand.outline (0 :: t) = _ :: (operand.outline (0 :: t) ++ [])
    rw [List.append_nil]
  | declarator name initial =>
    show _ :: initial.outline (0 :: t) = _ :: (initial.outline (0 :: t) ++ [])
    rw [List.append_nil]
  | literal hkind => cases content <;> cases e <;> cases hkind <;> rfl

/-- There is nothing below a place that a check does not get past. -/
theorem outline_of_not_supports {p : Place} (h : ¬ content.Supports p.node) :
    p.outline = [p] := by
  obtain ⟨t, e⟩ := p
  cases e with
  | binary op left right => exact absurd (.binary op left right) h
  | unary op operand postfixed => exact absurd (.unary op operand postfixed) h
  | declarator name initial =>
    cases initial with
    | none => rfl
    | some initial => exact absurd (.declarator name initial) h
  | _ => rfl

/-- What a check makes of one place: the place is too deep, or its node is refused or let pass. -/
def look (content : Content) (bound : Nat) (p : Place) : Except QueryError Unit :=
  if p.trail.length < bound then (content.descend p.node).outcome else .error .depthExceeded

theorem look_of_supports {p : Place} {bound : Nat} (h : content.Supports p.node)
    (hlevel : p.trail.length < bound) : content.look bound p = .ok () := by
  rw [look, if_pos hlevel, descend_eq_ok_iff_children.2 ⟨h, rfl⟩]
  rfl

/-- A check within a budget is a pass over the outline, bounded as many levels further down. -/
theorem verdict_eq_forM_outline (content : Content) (budget : Nat) (p : Place) :
    content.verdict budget p.node = forM p.outline (content.look (p.trail.length + budget)) := by
  induction budget generalizing p with
  | zero =>
    have hdeep : content.look (p.trail.length + 0) p = .error .depthExceeded :=
      if_neg (Nat.lt_irrefl _)
    have hfirst : ∃ rest, p.outline = p :: rest := by
      by_cases hp : content.Supports p.node
      · exact ⟨_, outline_of_supports hp⟩
      · exact ⟨_, outline_of_not_supports hp⟩
    obtain ⟨rest, hrest⟩ := hfirst
    rw [hrest, List.forM_cons, hdeep, verdict]
    rfl
  | succ budget ih =>
    have hlevel : p.trail.length < p.trail.length + (budget + 1) := by omega
    rw [verdict_succ]
    by_cases hp : content.Supports p.node
    · rw [descend_eq_ok_iff_children.2 ⟨hp, rfl⟩, Except.ok_bind, outline_of_supports hp,
        List.forM_cons, look_of_supports hp hlevel, Except.ok_bind, ← Place.map_node_children,
        List.forM_map]
      refine Except.forM_eq_forM_flatMap fun c hc ↦ ?_
      -- a child has one unit of budget less and is one level further down
      rw [ih c, Place.length_trail_of_mem_children hc, Nat.add_assoc, Nat.add_comm 1]
    · rw [descend_eq_refusal hp, outline_of_not_supports hp, List.forM_cons, look, if_pos hlevel,
        descend_eq_refusal hp]
      rfl

/-! ### Passes with and without a bound -/

/-- The places that a pass without a bound inspects: those up to and including the first that is
refused. -/
def inspected (content : Content) : List Place → List Place
  | [] => []
  | p :: rest => p :: if (content.descend p.node).isOk then content.inspected rest else []

/-- How a pass ends if no place is too deep. -/
def settled (content : Content) (ps : List Place) : Except QueryError Unit :=
  forM ps fun p ↦ (content.descend p.node).outcome

/-- A bounded pass ends as the one without a bound if it can inspect the same places, and otherwise
at one of them that is too deep. -/
theorem forM_look (content : Content) (bound : Nat) (ps : List Place) :
    forM ps (content.look bound) =
      if Place.levels (content.inspected ps) ≤ bound then content.settled ps
      else .error .depthExceeded := by
  induction ps with
  | nil => exact (if_pos (Nat.zero_le bound)).symm
  | cons p rest ih =>
    rw [List.forM_cons, settled, List.forM_cons, inspected, Place.levels_cons, look]
    by_cases hlevel : p.trail.length < bound
    · rw [if_pos hlevel]
      rcases content.descend p.node with err | below
      · -- nothing after this place is inspected, and so its own level decides
        exact (if_pos (Nat.max_le.2 ⟨hlevel, Nat.zero_le bound⟩)).symm
      · have hmax : max (p.trail.length + 1) (Place.levels (content.inspected rest)) ≤ bound ↔
            Place.levels (content.inspected rest) ≤ bound :=
          Nat.max_le.trans (and_iff_right hlevel)
        simp only [Except.isOk, Except.toBool, if_true, hmax]
        exact ih
    · have hdeep : ¬ max (p.trail.length + 1)
          (Place.levels (if (content.descend p.node).isOk then content.inspected rest else [])) ≤
            bound := fun hmax ↦ hlevel (Nat.max_le.1 hmax).1
      rw [if_neg hlevel, if_neg hdeep]
      rfl

theorem supports_iff_outcome {e : Expr} :
    content.Supports e ↔ (content.descend e).outcome = .ok () := by
  simp only [Except.outcome_eq_ok_iff, descend_eq_ok_iff_children, exists_and_left, exists_eq,
    and_true]

/-- A pass goes on after places that are let pass. -/
theorem inspected_append {before : List Place} (h : ∀ p ∈ before, content.Supports p.node)
    (rest : List Place) :
    content.inspected (before ++ rest) = before ++ content.inspected rest := by
  induction before with
  | nil => rfl
  | cons p before ih =>
    obtain ⟨hp, hbefore⟩ := List.forall_mem_cons.1 h
    have hok : (content.descend p.node).isOk = true :=
      Except.isOk_iff.2 ⟨_, descend_eq_ok_iff_children.2 ⟨hp, rfl⟩⟩
    rw [List.cons_append, inspected, if_pos hok, ih hbefore, List.cons_append]

/-- A pass that finds nothing wrong inspects everything. -/
theorem inspected_of_settled_eq_ok {ps : List Place} (h : content.settled ps = .ok ()) :
    content.inspected ps = ps := by
  have hall : ∀ p ∈ ps, content.Supports p.node := fun p hp ↦
    supports_iff_outcome.2 (Except.forM_eq_ok_iff.1 h p hp)
  have happend := inspected_append hall []
  rwa [inspected, List.append_nil] at happend

/-- A pass that ends with an error has inspected everything up to the place with that error. -/
theorem inspected_of_settled_eq_error {ps : List Place} {err : QueryError}
    (h : content.settled ps = .error err) :
    ∃ before fault after, ps = before ++ fault :: after ∧
      (∀ p ∈ before, content.Supports p.node) ∧ content.descend fault.node = .error err ∧
      content.inspected ps = before ++ [fault] := by
  obtain ⟨before, fault, after, rfl, hbefore, hfault⟩ := Except.forM_eq_error_iff.1 h
  have hpass : ∀ p ∈ before, content.Supports p.node := fun p hp ↦
    supports_iff_outcome.2 (hbefore p hp)
  have hrefused : content.descend fault.node = .error err := Except.outcome_eq_error_iff.1 hfault
  have hlast : content.inspected (fault :: after) = [fault] := by
    rw [inspected, hrefused]
    rfl
  exact ⟨before, fault, after, rfl, hpass, hrefused, by rw [inspected_append hpass, hlast]⟩

theorem levels_inspected_le (content : Content) (ps : List Place) :
    Place.levels (content.inspected ps) ≤ Place.levels ps := by
  rcases hsettled : content.settled ps with err | u
  · obtain ⟨before, fault, after, rfl, -, -, hinspected⟩ := inspected_of_settled_eq_error hsettled
    rw [hinspected]
    simp only [Place.levels_append, Place.levels_cons, Place.levels_nil]
    omega
  · exact Nat.le_of_eq (congrArg Place.levels (inspected_of_settled_eq_ok hsettled))

/-- A place is never refused for being too deep. -/
theorem settled_ne_depthExceeded (content : Content) (ps : List Place) :
    content.settled ps ≠ .error .depthExceeded := by
  intro h
  obtain ⟨-, fault, -, -, -, hrefused, -⟩ := inspected_of_settled_eq_error h
  by_cases hsupports : content.Supports fault.node
  · rw [descend_eq_ok_iff_children.2 ⟨hsupports, rfl⟩] at hrefused
    cases hrefused
  · rw [descend_eq_refusal hsupports, refusal] at hrefused
    split at hrefused <;> cases hrefused

/-! ### Budgets -/

/-- The least budget that a check of a tree does not run out of. -/
def threshold (content : Content) (e : Expr) : Nat :=
  Place.levels (content.inspected (e.outline []))

/-- A check runs out of its budget below the threshold, and from there on it ends in one way. -/
theorem check_eq_ite (content : Content) (e : Expr) (budget : Nat) :
    content.check e budget =
      if content.threshold e ≤ budget then content.settled (e.outline [])
      else .error .depthExceeded := by
  have hbound : (Place.root e).trail.length + budget = budget := Nat.zero_add budget
  have hpass := content.verdict_eq_forM_outline budget (.root e)
  rw [hbound, forM_look] at hpass
  exact (content.check_eq_verdict e budget).trans hpass

theorem threshold_pos (content : Content) (e : Expr) : 1 ≤ content.threshold e := by
  -- without any budget every check runs out of it
  by_contra hzero
  have hcheck := content.check_eq_ite e 0
  rw [if_pos (by omega), check_eq_verdict, verdict] at hcheck
  exact content.settled_ne_depthExceeded _ hcheck.symm

end Content

/-- For every tree and content there is a threshold between one and the number of levels that can be
reached. Below it a check runs out of its budget, and from there on it ends in one and the same way,
which is another. So a higher budget changes nothing about a check that has not run out of a lower
one. If the check succeeds in the end then the threshold is the height of the tree. If it fails then
it does so at the first place in pre-order that is refused, and the threshold is one more than the
deepest level among the places up to that one. -/
theorem check_turns_at_threshold (content : Content) (e : Expr) :
    ∃ (threshold : Nat) (settled : Except QueryError Unit),
      1 ≤ threshold ∧ threshold ≤ Place.levels (e.outline []) ∧
      (∀ budget, budget < threshold → content.check e budget = .error .depthExceeded) ∧
      (∀ budget, threshold ≤ budget → content.check e budget = settled) ∧
      settled ≠ .error .depthExceeded ∧
      (∀ budget budget', budget ≤ budget' →
        content.check e budget = .error .depthExceeded ∨
          content.check e budget' = content.check e budget) ∧
      (settled = .ok () → threshold = e.height) ∧
      ∀ err, settled = .error err → ∃ before fault after,
        e.outline [] = before ++ fault :: after ∧ (∀ p ∈ before, content.Supports p.node) ∧
        content.descend fault.node = .error err ∧
        threshold = Place.levels (before ++ [fault]) := by
  refine ⟨content.threshold e, content.settled (e.outline []), content.threshold_pos e,
    content.levels_inspected_le _, fun budget hlow ↦ ?_, fun budget hhigh ↦ ?_,
    content.settled_ne_depthExceeded _, fun budget budget' hle ↦ ?_, fun hok ↦ ?_,
    fun err herr ↦ ?_⟩
  · rw [Content.check_eq_ite, if_neg (Nat.not_le.2 hlow)]
  · rw [Content.check_eq_ite, if_pos hhigh]
  · by_cases hhigh : content.threshold e ≤ budget
    · refine .inr ?_
      rw [Content.check_eq_ite, Content.check_eq_ite, if_pos hhigh, if_pos (Nat.le_trans hhigh hle)]
    · exact .inl (by rw [Content.check_eq_ite, if_neg hhigh])
  · rw [Content.threshold, Content.inspected_of_settled_eq_ok hok, e.levels_outline,
      List.length_nil, Nat.zero_add]
  · obtain ⟨before, fault, after, houtline, hbefore, hfault, hinspected⟩ :=
      Content.inspected_of_settled_eq_error herr
    exact ⟨before, fault, after, houtline, hbefore, hfault, congrArg Place.levels hinspected⟩

/-- In `-0 + "x"` the string is only one level down, but it shows from a budget of three on: the
left operand is checked first and goes down two levels. -/
theorem check_turns_at_threshold_hidden_fault :
    let e : Expr := .binary .plus (.unary .minus (.number .zero) false) (.string "x")
    (∀ budget, budget < 3 → Content.numbers.check e budget = .error .depthExceeded) ∧
      ∀ budget, 3 ≤ budget →
        Content.numbers.check e budget = .error (.contentMismatch .numbers .string) := by
  intro e
  have hexceeded : Content.numbers.check e 2 = .error .depthExceeded := by
    rw [Content.check_eq_verdict]
    rfl
  have hfault : Content.numbers.check e 3 = .error (.contentMismatch .numbers .string) := by
    rw [Content.check_eq_verdict]
    rfl
  obtain ⟨threshold, settled, -, -, hlow, hhigh, hsettled, -⟩ :=
    check_turns_at_threshold .numbers e
  have hle : threshold ≤ 3 := by
    by_contra hlt
    rw [hlow 3 (by omega)] at hfault
    cases hfault
  have hge : 3 ≤ threshold := by
    by_contra hlt
    exact hsettled ((hhigh 2 (by omega)).symm.trans hexceeded)
  refine ⟨fun budget hbudget ↦ hlow budget (by omega), fun budget hbudget ↦ ?_⟩
  rw [hhigh budget (by omega), ← hhigh 3 hle, hfault]

end ShapeQuery
