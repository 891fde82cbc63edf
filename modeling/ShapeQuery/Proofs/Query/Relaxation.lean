import Mathlib.Logic.Relation
import ShapeQuery.Proofs.Query.Context
import ShapeQuery.Proofs.Query.StatementFold

/-!
# Relaxing a query

A query is *relaxed* by edits that ask for less (`Query.Edited`): more operators or a higher budget,
another alternative, one operation fewer. An edit may be made in the query itself or in a query
inside it, at any depth, and there may be any number of them (`Query.Relaxes`).

A relaxed query leads to wherever the query does (`Query.Relaxes.leads`). For an edit inside an
operation this rests on frames being monotone (`Query.Frame.leads_mono`), which asks that an edit
does not give operations to a query without any; there is nothing to edit in such a query
(`Query.Edited.ne_nil`). The deletion of an operation asks for less only if the operation hands on
the place that it is given, hence the condition that it does not narrow.

The order in which alternatives and sides are tried does not come up, because it does not show in
where a query leads. What holds of places is carried over to statements by
`Query.isMatch_executeStatement_iff`.
-/

namespace ShapeQuery

/-! ### Edits -/

/-- An operation is replaced by one that asks for less. -/
inductive Operation.Loosens : Operation → Operation → Prop
  /-- More operators are let pass. -/
  | operators {operators operators' : List Operator} (h : operators ⊆ operators') :
      Loosens (.hasOperator operators) (.hasOperator operators')
  /-- The budget is raised. -/
  | budget (content : Content) {budget budget' : Nat} (h : budget ≤ budget') :
      Loosens (.accept content budget) (.accept content budget')
  /-- There is one more alternative. -/
  | alternative (before after : List Query) (added : Query) :
      Loosens (.either (before ++ after)) (.either (before ++ added :: after))

/-- A query is replaced by one that asks for less, by one edit at some depth. -/
inductive Query.Edited : Query → Query → Prop
  /-- An operation is replaced. -/
  | replace (before after : Query) {op op' : Operation} (h : op.Loosens op') :
      Edited (before ++ op :: after) (before ++ op' :: after)
  /-- An operation that does not narrow is deleted. -/
  | delete (before after : Query) {op : Operation} (h : op.narrows = false) :
      Edited (before ++ op :: after) (before ++ after)
  /-- A query inside is edited. -/
  | inside (frame : Query.Frame) {q q' : Query} (h : Edited q q') :
      Edited (frame.fill q) (frame.fill q')

/-- A query is relaxed by any number of edits. -/
def Query.Relaxes : Query → Query → Prop := Relation.ReflTransGen Query.Edited

/-! ### What an edit keeps -/

variable {q q' : Query} {n m : Place}

/-- An operation that asks for less leads wherever the operation does. -/
theorem Operation.Loosens.leads {op op' : Operation} (h : op.Loosens op') (hop : op.Leads n m) :
    op'.Leads n m := by
  cases h with
  | operators hsub =>
    obtain ⟨rfl, op, hmem, hn⟩ := hop
    exact ⟨rfl, op, hsub hmem, hn⟩
  | budget content hle =>
    obtain ⟨rfl, hpure, hheight⟩ := hop
    exact ⟨rfl, hpure, hheight.trans hle⟩
  | alternative before after added =>
    obtain ⟨rfl, hsome⟩ := hop
    obtain ⟨query, hmem, hquery⟩ := Query.someLeads_iff.1 hsome
    refine ⟨rfl, Query.someLeads_iff.2 ⟨query, ?_, hquery⟩⟩
    rcases List.mem_append.1 hmem with hbefore | hafter
    · exact List.mem_append_left _ hbefore
    · exact List.mem_append_right _ (List.mem_cons_of_mem _ hafter)

namespace Query

/-- There is nothing to edit in a query without operations. -/
theorem Edited.ne_nil (h : Edited q q') : q ≠ [] := by
  cases h with
  | inside frame _ => exact frame.fill_ne_nil _
  | _ => exact List.append_ne_nil_of_right_ne_nil _ (List.cons_ne_nil _ _)

/-- An edited query leads to wherever the query does. -/
theorem Edited.leads (h : Edited q q') (hleads : Query.Leads q n m) : Query.Leads q' n m := by
  induction h generalizing n m with
  | replace before after hop => exact leads_replace hop.leads hleads
  | delete before after hop =>
    obtain ⟨k, hbefore, j, hj, hafter⟩ := leads_append.1 hleads
    -- the operations after the deleted one start from the same place as before
    obtain rfl : j = k := Operation.eq_of_leads hop hj
    exact leads_append.2 ⟨j, hbefore, hafter⟩
  | inside frame hedit ih =>
    have himplies : Query.Implies _ _ :=
      ⟨fun ⟨m, hm⟩ ↦ ⟨m, ih hm⟩, fun hnil ↦ absurd hnil hedit.ne_nil⟩
    exact frame.leads_mono himplies hleads

/-- A relaxed query leads to wherever the query does. -/
theorem Relaxes.leads (h : q.Relaxes q') (hleads : Query.Leads q n m) : Query.Leads q' n m := by
  induction h with
  | refl => exact hleads
  | tail _ hedit ih => exact hedit.leads ih

theorem Relaxes.eq_nil (h : q.Relaxes q') (hnil : q = []) : q' = [] := by
  rcases Relation.ReflTransGen.cases_head h with rfl | ⟨r, hedit, -⟩
  · exact hnil
  · exact absurd hnil hedit.ne_nil

/-! ### Statements -/

/-- A query matches several trees in turn if it leads somewhere from each of them. -/
theorem isMatch_executeEach_iff (query : Query) (es : List Expr) (c : Capture) :
    (query.executeEach es c).isMatch = true ↔ ∀ e ∈ es, ∃ m, Query.Leads query (.root e) m := by
  have hunit : (query.executeEach es c).isMatch = true ↔ (query.executeEach es c).result = .ok () :=
    Except.isOk_iff.trans ⟨fun ⟨_, h⟩ ↦ h, fun h ↦ ⟨(), h⟩⟩
  rw [hunit, result_executeEach_eq_ok_iff]
  exact forall₂_congr fun e _ ↦ (exists_leads_iff (n := .root e)).symm

/-- A query matches a statement if it leads somewhere from each of the trees. Without trees, a
declaration matches any query, and a return a query without operations. -/
theorem isMatch_executeStatement_iff (query : Query) (s : Statement) (c : Capture) :
    (query.executeStatement s c).isMatch = true ↔
      (∀ e ∈ s.queried, ∃ m, Query.Leads query (.root e) m) ∧
        (s.queried = [] → s.kind = .declaration ∨ s.kind = .returns ∧ query = []) := by
  by_cases hqueried : s.queried = []
  · have hnone : ∀ e ∈ s.queried, ∃ m, Query.Leads query (.root e) m := by
      rw [hqueried]
      exact List.forall_mem_nil _
    rw [executeStatement_of_queried_nil hqueried, and_iff_right hnone, imp_iff_right hqueried]
    cases s.kind with
    | returns => cases query <;> simp [Run.isMatch, Except.isOk, Except.toBool]
    | _ => simp [Run.isMatch, Except.isOk, Except.toBool]
  · rw [executeStatement_eq_executeEach hqueried, isMatch_executeEach_iff]
    exact ⟨fun h ↦ ⟨h, fun hnil ↦ absurd hnil hqueried⟩, And.left⟩

end Query

/-- A run of a relaxed query ends where the run of the query ended, if that matched, and the relaxed
query matches every statement that the query matches. -/
theorem relaxed_query_keeps_matches (h : q.Relaxes q') :
    (∀ n c m, (Query.execute q n c).result = .ok m → (Query.execute q' n c).result = .ok m) ∧
    ∀ s, (q.runStatement s).isMatch = true → (q'.runStatement s).isMatch = true := by
  refine ⟨fun n c m hrun ↦ ?_, fun s hmatch ↦ ?_⟩
  · exact (q'.understood n c m).2 (h.leads ((q.understood n c m).1 hrun))
  · obtain ⟨htrees, hkind⟩ := (q.isMatch_executeStatement_iff s .empty).1 hmatch
    refine (q'.isMatch_executeStatement_iff s .empty).2 ⟨fun e he ↦ ?_, fun hqueried ↦ ?_⟩
    · exact (htrees e he).imp fun _ ↦ h.leads
    · exact (hkind hqueried).imp_right (And.imp_right h.eq_nil)

/-- Three edits, two of them inside: a guard goes, a budget is raised, and another operator is let
pass in an alternative. -/
theorem relaxed_query_keeps_matches_declarators :
    let q : Query :=
      [.guard .assignOrDeclarator,
        .rightSide [.either [[.hasOperator [.plus]]], .accept .numbers 2]]
    let q' : Query := [.rightSide [.either [[.hasOperator [.minus, .plus]]], .accept .numbers 3]]
    let e : Expr := .declarator "x" (some (.binary .plus (.number .zero) (.number .zero)))
    q.Relaxes q' ∧ (q.run e).result = .ok (.root e) ∧ (q'.run e).result = .ok (.root e) ∧
      (q.runStatement (.declaration [e, e])).isMatch = true ∧
      (q'.runStatement (.declaration [e, e])).isMatch = true := by
  intro q q' e
  have hrelaxes : q.Relaxes q' := by
    have hdelete : Query.Edited q
        [.rightSide [.either [[.hasOperator [.plus]]], .accept .numbers 2]] :=
      .delete [] _ rfl
    have hraise : Query.Edited
        [.rightSide [.either [[.hasOperator [.plus]]], .accept .numbers 2]]
        [.rightSide [.either [[.hasOperator [.plus]]], .accept .numbers 3]] :=
      .inside ⟨[], .rightSide, []⟩ (.replace [_] [] (.budget .numbers (Nat.le_succ 2)))
    have hadd : Query.Edited
        [.rightSide [.either [[.hasOperator [.plus]]], .accept .numbers 3]] q' :=
      .inside ⟨[], .rightSide, []⟩
        (.inside ⟨[], .alternative [] [], [_]⟩
          (.replace [] [] (.operators (List.subset_cons_self _ _))))
    exact ((Relation.ReflTransGen.single hdelete).tail hraise).tail hadd
  have hrun : (q.run e).result = .ok (.root e) := by cbv
  have hmatch : (q.runStatement (.declaration [e, e])).isMatch = true := by cbv
  obtain ⟨hresult, hstatement⟩ := relaxed_query_keeps_matches hrelaxes
  exact ⟨hrelaxes, hrun, hresult _ _ _ hrun, hmatch, hstatement _ hmatch⟩

end ShapeQuery
