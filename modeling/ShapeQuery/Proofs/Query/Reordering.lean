import ShapeQuery.Proofs.Query.Context

/-!
# The order of operations

Between two narrowing operations a run stays where it is: every operation is applied to the same
place, and hands on that place if it accepts it. Which of these operations comes first, and how
often one is applied, therefore makes no difference to whether the run gets through
(`Query.leads_iff_of_still`).

`Query.Rearranged` says that two queries have the same narrowing operations, in the same order, and
between them the same other operations, in any order and each any number of times. Such queries lead
to the same places (`Query.Rearranged.leads_iff`). A run that gets through also captures the same,
because a stretch that is rearranged is empty on both sides or on neither, and what it hands on
first is the place where it starts (`Query.Rearranged.head?_handedOn`).

Nothing is said of a run that fails. It may fail at another operation, hence with another error, and
it may have captured something or nothing by then.
-/

namespace ShapeQuery

/-! ### Rearranging -/

/-- Two queries have the same operations in each stretch without narrowing ones, up to order and
repetition, and the same narrowing operation after each stretch but the last. -/
inductive Query.Rearranged : Query → Query → Prop
  /-- There are no narrowing operations. -/
  | still (ops ops' : Query) (still : ∀ op ∈ ops, op.narrows = false)
      (same : ∀ op, op ∈ ops ↔ op ∈ ops') : Rearranged ops ops'
  /-- The first stretch ends with a narrowing operation. -/
  | narrowing (ops ops' : Query) {rest rest' : Query} {op : Operation}
      (still : ∀ op ∈ ops, op.narrows = false) (same : ∀ op, op ∈ ops ↔ op ∈ ops')
      (narrows : op.narrows = true) (later : Rearranged rest rest') :
      Rearranged (ops ++ op :: rest) (ops' ++ op :: rest')

namespace Query

variable {q q' ops ops' rest : Query} {op op' : Operation} {n m : Place}

/-! ### Operations that stay -/

/-- Operations that do not narrow get through if each of them accepts the place, and lead to where
they start. -/
theorem leads_iff_of_still (still : ∀ op ∈ ops, op.narrows = false) :
    Query.Leads ops n m ↔ m = n ∧ ∀ op ∈ ops, op.Leads n n := by
  induction ops with
  | nil => simp
  | cons op rest ih =>
    obtain ⟨hop, hrest⟩ := List.forall_mem_cons.1 still
    rw [Leads, List.forall_mem_cons]
    constructor
    · rintro ⟨k, hk, hm⟩
      obtain rfl : k = n := Operation.eq_of_leads hop hk
      obtain ⟨rfl, hall⟩ := (ih hrest).1 hm
      exact ⟨rfl, hk, hall⟩
    · rintro ⟨rfl, hk, hall⟩
      exact ⟨m, hk, (ih hrest).2 ⟨rfl, hall⟩⟩

/-- What is asked of a place by operations that do not narrow depends on which operations there
are. -/
theorem leads_iff_of_same (still : ∀ op ∈ ops, op.narrows = false)
    (same : ∀ op, op ∈ ops ↔ op ∈ ops') : Query.Leads ops n m ↔ Query.Leads ops' n m := by
  have still' : ∀ op ∈ ops', op.narrows = false := fun op hop ↦ still op ((same op).2 hop)
  rw [leads_iff_of_still still, leads_iff_of_still still']
  simp only [same]

/-- An operation that does not narrow and gets through hands on the place that it is given. -/
theorem head?_handedOn_of_still (hop : op.narrows = false)
    (h : Query.Leads (op :: rest) n m) : (Query.handedOn (op :: rest) n).head? = some n := by
  obtain ⟨k, hk, -⟩ := h
  obtain rfl : k = n := Operation.eq_of_leads hop hk
  rw [head?_handedOn_cons, (op.understood k k).2 hk]
  rfl

/-- Two stretches with the same operations, each with the same operations after it, hand on the same
place first in runs that get through. -/
theorem head?_handedOn_of_same {rest' : Query} (still : ∀ op ∈ ops, op.narrows = false)
    (same : ∀ op, op ∈ ops ↔ op ∈ ops')
    (hrest : (rest.handedOn n).head? = (rest'.handedOn n).head?)
    (h : Query.Leads (ops ++ rest) n m) (h' : Query.Leads (ops' ++ rest') n m) :
    (Query.handedOn (ops ++ rest) n).head? = (Query.handedOn (ops' ++ rest') n).head? := by
  rcases ops with - | ⟨first, later⟩
  · obtain rfl : ops' = [] := List.eq_nil_iff_forall_not_mem.2 fun op hop ↦
      List.not_mem_nil ((same op).2 hop)
    exact hrest
  · rcases ops' with - | ⟨first', later'⟩
    · exact absurd ((same first).1 List.mem_cons_self) List.not_mem_nil
    · have hfirst := still first List.mem_cons_self
      have hfirst' := still first' ((same first').2 List.mem_cons_self)
      exact (head?_handedOn_of_still hfirst h).trans (head?_handedOn_of_still hfirst' h').symm

/-! ### Stretch by stretch -/

/-- A query leads to the same places after it has been rearranged. -/
theorem Rearranged.leads_iff (h : q.Rearranged q') : Query.Leads q n m ↔ Query.Leads q' n m := by
  induction h generalizing n with
  | still ops ops' still same => exact leads_iff_of_same still same
  | narrowing ops ops' still same _ _ ih =>
    simp only [leads_append, Leads, leads_iff_of_same still same, ih]

/-- A run that gets through hands on the same place first after the query has been rearranged. -/
theorem Rearranged.head?_handedOn (h : q.Rearranged q') (hleads : Query.Leads q n m) :
    (q.handedOn n).head? = (q'.handedOn n).head? := by
  have hleads' := h.leads_iff.1 hleads
  cases h with
  | still _ _ still same =>
    rw [← List.append_nil q] at hleads ⊢
    rw [← List.append_nil q'] at hleads' ⊢
    exact head?_handedOn_of_same still same rfl hleads hleads'
  | @narrowing ops ops' rest rest' op still same narrows later =>
    -- if there is nothing before it, the narrowing operation is the first on both sides
    have hop : (Query.handedOn (op :: rest) n).head? = (Query.handedOn (op :: rest') n).head? := by
      rw [head?_handedOn_cons, head?_handedOn_cons]
    exact head?_handedOn_of_same still same hop hleads hleads'

theorem Rearranged.result_eq_ok_iff (h : q.Rearranged q') (n : Place) (c : Capture) (m : Place) :
    (Query.execute q n c).result = .ok m ↔ (Query.execute q' n c).result = .ok m := by
  rw [q.understood, q'.understood, h.leads_iff]

theorem Rearranged.isMatch (h : q.Rearranged q') (n : Place) (c : Capture) :
    (Query.execute q n c).isMatch = (Query.execute q' n c).isMatch := by
  rw [Run.isMatch, Run.isMatch, ← Except.isSome_toOption, ← Except.isSome_toOption,
    Except.toOption_congr (h.result_eq_ok_iff n c)]

theorem isMatch_execute_iff_of_still (still : ∀ op ∈ q, op.narrows = false) (n : Place)
    (c : Capture) :
    (Query.execute q n c).isMatch = true ↔ ∀ op ∈ q, (op.apply n).value.isOk = true := by
  have hop : ∀ op ∈ q, ((op.apply n).value.isOk = true ↔ op.Leads n n) := by
    intro op hop
    rw [Except.isOk_iff, ← op.understood n n]
    refine ⟨fun ⟨m, hm⟩ ↦ ?_, fun hn ↦ ⟨n, hn⟩⟩
    rw [hm, Operation.eq_of_leads (still op hop) ((op.understood n m).1 hm)]
  rw [Run.isMatch, Except.isOk_iff, q.understood.exists_ok_iff, forall₂_congr hop]
  simp only [leads_iff_of_still still, exists_eq_left]

end Query

/-- Operations that do not narrow may be put in another order and repeated, as long as they stay
between the same narrowing operations. The query then matches the same and, if it matches, ends at
the same place and captures the same. A query without narrowing operations matches exactly where
each of its operations does on its own. -/
theorem rearranged_query_matches_alike :
    (∀ q q' : Query, q.Rearranged q' → ∀ (n : Place) (c : Capture),
      (Query.execute q n c).isMatch = (Query.execute q' n c).isMatch ∧
      ∀ m, (Query.execute q n c).result = .ok m →
        (Query.execute q' n c).result = .ok m ∧
        (Query.execute q n c).capture = (Query.execute q' n c).capture) ∧
    ∀ q : Query, (∀ op ∈ q, op.narrows = false) → ∀ (n : Place) (c : Capture),
      (Query.execute q n c).isMatch = true ↔ ∀ op ∈ q, (op.apply n).value.isOk = true := by
  refine ⟨fun q q' h n c ↦ ⟨h.isMatch n c, fun m hm ↦ ⟨(h.result_eq_ok_iff n c m).1 hm, ?_⟩⟩,
    fun q still n c ↦ Query.isMatch_execute_iff_of_still still n c⟩
  have hfirst := h.head?_handedOn ((q.understood n c m).1 hm)
  rw [q.execute_eq, q'.execute_eq, hfirst]

/-- On `f(this)`, with a guard repeated and moved behind another operation before a narrowing one,
and two operations swapped after it. -/
theorem rearranged_query_matches_alike_call_of_this :
    let q : Query := [.guard .call, .containsThis, .calleeIdentifier, .pass, .either [[.pass]]]
    let q' : Query :=
      [.containsThis, .guard .call, .guard .call, .calleeIdentifier, .either [[.pass]], .pass]
    let e : Expr := .call (.identifier "f") [.thisRef]
    let m : Place := (Place.root e).child 0 (.identifier "f")
    q.Rearranged q' ∧ (q.run e).result = .ok m ∧ (q'.run e).result = .ok m ∧
      (q'.run e).capture.collected = some (.root e) ∧
      (Query.run [.guard .call, .containsThis] e).isMatch = true ∧
      (Operation.containsThis.apply (.root e)).value.isOk = true := by
  intro q q' e m
  have hrearranged : q.Rearranged q' := by
    refine .narrowing [.guard .call, .containsThis] [.containsThis, .guard .call, .guard .call]
      ?_ (fun op ↦ ?_) rfl (.still _ _ ?_ fun op ↦ ?_)
    · simp [Operation.narrows]
    · simp only [List.mem_cons, List.not_mem_nil]; tauto
    · simp [Operation.narrows]
    · simp only [List.mem_cons, List.not_mem_nil]; tauto
  have hrun : (q.run e).result = .ok m := by cbv
  have hcollected : (q.run e).capture.collected = some (.root e) := by cbv
  obtain ⟨halike, heach⟩ := rearranged_query_matches_alike
  obtain ⟨-, hsame⟩ := halike q q' hrearranged (.root e) .empty
  obtain ⟨hrun', hcapture⟩ := hsame m hrun
  have hmatch : (Query.run [.guard .call, .containsThis] e).isMatch = true := by cbv
  have hstill : ∀ op ∈ ([.guard .call, .containsThis] : Query), op.narrows = false := by
    simp [Operation.narrows]
  refine ⟨hrearranged, hrun, hrun', ?_, hmatch, ?_⟩
  · exact (congrArg Capture.collected hcapture).symm.trans hcollected
  · exact (heach _ hstill (.root e) .empty).1 hmatch _ (List.mem_cons_of_mem _ List.mem_cons_self)

end ShapeQuery
