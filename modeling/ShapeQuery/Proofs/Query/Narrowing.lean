import ShapeQuery.Proofs.Query.Capture
import ShapeQuery.Proofs.Query.ContentWalk
import ShapeQuery.Proofs.Query.Meaning

/-!
# Where a run can get

Most operations hand on the place that they are given. Two of them *narrow* (`Operation.narrows`):
they hand on a place below it, found by a walk or by way of its children. Either way what is handed
on is walked from where the operation was applied (`Operation.walked_of_leads`). The places that a
run goes through are therefore a chain (`Query.isChain_handedOn`), and all that it hands on and
where it ends is walked from where it starts (`Query.walked_of_mem_handedOn`,
`Query.walked_of_leads`).

`run_stays_in_tree` says so of runs on trees and on statements, where what is walked is what a full
walk enters. There is no way into the body of a function, since a walk does not go there.
-/

namespace ShapeQuery

variable {n m : Place}

/-- The operations that may hand on another place than they are given. -/
def Operation.narrows : Operation → Bool
  | .findCall _ => true
  | .calleeIdentifier => true
  | _ => false

theorem Operation.understood (op : Operation) : op.Understood :=
  understood_of_nested op fun query _ ↦ query.understood

/-- An operation that does not narrow leads to where it is. -/
theorem Operation.eq_of_leads {op : Operation} (hop : op.narrows = false) (h : op.Leads n m) :
    m = n := by
  cases op with
  | pass => exact h
  | findCall firstOnly => cases hop
  | calleeIdentifier => cases hop
  | _ => exact h.1

/-- An operation leads to a place that is walked from where it is applied. -/
theorem Operation.walked_of_leads {op : Operation} (h : op.Leads n m) : n.Walked m := by
  cases op with
  | findCall firstOnly =>
    have hcall : m ∈ n.calls := by
      cases firstOnly with
      | true => exact List.mem_of_mem_head? h
      | false => exact List.mem_of_getLast? h
    exact Place.mem_postorder_iff.1 (List.mem_of_mem_filter hcall)
  | calleeIdentifier =>
    have hcallee : ∀ {callee args}, n.node = .call callee args → n.Walked (n.child 0 callee) :=
      fun hn ↦ (Place.Walked.refl n).child (Place.child_mem_children (by rw [hn]; rfl))
    rcases h with ⟨name, args, hn, rfl⟩ | ⟨left, name, args, hn, rfl⟩
    · exact hcallee hn
    · exact (hcallee hn).child (Place.child_mem_children rfl)
  | _ =>
    rw [Operation.eq_of_leads rfl h]
    exact .refl n

/-- The places that a run goes through form a chain: each is walked from the one before. -/
theorem Query.isChain_handedOn (query : Query) (n : Place) :
    (n :: query.handedOn n).IsChain Place.Walked := by
  induction query generalizing n with
  | nil => exact .singleton n
  | cons op rest ih =>
    rw [handedOn]
    rcases hvalue : (op.apply n).value with err | k
    · exact .singleton n
    · have hk : n.Walked k := Operation.walked_of_leads ((op.understood n k).1 hvalue)
      exact List.isChain_cons_cons.2 ⟨hk, ih k⟩

/-- What a run hands on is walked from where the run starts. -/
theorem Query.walked_of_mem_handedOn {query : Query} (h : m ∈ query.handedOn n) : n.Walked m := by
  have : Trans Place.Walked Place.Walked Place.Walked := ⟨Relation.ReflTransGen.trans⟩
  exact List.rel_of_pairwise_cons (List.isChain_iff_pairwise.1 (query.isChain_handedOn n)) h

/-- What an operation hands on in a run is where the run of the query up to that operation ends. -/
theorem Query.getElem?_handedOn (query : Query) (n : Place) (c : Capture) {i : Nat}
    (hi : i < query.length) :
    (query.handedOn n)[i]? = (Query.execute (query.take (i + 1)) n c).result.toOption := by
  induction query generalizing n c i with
  | nil => exact absurd hi (Nat.not_lt_zero i)
  | cons op rest ih =>
    rw [handedOn, List.take_succ_cons, execute]
    rcases (op.apply n).value with err | k
    · rfl
    · cases i with
      | zero => rfl
      | succ i => exact ih k (c.offer k) (Nat.lt_of_succ_lt_succ hi)

/-- A query leads to a place that is walked from where it is run. -/
theorem Query.walked_of_leads {query : Query} (h : Query.Leads query n m) : n.Walked m := by
  induction query generalizing n with
  | nil =>
    obtain rfl : m = n := h
    exact .refl m
  | cons op rest ih =>
    obtain ⟨k, hop, hrest⟩ := h
    exact (Operation.walked_of_leads hop).trans (ih hrest)

/-- A query without narrowing operations leads to where it is run. -/
theorem Query.eq_of_leads {query : Query} (hquery : ∀ op ∈ query, op.narrows = false)
    (h : Query.Leads query n m) : m = n := by
  induction query generalizing n with
  | nil => exact h
  | cons op rest ih =>
    obtain ⟨hop, hrest⟩ := List.forall_mem_cons.1 hquery
    obtain ⟨k, hk, hm⟩ := h
    rw [ih hrest hm, Operation.eq_of_leads hop hk]

/-! ### Runs stay in their tree -/

/-- A run captures nothing if the capture holds something, or a place that is walked from where the
run starts. -/
theorem Query.capture_execute_eq_or (query : Query) (n : Place) (c : Capture) :
    (Query.execute query n c).capture = c ∨
      c.collected = none ∧ ∃ p, (Query.execute query n c).capture.collected = some p ∧
        n.Walked p := by
  obtain ⟨collected⟩ := c
  rw [query.execute_eq]
  cases collected with
  | some held => exact .inl rfl
  | none =>
    rcases hfirst : (query.handedOn n).head? with - | p
    · exact .inl rfl
    · exact .inr ⟨rfl, p, rfl, walked_of_mem_handedOn (List.mem_of_mem_head? hfirst)⟩

/-- Without narrowing operations, the only place that a run can capture is the one it starts
from. -/
theorem Query.eq_of_collected {query : Query} (hquery : ∀ op ∈ query, op.narrows = false)
    (h : (Query.execute query n .empty).capture.collected = some m) : m = n := by
  rw [query.collected_execute] at h
  cases query with
  | nil => cases h
  | cons op rest =>
    have hvalue : (op.apply n).value = .ok m :=
      Except.toOption_eq_some_iff.1 ((head?_handedOn_cons op rest n).symm.trans h)
    exact Operation.eq_of_leads (List.forall_mem_cons.1 hquery).1 ((op.understood n m).1 hvalue)

/-- The first place that is handed on from several trees is walked in the first of them. -/
theorem Query.walked_of_head?_handedOnEach {query : Query} {e : Expr} {rest : List Expr} {p : Place}
    (h : (query.handedOnEach (e :: rest)).head? = some p) : (Place.root e).Walked p := by
  rw [head?_handedOnEach_cons] at h
  exact walked_of_mem_handedOn (List.mem_of_mem_head? h)

/-- What a run on a statement captures is walked in one of the trees of the statement. -/
theorem Query.walked_of_collected_runStatement {query : Query} {s : Statement} {p : Place}
    (h : (query.runStatement s).capture.collected = some p) :
    ∃ e ∈ s.queried, (Place.root e).Walked p := by
  rw [runStatement, query.executeStatement_eq] at h
  rcases hqueried : s.queried with - | ⟨e, rest⟩
  · rw [hqueried] at h
    cases h
  · rw [hqueried] at h
    exact ⟨e, List.mem_cons_self, walked_of_head?_handedOnEach h⟩

/-- A run on a tree ends at a place that a full walk of the tree enters, and captures such a place
or leaves the capture as it was. On the way each place is walked from the one before; the places are
the ends of the runs of the query up to each of its operations. A query without narrowing operations
ends where it starts and captures nothing else. What a run on a statement captures is entered by a
full walk of one of the statement's trees. -/
theorem run_stays_in_tree (query : Query) :
    (∀ e c,
      (∀ m, (Query.execute query (.root e) c).result = .ok m →
        .enter m ∈ (e.recordWalk none).events) ∧
      ((Query.execute query (.root e) c).capture = c ∨
        c.collected = none ∧ ∃ p, (Query.execute query (.root e) c).capture.collected = some p ∧
          .enter p ∈ (e.recordWalk none).events)) ∧
    (∀ n, (n :: query.handedOn n).IsChain Place.Walked ∧
      ∀ c i, i < query.length → (query.handedOn n)[i]? =
        (Query.execute (query.take (i + 1)) n c).result.toOption) ∧
    ((∀ op ∈ query, op.narrows = false) → ∀ n,
      (∀ c m, (Query.execute query n c).result = .ok m → m = n) ∧
      ∀ p, (Query.execute query n .empty).capture.collected = some p → p = n) ∧
    ∀ s p, (query.runStatement s).capture.collected = some p →
      ∃ e ∈ s.queried, .enter p ∈ (e.recordWalk none).events := by
  simp only [Expr.enter_mem_events_iff]
  refine ⟨fun e c ↦ ⟨fun m hm ↦ ?_, query.capture_execute_eq_or (.root e) c⟩, fun n ↦ ?_, ?_,
    fun s p ↦ Query.walked_of_collected_runStatement⟩
  · exact Query.walked_of_leads ((query.understood (.root e) c m).1 hm)
  · exact ⟨query.isChain_handedOn n, fun c i hi ↦ query.getElem?_handedOn n c hi⟩
  · intro hquery n
    refine ⟨fun c m hm ↦ ?_, fun p hp ↦ Query.eq_of_collected hquery hp⟩
    exact Query.eq_of_leads hquery ((query.understood n c m).1 hm)

/-- In `h(function () { g(); })()` the first call that is left is the one of `h`; the one in the
body is not walked. A run that only asks for a call stays at the whole tree. -/
theorem run_stays_in_tree_called_twice :
    let inner : Expr := .call (.identifier "h")
      [.function none [] [.expression (.call (.identifier "g") [])]]
    let e : Expr := .call inner []
    let query : Query := [.findCall true, .calleeIdentifier]
    let m : Place := ((Place.root e).child 0 inner).child 0 (.identifier "h")
    (query.run e).result = .ok m ∧ .enter m ∈ (e.recordWalk none).events ∧
      (query.handedOn (.root e))[0]? = (Query.run [.findCall true] e).result.toOption ∧
      ((Query.run [.guard .call] e).isMatch = true ∧
        ∀ k, (Query.run [.guard .call] e).result = .ok k → k = .root e) ∧
      ∃ p, (query.runStatement (.returns (some e))).capture.collected = some p ∧
        .enter p ∈ (e.recordWalk none).events := by
  intro inner e query m
  have hrun : (query.run e).result = .ok m := by cbv
  have hcollected : (query.runStatement (.returns (some e))).capture.collected =
      some ((Place.root e).child 0 inner) := by cbv
  obtain ⟨htree, hchain, -, hstatement⟩ := run_stays_in_tree query
  obtain ⟨-, -, hstill, -⟩ := run_stays_in_tree [.guard .call]
  obtain ⟨d, hd, hp⟩ := hstatement _ _ hcollected
  obtain rfl : d = e := List.mem_singleton.1 hd
  refine ⟨hrun, (htree e .empty).1 m hrun, (hchain (.root e)).2 .empty 0 (Nat.succ_pos 1),
    ⟨rfl, ?_⟩, _, hcollected, hp⟩
  exact (hstill (List.forall_mem_singleton.2 rfl) (.root e)).1 .empty

end ShapeQuery
