import ShapeQuery.Proofs.Query.Context

/-!
# Replacing a part of a query

Two queries are *equivalent* (`Query.Equivalent`) if nobody can tell them apart by where their runs
end and by what they capture. Errors and logs may differ; a replacement that keeps the errors too is
one by a query with the same results (`Query.Context.result_fill`). Either way the replacement may
be made at any depth: a context keeps both relations.

A query changes into an equivalent one if an operation is replaced by one that leads to the same
places (`Query.equivalent_replace`). It keeps its results and what it captures if an operation that
is *settled* (`Operation.Settled`), that is, one with nothing left to do where it has led, is
repeated right after itself (`Query.execute_repeat`).
-/

namespace ShapeQuery

variable {q q' : Query} {op op' : Operation}

/-- Two queries end at the same places and capture the same, and both have operations or neither
has. -/
structure Query.Equivalent (q q' : Query) : Prop where
  leads : ∀ n m, Query.Leads q n m ↔ Query.Leads q' n m
  capture : ∀ n c, (Query.execute q n c).capture = (Query.execute q' n c).capture
  nil : q = [] ↔ q' = []

namespace Query

namespace Equivalent

theorem symm (h : q.Equivalent q') : q'.Equivalent q :=
  ⟨fun n m ↦ (h.leads n m).symm, fun n c ↦ (h.capture n c).symm, h.nil.symm⟩

theorem implies (h : q.Equivalent q') : q.Implies q' :=
  ⟨fun ⟨m, hm⟩ ↦ ⟨m, (h.leads _ m).1 hm⟩, h.nil.1⟩

theorem toOption_result (h : q.Equivalent q') (n : Place) (c : Capture) :
    (Query.execute q n c).result.toOption = (Query.execute q' n c).result.toOption := by
  refine Except.toOption_congr fun m ↦ ?_
  rw [q.understood, q'.understood, h.leads]

theorem isMatch (h : q.Equivalent q') (n : Place) (c : Capture) :
    (Query.execute q n c).isMatch = (Query.execute q' n c).isMatch := by
  rw [Run.isMatch, Run.isMatch, ← Except.isSome_toOption, ← Except.isSome_toOption,
    h.toOption_result]

/-- A query inside a query can be replaced by an equivalent one. -/
theorem fill (h : q.Equivalent q') (context : Context) :
    Equivalent (context.fill q) (context.fill q') := by
  induction context with
  | nil => exact h
  | cons frame rest ih =>
    exact ⟨fun n m ↦ ⟨frame.leads_mono ih.implies, frame.leads_mono ih.symm.implies⟩,
      frame.capture_congr ih.implies ih.symm.implies,
      iff_of_false (frame.fill_ne_nil _) (frame.fill_ne_nil _)⟩

end Equivalent

/-- An operation can be replaced by one that leads to the same places. -/
theorem equivalent_replace (h : ∀ n m, op.Leads n m ↔ op'.Leads n m) (before after : Query) :
    Equivalent (before ++ op :: after) (before ++ op' :: after) where
  leads _ _ := ⟨leads_replace fun {n m} ↦ (h n m).1, leads_replace fun {n m} ↦ (h n m).2⟩
  capture := capture_replace h before after
  nil := iff_of_false (List.append_ne_nil_of_right_ne_nil _ (List.cons_ne_nil _ _))
    (List.append_ne_nil_of_right_ne_nil _ (List.cons_ne_nil _ _))

/-! ### Replacements that keep the errors -/

/-- Queries with the same results are equivalent, if they capture the same as well. -/
theorem equivalent_of_result_eq
    (hresult : ∀ n c, (Query.execute q n c).result = (Query.execute q' n c).result)
    (hcapture : ∀ n c, (Query.execute q n c).capture = (Query.execute q' n c).capture)
    (hempty : q.isEmpty = q'.isEmpty) : q.Equivalent q' where
  leads n m := by rw [← q.understood n .empty, ← q'.understood n .empty, hresult]
  capture := hcapture
  nil := by rw [← List.isEmpty_iff, ← List.isEmpty_iff, hempty]

/-- A query inside a query can be replaced by one with the same results. -/
theorem Context.result_fill (context : Context)
    (hresult : ∀ n c, (Query.execute q n c).result = (Query.execute q' n c).result)
    (hempty : q.isEmpty = q'.isEmpty) (n : Place) (c : Capture) :
    (Query.execute (context.fill q) n c).result = (Query.execute (context.fill q') n c).result := by
  cases context with
  | nil => exact hresult n c
  | cons frame rest =>
    have hends : q.EndsAs q' := fun n ↦ congrArg Except.outcome (hresult n .empty)
    obtain ⟨hrest, hnone⟩ := Context.endsAs_fill rest hends hempty
    exact frame.result_congr hrest hnone n c

end Query

/-! ### Operations in a row -/

/-- An operation is settled if it stays where it has led. -/
def Operation.Settled (op : Operation) : Prop := ∀ n m, op.Leads n m → op.Leads m m

theorem Capture.offer_offer (c : Capture) (p : Place) : (c.offer p).offer p = c.offer p := by
  obtain ⟨collected⟩ := c
  cases collected <;> rfl

/-- A settled operation may be repeated: neither the result nor the capture of a run changes. -/
theorem Query.execute_repeat (hop : op.Settled) (before after : Query) (n : Place) (c : Capture) :
    (Query.execute (before ++ op :: op :: after) n c).result =
        (Query.execute (before ++ op :: after) n c).result ∧
      (Query.execute (before ++ op :: op :: after) n c).capture =
        (Query.execute (before ++ op :: after) n c).capture := by
  induction before generalizing n c with
  | nil =>
    rw [List.nil_append, List.nil_append, execute, execute]
    rcases hvalue : (op.apply n).value with err | k
    · exact ⟨rfl, rfl⟩
    · -- the second time it hands on the same place, which the capture has been offered already
      have hagain : (op.apply k).value = .ok k :=
        (op.understood k k).2 (hop n k ((op.understood n k).1 hvalue))
      simp only [execute, hagain, Capture.offer_offer, and_self]
  | cons first before ih =>
    rw [List.cons_append, List.cons_append, execute, execute]
    rcases (first.apply n).value with err | k
    · exact ⟨rfl, rfl⟩
    · exact ih k (c.offer k)

end ShapeQuery
