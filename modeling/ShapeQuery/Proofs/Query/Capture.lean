import Mathlib.Data.List.DropRight
import ShapeQuery.Proofs.Query.Statement
import ShapeQuery.Query.Session

/-!
# What a capture holds

A run offers to its capture what each operation hands on, and the capture keeps the first thing that
it is offered. The list of what is offered (`Query.handedOn`) does not mention the capture: it is
what the operations of the query hand on, up to the first that fails. Queries inside an operation
have captures of their own and add nothing to it.

A run with a capture is the run with an empty one, and leaves the capture with what it held or else
with the first place on the list (`Query.execute_eq`). The same holds for statements, where the list
goes on from one declarator to the next as long as they match (`Query.executeStatement_eq`).

A session is a sequence of such runs on one capture, with resets in between. The invariant is that
the capture is the one described by the steps taken so far (`Session.held`): the first place handed
on since the last reset. A step preserves it (`Session.perform_held`), and so does a session
(`Session.play_held`). Nothing is assumed of the runs: those that fail half-way count with what they
have handed on until then.
-/

namespace ShapeQuery

/-! ### What a run hands on -/

/-- The places that the operations of a query hand on, in order, up to the first operation that
fails. -/
def Query.handedOn : Query → Place → List Place
  | [], _ => []
  | op :: rest, p =>
    match (op.apply p).value with
    | .error _ => []
    | .ok p' => p' :: Query.handedOn rest p'

/-- What a run captures is what its first operation hands on. -/
theorem Query.head?_handedOn_cons (op : Operation) (rest : Query) (n : Place) :
    (Query.handedOn (op :: rest) n).head? = (op.apply n).value.toOption := by
  rw [handedOn]
  cases (op.apply n).value <;> rfl

theorem Capture.collected_offer (c : Capture) (p : Place) :
    (c.offer p).collected = c.collected.or (some p) := by
  obtain ⟨collected⟩ := c
  cases collected <;> rfl

/-- A run does not depend on the capture, and what it hands on is offered to the capture. -/
theorem Query.execute_eq (query : Query) (p : Place) (c : Capture) :
    Query.execute query p c =
      ⟨(Query.execute query p .empty).result, ⟨c.collected.or (query.handedOn p).head?⟩,
        (Query.execute query p .empty).log⟩ := by
  induction query generalizing p c with
  | nil => simp [execute, handedOn]
  | cons op rest ih =>
    rw [execute, execute, handedOn]
    rcases (op.apply p).value with err | p'
    · simp
    · -- once something has been offered, nothing that comes later can count
      have hoffer : (c.collected.or (some p')).or (Query.handedOn rest p').head? =
          c.collected.or (some p') := by
        cases c.collected <;> rfl
      simp only [ih p' (c.offer p'), ih p' (Capture.empty.offer p'), Capture.collected_offer,
        hoffer, List.head?_cons]

theorem Query.result_execute (query : Query) (p : Place) (c : Capture) :
    (Query.execute query p c).result = (Query.execute query p .empty).result := by
  rw [execute_eq]

theorem Query.collected_execute (query : Query) (p : Place) (c : Capture) :
    (Query.execute query p c).capture.collected = c.collected.or (query.handedOn p).head? := by
  rw [execute_eq]

/-! ### What a run on a statement hands on -/

/-- The places that are handed on in runs on the given trees, up to the first that does not
match. -/
def Query.handedOnEach (query : Query) : List Expr → List Place
  | [] => []
  | e :: rest =>
    query.handedOn (.root e) ++ if (query.run e).isMatch then query.handedOnEach rest else []

theorem Query.executeEach_eq (query : Query) (es : List Expr) (c : Capture) :
    query.executeEach es c =
      ⟨(query.executeEach es .empty).result, ⟨c.collected.or (query.handedOnEach es).head?⟩,
        (query.executeEach es .empty).log⟩ := by
  induction es generalizing c with
  | nil => simp [executeEach, handedOnEach]
  | cons e rest ih =>
    rw [executeEach, executeEach, handedOnEach, execute_eq query _ c, run, Run.isMatch]
    rcases (Query.execute query (.root e) .empty).result with err | p
    · simp [Except.isOk, Except.toBool]
    · rw [ih ⟨_⟩, ih (Query.execute query (.root e) .empty).capture]
      simp [Except.isOk, Except.toBool, Option.or_assoc]

/-- A run on a statement does not depend on the capture, and what it hands on from its trees is
offered to the capture. -/
theorem Query.executeStatement_eq (query : Query) (s : Statement) (c : Capture) :
    query.executeStatement s c =
      ⟨(query.executeStatement s .empty).result,
        ⟨c.collected.or (query.handedOnEach s.queried).head?⟩,
        (query.executeStatement s .empty).log⟩ := by
  by_cases h : s.queried = []
  · rw [executeStatement_of_queried_nil h, executeStatement_of_queried_nil h, h]
    cases s.kind <;> simp [handedOnEach]
  · rw [executeStatement_eq_executeEach h, executeStatement_eq_executeEach h, executeEach_eq]

/-- A query with operations that matches has handed something on. -/
theorem Query.eq_nil_of_handedOn_eq_nil {query : Query} {p : Place}
    (hmatch : (Query.execute query p .empty).isMatch = true) (h : query.handedOn p = []) :
    query = [] := by
  cases query with
  | nil => rfl
  | cons op rest =>
    rw [handedOn] at h
    rw [Run.isMatch, execute] at hmatch
    rcases hvalue : (op.apply p).value with err | q
    · rw [hvalue] at hmatch
      cases hmatch
    · rw [hvalue] at h
      cases h

theorem Query.handedOnEach_nil (es : List Expr) : Query.handedOnEach [] es = [] := by
  induction es with
  | nil => rfl
  | cons e rest ih => rw [handedOnEach, ih, handedOn, ite_self, List.append_nil]

/-- The first place that is handed on from several trees is handed on from the first of them. -/
theorem Query.head?_handedOnEach_cons (query : Query) (e : Expr) (rest : List Expr) :
    (query.handedOnEach (e :: rest)).head? = (query.handedOn (.root e)).head? := by
  rw [handedOnEach, List.head?_append]
  rcases hfirst : query.handedOn (.root e) with - | ⟨p, later⟩
  · split
    case isTrue hmatch =>
      rw [eq_nil_of_handedOn_eq_nil hmatch hfirst, handedOnEach_nil]
      rfl
    case isFalse => rfl
  · rfl

/-! ### Sessions -/

namespace Session

/-- A reset of the capture. -/
def Step.isReset : Step → Bool
  | .reset => true
  | _ => false

/-- The places that are handed on in a step. -/
def Step.handedOn : Step → List Place
  | .run query e => query.handedOn (.root e)
  | .runStatement query s => query.handedOnEach s.queried
  | .reset => []

/-- The steps after the last reset. -/
def sinceReset (steps : List Step) : List Step := steps.rtakeWhile fun step ↦ !step.isReset

/-- The capture after some steps of a session: it holds the first place that was handed on since the
last reset. -/
def held (steps : List Step) : Capture := ⟨((sinceReset steps).flatMap Step.handedOn).head?⟩

/-- The reply to a step does not depend on the capture. -/
theorem fst_perform (c : Capture) (step : Step) :
    (perform c step).1 = (perform .empty step).1 := by
  cases step with
  | run query e => simp only [perform, Query.execute_eq query _ c]
  | runStatement query s => simp only [perform, Query.executeStatement_eq query s c]
  | reset => rfl

theorem collected_perform (c : Capture) (step : Step) (h : step.isReset = false) :
    (perform c step).2.collected = c.collected.or step.handedOn.head? := by
  cases step with
  | run query e => simp only [perform, Query.execute_eq query _ c, Step.handedOn]
  | runStatement query s => simp only [perform, Query.executeStatement_eq query s c, Step.handedOn]
  | reset => cases h

/-- A step with an empty capture captures the first place that it hands on. -/
theorem collected_perform_empty (step : Step) :
    (perform .empty step).2.collected = step.handedOn.head? := by
  rcases hreset : step.isReset with - | -
  · rw [collected_perform _ _ hreset]
    rfl
  · cases step <;> cases hreset
    rfl

theorem sinceReset_concat (past : List Step) (step : Step) :
    sinceReset (past ++ [step]) = if step.isReset then [] else sinceReset past ++ [step] := by
  rw [sinceReset, List.rtakeWhile_concat]
  cases step.isReset <;> rfl

/-- A step turns the capture that the steps so far account for into the one that they and the step
account for. -/
theorem perform_held (past : List Step) (step : Step) :
    (perform (held past) step).2 = held (past ++ [step]) := by
  rcases hreset : step.isReset with - | -
  · have hcollected : (perform (held past) step).2.collected =
        ((sinceReset past).flatMap Step.handedOn ++ step.handedOn).head? := by
      rw [collected_perform _ _ hreset, List.head?_append]
      rfl
    rw [held.eq_def (past ++ [step]), sinceReset_concat, hreset, if_neg Bool.false_ne_true,
      List.flatMap_append, List.flatMap_singleton, ← hcollected]
  · cases step <;> cases hreset
    rw [held.eq_def (past ++ [Step.reset]), sinceReset_concat]
    rfl

/-- In a session that goes on from the given steps, every reply is the one that an empty capture
would give, and every capture is accounted for by the steps up to then. -/
theorem play_held (past steps : List Step) :
    play (held past) steps = steps.mapIdx fun i step ↦
      ((perform .empty step).1, held (past ++ steps.take (i + 1))) := by
  induction steps generalizing past with
  | nil => rfl
  | cons step rest ih =>
    have hfirst : perform (held past) step =
        ((perform .empty step).1, held (past ++ (step :: rest).take 1)) := by
      rw [← fst_perform (held past) step]
      exact Prod.ext rfl (perform_held past step)
    have hlater : ∀ i, past ++ [step] ++ rest.take (i + 1) =
        past ++ (step :: rest).take (i + 1 + 1) := fun i ↦ (List.append_cons _ _ _).symm
    rw [play, perform_held, ih (past ++ [step]), List.mapIdx_cons, hfirst]
    simp only [hlater, Nat.zero_add]

/-- The first place handed on since the last reset is the first that any of the steps since then
captures with a capture of its own. -/
theorem collected_held (steps : List Step) :
    (held steps).collected =
      (sinceReset steps).findSome? fun step ↦ (perform .empty step).2.collected := by
  rw [held, List.head?_flatMap]
  simp only [collected_perform_empty]

/-- The reply to every step of a session is the one that the step gets with an empty capture,
whatever the capture holds. After every step the capture holds the first place that an operation
handed on in any run since the last reset, and nothing if there is none. That is the first capture
among those of the steps since the last reset, each taken with an empty capture. -/
theorem play_keeps_first_handed_on :
    (∀ (c : Capture) (step : Step), (perform c step).1 = (perform .empty step).1) ∧
    (∀ steps : List Step, play .empty steps = steps.mapIdx fun i step ↦
      ((perform .empty step).1,
        ⟨((sinceReset (steps.take (i + 1))).flatMap Step.handedOn).head?⟩)) ∧
    ∀ steps : List Step,
      (((sinceReset steps).flatMap Step.handedOn).head? = none ↔
        ∀ step ∈ sinceReset steps, step.handedOn = []) ∧
      ((sinceReset steps).flatMap Step.handedOn).head? =
        (sinceReset steps).findSome? fun step ↦ (perform .empty step).2.collected := by
  refine ⟨fst_perform, play_held [], fun steps ↦ ⟨?_, collected_held steps⟩⟩
  rw [List.head?_eq_none_iff, List.flatMap_eq_nil_iff]

end Session

end ShapeQuery
