import ShapeQuery.Proofs.Query.Capture
import ShapeQuery.Proofs.Results

/-!
# Statements as runs in sequence

A declaration is queried declarator by declarator, all runs sharing one capture. This module says
what that comes to in terms of the runs by themselves, each with a capture of its own.

Runs in sequence go on as long as they match (`Run.andThen`), and a declaration may be cut anywhere
into two such runs (`Query.executeEach_append`). So the result of a declaration is that of a pass
over the results of its declarators (`Query.result_executeEach`), and what comes after one that does
not match adds nothing, not even to the log (`Query.executeEach_of_mismatch`).

What is captured is decided by the first declarator alone (`Query.collected_executeEach_empty`). A
first run that fails captures what it has handed on until then, and ends the sequence; one that
matches has handed something on, unless the query has no operations, and then none of the others
captures anything either.
-/

namespace ShapeQuery

/-- Goes on from a run that matches with another one, which gets the capture that the first one
leaves. -/
def Run.andThen (r : Run Unit) (next : Capture → Run Unit) : Run Unit :=
  match r.result with
  | .error _ => r
  | .ok _ =>
    let later := next r.capture
    ⟨later.result, later.capture, r.log ++ later.log⟩

namespace Run

theorem andThen_of_error {r : Run Unit} {err : QueryError} (h : r.result = .error err)
    (next : Capture → Run Unit) : r.andThen next = r := by
  rw [andThen, h]

theorem andThen_assoc (r : Run Unit) (next last : Capture → Run Unit) :
    (r.andThen next).andThen last = r.andThen fun c ↦ (next c).andThen last := by
  rcases hr : r.result with err | u
  · rw [andThen_of_error hr, andThen_of_error hr, andThen_of_error hr]
  · simp only [andThen, hr]
    cases hnext : (next r.capture).result with
    | error err => simp only [hnext]
    | ok u => simp only [List.append_assoc]

end Run

namespace Query

variable (query : Query)

/-! ### Trees in sequence -/

theorem executeEach_cons (e : Expr) (rest : List Expr) (c : Capture) :
    query.executeEach (e :: rest) c =
      (Query.execute query (.root e) c).verdict.andThen (query.executeEach rest) := by
  rw [executeEach, Run.andThen, Run.verdict]
  cases (Query.execute query (.root e) c).result <;> rfl

/-- Running on some trees and then on others is running on all of them. -/
theorem executeEach_append (es fs : List Expr) (c : Capture) :
    query.executeEach (es ++ fs) c = (query.executeEach es c).andThen (query.executeEach fs) := by
  induction es generalizing c with
  | nil => rfl
  | cons e rest ih =>
    rw [List.cons_append, executeEach_cons, executeEach_cons, Run.andThen_assoc]
    exact congrArg _ (funext ih)

/-- The result of runs on several trees is that of a pass over their results. -/
theorem result_executeEach (es : List Expr) (c : Capture) :
    (query.executeEach es c).result = forM es fun e ↦ (query.run e).result.outcome := by
  induction es generalizing c with
  | nil => rfl
  | cons e rest ih =>
    rw [executeEach, List.forM_cons, query.result_execute, ← run]
    rcases (query.run e).result with err | p
    · rfl
    · exact ih _

/-- Runs on several trees match if each of them does. -/
theorem result_executeEach_eq_ok_iff (es : List Expr) (c : Capture) :
    (query.executeEach es c).result = .ok () ↔ ∀ e ∈ es, (query.run e).isMatch = true := by
  rw [result_executeEach, Except.forM_eq_ok_iff]
  simp only [Except.outcome_eq_ok_iff, Run.isMatch, Except.isOk_iff]

/-- Runs on several trees fail with the error of the first that does not match. -/
theorem result_executeEach_eq_error_iff (es : List Expr) (c : Capture) (err : QueryError) :
    (query.executeEach es c).result = .error err ↔ ∃ before e after, es = before ++ e :: after ∧
      (∀ b ∈ before, (query.run b).isMatch = true) ∧ (query.run e).result = .error err := by
  rw [result_executeEach, Except.forM_eq_error_iff]
  simp only [Except.outcome_eq_ok_iff, Except.outcome_eq_error_iff, Run.isMatch, Except.isOk_iff]

/-- Nothing is run after a tree that does not match. -/
theorem executeEach_of_mismatch {e : Expr} (he : (query.run e).isMatch = false)
    (before after : List Expr) (c : Capture) :
    query.executeEach (before ++ e :: after) c = query.executeEach (before ++ [e]) c := by
  rw [List.append_cons, executeEach_append]
  rcases hresult : (query.executeEach (before ++ [e]) c).result with err | u
  · exact Run.andThen_of_error hresult _
  · have hmatch := (query.result_executeEach_eq_ok_iff _ c).1 hresult e
      (List.mem_append_right _ List.mem_cons_self)
    rw [he] at hmatch
    cases hmatch

/-- What is captured in runs on several trees is what is captured in the first of them. -/
theorem collected_executeEach_empty (es : List Expr) :
    (query.executeEach es .empty).capture.collected =
      es.head?.bind fun e ↦ (query.run e).capture.collected := by
  rw [executeEach_eq]
  cases es with
  | nil => rfl
  | cons e rest =>
    show (query.handedOnEach (e :: rest)).head? = (query.run e).capture.collected
    rw [head?_handedOnEach_cons, run, collected_execute]
    rfl

end Query

/-! ### Statements -/

/-- A statement of one tree is the run on the tree. A declaration matches if all of its declarators
do, and otherwise fails as the first that does not, after which none is run; it captures what its
first declarator captures, and is the sequence of any two parts that it is cut into. A return
without a value matches a query without operations, and other statements match no query; neither
touches the capture. -/
theorem runStatement_folds_runs (query : Query) :
    (∀ e, ∀ s ∈ [.expression e, .returns (some e), .declaration [e]],
      query.runStatement s = (query.run e).verdict) ∧
    (∀ ds,
      ((query.runStatement (.declaration ds)).result = .ok () ↔
        ∀ d ∈ ds, (query.run d).isMatch = true) ∧
      (∀ err, (query.runStatement (.declaration ds)).result = .error err ↔
        ∃ before d after, ds = before ++ d :: after ∧
          (∀ b ∈ before, (query.run b).isMatch = true) ∧ (query.run d).result = .error err) ∧
      (query.runStatement (.declaration ds)).capture.collected =
        ds.head?.bind fun d ↦ (query.run d).capture.collected) ∧
    (∀ before d after c, (query.run d).isMatch = false →
      query.executeStatement (.declaration (before ++ d :: after)) c =
        query.executeStatement (.declaration (before ++ [d])) c) ∧
    (∀ ds₁ ds₂ c, query.executeStatement (.declaration (ds₁ ++ ds₂)) c =
      (query.executeStatement (.declaration ds₁) c).andThen fun c' ↦
        query.executeStatement (.declaration ds₂) c') ∧
    (∀ c, ((query.executeStatement (.returns none) c).result = .ok () ↔ query = []) ∧
      (query ≠ [] → (query.executeStatement (.returns none) c).result = .error .missingNode) ∧
      (query.executeStatement (.returns none) c).capture = c) ∧
    ∀ s c, s.kind ∉ [.expression, .returns, .declaration] →
      (query.executeStatement s c).result = .error (.unsupportedStatement s.kind) ∧
      (query.executeStatement s c).capture = c := by
  refine ⟨fun e s hs ↦ ?_, fun ds ↦ ⟨?_, ?_, query.collected_executeEach_empty ds⟩,
    fun before d after c hd ↦ query.executeEach_of_mismatch hd before after c,
    query.executeEach_append, fun c ↦ ?_, fun s c hs ↦ ?_⟩
  · have hqueried : s.queried = [e] := by
      rcases List.mem_cons.1 hs with rfl | hs
      · rfl
      · rcases List.mem_pair.1 hs with rfl | rfl <;> rfl
    rw [Query.runStatement,
      Query.executeStatement_eq_executeEach (hqueried ▸ List.cons_ne_nil e []), hqueried,
      Query.executeEach_singleton]
    rfl
  · exact query.result_executeEach_eq_ok_iff ds .empty
  · exact query.result_executeEach_eq_error_iff ds .empty
  · cases query with
    | nil => exact ⟨⟨fun _ ↦ rfl, fun _ ↦ rfl⟩, fun h ↦ absurd rfl h, rfl⟩
    | cons op rest => exact ⟨⟨fun h ↦ (nomatch h), fun h ↦ (nomatch h)⟩, fun _ ↦ rfl, rfl⟩
  · cases s with
    | expression e => exact absurd List.mem_cons_self hs
    | returns argument => exact absurd (List.mem_cons_of_mem _ List.mem_cons_self) hs
    | declaration ds => exact absurd (by simp [Statement.kind]) hs
    | _ => exact ⟨rfl, rfl⟩

/-- Of `var x = 0, y = "", z` only the first two are run, and what is captured is the first. -/
theorem runStatement_folds_runs_three :
    let query : Query := [.guard .assignOrDeclarator, .rightSide [.accept .numbers 1]]
    let x : Expr := .declarator "x" (some (.number .zero))
    let y : Expr := .declarator "y" (some (.string ""))
    let z : Expr := .declarator "z" none
    (query.runStatement (.declaration [x, y, z])).result =
        .error (.contentMismatch .numbers .string) ∧
      query.runStatement (.declaration [x, y, z]) = query.runStatement (.declaration [x, y]) ∧
      (query.runStatement (.declaration [x, y, z])).capture.collected = some (.root x) ∧
      (query.runStatement (.returns none)).result = .error .missingNode ∧
      (query.runStatement (.throws z)).result = .error (.unsupportedStatement .throws) := by
  intro query x y z
  obtain ⟨-, hdeclaration, hmismatch, -, hreturns, hother⟩ := runStatement_folds_runs query
  obtain ⟨-, herror, hcollected⟩ := hdeclaration [x, y, z]
  have hx : (query.run x).isMatch = true := by cbv
  have hfirst : (query.run x).capture.collected = some (.root x) := by cbv
  have hy : (query.run y).result = .error (.contentMismatch .numbers .string) := by cbv
  have hmatch : (query.run y).isMatch = false := by
    rw [Run.isMatch, hy]
    rfl
  refine ⟨(herror _).2 ⟨[x], y, [z], rfl, List.forall_mem_singleton.2 hx, hy⟩,
    hmismatch [x] y [z] .empty hmatch, hcollected.trans hfirst,
    (hreturns .empty).2.1 (List.cons_ne_nil _ _), (hother (.throws z) .empty ?_).1⟩
  decide

end ShapeQuery
