import ShapeQuery.Query.Run

/-!
# Queries on statements

A query applies to a statement through the expressions that the statement is made of: an expression
statement through its expression, a return through its value, and a declaration through each of its
declarators in turn. It applies to no other statement.
-/

namespace ShapeQuery

/-- Forgets the result of a run but for its success. -/
def Run.verdict (r : Run Place) : Run Unit := ⟨r.result.map fun _ ↦ (), r.capture, r.log⟩

/-- Runs a query on each of the given trees, up to the first that does not match. -/
def Query.executeEach (query : Query) : List Expr → Capture → Run Unit
  | [], c => ⟨.ok (), c, []⟩
  | e :: rest, c =>
    let r := Query.execute query (.root e) c
    match r.result with
    | .error err => ⟨.error err, r.capture, r.log⟩
    | .ok _ =>
      let later := Query.executeEach query rest r.capture
      ⟨later.result, later.capture, r.log ++ later.log⟩

/-- Runs a query on a statement. A return without a value matches only a query without
operations. -/
def Query.executeStatement (query : Query) (s : Statement) (c : Capture) : Run Unit :=
  match s with
  | .expression e => (Query.execute query (.root e) c).verdict
  | .returns (some e) => (Query.execute query (.root e) c).verdict
  | .returns none => ⟨if query.isEmpty then .ok () else .error .missingNode, c, []⟩
  | .declaration declarators => query.executeEach declarators c
  | _ => ⟨.error (.unsupportedStatement s.kind), c, [.rejecting s.kind]⟩

/-- Runs a query on a statement with a capture of its own. -/
def Query.runStatement (query : Query) (s : Statement) : Run Unit :=
  query.executeStatement s .empty

end ShapeQuery
