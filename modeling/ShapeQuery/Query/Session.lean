import ShapeQuery.Query.Statement

/-!
# Sessions

Several runs may share one capture, which then keeps the first place that any of them captures until
it is reset. A session is such a sequence of runs and resets.
-/

namespace ShapeQuery

namespace Session

/-- A step of a session. -/
inductive Step where
  | run (query : Query) (tree : Expr)
  | runStatement (query : Query) (statement : Statement)
  | reset

/-- What a step answers, apart from the capture. -/
inductive Reply where
  /-- The result of a run on a tree. -/
  | tree (result : Except QueryError Place)
  /-- The result of a run on a statement. -/
  | statement (result : Except QueryError Unit)
  /-- The capture was reset. -/
  | cleared

/-- Takes one step: its reply, and the capture after it. -/
def perform (c : Capture) : Step → Reply × Capture
  | .run query e =>
    let r := Query.execute query (.root e) c
    (.tree r.result, r.capture)
  | .runStatement query s =>
    let r := query.executeStatement s c
    (.statement r.result, r.capture)
  | .reset => (.cleared, .empty)

/-- Takes the steps of a session in order; every reply comes with the capture after its step. -/
def play (c : Capture) : List Step → List (Reply × Capture)
  | [] => []
  | step :: rest =>
    let answer := perform c step
    answer :: play answer.2 rest

end Session

end ShapeQuery
