import ShapeQuery.Pattern.Matching
import ShapeQuery.Query.Log
import ShapeQuery.Query.Operation
import ShapeQuery.Query.ContentCheck

/-!
# Running a query

A run threads a place through the operations of a query and stops at the first one that fails. On
the way it offers what each operation hands on to a *capture*, which keeps the first thing that it
is offered. A capture may outlive a run; queries inside an operation always get one of their own, so
they never show in the capture of the run around them.

Applying an operation and running a query are defined together, by recursion on the query.
-/

namespace ShapeQuery

/-- Keeps the first place that it is offered. -/
structure Capture where
  /-- The place that was captured, if any. -/
  collected : Option Place

namespace Capture

/-- A capture that holds nothing. -/
def empty : Capture := ⟨none⟩

/-- Offers a place to a capture. -/
def offer (c : Capture) (p : Place) : Capture :=
  match c.collected with
  | none => ⟨some p⟩
  | some _ => c

end Capture

/-- The outcome of a run: its result, the capture after it and its log. -/
structure Run (α : Type) where
  result : Except QueryError α
  capture : Capture
  log : List LogEntry

/-- Whether a run matched. -/
def Run.isMatch {α : Type} (r : Run α) : Bool := r.result.isOk

/-! ### Operations without queries inside -/

/-- Lets a place pass if its node is of one of the given kinds. -/
def expectKind (expected : List ExprKind) (p : Place) : Except QueryError Place :=
  if expected.contains p.kind then .ok p else .error (.typeMismatch expected p.kind)

/-- Lets a call pass if what it calls is a function literal. -/
def expectAnonymousCall (p : Place) : Except QueryError Place :=
  match p.node with
  | .call callee _ => (expectKind [.function] (p.child 0 callee)).map fun _ ↦ p
  | _ => expectKind [.call] p

/-- Lets a place pass if its node has one of the given operators. -/
def expectOperator (operators : List Operator) (p : Place) : Except QueryError Place :=
  match p.node.operator? with
  | none => .error (.missingOperator p.kind)
  | some op => if operators.contains op then .ok p else .error (.operatorMismatch op)

/-- Goes from a call to the name of what it calls: the callee itself, or the member that is
accessed. -/
def calleeName (p : Place) : Except QueryError Place :=
  match p.node with
  | .call callee _ =>
    let below := p.child 0 callee
    match callee with
    | .identifier _ => .ok below
    | .dot _ member =>
      match member with
      | .identifier _ => .ok (below.child 1 member)
      | _ => .error .noIdentifier
    | _ => .error .noIdentifier
  | _ => expectKind [.call] p

/-- Lets an identifier pass if its name matches the pattern. -/
def expectName (pattern : Pattern) (p : Place) : Except QueryError Place :=
  match p.node with
  | .identifier name => if pattern.isMatch name then .ok p else .error (.nameMismatch name)
  | _ => .error .noIdentifier

/-- The call that a walk finds at or below a place. -/
def foundCall (firstOnly : Bool) (p : Place) : Traced (Except QueryError Place) :=
  let w := p.findCall firstOnly
  ⟨w.state.elim (.error .noMatch) .ok, w.log⟩

/-- Lets a place pass if `this` occurs at or below it. -/
def foundThis (p : Place) : Traced (Except QueryError Place) :=
  let w := Visitor.thisCounter.walk p 0
  ⟨if w.state = 0 then .error .noMatch else .ok p, w.log⟩

/-! ### Several results -/

/-- The errors among some results, in order. -/
def failures {α : Type} (results : List (Except QueryError α)) : List QueryError :=
  results.filterMap fun r ↦
    match r with
    | .error e => some e
    | .ok _ => none

/-- Lets a place pass if all results are good, and otherwise reports every failure. -/
def requireAll {α : Type} (p : Place) (results : List (Except QueryError α)) :
    Except QueryError Place :=
  match failures results with
  | [] => .ok p
  | errors => .error (.aggregate errors)

/-! ### Operations and queries -/

mutual

/-- Applies an operation at a place. -/
def Operation.apply : Operation → Place → Traced (Except QueryError Place)
  | .pass, p => ⟨.ok p, []⟩
  | .guard g, p => ⟨expectKind g.kinds p, []⟩
  | .anonymousCall, p => ⟨expectAnonymousCall p, []⟩
  | .hasOperator operators, p => ⟨expectOperator operators p, []⟩
  | .operands query, p =>
    match p.node with
    | .binary _ left right =>
      let l := Query.execute query (p.child 0 left) .empty
      let r := Query.execute query (p.child 1 right) .empty
      ⟨requireAll p [l.result, r.result], l.log ++ r.log⟩
    | .unary _ operand _ =>
      let r := Query.execute query (p.child 0 operand) .empty
      ⟨r.result.map fun _ ↦ p, r.log⟩
    | _ => ⟨.error (.structureMismatch p.kind), []⟩
  | .sides one other, p =>
    match p.node with
    | .binary _ left right =>
      let l := Query.execute one (p.child 0 left) .empty
      let r := Query.execute other (p.child 1 right) .empty
      match requireAll p [l.result, r.result] with
      | .ok p => ⟨.ok p, l.log ++ r.log⟩
      | .error first =>
        let r' := Query.execute one (p.child 1 right) .empty
        let l' := Query.execute other (p.child 0 left) .empty
        let log := l.log ++ r.log ++ r'.log ++ l'.log
        match requireAll p [r'.result, l'.result] with
        | .ok p => ⟨.ok p, log⟩
        | .error second => ⟨.error (.aggregate [first, second]), log ++ [.neitherOrder p.kind]⟩
    | _ => ⟨.error (.typeMismatch [.binary] p.kind), []⟩
  | .rightSide query, p =>
    match p.node with
    | .assign _ _ right =>
      let r := Query.execute query (p.child 1 right) .empty
      ⟨r.result.map fun _ ↦ p, r.log⟩
    | .binary _ _ right =>
      let r := Query.execute query (p.child 1 right) .empty
      ⟨r.result.map fun _ ↦ p, r.log⟩
    | .declarator _ (some initial) =>
      let r := Query.execute query (p.child 0 initial) .empty
      ⟨r.result.map fun _ ↦ p, r.log⟩
    | .declarator _ none => ⟨if query.isEmpty then .ok p else .error .missingNode, []⟩
    | _ => ⟨.error (.structureMismatch p.kind), []⟩
  | .either alternatives, p =>
    let t := Query.tryEach alternatives p
    match t.value with
    | .ok () => ⟨.ok p, t.log⟩
    | .error errors =>
      ⟨.error (.aggregate errors), t.log ++ [.noAlternative alternatives.length p.kind]⟩
  | .accept content budget, p => ⟨(content.check p.node budget).map fun _ ↦ p, []⟩
  | .findCall firstOnly, p => foundCall firstOnly p
  | .calleeIdentifier, p => ⟨calleeName p, []⟩
  | .containsThis, p => foundThis p
  | .nameMatches pattern, p => ⟨expectName pattern p, []⟩

/-- Runs a query from a place, offering the places it passes to a capture. The result is the place
that the last operation hands on. -/
def Query.execute : List Operation → Place → Capture → Run Place
  | [], p, c => ⟨.ok p, c, []⟩
  | op :: rest, p, c =>
    let t := Operation.apply op p
    let entry := LogEntry.applying op.name p.kind
    match t.value with
    | .error e => ⟨.error e, c, entry :: t.log⟩
    | .ok p' =>
      let r := Query.execute rest p' (c.offer p')
      ⟨r.result, r.capture, entry :: (t.log ++ r.log)⟩

/-- Runs queries in turn on the same place until one matches. If none does, the result is the error
of each. -/
def Query.tryEach : List (List Operation) → Place → Traced (Except (List QueryError) Unit)
  | [], _ => ⟨.error [], []⟩
  | query :: rest, p =>
    let r := Query.execute query p .empty
    match r.result with
    | .ok _ => ⟨.ok (), r.log⟩
    | .error e =>
      let t := Query.tryEach rest p
      ⟨t.value.mapError (e :: ·), r.log ++ t.log⟩

end

/-- Runs a query on a tree with a capture of its own. -/
def Query.run (query : Query) (e : Expr) : Run Place := Query.execute query (.root e) .empty

end ShapeQuery
