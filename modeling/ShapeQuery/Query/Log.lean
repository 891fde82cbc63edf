import ShapeQuery.Walk.Visitors

/-!
# The log of a run

A run keeps a log of what it does: every operation before it is applied, walks that a visitor ended,
and the failures of operations that try more than one thing.
-/

namespace ShapeQuery

universe u

/-- How much detail a log entry is. -/
inductive LogLevel where
  | trace
  | debug
deriving DecidableEq, Repr

/-- The name of a level. -/
def LogLevel.name : LogLevel → String
  | trace => "TRACE"
  | debug => "DEBUG"

/-- An entry of the log. -/
inductive LogEntry where
  /-- The operation of this name is about to be applied to a node of this kind. -/
  | applying (operation : String) (kind : ExprKind)
  /-- A walk was ended when it entered a node of this kind. -/
  | stoppedEntering (kind : ExprKind)
  /-- A walk was ended when it left a node of this kind. -/
  | stoppedLeaving (kind : ExprKind)
  /-- Two queries match the operands of a node of this kind in neither order. -/
  | neitherOrder (kind : ExprKind)
  /-- None of this many alternatives matches a node of this kind. -/
  | noAlternative (count : Nat) (kind : ExprKind)
  /-- A statement of this kind is not one that queries apply to. -/
  | rejecting (kind : StatementKind)
deriving DecidableEq, Repr

namespace LogEntry

/-- The level of an entry. -/
def level : LogEntry → LogLevel
  | applying .. => .trace
  | stoppedEntering .. => .trace
  | stoppedLeaving .. => .trace
  | neitherOrder .. => .debug
  | noAlternative .. => .debug
  | rejecting .. => .debug

/-- An entry in words. -/
def text : LogEntry → String
  | applying operation kind => "applying " ++ operation ++ " to " ++ kind.name
  | stoppedEntering kind => "walk stopped on entering " ++ kind.name
  | stoppedLeaving kind => "walk stopped on leaving " ++ kind.name
  | neitherOrder kind => "neither operand order matched " ++ kind.name
  | noAlternative count kind =>
    "none of " ++ String.ofList (Nat.toDigits 10 count) ++ " alternatives matched " ++ kind.name
  | rejecting kind => "rejecting " ++ kind.name

/-- An entry as a line: its level and its words. -/
def line (entry : LogEntry) : String := entry.level.name ++ " " ++ entry.text

/-- The lines in full. A number is written in decimal. -/
theorem line_eq (entry : LogEntry) :
    entry.line =
      match entry with
      | applying operation kind => "TRACE applying " ++ operation ++ " to " ++ kind.name
      | stoppedEntering kind => "TRACE walk stopped on entering " ++ kind.name
      | stoppedLeaving kind => "TRACE walk stopped on leaving " ++ kind.name
      | neitherOrder kind => "DEBUG neither operand order matched " ++ kind.name
      | noAlternative count kind =>
        "DEBUG none of " ++ toString count ++ " alternatives matched " ++ kind.name
      | rejecting kind => "DEBUG rejecting " ++ kind.name := by
  rw [line, level.eq_def, text.eq_def]
  cases entry with
  | noAlternative count kind =>
    simp [LogLevel.name, Nat.repr_eq_ofList_toDigits, ← String.append_assoc]
  | _ => simp [LogLevel.name, ← String.append_assoc]

/-- The entry for the event after which a walk was ended. -/
def ofStop : Event → LogEntry
  | .enter p => stoppedEntering p.kind
  | .leave p => stoppedLeaving p.kind

end LogEntry

/-- The log of a walk: one entry if the visitor ended it. -/
def Walk.log {σ : Type u} (w : Walk σ) : List LogEntry := w.stop.toList.map LogEntry.ofStop

/-- A value and the log of what led to it. -/
structure Traced (α : Type) where
  value : α
  log : List LogEntry

end ShapeQuery
