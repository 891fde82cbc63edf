import ShapeQuery.Tree.Place
import ShapeQuery.Tree.Size

/-!
# Walking a tree

A walk goes through a tree in depth-first order and reports to a visitor: every node is entered
before its children are walked and left after them. After each report the visitor may end the walk.

The events still to be reported are kept in a list, so a walk does not recurse however deep the
tree. Reporting that a node is entered puts in front of that list the entering of its children and
its own leaving. The list is the whole state of the walk apart from the visitor's, and `Walk.step`
is one turn of it; `Walk.run` takes turns until the walk is over.
-/

namespace ShapeQuery

universe u

/-- What a walk reports. -/
inductive Event where
  /-- A node is reached, before any of its children. -/
  | enter (p : Place)
  /-- All children of a node have been walked. -/
  | leave (p : Place)

namespace Event

/-- The place that an event is about. -/
def place : Event → Place
  | enter p => p
  | leave p => p

/-- The events that follow from an event, before any that were pending. -/
def next : Event → List Event
  | enter p => p.children.map enter ++ [leave p]
  | leave _ => []

/-- A bound on the number of events that follow from an event, itself included. -/
noncomputable def weight : Event → Nat
  | enter p => 2 * sizeOf p.node
  | leave _ => 1

end Event

/-- What receives the reports of a walk, with a state of type `σ`. -/
structure Visitor (σ : Type u) where
  /-- The state after a node is entered. -/
  enter : σ → Place → σ
  /-- The state after a node is left. -/
  leave : σ → Place → σ
  /-- Whether the walk is to end; asked after every report. -/
  done : σ → Bool

/-- The visitor's state after an event. -/
def Visitor.notify {σ : Type u} (v : Visitor σ) (s : σ) : Event → σ
  | .enter p => v.enter s p
  | .leave p => v.leave s p

/-- A walk at some moment between two reports. -/
structure Walk (σ : Type u) where
  /-- The events still to be reported, in order. -/
  pending : List Event
  /-- The event after which the visitor ended the walk, if it did. -/
  stop : Option Event
  /-- The visitor's state. -/
  state : σ

/-! ### What follows weighs less -/

namespace Event

/-- The weights of some events, added up. -/
noncomputable def totalWeight : List Event → Nat
  | [] => 0
  | e :: rest => e.weight + totalWeight rest

@[simp] theorem totalWeight_nil : totalWeight [] = 0 := rfl

@[simp] theorem totalWeight_cons (e : Event) (rest : List Event) :
    totalWeight (e :: rest) = e.weight + totalWeight rest := rfl

@[simp] theorem totalWeight_append (es fs : List Event) :
    totalWeight (es ++ fs) = totalWeight es + totalWeight fs := by
  induction es with
  | nil => simp
  | cons e es ih => simp [ih, Nat.add_assoc]

theorem totalWeight_map_enter_mapIdx (es : List Expr) (f : Nat → Expr → Place)
    (hf : ∀ i e, (f i e).node = e) :
    totalWeight ((es.mapIdx f).map enter) = 2 * Expr.totalSize es := by
  induction es generalizing f with
  | nil => simp
  | cons e es ih =>
    have := ih (fun i ↦ f (i + 1)) fun i ↦ hf (i + 1)
    simp only [List.mapIdx_cons, List.map_cons, totalWeight_cons, this, weight, hf,
      Expr.totalSize_cons]
    omega

/-- What follows from an event weighs less than the event. -/
theorem totalWeight_next_lt (e : Event) : totalWeight e.next < e.weight := by
  cases e with
  | enter p =>
    have h := p.node.totalSize_children_lt
    have hw : totalWeight (p.children.map enter) = 2 * Expr.totalSize p.node.children :=
      totalWeight_map_enter_mapIdx _ _ fun _ _ ↦ rfl
    simp only [next, totalWeight_append, hw, totalWeight_cons, totalWeight_nil, weight]
    omega
  | leave p => simp [next, weight]

end Event

namespace Walk

variable {σ : Type u}

/-! ### Turns -/

/-- A walk that is about to start. -/
def start (root : Place) (s : σ) : Walk σ := ⟨[.enter root], none, s⟩

/-- One turn: reports the next event. A walk that is over stays as it is. -/
def step (v : Visitor σ) (w : Walk σ) : Walk σ :=
  match w.stop, w.pending with
  | none, e :: pending =>
    let s := v.notify w.state e
    if v.done s then ⟨pending, some e, s⟩ else ⟨e.next ++ pending, none, s⟩
  | _, _ => w

/-- Whether the walk has ended, by itself or by the visitor's wish. -/
def isOver (w : Walk σ) : Bool := w.stop.isSome || w.pending.isEmpty

/-- A bound on the turns that a walk can still take. -/
noncomputable def remaining (w : Walk σ) : Nat :=
  if w.stop.isSome then 0 else Event.totalWeight w.pending

/-- A turn uses up some of the walk. -/
theorem remaining_step_lt (v : Visitor σ) (w : Walk σ) (h : w.isOver = false) :
    (w.step v).remaining < w.remaining := by
  obtain ⟨pending, stop, s⟩ := w
  cases stop with
  | some e => simp [isOver] at h
  | none =>
    cases pending with
    | nil => simp [isOver] at h
    | cons e pending =>
      have := e.totalWeight_next_lt
      simp only [step]
      split
      · simp [remaining]; omega
      · simp [remaining]; omega

/-- Takes turns until the walk is over. -/
def run (v : Visitor σ) (w : Walk σ) : Walk σ :=
  if w.isOver then w else run v (w.step v)
termination_by w.remaining
decreasing_by exact remaining_step_lt v w (by simpa using ‹¬w.isOver = true›)

end Walk

/-- Walks the tree at a place from the given state to the end. -/
def Visitor.walk {σ : Type u} (v : Visitor σ) (root : Place) (s : σ) : Walk σ :=
  (Walk.start root s).run v

end ShapeQuery
