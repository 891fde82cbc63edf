import ShapeQuery.Proofs.Walk.Tour
import ShapeQuery.Query.Log

/-!
# What a walk reports

A walk runs on a list of pending events; a tour is a recursion on the tree. This module shows that
the walk reports the tour, up to where the visitor ends it.

The invariant is on the pending events. Each stands for a stretch of the tour: the entering of a
place for the whole tour of the place, a leaving for itself (`Event.unfold`). The stretches of the
pending events, one after the other, are what is still to be reported (`Walk.agenda`), and a turn
takes the first event off that list (`Event.unfold_eq`). So a walk reports its agenda, as much of it
as the visitor listens to (`Walk.turns_run`), and the agenda of a walk that starts is the tour.

A visitor is any function of events on a state of any type. Nothing is assumed of when it wants to
end, not even that it goes on wanting to.
-/

namespace ShapeQuery

universe u

variable {σ : Type u}

/-! ### Turns that are taken -/

/-- `Turns v w events w'`: from `w` the walk reports the events, one a turn, and is then at `w'`. -/
inductive Walk.Turns (v : Visitor σ) : Walk σ → List Event → Walk σ → Prop
  | refl (w : Walk σ) : Turns v w [] w
  | turn {w w' : Walk σ} {e : Event} {pending rest : List Event} (going : w.stop = none)
      (next : w.pending = e :: pending) (later : Turns v (w.step v) rest w') :
      Turns v w (e :: rest) w'

/-- The visitor's state changes by what is reported to it and by nothing else. -/
theorem Walk.Turns.state_eq {v : Visitor σ} {w w' : Walk σ} {events : List Event}
    (h : Walk.Turns v w events w') : w'.state = events.foldl v.notify w.state := by
  induction h with
  | refl w => rfl
  | @turn w w' e pending rest going next _ ih =>
    have hstep : (w.step v).state = v.notify w.state e := by
      simp only [step, going, next]
      split <;> rfl
    rw [ih, hstep, List.foldl_cons]

/-! ### Listening -/

namespace Visitor

/-- The events that a visitor hears if it is told the given ones from the given state: those up to
and including the first after which it is done. -/
def heard (v : Visitor σ) : σ → List Event → List Event
  | _, [] => []
  | s, e :: rest =>
    if v.done (v.notify s e) then [e] else e :: v.heard (v.notify s e) rest

/-- The first event after which the visitor is done. -/
def stopIn (v : Visitor σ) : σ → List Event → Option Event
  | _, [] => none
  | s, e :: rest => if v.done (v.notify s e) then some e else v.stopIn (v.notify s e) rest

variable (v : Visitor σ)

theorem heard_prefix (s : σ) (events : List Event) : v.heard s events <+: events := by
  induction events generalizing s with
  | nil => exact List.prefix_rfl
  | cons e rest ih =>
    rw [heard]
    by_cases hdone : v.done (v.notify s e) = true
    · rw [if_pos hdone]
      exact ⟨rest, rfl⟩
    · rw [if_neg hdone]
      exact (List.prefix_cons_inj e).2 (ih _)

/-- Before the last event that it hears, the visitor is not done. -/
theorem done_take_heard (s : σ) (events : List Event) {n : Nat} (hpos : 0 < n)
    (hlt : n < (v.heard s events).length) :
    v.done (((v.heard s events).take n).foldl v.notify s) = false := by
  induction events generalizing s n with
  | nil => exact absurd hlt (Nat.not_lt_zero n)
  | cons e rest ih =>
    rw [heard] at hlt ⊢
    by_cases hdone : v.done (v.notify s e) = true
    · rw [if_pos hdone, List.length_singleton] at hlt
      omega
    · rw [if_neg hdone] at hlt ⊢
      obtain ⟨m, rfl⟩ : ∃ m, n = m + 1 := ⟨n - 1, by omega⟩
      rw [List.take_succ_cons, List.foldl_cons]
      rcases Nat.eq_zero_or_pos m with rfl | hm
      · exact Bool.eq_false_iff.2 hdone
      · exact ih _ hm (Nat.lt_of_succ_lt_succ hlt)

/-- A visitor that does not get done hears everything. -/
theorem heard_of_stopIn_eq_none {s : σ} {events : List Event} (h : v.stopIn s events = none) :
    v.heard s events = events ∧ (events ≠ [] → v.done (events.foldl v.notify s) = false) := by
  induction events generalizing s with
  | nil => exact ⟨rfl, fun hne ↦ absurd rfl hne⟩
  | cons e rest ih =>
    rw [stopIn] at h
    by_cases hdone : v.done (v.notify s e) = true
    · rw [if_pos hdone] at h
      cases h
    · rw [if_neg hdone] at h
      obtain ⟨hall, hlast⟩ := ih h
      rw [heard, if_neg hdone, hall]
      refine ⟨rfl, fun _ ↦ ?_⟩
      cases rest with
      | nil => exact Bool.eq_false_iff.2 hdone
      | cons a rest => exact hlast (List.cons_ne_nil a rest)

/-- A visitor that never wants to end hears everything. -/
theorem heard_of_never_done (h : ∀ s, v.done s = false) (s : σ) (events : List Event) :
    v.heard s events = events := by
  induction events generalizing s with
  | nil => rfl
  | cons e rest ih => rw [heard, h, if_neg Bool.false_ne_true, ih]

/-- A visitor that gets done hears the events up to the one after which it is. -/
theorem heard_of_stopIn_eq_some {s : σ} {events : List Event} {e : Event}
    (h : v.stopIn s events = some e) :
    (v.heard s events).getLast? = some e ∧
      v.done ((v.heard s events).foldl v.notify s) = true := by
  induction events generalizing s with
  | nil => cases h
  | cons a rest ih =>
    rw [stopIn] at h
    rw [heard]
    by_cases hdone : v.done (v.notify s a) = true
    · rw [if_pos hdone] at h ⊢
      exact ⟨h, hdone⟩
    · rw [if_neg hdone] at h ⊢
      obtain ⟨hlast, hend⟩ := ih h
      exact ⟨by rw [List.getLast?_cons, hlast]; rfl, hend⟩

theorem notify_recorder (limit : Option Nat) (s : Nat × List Event) (e : Event) :
    (recorder limit).notify s e = (s.1 + 1, e :: s.2) := by
  cases e <;> rfl

/-- The record grows at its front. -/
theorem foldl_recorder (limit : Option Nat) (s : Nat × List Event) (events : List Event) :
    (events.foldl (recorder limit).notify s).2 = events.reverse ++ s.2 := by
  induction events generalizing s with
  | nil => rfl
  | cons e rest ih =>
    rw [List.foldl_cons, ih, notify_recorder, List.reverse_cons, List.append_assoc]
    rfl

end Visitor

/-! ### What is still to be reported -/

/-- The stretch of a tour that an event stands for while it is pending. -/
def Event.unfold : Event → List Event
  | .enter p => p.tour
  | .leave p => [.leave p]

/-- An event stands for itself and for what follows from it. -/
theorem Event.unfold_eq (e : Event) : e.unfold = e :: e.next.flatMap Event.unfold := by
  cases e with
  | enter p =>
    show p.tour = _
    rw [p.tour_eq, next, List.flatMap_append, List.flatMap_map]
    rfl
  | leave p => rfl

namespace Walk

/-- The events that a walk goes on to report if the visitor does not end it. -/
def agenda (w : Walk σ) : List Event := w.pending.flatMap Event.unfold

theorem agenda_start (root : Place) (s : σ) : (start root s).agenda = root.tour :=
  List.append_nil _

/-- The first pending event is the first of the agenda, and what it is replaced by in a turn leaves
the rest of the agenda as it was. -/
theorem agenda_cons (e : Event) (pending : List Event) (stop : Option Event) (s s' : σ) :
    (⟨e :: pending, stop, s⟩ : Walk σ).agenda =
      e :: (⟨e.next ++ pending, none, s'⟩ : Walk σ).agenda := by
  rw [agenda, agenda, List.flatMap_cons, e.unfold_eq, List.flatMap_append, List.cons_append]

theorem run_stopped (v : Visitor σ) (pending : List Event) (e : Event) (s : σ) :
    run v ⟨pending, some e, s⟩ = ⟨pending, some e, s⟩ := by
  rw [run, if_pos (show isOver ⟨pending, some e, s⟩ = true from rfl)]

section Turn

variable {v : Visitor σ} {e : Event} {s : σ}

theorem step_of_done (pending : List Event) (h : v.done (v.notify s e) = true) :
    step v ⟨e :: pending, none, s⟩ = ⟨pending, some e, v.notify s e⟩ := if_pos h

theorem step_of_not_done (pending : List Event) (h : ¬ v.done (v.notify s e) = true) :
    step v ⟨e :: pending, none, s⟩ = ⟨e.next ++ pending, none, v.notify s e⟩ := if_neg h

end Turn

/-- A walk that has not been ended reports its agenda, as much of it as the visitor listens to, and
is then over. -/
theorem turns_run (v : Visitor σ) (w : Walk σ) (hw : w.stop = none) :
    Turns v w (v.heard w.state w.agenda) (w.run v) ∧
      (w.run v).stop = v.stopIn w.state w.agenda ∧ (w.run v).isOver = true := by
  fun_induction Walk.run v w with
  | case1 w hover =>
    obtain ⟨pending, stop, s⟩ := w
    obtain rfl : stop = none := hw
    obtain rfl : pending = [] := List.isEmpty_iff.1 hover
    exact ⟨.refl _, rfl, rfl⟩
  | case2 w hover ih =>
    obtain ⟨pending, stop, s⟩ := w
    obtain rfl : stop = none := hw
    cases pending with
    | nil => exact absurd rfl hover
    | cons e pending =>
      rw [agenda_cons e pending none s (v.notify s e), Visitor.heard, Visitor.stopIn]
      by_cases hdone : v.done (v.notify s e) = true
      · -- the visitor ends the walk here, so the next turn finds it over
        rw [if_pos hdone, if_pos hdone, step_of_done pending hdone, run_stopped]
        exact ⟨.turn rfl rfl (by rw [step_of_done pending hdone]; exact .refl _), rfl, rfl⟩
      · rw [step_of_not_done pending hdone] at ih ⊢
        obtain ⟨hturns, hstop, hover⟩ := ih rfl
        rw [if_neg hdone, if_neg hdone]
        exact ⟨.turn rfl rfl (by rw [step_of_not_done pending hdone]; exact hturns), hstop, hover⟩

end Walk

/-! ### Walks and tours -/

/-- A walk from the start reports the tour, as much of it as the visitor listens to. -/
theorem Visitor.turns_walk (v : Visitor σ) (root : Place) (s : σ) :
    Walk.Turns v (.start root s) (v.heard s root.tour) (v.walk root s) ∧
      (v.walk root s).stop = v.stopIn s root.tour ∧ (v.walk root s).isOver = true := by
  have h := Walk.turns_run v (.start root s) rfl
  rw [Walk.agenda_start] at h
  exact h

theorem Visitor.state_walk (v : Visitor σ) (root : Place) (s : σ) :
    (v.walk root s).state = (v.heard s root.tour).foldl v.notify s :=
  (v.turns_walk root s).1.state_eq

theorem Visitor.log_walk (v : Visitor σ) (root : Place) (s : σ) :
    (v.walk root s).log = (v.stopIn s root.tour).toList.map .ofStop := by
  rw [Walk.log, (v.turns_walk root s).2.1]

/-- A walk reports the tour of its root, up to and including the first event after which the visitor
is done, and all of it if there is none. The visitor's state is what those events make of it, and
the log has one line, which says of the last event whether a node was entered or left and of what
kind it is, exactly when the visitor ended the walk. A walked place occurs in the tour as entered
once and as left once, with its children in between. -/
theorem walk_reports_tour (v : Visitor σ) (root : Place) (s : σ) :
    (∃ reported : List Event,
      Walk.Turns v (.start root s) reported (v.walk root s) ∧ (v.walk root s).isOver = true ∧
      reported <+: root.tour ∧ (v.walk root s).state = reported.foldl v.notify s ∧
      (∀ n, 0 < n → n < reported.length →
        v.done ((reported.take n).foldl v.notify s) = false) ∧
      ((v.done (v.walk root s).state = false ∧ reported = root.tour ∧
          (v.walk root s).log = []) ∨
        (v.done (v.walk root s).state = true ∧
          ((∃ p, reported.getLast? = some (.enter p) ∧
              (v.walk root s).log = [.stoppedEntering p.kind] ∧
              (v.walk root s).log.map LogEntry.line =
                ["TRACE walk stopped on entering " ++ p.kind.name]) ∨
            ∃ p, reported.getLast? = some (.leave p) ∧
              (v.walk root s).log = [.stoppedLeaving p.kind] ∧
              (v.walk root s).log.map LogEntry.line =
                ["TRACE walk stopped on leaving " ++ p.kind.name])))) ∧
    ∀ p, root.Walked p → ∃ before between after,
      root.tour = before ++ .enter p :: (between ++ .leave p :: after) ∧
      (∀ e ∈ before ++ between ++ after, e.place ≠ p) ∧
      ∀ c ∈ p.children, .enter c ∈ between ∧ .leave c ∈ between := by
  refine ⟨⟨v.heard s root.tour, ?_⟩, fun p hp ↦ hp.exists_split_tour⟩
  obtain ⟨hturns, -, hover⟩ := v.turns_walk root s
  refine ⟨hturns, hover, v.heard_prefix s _, v.state_walk root s, fun n ↦ v.done_take_heard s _, ?_⟩
  rw [v.state_walk, v.log_walk]
  rcases hstop : v.stopIn s root.tour with - | e
  · obtain ⟨hall, hend⟩ := v.heard_of_stopIn_eq_none hstop
    have hne : root.tour ≠ [] := by
      rw [root.tour_eq]
      exact List.cons_ne_nil _ _
    rw [hall]
    exact Or.inl ⟨hend hne, rfl, rfl⟩
  · obtain ⟨hlast, hend⟩ := v.heard_of_stopIn_eq_some hstop
    refine Or.inr ⟨hend, ?_⟩
    cases e with
    | enter p =>
      have hline := LogEntry.line_eq (.stoppedEntering p.kind)
      exact Or.inl ⟨p, hlast, rfl, congrArg List.singleton hline⟩
    | leave p =>
      have hline := LogEntry.line_eq (.stoppedLeaving p.kind)
      exact Or.inr ⟨p, hlast, rfl, congrArg List.singleton hline⟩

/-- A walk over `!this` that is ended on entering the operand, which is walked. The log has the line
about it. -/
theorem walk_reports_tour_of_operand :
    let root : Place := .root (.unary .logicalNot .thisRef false)
    let operand : Place := root.child 0 .thisRef
    let w := (Visitor.recorder (some 2)).walk root (0, [])
    w.state = (2, [.enter operand, .enter root]) ∧
      w.log.map LogEntry.line = ["TRACE walk stopped on entering this"] ∧
      root.Walked operand ∧ ∃ before between after,
        root.tour = before ++ .enter operand :: (between ++ .leave operand :: after) ∧
        (∀ e ∈ before ++ between ++ after, e.place ≠ operand) ∧
        ∀ c ∈ operand.children, .enter c ∈ between ∧ .leave c ∈ between := by
  intro root operand w
  have hstate : w.state = (2, [.enter operand, .enter root]) :=
    ((Visitor.recorder (some 2)).state_walk root (0, [])).trans rfl
  have hwalked : root.Walked operand := (Place.Walked.refl root).child (List.mem_singleton.2 rfl)
  obtain ⟨⟨reported, -, -, -, hfold, -, hlog⟩, hsplit⟩ :=
    walk_reports_tour (Visitor.recorder (some 2)) root (0, [])
  have hreported : reported = [.enter root, .enter operand] := by
    have hrecord := Visitor.foldl_recorder (some 2) (0, []) reported
    rw [← hfold, hstate, List.append_nil] at hrecord
    exact List.reverse_eq_iff.1 hrecord.symm
  subst hreported
  refine ⟨hstate, ?_, hwalked, hsplit operand hwalked⟩
  rcases hlog with ⟨hdone, -, -⟩ | ⟨-, ⟨p, hlast, -, hline⟩ | ⟨p, hlast, -, -⟩⟩
  · rw [hstate] at hdone
    cases hdone
  · obtain rfl : operand = p := Event.enter.inj (Option.some.inj hlast)
    exact hline
  · cases hlast

end ShapeQuery
