import Mathlib.Data.List.Chain
import ShapeQuery.Proofs.Walk.Finders

/-!
# The open places of a walk

A place is *open* at some moment of a walk if it has been entered and not yet left
(`Event.openAfter`). This module says that the open places are a path down from the root, and that
they can be read off the pending events, at every moment and for every visitor.

The invariant is on the pending events as a whole. They fall into levels, the innermost first
(`Walk.Level`): the entering of those children of an open place that are still to come, and its
leaving. The place of a level is a child of the place of the next one, and the last level is the
root's (`Walk.Nested`). Reporting an event takes it off the first level; a place that is entered
puts a level of its own in front, and a place that is left has used its level up
(`Walk.Nested.report`).

A visitor that ends the walk on entering a place leaves it without the level of that place. What
would have been pending had the visitor gone on is `Walk.stack`, and the invariant is stated of
that: a turn changes it in the same way whether or not the visitor ends the walk
(`Walk.stack_step`). The tour is what has been reported followed by what the stack stands for
(`Walk.Turns.unfold_stack`), and since no event occurs twice in a tour, nothing that is pending has
been reported.
-/

namespace ShapeQuery

universe u

variable {σ : Type u} {p root : Place} {past : List Event}

/-! ### Open places -/

namespace Event

/-- The place that is entered in an event. -/
def entered? : Event → Option Place
  | enter p => some p
  | leave _ => none

open scoped Classical in
/-- The places that are entered and not left in the course of some events, in the order in which
they are entered. -/
noncomputable def openAfter (events : List Event) : List Place :=
  (events.filterMap entered?).filter fun p ↦ leave p ∉ events

/-- A place that is entered is open, after those that are open already. -/
theorem openAfter_concat_enter (h : .leave p ∉ past) :
    openAfter (past ++ [.enter p]) = openAfter past ++ [p] := by
  have hleft : ∀ q, leave q ∈ past ++ [.enter p] ↔ leave q ∈ past := by simp
  rw [openAfter, openAfter, List.filterMap_append, List.filter_append]
  congr 1
  · exact List.filter_congr fun q _ ↦ decide_eq_decide.2 (not_congr (hleft q))
  · exact List.filter_cons_of_pos (by simpa using h)

/-- If the last of the open places is left, the others stay open. -/
theorem openAfter_concat_leave {outer : List Place} (h : openAfter past = outer ++ [p])
    (hp : p ∉ outer) : openAfter (past ++ [.leave p]) = outer := by
  classical
  have hfilter : openAfter (past ++ [.leave p]) = (openAfter past).filter fun q ↦ q ≠ p := by
    rw [openAfter, openAfter, List.filter_filter, List.filterMap_append]
    simp [entered?, and_comm]
  have houter : ∀ q ∈ outer, q ≠ p := fun q hq hqp ↦ hp (hqp ▸ hq)
  rw [hfilter, h, List.filter_append, List.filter_eq_self.2 (by simpa using houter)]
  simp

theorem nodup_openAfter (h : past.Nodup) : (openAfter past).Nodup := by
  refine List.Nodup.filter _ (h.filterMap fun e e' p he he' ↦ ?_)
  cases e with
  | enter q =>
    cases e' with
    | enter q' => exact congrArg enter (Option.some.inj (he.trans he'.symm))
    | leave q' => cases he'
  | leave q => cases he

theorem mem_unfold_self (e : Event) : e ∈ e.unfold := by
  rw [e.unfold_eq]
  exact List.mem_cons_self

/-- While the entering or the leaving of a place is pending, so is its leaving. -/
theorem leave_mem_unfold (e : Event) : .leave e.place ∈ e.unfold := by
  cases e with
  | enter p => exact (Place.mem_tour_iff _).2 (.refl p)
  | leave p => exact List.mem_singleton.2 rfl

end Event

/-! ### What the reported events leave to be done -/

namespace Walk

variable {v : Visitor σ} {w w' : Walk σ} {e : Event} {events rest : List Event}

/-- What follows from the events reported so far: the pending events, and in front of them what
would have followed from the event at which the visitor ended the walk. -/
def stack (w : Walk σ) : List Event := w.stop.elim [] Event.next ++ w.pending

theorem stack_of_going (going : w.stop = none) : w.stack = w.pending := by
  rw [stack, going]
  rfl

/-- Reporting an event replaces it by what follows from it, even if the visitor then ends the
walk. -/
theorem stack_step (going : w.stop = none) (next : w.pending = e :: rest) :
    (w.step v).stack = e.next ++ rest := by
  obtain ⟨pending, stop, s⟩ := w
  obtain rfl : stop = none := going
  obtain rfl : pending = e :: rest := next
  by_cases hdone : v.done (v.notify s e) = true
  · rw [step_of_done rest hdone]
    rfl
  · rw [step_of_not_done rest hdone]
    rfl

/-- What a stack stands for is what is reported from there on, followed by what the stack after that
stands for. -/
theorem Turns.unfold_stack (h : Turns v w events w') :
    w.stack.flatMap Event.unfold = events ++ w'.stack.flatMap Event.unfold := by
  induction h with
  | refl w => rfl
  | @turn w w' e pending rest going next _ ih =>
    rw [stack_step going next, List.flatMap_append] at ih
    rw [stack_of_going going, next, List.flatMap_cons, e.unfold_eq, List.cons_append, ih,
      List.cons_append]

/-- The tour is what has been reported, followed by what the stack stands for. -/
theorem Turns.tour_eq {s : σ} (h : Turns v (start root s) events w) :
    root.tour = events ++ w.stack.flatMap Event.unfold := by
  rw [← h.unfold_stack]
  exact (List.append_nil _).symm

/-! ### Levels -/

/-- An open place with those of its children that are still to be entered. -/
structure Level where
  place : Place
  later : List Place

/-- What is pending on account of an open place. -/
def Level.pending (l : Level) : List Event := l.later.map .enter ++ [.leave l.place]

theorem Level.filterMap_left?_pending (l : Level) :
    l.pending.filterMap Event.left? = [l.place] := by
  have hlater : (l.later.map Event.enter).filterMap Event.left? = [] :=
    List.filterMap_map.trans (List.filterMap_eq_nil_iff.2 fun _ _ ↦ rfl)
  rw [pending, List.filterMap_append, hlater]
  rfl

/-- Every level has one place to be left. -/
theorem filterMap_left?_levels (levels : List Level) :
    (levels.flatMap Level.pending).filterMap Event.left? = levels.map Level.place := by
  rw [List.filterMap_flatMap]
  simp only [Level.filterMap_left?_pending, ← List.map_eq_flatMap]

/-- The levels of a walk after some events: their places are the open ones, the last first, each a
child of the next and the last of them the root. The children that do not belong to a level any more
have been entered. -/
structure Nested (root : Place) (past : List Event) (levels : List Level) : Prop where
  opened : Event.openAfter past = (levels.map Level.place).reverse
  path : (levels.map Level.place).IsChain fun c p ↦ c ∈ p.children
  bottom : ∀ q ∈ (levels.map Level.place).getLast?, q = root
  visited : ∀ l ∈ levels, ∃ before, l.place.children = before ++ l.later ∧
    ∀ c ∈ before, .enter c ∈ past

/-- At first only the root is open. -/
theorem nested_start (root : Place) : Nested root [.enter root] [⟨root, root.children⟩] where
  opened := Event.openAfter_concat_enter List.not_mem_nil
  path := List.isChain_singleton _
  bottom _ hq := (Option.some.inj hq).symm
  visited := List.forall_mem_singleton.2 ⟨[], rfl, List.forall_mem_nil _⟩

theorem Nested.visited_concat {levels : List Level} (h : Nested root past levels) (e : Event) :
    ∀ l ∈ levels, ∃ before, l.place.children = before ++ l.later ∧
      ∀ c ∈ before, .enter c ∈ past ++ [e] := by
  intro l hl
  obtain ⟨before, hchildren, hbefore⟩ := h.visited l hl
  exact ⟨before, hchildren, fun c hc ↦ List.mem_append_left _ (hbefore c hc)⟩

/-- A place is left when nothing of its level is to come before that; the level is then used up. -/
theorem Nested.leave {outer : List Level} (h : Nested root past (⟨p, []⟩ :: outer))
    (hpast : past.Nodup) : Nested root (past ++ [.leave p]) outer where
  opened := by
    have hopened : Event.openAfter past = (outer.map Level.place).reverse ++ [p] := by
      rw [h.opened, List.map_cons, List.reverse_cons]
    have hnodup := Event.nodup_openAfter hpast
    rw [hopened] at hnodup
    exact Event.openAfter_concat_leave hopened fun hp ↦
      List.disjoint_of_nodup_append hnodup hp List.mem_cons_self
  path := h.path.tail
  bottom q hq := h.bottom q (by rw [List.map_cons, List.getLast?_cons, hq]; rfl)
  visited l hl := h.visited_concat _ l (List.mem_cons_of_mem _ hl)

/-- A place that is entered is a child of the place of the first level, and gets a level in front of
it. -/
theorem Nested.enter {c : Place} {later : List Place} {outer : List Level}
    (h : Nested root past (⟨p, c :: later⟩ :: outer)) (hc : .leave c ∉ past) :
    Nested root (past ++ [.enter c]) (⟨c, c.children⟩ :: ⟨p, later⟩ :: outer) := by
  obtain ⟨before, hchildren, hbefore⟩ := h.visited _ List.mem_cons_self
  refine ⟨?_, List.isChain_cons_cons.2 ⟨?_, h.path⟩, ?_, ?_⟩
  · rw [Event.openAfter_concat_enter hc, h.opened]
    simp only [List.map_cons, List.reverse_cons]
  · exact hchildren ▸ List.mem_append_right _ List.mem_cons_self
  · exact fun q hq ↦ h.bottom q (List.getLast?_cons_cons.symm.trans hq)
  · refine List.forall_mem_cons.2 ⟨⟨[], rfl, List.forall_mem_nil _⟩, ?_⟩
    refine List.forall_mem_cons.2 ⟨⟨before ++ [c], ?_, ?_⟩, ?_⟩
    · exact hchildren.trans (List.append_cons before c later)
    · intro d hd
      rcases List.mem_append.1 hd with hd | hd
      · exact List.mem_append_left _ (hbefore d hd)
      · exact List.mem_append_right _ (List.mem_singleton.1 hd ▸ List.mem_cons_self)
    · exact fun l hl ↦ h.visited_concat _ l (List.mem_cons_of_mem _ hl)

/-- Reporting the next event keeps the levels in order. -/
theorem Nested.report {levels : List Level} (h : Nested root past levels)
    (hlevels : levels.flatMap Level.pending = e :: rest) (hpast : past.Nodup)
    (hnew : .leave e.place ∉ past) :
    ∃ levels', Nested root (past ++ [e]) levels' ∧
      e.next ++ rest = levels'.flatMap Level.pending := by
  rcases levels with - | ⟨⟨p, - | ⟨c, later⟩⟩, outer⟩
  · cases hlevels
  · obtain ⟨rfl, rfl⟩ : .leave p = e ∧ outer.flatMap Level.pending = rest := List.cons.inj hlevels
    exact ⟨outer, h.leave hpast, rfl⟩
  · obtain ⟨rfl, rfl⟩ : .enter c = e ∧
        (⟨p, later⟩ :: outer : List Level).flatMap Level.pending = rest := List.cons.inj hlevels
    exact ⟨_, h.enter hnew, rfl⟩

/-! ### Every moment -/

/-- A stretch of a walk keeps the levels in order. -/
theorem Turns.exists_nested {levels : List Level} (h : Turns v w events w')
    (hnested : Nested root past levels) (hstack : w.stack = levels.flatMap Level.pending)
    (htour : root.tour = past ++ w.stack.flatMap Event.unfold) :
    ∃ levels', Nested root (past ++ events) levels' ∧
      w'.stack = levels'.flatMap Level.pending := by
  induction h generalizing past levels with
  | refl w => exact ⟨levels, (List.append_nil past).symm ▸ hnested, hstack⟩
  | @turn w w' e pending rest going next _ ih =>
    rw [stack_of_going going, next] at hstack htour
    have hnodup : (past ++ (e :: pending).flatMap Event.unfold).Nodup := htour ▸ root.nodup_tour
    have hnew : .leave e.place ∉ past := fun hpast ↦
      List.disjoint_of_nodup_append hnodup hpast
        (List.mem_append_left _ e.leave_mem_unfold)
    obtain ⟨levels', hnested', hlevels'⟩ :=
      hnested.report hstack.symm (List.nodup_append.1 hnodup).1 hnew
    have hstep := stack_step (v := v) going next
    obtain ⟨levels'', hnested'', hlevels''⟩ := ih hnested' (hstep.trans hlevels') <| by
      rw [htour, hstep, List.flatMap_cons, e.unfold_eq, List.flatMap_append, List.append_assoc]
      rfl
    rw [List.append_assoc] at hnested''
    exact ⟨levels'', hnested'', hlevels''⟩

/-- From the first report on, the stack of a walk falls into levels. -/
theorem Turns.exists_levels {s : σ} (h : Turns v (start root s) events w) (hne : events ≠ []) :
    ∃ levels, Nested root events levels ∧ w.stack = levels.flatMap Level.pending := by
  cases h with
  | refl => exact absurd rfl hne
  | @turn _ _ e pending rest going next later =>
    obtain ⟨rfl, rfl⟩ : .enter root = e ∧ [] = pending := List.cons.inj next
    have hstep := stack_step (v := v) going next
    refine later.exists_nested (nested_start root) (hstep.trans ?_) ?_
    · rfl
    · rw [hstep, List.append_nil, List.singleton_append, ← Event.unfold_eq]
      rfl

/-! ### Reading the levels off the pending events -/

/-- What would have followed from the event at which the visitor ended the walk holds the leaving of
the place that was entered in it, if any. -/
theorem filterMap_left?_next (stop : Option Event) :
    (stop.elim [] Event.next).filterMap Event.left? = (stop.bind Event.entered?).toList := by
  rcases stop with - | (p | p)
  · rfl
  · exact Level.filterMap_left?_pending ⟨p, p.children⟩
  · rfl

/-- The open places are those whose leaving is pending, and the one at which the visitor ended the
walk when it was entered. -/
theorem Turns.openAfter_eq {s : σ} (h : Turns v (start root s) events w) :
    Event.openAfter events =
      (w.pending.filterMap Event.left?).reverse ++ (w.stop.bind Event.entered?).toList := by
  rcases eq_or_ne events [] with rfl | hne
  · cases h
    rfl
  · obtain ⟨levels, hnested, hlevels⟩ := h.exists_levels hne
    have hplaces : (w.stop.bind Event.entered?).toList ++ w.pending.filterMap Event.left? =
        levels.map Level.place := by
      rw [← filterMap_left?_levels, ← hlevels, stack, List.filterMap_append, filterMap_left?_next]
    have hsingle : ∀ o : Option Place, o.toList.reverse = o.toList := fun o ↦ by cases o <;> rfl
    rw [hnested.opened, ← hplaces, List.reverse_append, hsingle]

/-- Nothing is open before the first report and after the last of the tour, and at no other time. -/
theorem Turns.openAfter_eq_nil_iff {s : σ} (h : Turns v (start root s) events w) :
    Event.openAfter events = [] ↔ events = [] ∨ events = root.tour := by
  rcases eq_or_ne events [] with rfl | hne
  · exact iff_of_true rfl (Or.inl rfl)
  · obtain ⟨levels, hnested, hlevels⟩ := h.exists_levels hne
    have hstack : w.stack = [] ↔ events = root.tour := by
      rw [h.tour_eq, List.self_eq_append_right, List.flatMap_eq_nil_iff]
      refine ⟨fun hnil ↦ by rw [hnil]; exact List.forall_mem_nil _, fun hnil ↦ ?_⟩
      refine List.eq_nil_iff_forall_not_mem.2 fun e he ↦ ?_
      exact List.ne_nil_of_mem e.mem_unfold_self (hnil e he)
    rw [or_iff_right hne, ← hstack, hlevels, hnested.opened, List.reverse_eq_nil_iff,
      List.map_eq_nil_iff, List.flatMap_eq_nil_iff]
    refine ⟨fun hnil ↦ by rw [hnil]; exact List.forall_mem_nil _, fun hnil ↦ ?_⟩
    refine List.eq_nil_iff_forall_not_mem.2 fun l hl ↦ ?_
    exact List.append_ne_nil_of_right_ne_nil _ (List.cons_ne_nil _ _) (hnil l hl)

/-- The events above a level end with a leaving, if there are any. -/
def Cut (above : List Event) : Prop := ∀ e ∈ above.getLast?, ∃ q, e = .leave q

theorem Cut.nil : Cut [] := fun _ he ↦ (nomatch he)

theorem cut_next (stop : Option Event) : Cut (stop.elim [] Event.next) := by
  rcases stop with - | (p | p)
  · exact .nil
  · intro e he
    rw [Option.elim_some, Event.next, List.getLast?_concat] at he
    exact ⟨p, (Option.some.inj he).symm⟩
  · exact .nil

theorem Cut.append {above above' : List Event} (h : Cut above) (h' : Cut above') :
    Cut (above ++ above') := by
  intro e he
  rw [List.getLast?_append, Option.mem_def, Option.or_eq_some_iff] at he
  exact he.elim (h' e) fun he ↦ h e he.2

theorem Cut.of_append {above above' : List Event} (h : Cut (above ++ above')) : Cut above' := by
  intro e he
  exact h e (by rw [List.getLast?_append, he]; rfl)

/-- A list in which only enterings occur ends with no leaving. -/
theorem Cut.eq_nil {above : List Event} {places : List Place} (h : Cut above)
    (hinit : above <+: places.map .enter) : above = [] := by
  refine List.getLast?_eq_none_iff.1 (Option.eq_none_iff_forall_not_mem.2 fun e he ↦ ?_)
  obtain ⟨q, rfl⟩ := h e he
  obtain ⟨_, _, hq⟩ := List.mem_map.1 (hinit.subset (List.mem_of_mem_getLast? he))
  cases hq

theorem map_enter_append_leave_inj {places places' : List Place} {q : Place}
    {below below' : List Event}
    (h : places.map Event.enter ++ .leave p :: below = places'.map .enter ++ .leave q :: below') :
    places = places' ∧ p = q := by
  induction places generalizing places' with
  | nil =>
    cases places' with
    | nil => exact ⟨rfl, Event.leave.inj (List.cons.inj h).1⟩
    | cons c places' => cases h
  | cons c places ih =>
    cases places' with
    | nil => cases h
    | cons d places' =>
      obtain ⟨hcd, hrest⟩ := List.cons.inj h
      obtain ⟨rfl, rfl⟩ := ih hrest
      exact ⟨congrArg (· :: places) (Event.enter.inj hcd), rfl⟩

/-- The leaving of a place, with the enterings right above it, makes up a level. -/
theorem mem_levels {levels : List Level} {above below : List Event} {later : List Place}
    (habove : Cut above)
    (h : levels.flatMap Level.pending = above ++ (later.map .enter ++ .leave p :: below)) :
    ⟨p, later⟩ ∈ levels := by
  induction levels generalizing above with
  | nil => exact absurd h.symm (by simp)
  | cons l levels ih =>
    rw [List.flatMap_cons] at h
    rcases List.append_eq_append_iff.1 h with ⟨above', rfl, hrest⟩ | ⟨rest, hlevel, hrest⟩
    · exact List.mem_cons_of_mem _ (ih habove.of_append hrest)
    · rcases List.eq_nil_or_concat' rest with rfl | ⟨rest, e, rfl⟩
      · exact List.mem_cons_of_mem _ (ih .nil hrest.symm)
      · -- the level reaches below what is above, and so there is nothing above
        rw [Level.pending, ← List.append_assoc] at hlevel
        obtain ⟨hlater, he⟩ := List.append_inj' hlevel rfl
        obtain rfl : .leave l.place = e := (List.cons.inj he).1
        obtain rfl : above = [] := habove.eq_nil ⟨rest, hlater.symm⟩
        obtain rfl : l.later.map .enter = rest := hlater
        rw [List.append_assoc] at hrest
        obtain ⟨rfl, rfl⟩ := map_enter_append_leave_inj hrest
        exact List.mem_cons_self

/-- The enterings right above the leaving of an open place are those of its later children, in
order, none of which has been entered; the children before them have been. -/
theorem Turns.exists_visited {s : σ} (h : Turns v (start root s) events w)
    {above below : List Event} {later : List Place} (habove : Cut above)
    (hpending : w.pending = above ++ (later.map .enter ++ .leave p :: below)) :
    ∃ visited, p.children = visited ++ later ∧ (∀ c ∈ visited, .enter c ∈ events) ∧
      ∀ c ∈ later, .enter c ∉ events := by
  have hne : events ≠ [] := by
    rintro rfl
    cases h
    rw [← List.append_assoc] at hpending
    have hleave : .leave p ∈ (start root s).pending := by rw [hpending]; simp
    exact nomatch List.mem_singleton.1 hleave
  obtain ⟨levels, hnested, hlevels⟩ := h.exists_levels hne
  have hlevel : levels.flatMap Level.pending =
      (w.stop.elim [] Event.next ++ above) ++ (later.map .enter ++ .leave p :: below) := by
    rw [← hlevels, stack, hpending, List.append_assoc]
  obtain ⟨visited, hchildren, hvisited⟩ :=
    hnested.visited _ (mem_levels ((cut_next w.stop).append habove) hlevel)
  refine ⟨visited, hchildren, hvisited, fun c hc hentered ↦ ?_⟩
  have hnodup := root.nodup_tour
  rw [h.tour_eq] at hnodup
  have hstack : .enter c ∈ w.stack := by
    rw [stack, hpending]
    exact List.mem_append_right _ (List.mem_append_right _
      (List.mem_append_left _ (List.mem_map_of_mem hc)))
  exact List.disjoint_of_nodup_append hnodup hentered
    (List.mem_flatMap.2 ⟨_, hstack, Event.mem_unfold_self _⟩)

/-- The open places, from the root down. -/
theorem Turns.isChain_openAfter {s : σ} (h : Turns v (start root s) events w) :
    (Event.openAfter events).IsChain (fun p c ↦ c ∈ p.children) ∧
      ∀ p ∈ (Event.openAfter events).head?, p = root := by
  rcases eq_or_ne events [] with rfl | hne
  · exact ⟨.nil, fun p hp ↦ (nomatch hp)⟩
  · obtain ⟨levels, hnested, -⟩ := h.exists_levels hne
    rw [hnested.opened, List.isChain_reverse, List.head?_reverse]
    exact ⟨hnested.path, hnested.bottom⟩

end Walk

/-- At every moment of a walk the places that have been entered and not left, in the order in which
they were entered, lead down from the root from child to child; there are none only before the first
report and after the whole tour. They are the places whose leaving is pending, and the one at which
the visitor ended the walk when it was entered. A place that is left is the last of them. The
enterings that are pending between two leavings are those of the children of the place of the second
that have not been visited, in order. If a walk ends without being ended, no place is open. -/
theorem open_places_lead_down (v : Visitor σ) (root : Place) (s : σ) (events : List Event)
    (w : Walk σ) (h : Walk.Turns v (.start root s) events w) :
    ((Event.openAfter events).IsChain (fun p c ↦ c ∈ p.children) ∧
      (∀ p ∈ (Event.openAfter events).head?, p = root) ∧
      (Event.openAfter events = [] ↔ events = [] ∨ events = root.tour)) ∧
    Event.openAfter events =
      (w.pending.filterMap Event.left?).reverse ++ (w.stop.bind Event.entered?).toList ∧
    (∀ p, w.stop = none → w.pending.head? = some (.leave p) →
      (Event.openAfter events).getLast? = some p) ∧
    (∀ above later p below, w.pending = above ++ (later.map .enter ++ .leave p :: below) →
      (∀ e ∈ above.getLast?, ∃ q, e = .leave q) →
      ∃ visited, p.children = visited ++ later ∧ (∀ c ∈ visited, .enter c ∈ events) ∧
        ∀ c ∈ later, .enter c ∉ events) ∧
    (w = v.walk root s → w.stop = none → Event.openAfter events = []) := by
  obtain ⟨hchain, hroot⟩ := h.isChain_openAfter
  refine ⟨⟨hchain, hroot, h.openAfter_eq_nil_iff⟩, h.openAfter_eq, ?_, ?_, ?_⟩
  · intro p going hnext
    rw [h.openAfter_eq, going, Option.bind_none, Option.toList_none, List.append_nil,
      List.getLast?_reverse]
    obtain ⟨rest, hpending⟩ := List.head?_eq_some_iff.1 hnext
    rw [hpending]
    rfl
  · exact fun above later p below hpending habove ↦ h.exists_visited habove hpending
  · rintro rfl going
    have hover := (v.turns_walk root s).2.2
    rw [Walk.isOver, going, Option.isSome_none, Bool.false_or, List.isEmpty_iff] at hover
    rw [h.openAfter_eq, hover, going]
    rfl

/-- A walk over `!this` that is ended on entering the second place: both places are open, and only
the leaving of the first is pending. -/
theorem open_places_lead_down_operand :
    let root : Place := .root (.unary .logicalNot .thisRef false)
    let operand : Place := root.child 0 .thisRef
    let v := Visitor.recorder (some 2)
    let w : Walk (Nat × List Event) :=
      ⟨[.leave root], some (.enter operand), (2, [.enter operand, .enter root])⟩
    Walk.Turns v (.start root (0, [])) [.enter root, .enter operand] w ∧
      Event.openAfter [.enter root, .enter operand] = [root, operand] ∧
      operand ∈ root.children := by
  intro root operand v w
  have h : Walk.Turns v (.start root (0, [])) [.enter root, .enter operand] w :=
    .turn rfl rfl (.turn rfl rfl (.refl _))
  obtain ⟨⟨hchain, -, -⟩, hopen, -, -, -⟩ := open_places_lead_down v root (0, []) _ w h
  rw [hopen] at hchain
  exact ⟨h, hopen, (List.isChain_cons_cons.1 hchain).1⟩

end ShapeQuery
