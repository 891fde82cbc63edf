import Mathlib.Data.List.Nodup
import Mathlib.Logic.Relation
import Mathlib.Tactic.Tauto
import ShapeQuery.Walk.Basic

/-!
# The tour of a tree

The *tour* of a tree is the list of events that a walk reports if nobody ends it: the tree is
entered, its children are toured one after the other, and the tree is left. It is defined here by
recursion on the tree, kind by kind, without the list of pending events on which a walk runs;
`Place.tour_eq` is the uniform reading, through `Place.children`.

A place is *walked* from another if children lead down to it (`Place.Walked`). The events of a tour
are about the walked places (`mem_tour_iff`), and no event occurs twice (`nodup_tour`): a trail says
which child was taken at each level, so the tours of two children have no place in common.
-/

namespace ShapeQuery

/-! ### Tours -/

/-- What a walk reports of a place: that it is entered, what is reported below it, and that it is
left. -/
def Place.around (p : Place) (below : List Event) : List Event := .enter p :: (below ++ [.leave p])

mutual

/-- The tour of an expression at the end of a trail. Below a function are its name and its
parameters, below an object its values, below a declarator its initial value. -/
def Expr.tour : Expr → List Nat → List Event
  | .binary op left right, t =>
    Place.around ⟨t, .binary op left right⟩ (left.tour (0 :: t) ++ right.tour (1 :: t))
  | .unary op operand postfixed, t =>
    Place.around ⟨t, .unary op operand postfixed⟩ (operand.tour (0 :: t))
  | .assign op left right, t =>
    Place.around ⟨t, .assign op left right⟩ (left.tour (0 :: t) ++ right.tour (1 :: t))
  | .declarator name (some initial), t =>
    Place.around ⟨t, .declarator name (some initial)⟩ (initial.tour (0 :: t))
  | .declarator name none, t => Place.around ⟨t, .declarator name none⟩ []
  | .identifier name, t => Place.around ⟨t, .identifier name⟩ []
  | .thisRef, t => Place.around ⟨t, .thisRef⟩ []
  | .number value, t => Place.around ⟨t, .number value⟩ []
  | .string value, t => Place.around ⟨t, .string value⟩ []
  | .boolean value, t => Place.around ⟨t, .boolean value⟩ []
  | .call callee args, t =>
    Place.around ⟨t, .call callee args⟩ (callee.tour (0 :: t) ++ Expr.toursFrom 1 args t)
  | .construct callee args, t =>
    Place.around ⟨t, .construct callee args⟩ (callee.tour (0 :: t) ++ Expr.toursFrom 1 args t)
  | .function (some name) params body, t =>
    Place.around ⟨t, .function (some name) params body⟩
      (name.tour (0 :: t) ++ Expr.toursFrom 1 params t)
  | .function none params body, t =>
    Place.around ⟨t, .function none params body⟩ (Expr.toursFrom 0 params t)
  | .dot left member, t =>
    Place.around ⟨t, .dot left member⟩ (left.tour (0 :: t) ++ member.tour (1 :: t))
  | .bracket left member, t =>
    Place.around ⟨t, .bracket left member⟩ (left.tour (0 :: t) ++ member.tour (1 :: t))
  | .conditional test consequent alternate, t =>
    Place.around ⟨t, .conditional test consequent alternate⟩
      (test.tour (0 :: t) ++ consequent.tour (1 :: t) ++ alternate.tour (2 :: t))
  | .sequence items, t => Place.around ⟨t, .sequence items⟩ (Expr.toursFrom 0 items t)
  | .array items, t => Place.around ⟨t, .array items⟩ (Expr.toursFrom 0 items t)
  | .object properties, t =>
    Place.around ⟨t, .object properties⟩ (Expr.valueToursFrom 0 properties t)

/-- The tours of consecutive children, the first of which has the given index. -/
def Expr.toursFrom : Nat → List Expr → List Nat → List Event
  | _, [], _ => []
  | i, e :: rest, t => e.tour (i :: t) ++ Expr.toursFrom (i + 1) rest t

/-- The tours of the values of consecutive properties. -/
def Expr.valueToursFrom : Nat → List (String × Expr) → List Nat → List Event
  | _, [], _ => []
  | i, (_, e) :: rest, t => e.tour (i :: t) ++ Expr.valueToursFrom (i + 1) rest t

end

/-- The tour of the tree at a place. -/
def Place.tour (p : Place) : List Event := p.node.tour p.trail

theorem Expr.toursFrom_eq (i : Nat) (es : List Expr) (t : List Nat) :
    Expr.toursFrom i es t =
      (es.mapIdx fun j e ↦ (⟨(i + j) :: t, e⟩ : Place)).flatMap Place.tour := by
  induction es generalizing i with
  | nil => rfl
  | cons e es ih =>
    rw [toursFrom, ih, List.mapIdx_cons, List.flatMap_cons]
    simp only [Place.tour, Nat.add_assoc, Nat.add_comm 1, Nat.add_zero]

theorem Expr.valueToursFrom_eq (i : Nat) (ps : List (String × Expr)) (t : List Nat) :
    Expr.valueToursFrom i ps t = Expr.toursFrom i (ps.map Prod.snd) t := by
  induction ps generalizing i with
  | nil => rfl
  | cons p ps ih => rw [valueToursFrom, ih, List.map_cons, toursFrom]

/-- The order of the tours below a node is the order of its children, whatever its kind. -/
theorem Expr.tour_eq_around (e : Expr) (t : List Nat) :
    e.tour t = Place.around ⟨t, e⟩ (Expr.toursFrom 0 e.children t) := by
  cases e with
  | declarator name initial => cases initial <;> simp [tour, children, toursFrom]
  | function name params body => cases name <;> simp [tour, children, toursFrom]
  | object properties => rw [tour, valueToursFrom_eq, children]
  | _ => simp [tour, children, toursFrom]

/-- A tour enters its place, tours the children in order, and leaves the place. -/
theorem Place.tour_eq (p : Place) :
    p.tour = .enter p :: (p.children.flatMap Place.tour ++ [.leave p]) := by
  have h := p.node.tour_eq_around p.trail
  rw [Expr.toursFrom_eq] at h
  simp only [Nat.zero_add] at h
  exact h

/-! ### Walked places -/

theorem Expr.sizeOf_le_totalSize_of_mem {es : List Expr} {e : Expr} (h : e ∈ es) :
    sizeOf e ≤ Expr.totalSize es := by
  obtain ⟨before, after, rfl⟩ := List.append_of_mem h
  rw [totalSize_append, totalSize_cons]
  omega

namespace Place

theorem child_mem_children {p : Place} {i : Nat} {e : Expr} (h : p.node.children[i]? = some e) :
    p.child i e ∈ p.children := by
  obtain ⟨hi, rfl⟩ := List.getElem?_eq_some_iff.1 h
  exact List.mem_mapIdx.2 ⟨i, hi, rfl⟩

/-- A child is smaller than the node that it is a child of. -/
theorem sizeOf_lt_of_mem_children {p c : Place} (h : c ∈ p.children) :
    sizeOf c.node < sizeOf p.node := by
  obtain ⟨i, hi, rfl⟩ := List.mem_mapIdx.1 h
  exact Nat.lt_of_le_of_lt (Expr.sizeOf_le_totalSize_of_mem (List.getElem_mem hi))
    p.node.totalSize_children_lt

/-- Induction from the children of a place to the place. -/
theorem children_induction {P : Place → Prop} (step : ∀ p, (∀ c ∈ p.children, P c) → P p)
    (p : Place) : P p :=
  step p fun c _ ↦ children_induction step c
termination_by sizeOf p.node
decreasing_by exact sizeOf_lt_of_mem_children ‹_›

/-- A place is walked from a root if it is the root or a child of a walked place. -/
def Walked (root : Place) : Place → Prop := Relation.ReflTransGen (fun p c ↦ c ∈ p.children) root

theorem Walked.refl (p : Place) : p.Walked p := Relation.ReflTransGen.refl

theorem Walked.child {root p c : Place} (h : root.Walked p) (hc : c ∈ p.children) :
    root.Walked c := Relation.ReflTransGen.tail h hc

/-- A walked place is the root itself or walked from one of the root's children. -/
theorem walked_iff {root p : Place} :
    root.Walked p ↔ p = root ∨ ∃ c ∈ root.children, c.Walked p :=
  Relation.ReflTransGen.cases_head_iff.trans (or_congr_left eq_comm)

/-- The way down to a walked place goes through the root. -/
theorem Walked.suffix {root p : Place} (h : root.Walked p) : root.trail <:+ p.trail := by
  induction h with
  | refl => exact List.suffix_rfl
  | tail _ hc ih =>
    obtain ⟨i, _, rfl⟩ := List.mem_mapIdx.1 hc
    exact ih.trans (List.suffix_cons i _)

/-- The places that a tour is about are the walked ones, each entered and left. -/
theorem mem_tour_iff {root : Place} (e : Event) : e ∈ root.tour ↔ root.Walked e.place := by
  induction root using children_induction with
  | step p ih =>
    rw [tour_eq, walked_iff, List.mem_cons, List.mem_append, List.mem_flatMap,
      List.mem_singleton]
    have hbelow : (∃ c ∈ p.children, e ∈ c.tour) ↔ ∃ c ∈ p.children, c.Walked e.place :=
      exists_congr fun c ↦ and_congr_right fun hc ↦ ih c hc
    rw [hbelow]
    cases e with
    | enter q => simp [Event.place, eq_comm]
    | leave q => simp [Event.place, eq_comm, or_comm]

/-! ### Every walked place once -/

/-- The tour of a walked place is a stretch of the whole tour. -/
theorem Walked.tour_infix {root p : Place} (h : root.Walked p) : p.tour <:+: root.tour := by
  induction h with
  | refl => exact List.infix_rfl
  | @tail q c _ hc ih =>
    obtain ⟨before, after, hsplit⟩ := List.append_of_mem hc
    refine List.IsInfix.trans ?_ ih
    rw [q.tour_eq, hsplit, List.flatMap_append, List.flatMap_cons]
    exact ⟨.enter q :: before.flatMap tour, after.flatMap tour ++ [.leave q], by simp⟩

/-- Two children of a place have no walked place in common: the trail of a walked place names the
child that it was reached through. -/
theorem eq_of_walked_children {p c d q : Place} (hc : c ∈ p.children) (hd : d ∈ p.children)
    (hcq : c.Walked q) (hdq : d.Walked q) : c = d := by
  obtain ⟨i, hi, rfl⟩ := List.mem_mapIdx.1 hc
  obtain ⟨j, hj, rfl⟩ := List.mem_mapIdx.1 hd
  have htrail : (i :: p.trail : List Nat) = j :: p.trail :=
    (List.suffix_of_suffix_length_le hcq.suffix hdq.suffix (Nat.le_refl _)).eq_of_length rfl
  obtain rfl : i = j := (List.cons.inj htrail).1
  rfl

theorem ne_of_walked_child {p c q : Place} (hc : c ∈ p.children) (h : c.Walked q) : q ≠ p := by
  rintro rfl
  obtain ⟨i, hi, rfl⟩ := List.mem_mapIdx.1 hc
  have hle := h.suffix.length_le
  simp only [child, List.length_cons] at hle
  omega

theorem nodup_children (p : Place) : p.children.Nodup := by
  refine List.pairwise_iff_getElem.2 fun i j hi hj hij heq ↦ ?_
  simp only [children, child, List.getElem_mapIdx, mk.injEq, List.cons.injEq] at heq
  omega

/-- No event occurs twice in a tour. -/
theorem nodup_tour (p : Place) : p.tour.Nodup := by
  induction p using children_induction with
  | step p ih =>
    have hbelow : ∀ e ∈ p.children.flatMap tour, e.place ≠ p := by
      intro e he
      obtain ⟨c, hc, hec⟩ := List.mem_flatMap.1 he
      exact ne_of_walked_child hc ((mem_tour_iff e).1 hec)
    have hnodup : (p.children.flatMap tour).Nodup := by
      rw [List.nodup_flatMap]
      refine ⟨ih, (nodup_children p).imp_of_mem fun {c d} hc hd hne e hec hed ↦ hne ?_⟩
      exact eq_of_walked_children hc hd ((mem_tour_iff e).1 hec) ((mem_tour_iff e).1 hed)
    rw [tour_eq, List.nodup_cons, List.mem_append, List.mem_singleton]
    refine ⟨?_, hnodup.append (List.nodup_singleton _) ?_⟩
    · rintro (h | h)
      · exact hbelow _ h rfl
      · cases h
    · intro e he hleave
      exact hbelow e he (List.mem_singleton.1 hleave ▸ rfl)

/-- A walked place is entered once and left once in the course of a tour, and in between its
children are entered and left. -/
theorem Walked.exists_split_tour {root p : Place} (h : root.Walked p) :
    ∃ before between after,
      root.tour = before ++ .enter p :: (between ++ .leave p :: after) ∧
      (∀ e ∈ before ++ between ++ after, e.place ≠ p) ∧
      ∀ c ∈ p.children, .enter c ∈ between ∧ .leave c ∈ between := by
  obtain ⟨before, after, hsplit⟩ := h.tour_infix
  have htour : root.tour =
      before ++ .enter p :: (p.children.flatMap tour ++ .leave p :: after) := by
    rw [← hsplit, p.tour_eq]
    simp
  refine ⟨before, p.children.flatMap tour, after, htour, ?_, ?_⟩
  · have hnodup := root.nodup_tour
    rw [htour] at hnodup
    have henter := (List.nodup_cons.1 (List.nodup_middle.1 hnodup)).1
    rw [← List.cons_append, ← List.append_assoc] at hnodup
    have hleave := (List.nodup_cons.1 (List.nodup_middle.1 hnodup)).1
    -- an event about `p` is one of the two shown, and neither of them occurs again
    rintro e he rfl
    cases e with
    | enter q => exact henter (by simp only [List.mem_append, List.mem_cons] at he ⊢; tauto)
    | leave q => exact hleave (by simp only [List.mem_append, List.mem_cons] at he ⊢; tauto)
  · intro c hc
    exact ⟨List.mem_flatMap.2 ⟨c, hc, (mem_tour_iff _).2 (.refl c)⟩,
      List.mem_flatMap.2 ⟨c, hc, (mem_tour_iff _).2 (.refl c)⟩⟩

end Place

end ShapeQuery
