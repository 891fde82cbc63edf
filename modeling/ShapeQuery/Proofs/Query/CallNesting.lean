import ShapeQuery.Proofs.Query.CallSearch
import ShapeQuery.Proofs.Query.Replacement

/-!
# Calls inside calls

Calls stand inside other calls, as what is called or among the arguments. A search for the first
call in post-order ends at an innermost one, with no call below it, and a search for the last at an
outermost one, with no call above it.

Both are about how the calls of a subtree lie among those of the tree. They are a stretch of them
(`Place.Walked.calls_infix`), at the end of which stands the top of the subtree if it is a call
(`Place.getLast?_calls`), and no call is listed twice (`Place.nodup_calls`). So if the first call of
the tree is in such a stretch then it is the first of it, and likewise the last. For the first call
and its own stretch this leaves no room for another call (`Place.calls_eq_singleton_of_head?`), and
for the last call it makes every call above it that call itself (`Place.eq_of_walked_last_call`).

A search from where a search has ended therefore ends there again, so that the operation is settled
(`Operation.settled_findCall`) and may be repeated. A search for the first call from where a search
for the last has ended may well go on, and the modes are not exchanged for each other anywhere.
-/

/-! ### Stretches of a list without repetitions -/

namespace List

universe u

variable {α : Type u} {l part : List α} {a : α}

/-- A stretch that has the first element in it starts with that element. -/
theorem Nodup.head?_eq_of_mem (hl : l.Nodup) (hpart : part <:+: l) (hhead : l.head? = some a)
    (ha : a ∈ part) : part.head? = some a := by
  obtain ⟨before, after, rfl⟩ := hpart
  cases before with
  | nil =>
    obtain ⟨b, rest, rfl⟩ := exists_cons_of_ne_nil (ne_nil_of_mem ha)
    exact hhead
  | cons b before =>
    -- the element would stand before the stretch and in it
    obtain rfl : b = a := Option.some.inj hhead
    have hlater : b ∈ before ++ part ++ after :=
      mem_append_left _ (mem_append_right _ ha)
    exact absurd hlater (nodup_cons.1 hl).1

/-- A stretch that has the last element in it ends with that element. -/
theorem Nodup.getLast?_eq_of_mem (hl : l.Nodup) (hpart : part <:+: l) (hlast : l.getLast? = some a)
    (ha : a ∈ part) : part.getLast? = some a := by
  have hreverse : part.reverse <:+: l.reverse := reverse_infix.2 hpart
  rw [← head?_reverse] at hlast ⊢
  exact (nodup_reverse.2 hl).head?_eq_of_mem hreverse hlast (mem_reverse.2 ha)

theorem Nodup.eq_singleton (hl : l.Nodup) (hhead : l.head? = some a) (hlast : l.getLast? = some a) :
    l = [a] := by
  obtain ⟨rest, rfl⟩ := head?_eq_some_iff.1 hhead
  rcases rest with - | ⟨b, rest⟩
  · rfl
  · rw [getLast?_cons_cons] at hlast
    exact absurd (mem_of_getLast? hlast) (nodup_cons.1 hl).1

end List

namespace ShapeQuery

/-! ### The calls of a subtree -/

namespace Place

variable {root p c : Place}

theorem mem_calls_iff : c ∈ p.calls ↔ p.Walked c ∧ c.node.isCall = true := by
  rw [calls, List.mem_filter, mem_postorder_iff]

/-- No call is listed twice, since none is left twice. -/
theorem nodup_calls (p : Place) : p.calls.Nodup := by
  rw [← p.filterMap_call?_tour]
  refine p.nodup_tour.filterMap fun e e' c he he' ↦ ?_
  rw [(Event.call?_eq_some_iff.1 he).1, (Event.call?_eq_some_iff.1 he').1]

/-- The calls of a subtree are a stretch of the calls of the tree. -/
theorem Walked.calls_infix (h : root.Walked p) : p.calls <:+: root.calls := by
  rw [← p.filterMap_call?_tour, ← root.filterMap_call?_tour]
  exact h.tour_infix.filterMap _

/-- A call comes after all calls below it. -/
theorem getLast?_calls (h : p.node.isCall = true) : p.calls.getLast? = some p := by
  have hself : [p].filter (fun q ↦ q.node.isCall) = [p] := List.filter_cons_of_pos h
  rw [calls, p.postorder_eq, List.filter_append, hself, List.getLast?_concat]

/-- There is no call but itself at or below the first call in post-order. -/
theorem calls_eq_singleton_of_head? (h : p.calls.head? = some c) : c.calls = [c] := by
  obtain ⟨hwalked, hcall⟩ := mem_calls_iff.1 (List.mem_of_mem_head? h)
  have hlast : c.calls.getLast? = some c := getLast?_calls hcall
  have hhead : c.calls.head? = some c :=
    p.nodup_calls.head?_eq_of_mem hwalked.calls_infix h (List.mem_of_getLast? hlast)
  exact c.nodup_calls.eq_singleton hhead hlast

/-- There is no call but itself at or above the last call in post-order. -/
theorem eq_of_walked_last_call {q : Place} (h : p.calls.getLast? = some c) (hq : p.Walked q)
    (hqc : q.Walked c) (hcall : q.node.isCall = true) : q = c := by
  obtain ⟨-, hc⟩ := mem_calls_iff.1 (List.mem_of_getLast? h)
  have hlast : q.calls.getLast? = some c :=
    p.nodup_calls.getLast?_eq_of_mem hq.calls_infix h (mem_calls_iff.2 ⟨hqc, hc⟩)
  exact Option.some.inj ((getLast?_calls hcall).symm.trans hlast)

end Place

/-! ### Searching again -/

/-- Looking for a call leads to a call. -/
theorem Operation.isCall_of_leads {firstOnly : Bool} {n m : Place}
    (h : (Operation.findCall firstOnly).Leads n m) : m.node.isCall = true := by
  have hmem : m ∈ n.calls := by
    cases firstOnly with
    | true => exact List.mem_of_mem_head? h
    | false => exact List.mem_of_getLast? h
  exact (Place.mem_calls_iff.1 hmem).2

/-- The last call at or below a call is that call. -/
theorem Operation.findLastCall_leads {m : Place} (h : m.node.isCall = true) :
    (Operation.findCall false).Leads m m := Place.getLast?_calls h

/-- Where the first call has been found, it is the only one. -/
theorem Operation.findCall_leads_of_first {n m : Place} (h : (Operation.findCall true).Leads n m)
    (firstOnly : Bool) : (Operation.findCall firstOnly).Leads m m := by
  have honly : m.calls = [m] := Place.calls_eq_singleton_of_head? h
  rw [Operation.Leads, honly]
  cases firstOnly <;> rfl

theorem Operation.settled_findCall (firstOnly : Bool) : (Operation.findCall firstOnly).Settled := by
  intro n m h
  cases firstOnly with
  | true => exact findCall_leads_of_first h true
  | false => exact findLastCall_leads (isCall_of_leads h)

/-- The first call that is found has no call below it, and is found again from where it is, whether
the first or the last is looked for. The last call that is found has no call above it, and is found
again as the last. So it makes no difference to the result of a run or to what it captures if a
search for a call is repeated, wherever in a query it stands. -/
theorem findCall_ends_innermost_or_outermost :
    (∀ p f, ((Operation.findCall true).apply p).value = .ok f →
      (∀ q, f.Walked q → q ≠ f → q.node.isCall = false) ∧
      ∀ firstOnly, ((Operation.findCall firstOnly).apply f).value = .ok f) ∧
    (∀ p l, ((Operation.findCall false).apply p).value = .ok l →
      (∀ q, p.Walked q → q.Walked l → q ≠ l → q.node.isCall = false) ∧
      ((Operation.findCall false).apply l).value = .ok l) ∧
    ∀ (context : Query.Context) (before after : Query) (firstOnly : Bool) (n : Place) (c : Capture),
      let once := context.fill (before ++ .findCall firstOnly :: after)
      let twice := context.fill (before ++ .findCall firstOnly :: .findCall firstOnly :: after)
      (Query.execute twice n c).result = (Query.execute once n c).result ∧
        (Query.execute twice n c).capture = (Query.execute once n c).capture := by
  simp only [Operation.understood _ _ _]
  refine ⟨fun p f hf ↦ ⟨fun q hq hne ↦ ?_, Operation.findCall_leads_of_first hf⟩,
    fun p l hl ↦ ⟨fun q hq hql hne ↦ ?_, Operation.settled_findCall false p l hl⟩,
    fun context before after firstOnly n c ↦ ?_⟩
  · have honly : f.calls = [f] := Place.calls_eq_singleton_of_head? hf
    refine Bool.eq_false_iff.2 fun hcall ↦ hne ?_
    have hmem : q ∈ f.calls := Place.mem_calls_iff.2 ⟨hq, hcall⟩
    rw [honly] at hmem
    exact List.mem_singleton.1 hmem
  · exact Bool.eq_false_iff.2 fun hcall ↦ hne (Place.eq_of_walked_last_call hl hq hql hcall)
  · have hrepeat := Query.execute_repeat (Operation.settled_findCall firstOnly) before after
    have hempty : (before ++ .findCall firstOnly :: .findCall firstOnly :: after).isEmpty =
        (before ++ .findCall firstOnly :: after).isEmpty := by cases before <;> rfl
    have hresult := fun n c ↦ (hrepeat n c).1
    have hequivalent := Query.equivalent_of_result_eq hresult (fun n c ↦ (hrepeat n c).2) hempty
    exact ⟨context.result_fill hresult hempty n c, (hequivalent.fill context).capture n c⟩

/-- In `f(g())() + 0` the first call is `g()`, and the last is the whole left operand, below which
there are two more. -/
theorem findCall_ends_innermost_or_outermost_left_operand :
    let g : Expr := .call (.identifier "g") []
    let f : Expr := .call (.identifier "f") [g]
    let p : Place := .root (.binary .plus (.call f []) (.number .zero))
    let last : Place := p.child 0 (.call f [])
    let first : Place := (last.child 0 f).child 1 g
    ((Operation.findCall true).apply p).value = .ok first ∧
      (∀ q, first.Walked q → q ≠ first → q.node.isCall = false) ∧
      ((Operation.findCall false).apply first).value = .ok first ∧
      ((Operation.findCall false).apply p).value = .ok last ∧
      (∀ q, p.Walked q → q.Walked last → q ≠ last → q.node.isCall = false) ∧
      ((Operation.findCall false).apply last).value = .ok last := by
  intro g f p last first
  have hfirst : ((Operation.findCall true).apply p).value = .ok first := by cbv
  have hlast : ((Operation.findCall false).apply p).value = .ok last := by cbv
  obtain ⟨hinner, houter, -⟩ := findCall_ends_innermost_or_outermost
  obtain ⟨hbelow, hagain⟩ := hinner p first hfirst
  exact ⟨hfirst, hbelow, hagain false, hlast, houter p last hlast⟩

end ShapeQuery
