import ShapeQuery.Proofs.Results
import ShapeQuery.Query.ContentCheck

/-!
# What a content check finds

A content check runs on a list of nodes still to be checked, each with its own budget. This module
gives its meaning by recursion (`Content.verdict`) and shows that the two agree, in verdict and in
error (`Content.check_eq_verdict`).

The invariant is on the whole list. Whatever is on it, the check of the list is the check of each
entry in turn, by the recursion and with the budget stored beside it, up to the first that fails
(`Content.checkAll_eq_forM`). A right operand waits on the list while everything below the left one
is checked; its budget waits with it.

The library counts budgets in natural numbers. With budgets in machine words, which wrap around
below zero, the loop takes the same turns, ends with the same result and wraps none of its budgets
(`Content.Ends`), because it takes one from a budget only after it has seen that the budget is not
zero.

What passes a check can also be said without budgets running down: the trees that are built from
operations, declarators and literals of the one kind (`Content.Pure`) and are no higher than the
budget (`Content.verdict_eq_ok_iff`).
-/

namespace ShapeQuery

namespace Content

/-! ### The check by recursion -/

/-- What a check of a subtree within a budget finds. A budget of zero is exceeded; a literal of
another type is refused; the left operand is checked before the right one, with the same budget. -/
def verdict (content : Content) : Nat → Expr → Except QueryError Unit
  | 0, _ => .error .depthExceeded
  | budget + 1, e =>
    if content.admits e then
      match e with
      | .binary _ left right => do
        content.verdict budget left
        content.verdict budget right
      | .unary _ operand _ => content.verdict budget operand
      | .declarator _ (some initial) => content.verdict budget initial
      | .declarator _ none => .error (.structureMismatch .declarator)
      | .number _ => .ok ()
      | .string _ => .ok ()
      | .boolean _ => .ok ()
      | e => .error (.structureMismatch e.kind)
    else .error (.contentMismatch content e.kind)

/-- One level of the recursion is one descent of the loop. -/
theorem verdict_succ (content : Content) (budget : Nat) (e : Expr) :
    content.verdict (budget + 1) e =
      content.descend e >>= fun below ↦ forM below (content.verdict budget) := by
  have hone : ∀ e, forM [e] (content.verdict budget) = content.verdict budget e := by simp
  by_cases h : content.admits e = true
  · cases e with
    | binary op left right =>
      simp only [verdict, descend, if_pos h]
      show _ = (content.verdict budget left >>= fun _ ↦ forM [right] (content.verdict budget))
      rw [hone]
    | unary op operand postfixed =>
      simp only [verdict, descend, if_pos h]
      exact (hone operand).symm
    | declarator name initial =>
      cases initial with
      | none =>
        simp only [verdict, descend, if_pos h]
        rfl
      | some initial =>
        simp only [verdict, descend, if_pos h]
        exact (hone initial).symm
    | _ =>
      simp only [verdict, descend, if_pos h]
      rfl
  · simp only [verdict, descend, if_neg h]
    rfl

/-- With some budget left, a check goes on to the nodes below before those that wait. -/
theorem checkAll_cons_succ (content : Content) (e : Expr) (budget : Nat)
    (rest : List (Expr × Nat)) :
    content.checkAll ((e, budget + 1) :: rest) =
      content.descend e >>= fun below ↦
        content.checkAll (below.map (fun c ↦ (c, budget)) ++ rest) := by
  rw [checkAll]
  split <;> rename_i h <;> rw [h] <;> rfl

/-- Checking a list of entries is checking each in turn, up to the first that fails. -/
theorem checkAll_eq_forM (content : Content) (todo : List (Expr × Nat)) :
    content.checkAll todo = forM todo fun x ↦ content.verdict x.2 x.1 := by
  fun_induction checkAll content todo with
  | case1 => rfl
  | case2 e rest => rfl
  | case3 e budget rest err h =>
    rw [List.forM_cons, verdict_succ, h]
    rfl
  | case4 e budget rest below h ih =>
    rw [ih, List.forM_append, List.forM_map, List.forM_cons, verdict_succ, h]
    rfl

/-- The loop finds what the recursion finds. -/
theorem check_eq_verdict (content : Content) (e : Expr) (budget : Nat) :
    content.check e budget = content.verdict budget e := by
  rw [check, checkAll_eq_forM, List.forM_cons, List.forM_nil]
  exact bind_pure _

/-! ### Budgets in machine words -/

/-- One turn of the loop, with budgets in machine words: its result, or what is left to be checked.
Taking one from a word wraps around at zero. -/
def turn (content : Content) : List (Expr × USize) → Except QueryError Unit ⊕ List (Expr × USize)
  | [] => .inl (.ok ())
  | (e, budget) :: rest =>
    if budget = 0 then .inl (.error .depthExceeded)
    else
      match content.descend e with
      | .error err => .inl (.error err)
      | .ok below => .inr (below.map (fun c ↦ (c, budget - 1)) ++ rest)

/-- The loop, with budgets in machine words, ends with a result after some number of turns, and on
the way no budget wraps: a turn that takes one from a budget leaves one less. -/
inductive Ends (content : Content) : List (Expr × USize) → Except QueryError Unit → Prop
  | now {todo : List (Expr × USize)} {result : Except QueryError Unit}
      (last : content.turn todo = .inl result) : Ends content todo result
  | later {e : Expr} {budget : USize} {todo todo' : List (Expr × USize)}
      {result : Except QueryError Unit} (next : content.turn ((e, budget) :: todo) = .inr todo')
      (counts : (budget - 1).toNat + 1 = budget.toNat) (rest : Ends content todo' result) :
      Ends content ((e, budget) :: todo) result

/-- The entries of a list with their budgets as natural numbers. -/
def inNat (todo : List (Expr × USize)) : List (Expr × Nat) := todo.map fun x ↦ (x.1, x.2.toNat)

theorem toNat_sub_one_add_one {budget : USize} (h : budget ≠ 0) :
    (budget - 1).toNat + 1 = budget.toNat := by
  have hpos : 0 < budget.toNat := Nat.pos_of_ne_zero fun h0 ↦ h (USize.toNat_inj.1 h0)
  have hle : 1 ≤ budget := by
    rw [USize.le_iff_toNat_le, USize.toNat_one]
    exact hpos
  rw [USize.toNat_sub_of_le _ _ hle, USize.toNat_one]
  omega

/-- With words the loop takes the turns that it takes with natural numbers: no budget wraps. -/
theorem ends_checkAll (content : Content) (todo : List (Expr × USize)) :
    content.Ends todo (content.checkAll (inNat todo)) := by
  -- as for the loop itself, what is left to be checked gets smaller with every turn
  induction hn : Expr.totalSize (todo.map Prod.fst) using Nat.strongRecOn generalizing todo with
  | ind n ih =>
    subst hn
    rcases todo with - | ⟨⟨e, budget⟩, rest⟩
    · rw [inNat, List.map_nil, checkAll]
      exact .now rfl
    · by_cases hzero : budget = 0
      · have hlist : inNat ((e, budget) :: rest) = (e, 0) :: inNat rest := by
          rw [hzero]
          rfl
        rw [hlist, checkAll]
        exact .now (if_pos hzero)
      · have hlist : inNat ((e, budget) :: rest) = (e, (budget - 1).toNat + 1) :: inNat rest := by
          rw [toNat_sub_one_add_one hzero]
          rfl
        rw [hlist, checkAll_cons_succ]
        rcases hdescend : content.descend e with err | below
        · exact .now (by simp only [turn, if_neg hzero, hdescend]; rfl)
        · have hnext : inNat (below.map (fun c ↦ (c, budget - 1)) ++ rest) =
              below.map (fun c ↦ (c, (budget - 1).toNat)) ++ inNat rest := by
            simp [inNat]
          show content.Ends _ (content.checkAll (_ ++ inNat rest))
          rw [← hnext]
          refine .later (by simp only [turn, if_neg hzero, hdescend])
            (toNat_sub_one_add_one hzero) (ih _ ?_ _ rfl)
          have hsize := totalSize_lt_of_descend hdescend
          simp [Function.comp_def]
          omega

/-- The check of a subtree finds what the recursion finds, verdict and error, whatever the budget.
With a budget that is a machine word the loop ends with the same result, and no word wraps. -/
theorem check_eq_verdict_and_ends (content : Content) (e : Expr) :
    (∀ budget : Nat, content.check e budget = content.verdict budget e) ∧
    ∀ budget : USize, content.Ends [(e, budget)] (content.verdict budget.toNat e) := by
  refine ⟨content.check_eq_verdict e, fun budget ↦ ?_⟩
  rw [← check_eq_verdict]
  exact content.ends_checkAll [(e, budget)]

/-! ### Trees that pass -/

/-- The kind of the literals of a content. -/
def literalKind : Content → ExprKind
  | numbers => .number
  | booleans => .boolean

/-- A tree that is built from binary and unary operations, declarators with an initial value, and
literals of the content's own kind. -/
inductive Pure (content : Content) : Expr → Prop
  | literal {e : Expr} (h : e.kind = content.literalKind) : Pure content e
  | binary {op : Operator} {left right : Expr} (hl : Pure content left) (hr : Pure content right) :
      Pure content (.binary op left right)
  | unary {op : Operator} {operand : Expr} {postfixed : Bool} (h : Pure content operand) :
      Pure content (.unary op operand postfixed)
  | declarator {name : String} {initial : Expr} (h : Pure content initial) :
      Pure content (.declarator name (some initial))

end Content

/-- How many levels of operations and declarators a tree has, counting what lies below them as one
level. -/
def Expr.height : Expr → Nat
  | .binary _ left right => max left.height right.height + 1
  | .unary _ operand _ => operand.height + 1
  | .declarator _ (some initial) => initial.height + 1
  | _ => 1

theorem Expr.height_pos (e : Expr) : 0 < e.height := by
  unfold height
  split <;> exact Nat.succ_pos _

namespace Content

variable {content : Content}

/-- The nodes that a check gets past, and what it goes on to from them. -/
theorem descend_eq_ok_iff {e : Expr} {below : List Expr} :
    content.descend e = .ok below ↔
      (e.kind = content.literalKind ∧ below = []) ∨
      (∃ op left right, e = .binary op left right ∧ below = [left, right]) ∨
      (∃ op operand postfixed, e = .unary op operand postfixed ∧ below = [operand]) ∨
      ∃ name initial, e = .declarator name (some initial) ∧ below = [initial] := by
  constructor
  · intro h
    cases e with
    | binary op left right =>
      exact .inr (.inl ⟨op, left, right, rfl, by cases content <;> exact (Except.ok.inj h).symm⟩)
    | unary op operand postfixed =>
      refine .inr (.inr (.inl ⟨op, operand, postfixed, rfl, ?_⟩))
      cases content <;> exact (Except.ok.inj h).symm
    | declarator name initial =>
      cases initial with
      | none => cases content <;> cases h
      | some initial =>
        refine .inr (.inr (.inr ⟨name, initial, rfl, ?_⟩))
        cases content <;> exact (Except.ok.inj h).symm
    | _ =>
      -- what is left is literals, of which one kind passes, and kinds without a descent
      cases content <;> cases h <;> exact .inl ⟨rfl, rfl⟩
  · rintro (⟨hkind, rfl⟩ | ⟨op, left, right, rfl, rfl⟩ | ⟨op, operand, postfixed, rfl, rfl⟩ |
      ⟨name, initial, rfl, rfl⟩)
    · cases content <;> cases e <;> cases hkind <;> rfl
    · cases content <;> rfl
    · cases content <;> rfl
    · cases content <;> rfl

/-- A node is pure and of some height if what a check goes on to from it is, one level lower. -/
theorem pure_and_height_le_iff (e : Expr) (budget : Nat) :
    content.Pure e ∧ e.height ≤ budget + 1 ↔
      ∃ below, content.descend e = .ok below ∧
        ∀ c ∈ below, content.Pure c ∧ c.height ≤ budget := by
  constructor
  · rintro ⟨hpure, hheight⟩
    cases hpure with
    | literal hkind => exact ⟨[], descend_eq_ok_iff.2 (.inl ⟨hkind, rfl⟩), List.forall_mem_nil _⟩
    | @binary op left right hl hr =>
      refine ⟨_, descend_eq_ok_iff.2 (.inr (.inl ⟨op, left, right, rfl, rfl⟩)), ?_⟩
      rw [Expr.height] at hheight
      exact List.forall_mem_cons.2 ⟨⟨hl, by omega⟩, List.forall_mem_singleton.2 ⟨hr, by omega⟩⟩
    | @unary op operand postfixed h =>
      refine ⟨_, descend_eq_ok_iff.2 (.inr (.inr (.inl ⟨op, operand, postfixed, rfl, rfl⟩))), ?_⟩
      exact List.forall_mem_singleton.2 ⟨h, Nat.le_of_succ_le_succ hheight⟩
    | @declarator name initial h =>
      refine ⟨_, descend_eq_ok_iff.2 (.inr (.inr (.inr ⟨name, initial, rfl, rfl⟩))), ?_⟩
      exact List.forall_mem_singleton.2 ⟨h, Nat.le_of_succ_le_succ hheight⟩
  · rintro ⟨below, hdescend, hbelow⟩
    rcases descend_eq_ok_iff.1 hdescend with ⟨hkind, rfl⟩ | ⟨op, left, right, rfl, rfl⟩ |
      ⟨op, operand, postfixed, rfl, rfl⟩ | ⟨name, initial, rfl, rfl⟩
    · refine ⟨.literal hkind, ?_⟩
      cases content <;> cases e <;> cases hkind <;> exact Nat.succ_le_succ (Nat.zero_le budget)
    · obtain ⟨⟨hl, hleft⟩, hright⟩ := List.forall_mem_cons.1 hbelow
      obtain ⟨hr, hright⟩ := List.forall_mem_singleton.1 hright
      exact ⟨.binary hl hr, Nat.succ_le_succ (Nat.max_le.2 ⟨hleft, hright⟩)⟩
    · obtain ⟨hpure, hheight⟩ := List.forall_mem_singleton.1 hbelow
      exact ⟨.unary hpure, Nat.succ_le_succ hheight⟩
    · obtain ⟨hpure, hheight⟩ := List.forall_mem_singleton.1 hbelow
      exact ⟨.declarator hpure, Nat.succ_le_succ hheight⟩

/-- A check succeeds on the trees that are pure and no higher than the budget. -/
theorem verdict_eq_ok_iff (budget : Nat) (e : Expr) :
    content.verdict budget e = .ok () ↔ content.Pure e ∧ e.height ≤ budget := by
  induction budget generalizing e with
  | zero =>
    refine ⟨fun h ↦ ?_, fun ⟨_, hheight⟩ ↦ absurd e.height_pos (Nat.not_lt.2 hheight)⟩
    rw [verdict] at h
    cases h
  | succ budget ih =>
    rw [verdict_succ, pure_and_height_le_iff, Except.bind_eq_ok_iff]
    exact exists_congr fun below ↦ and_congr_right fun _ ↦ by
      rw [Except.forM_eq_ok_iff]
      exact forall₂_congr fun c _ ↦ ih c

end Content

end ShapeQuery
