/-!
# Results in sequence

Several steps in sequence succeed if each of them does, and otherwise end with the error of the
first that does not. What a step has found is often of no interest, only how it ended
(`Except.outcome`).
-/

namespace Except

variable {ε α β : Type}

/-- A sequence of two steps succeeds if both do. -/
theorem bind_eq_ok_iff {x : Except ε α} {f : α → Except ε β} {b : β} :
    x >>= f = .ok b ↔ ∃ a, x = .ok a ∧ f a = .ok b := by
  cases x with
  | error err => exact ⟨fun h ↦ (nomatch h), fun ⟨_, h, _⟩ ↦ (nomatch h)⟩
  | ok a => exact ⟨fun h ↦ ⟨a, rfl, h⟩, fun ⟨_, h, hf⟩ ↦ Except.ok.inj h ▸ hf⟩

/-- A pass over a list succeeds if it does at every element. -/
theorem forM_eq_ok_iff {f : α → Except ε Unit} {as : List α} :
    forM as f = .ok () ↔ ∀ a ∈ as, f a = .ok () := by
  induction as with
  | nil => exact ⟨fun _ _ h ↦ absurd h List.not_mem_nil, fun _ ↦ rfl⟩
  | cons a as ih =>
    rw [List.forM_cons, bind_eq_ok_iff, List.forall_mem_cons, ih]
    exact ⟨fun ⟨_, h⟩ ↦ h, fun h ↦ ⟨(), h⟩⟩

/-- A pass over a list ends with an error if it does at some element and succeeds at all elements
before that one. -/
theorem forM_eq_error_iff {f : α → Except ε Unit} {as : List α} {err : ε} :
    forM as f = .error err ↔ ∃ before a after, as = before ++ a :: after ∧
      (∀ b ∈ before, f b = .ok ()) ∧ f a = .error err := by
  induction as with
  | nil =>
    refine ⟨fun h ↦ (nomatch h), ?_⟩
    rintro ⟨before, a, after, h, -⟩
    cases before <;> cases h
  | cons a as ih =>
    rw [List.forM_cons]
    constructor
    · intro h
      cases hfirst : f a with
      | error first =>
        rw [hfirst] at h
        exact ⟨[], a, as, rfl, List.forall_mem_nil _, hfirst.trans h⟩
      | ok u =>
        rw [hfirst] at h
        obtain ⟨before, b, after, rfl, hbefore, hb⟩ := ih.1 h
        exact ⟨a :: before, b, after, rfl, List.forall_mem_cons.2 ⟨hfirst, hbefore⟩, hb⟩
    · rintro ⟨before, b, after, hsplit, hbefore, hb⟩
      cases before with
      | nil =>
        obtain ⟨rfl, rfl⟩ := List.cons.inj hsplit
        rw [hb]
        rfl
      | cons c before =>
        obtain ⟨rfl, rfl⟩ := List.cons.inj hsplit
        obtain ⟨hfirst, hbefore⟩ := List.forall_mem_cons.1 hbefore
        rw [hfirst]
        exact ih.2 ⟨before, b, after, rfl, hbefore, hb⟩

/-- A pass over a list is the same if it is at every element. -/
theorem forM_congr {f g : α → Except ε Unit} {as : List α} (h : ∀ a ∈ as, f a = g a) :
    forM as f = forM as g := by
  induction as with
  | nil => rfl
  | cons a as ih =>
    obtain ⟨ha, has⟩ := List.forall_mem_cons.1 h
    rw [List.forM_cons, List.forM_cons, ha, ih has]

/-- A pass over a list is a pass over smaller steps if it is that at every element. -/
theorem forM_eq_forM_flatMap {f : α → Except ε Unit} {g : α → List β} {step : β → Except ε Unit}
    {as : List α} (h : ∀ a ∈ as, f a = forM (g a) step) :
    forM as f = forM (as.flatMap g) step := by
  induction as with
  | nil => rfl
  | cons a as ih =>
    obtain ⟨ha, has⟩ := List.forall_mem_cons.1 h
    rw [List.forM_cons, List.flatMap_cons, List.forM_append, ha, ih has]

/-! ### How a step ended -/

theorem ok_bind {a : α} {f : α → Except ε β} : (Except.ok a : Except ε α) >>= f = f a := rfl

/-- How a step ended, without what it found. -/
def outcome (x : Except ε α) : Except ε Unit := x >>= fun _ ↦ .ok ()

theorem outcome_eq_ok_iff {x : Except ε α} : x.outcome = .ok () ↔ ∃ a, x = .ok a := by
  cases x with
  | error err => exact ⟨fun h ↦ (nomatch h), fun ⟨_, h⟩ ↦ (nomatch h)⟩
  | ok a => exact ⟨fun _ ↦ ⟨a, rfl⟩, fun _ ↦ rfl⟩

theorem outcome_eq_error_iff {x : Except ε α} {err : ε} :
    x.outcome = .error err ↔ x = .error err := by
  cases x with
  | error e =>
    show Except.error e = .error err ↔ _
    rw [Except.error.injEq, Except.error.injEq]
  | ok a => exact ⟨fun h ↦ (nomatch h), fun h ↦ (nomatch h)⟩

/-- A pass over a list that keeps what it finds ends as the pass that does not. -/
theorem outcome_mapM {f : α → Except ε β} (as : List α) :
    (as.mapM f).outcome = forM as fun a ↦ (f a).outcome := by
  induction as with
  | nil => rfl
  | cons a as ih =>
    rw [List.mapM_cons, List.forM_cons, ← ih]
    simp [outcome, ok_bind]

theorem isOk_iff {x : Except ε α} : x.isOk = true ↔ ∃ a, x = .ok a := by
  cases x with
  | error err => exact ⟨fun h ↦ (nomatch h), fun ⟨_, h⟩ ↦ (nomatch h)⟩
  | ok a => exact ⟨fun _ ↦ ⟨a, rfl⟩, fun _ ↦ rfl⟩

/-- Two steps ended alike if both succeeded, or both failed with the same error. -/
theorem outcome_eq_outcome_iff {x : Except ε α} {y : Except ε β} :
    x.outcome = y.outcome ↔
      x.isOk = y.isOk ∧ ∀ err, x = .error err ↔ y = .error err := by
  constructor
  · intro h
    refine ⟨?_, fun err ↦ by rw [← outcome_eq_error_iff, h, outcome_eq_error_iff]⟩
    rw [Bool.eq_iff_iff, isOk_iff, isOk_iff, ← outcome_eq_ok_iff, h, outcome_eq_ok_iff]
  · rintro ⟨hok, herror⟩
    cases x with
    | error err => rw [(herror err).1 rfl]; rfl
    | ok a =>
      obtain ⟨b, rfl⟩ := isOk_iff.1 hok.symm
      rfl

theorem outcome_map {x : Except ε α} {f : α → β} : (x.map f).outcome = x.outcome := by
  cases x <;> rfl

theorem map_eq_error_iff {x : Except ε α} {f : α → β} {err : ε} :
    x.map f = .error err ↔ x = .error err := by
  rw [← outcome_eq_error_iff, outcome_map, outcome_eq_error_iff]

theorem mapError_eq_error_iff {δ : Type} {x : Except ε α} {f : ε → δ} {err : δ} :
    x.mapError f = .error err ↔ ∃ cause, x = .error cause ∧ f cause = err := by
  cases x with
  | error cause =>
    show Except.error (f cause) = .error err ↔ _
    rw [Except.error.injEq]
    exact ⟨fun h ↦ ⟨cause, rfl, h⟩, fun ⟨_, h, herr⟩ ↦ Except.error.inj h ▸ herr⟩
  | ok a => exact ⟨fun h ↦ (nomatch h), fun ⟨_, h, _⟩ ↦ (nomatch h)⟩

/-! ### What a step has found -/

theorem toOption_eq_some_iff {x : Except ε α} {a : α} : x.toOption = some a ↔ x = .ok a := by
  cases x with
  | error err => exact ⟨fun h ↦ (nomatch h), fun h ↦ (nomatch h)⟩
  | ok b =>
    show some b = some a ↔ _
    rw [Option.some.injEq, Except.ok.injEq]

theorem toOption_congr {x y : Except ε α} (h : ∀ a, x = .ok a ↔ y = .ok a) :
    x.toOption = y.toOption := by
  refine Option.ext fun a ↦ ?_
  rw [toOption_eq_some_iff, toOption_eq_some_iff, h]

theorem isSome_toOption {x : Except ε α} : x.toOption.isSome = x.isOk := by
  cases x <;> rfl

theorem toOption_map {x : Except ε α} {f : α → β} : (x.map f).toOption = x.toOption.map f := by
  cases x <;> rfl

end Except
