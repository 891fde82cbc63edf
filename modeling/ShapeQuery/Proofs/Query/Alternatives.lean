import Mathlib.Data.List.OfFn
import Mathlib.Logic.Relation
import ShapeQuery.Proofs.Query.Diagnosis
import ShapeQuery.Proofs.Query.Replacement

/-!
# Alternatives as a disjunction

A choice between alternatives tries them in order, up to the first that matches. For what comes of
it, the order does not matter, nor how often an alternative is listed, nor whether some of them are
put together in a choice of their own: a choice asks that some alternative leads somewhere, and
hands on the place that it is given whichever that is. `Query.Regrouped` has these changes, any
number of which may be made, in either direction (`Query.Regroups`); a choice and its regrouping
lead to the same places (`Query.Regroups.leads_either_iff`). They can therefore stand for each other
at any position and at any depth of a query (`Query.equivalent_replace`, `Query.Equivalent.fill`).

The errors do show the order. A choice that fails has tried all alternatives, and it reports the
error of each, in the order in which they are listed (`Operation.value_either_ofFn_eq_error_iff`).
-/

namespace ShapeQuery

/-! ### Regrouping -/

/-- One change to a list of alternatives that does not change what they ask for together. -/
inductive Query.Regrouped : List Query → List Query → Prop
  /-- The same alternatives in any order, each any number of times. -/
  | reordered {alternatives alternatives' : List Query}
      (h : ∀ query, query ∈ alternatives ↔ query ∈ alternatives') :
      Regrouped alternatives alternatives'
  /-- An alternative that is nothing but a choice is replaced by the alternatives of that choice. -/
  | flattened (before inner after : List Query) :
      Regrouped (before ++ [.either inner] :: after) (before ++ inner ++ after)

/-- Any number of changes to a list of alternatives, in either direction. -/
def Query.Regroups : List Query → List Query → Prop := Relation.EqvGen Query.Regrouped

namespace Query

variable {alternatives alternatives' : List Query}

theorem someLeads_append (first second : List Query) (n : Place) :
    SomeLeads (first ++ second) n ↔ SomeLeads first n ∨ SomeLeads second n := by
  simp only [someLeads_iff, List.mem_append, or_and_right, exists_or]

/-- An alternative that is nothing but a choice leads somewhere if one of the inner alternatives
does. -/
theorem exists_leads_either_iff (inner : List Query) (n : Place) :
    (∃ m, Query.Leads [.either inner] n m) ↔ SomeLeads inner n := by
  simp only [Leads, Operation.Leads]
  exact ⟨fun ⟨_, _, ⟨_, hinner⟩, _⟩ ↦ hinner, fun hinner ↦ ⟨n, n, ⟨rfl, hinner⟩, rfl⟩⟩

theorem Regrouped.someLeads_iff (h : Regrouped alternatives alternatives') (n : Place) :
    SomeLeads alternatives n ↔ SomeLeads alternatives' n := by
  cases h with
  | reordered h => simp only [Query.someLeads_iff, h]
  | flattened before inner after =>
    rw [someLeads_append, someLeads_append, someLeads_append, SomeLeads, exists_leads_either_iff,
      or_assoc]

theorem Regroups.someLeads_iff (h : Regroups alternatives alternatives') (n : Place) :
    SomeLeads alternatives n ↔ SomeLeads alternatives' n := by
  induction h with
  | rel _ _ hchange => exact hchange.someLeads_iff n
  | refl _ => exact Iff.rfl
  | symm _ _ _ ih => exact ih.symm
  | trans _ _ _ _ _ first second => exact first.trans second

/-- A choice leads to the same places after its alternatives have been regrouped. -/
theorem Regroups.leads_either_iff (h : Regroups alternatives alternatives') (n m : Place) :
    (Operation.either alternatives).Leads n m ↔ (Operation.either alternatives').Leads n m := by
  rw [Operation.Leads, Operation.Leads, h.someLeads_iff]

end Query

/-! ### What a choice fails with -/

namespace Operation

variable {n : Place} {k : Nat} {alternatives : Fin k → Query}

theorem value_either_eq_error_iff {alternatives : List Query} {err : QueryError} :
    ((Operation.either alternatives).apply n).value = .error err ↔
      ∃ errors, (alternatives.map fun query ↦ (Query.execute query n .empty).result) =
        errors.map .error ∧ .aggregate errors = err := by
  rw [value_either, Except.map_eq_error_iff, Except.mapError_eq_error_iff]
  simp only [tryEach_eq_error_iff]

/-- A choice fails with certain errors if each alternative fails with the error at its index. -/
theorem value_either_ofFn_eq_error_iff {errors : Fin k → QueryError} :
    ((Operation.either (List.ofFn alternatives)).apply n).value =
        .error (.aggregate (List.ofFn errors)) ↔
      ∀ i, (Query.execute (alternatives i) n .empty).result = .error (errors i) := by
  rw [value_either_eq_error_iff]
  simp only [QueryError.aggregate.injEq, exists_eq_right, List.map_ofFn, List.ofFn_inj]
  exact funext_iff

/-- A choice that fails does so with as many errors as it has alternatives. -/
theorem exists_errors_of_either {err : QueryError}
    (h : ((Operation.either (List.ofFn alternatives)).apply n).value = .error err) :
    ∃ errors : Fin k → QueryError, err = .aggregate (List.ofFn errors) := by
  obtain ⟨errors, hresults, rfl⟩ := value_either_eq_error_iff.1 h
  obtain rfl : k = errors.length := by
    have hlength := congrArg List.length hresults
    rwa [List.length_map, List.length_map, List.length_ofFn] at hlength
  exact ⟨errors.get, by rw [List.ofFn_get]⟩

end Operation

/-- The alternatives of a choice may be put in another order, repeated, no longer repeated, taken
out of a choice inside the choice and put into one. The query around it, at whatever depth and with
whatever operations after the choice, then matches the same, ends at the same place and captures the
same. A choice that fails does so with one error for each alternative, the error of its own run, and
a permutation of the alternatives permutes the errors in the same way. -/
theorem either_regroups :
    (∀ alternatives alternatives', Query.Regroups alternatives alternatives' →
      ∀ (context : Query.Context) (before after : Query) (n : Place) (c : Capture),
        let q := context.fill (before ++ .either alternatives :: after)
        let q' := context.fill (before ++ .either alternatives' :: after)
        (Query.execute q n c).isMatch = (Query.execute q' n c).isMatch ∧
          (Query.execute q n c).result.toOption = (Query.execute q' n c).result.toOption ∧
          (Query.execute q n c).capture = (Query.execute q' n c).capture) ∧
    ∀ (k : Nat) (alternatives : Fin k → Query) (n : Place) (err : QueryError),
      ((Operation.either (List.ofFn alternatives)).apply n).value = .error err →
      ∃ errors : Fin k → QueryError, err = .aggregate (List.ofFn errors) ∧
        (∀ i, (Query.execute (alternatives i) n .empty).result = .error (errors i)) ∧
        ∀ σ : Equiv.Perm (Fin k),
          ((Operation.either (List.ofFn (alternatives ∘ σ))).apply n).value =
            .error (.aggregate (List.ofFn (errors ∘ σ))) := by
  refine ⟨fun alternatives alternatives' h context before after n c ↦ ?_,
    fun k alternatives n err herr ↦ ?_⟩
  · have hequivalent :=
      (Query.equivalent_replace h.leads_either_iff before after).fill context
    exact ⟨hequivalent.isMatch n c, hequivalent.toOption_result n c, hequivalent.capture n c⟩
  · obtain ⟨errors, rfl⟩ := Operation.exists_errors_of_either herr
    have heach := Operation.value_either_ofFn_eq_error_iff.1 herr
    exact ⟨errors, rfl, heach, fun σ ↦ Operation.value_either_ofFn_eq_error_iff.2 fun i ↦
      heach (σ i)⟩

/-- A choice for the initial value of a declarator: of the alternatives, one is a choice and another
is repeated. On a name, neither of two alternatives matches. -/
theorem either_regroups_initial_value :
    let call : Query := [.guard .call]
    let hasThis : Query := [.containsThis]
    let number : Query := [.accept .numbers 2]
    let context : Query.Context := [⟨[.guard .assignOrDeclarator], .rightSide, [.pass]⟩]
    let q := context.fill ([] ++ .either [call, [.either [hasThis, number]], call] ::
      [.hasOperator [.plus]])
    let q' := context.fill ([] ++ .either [number, hasThis, call] :: [.hasOperator [.plus]])
    let e : Expr := .declarator "x" (some (.binary .plus (.number .zero) (.number .zero)))
    let x : Place := .root (.identifier "x")
    Query.Regroups [call, [.either [hasThis, number]], call] [number, hasThis, call] ∧
      (q.run e).isMatch = true ∧ (q'.run e).isMatch = true ∧
      (q.run e).capture = (q'.run e).capture ∧
      ((Operation.either [call, hasThis]).apply x).value =
        .error (.aggregate [.typeMismatch [.call] .identifier, .noMatch]) ∧
      ((Operation.either [hasThis, call]).apply x).value =
        .error (.aggregate [.noMatch, .typeMismatch [.call] .identifier]) := by
  intro call hasThis number context q q' e x
  have hregroups :
      Query.Regroups [call, [.either [hasThis, number]], call] [number, hasThis, call] := by
    have hflat : Query.Regrouped [call, [.either [hasThis, number]], call]
        [call, hasThis, number, call] := .flattened [call] [hasThis, number] [call]
    have hsame : Query.Regrouped [call, hasThis, number, call] [number, hasThis, call] :=
      .reordered fun query ↦ by simp only [List.mem_cons, List.not_mem_nil]; tauto
    exact .trans _ _ _ (.rel _ _ hflat) (.rel _ _ hsame)
  have hmatch : (q'.run e).isMatch = true := by cbv
  obtain ⟨hruns, herrors⟩ := either_regroups
  obtain ⟨hverdict, -, hcapture⟩ :=
    hruns _ _ hregroups context [] [.hasOperator [.plus]] (.root e) .empty
  have hfailed : ((Operation.either [call, hasThis]).apply x).value =
      .error (.aggregate [.typeMismatch [.call] .identifier, .noMatch]) := by cbv
  -- the two alternatives by index, so that a permutation of the indices can swap them
  let alternatives : Fin 2 → Query := fun i ↦ if i = 0 then call else hasThis
  obtain ⟨errors, heq, -, hpermuted⟩ := herrors 2 alternatives x _ hfailed
  obtain ⟨hfirst, hsecond⟩ :
      .typeMismatch [.call] .identifier = errors 0 ∧ .noMatch = errors 1 := by
    simpa [List.ofFn_succ] using heq
  have hswapped := hpermuted (Equiv.swap 0 1)
  refine ⟨hregroups, hverdict.trans hmatch, hmatch, hcapture, hfailed, ?_⟩
  rw [hfirst, hsecond]
  exact hswapped

end ShapeQuery
