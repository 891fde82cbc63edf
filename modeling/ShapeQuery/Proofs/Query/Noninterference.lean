import ShapeQuery.Proofs.Query.Narrowing
import ShapeQuery.Proofs.Query.Recasting

/-!
# What a query cannot see

The *skeleton* of a tree (`Expr.skeleton`) is what is left of it without function bodies, object
keys, the names of declarators, the values of literals and the flags of unary operations. Kinds,
operators, children and the names of identifiers stay.

Going to the skeleton is a recasting (`recasting_skeleton`), so a run on a skeleton is the run on
the tree, with skeletons in place of nodes (`Query.run_skeleton`). A run on either of two trees with
the same skeleton is therefore the run on that skeleton, up to what is at the places it ends at and
captures; the places themselves are at the same positions, since a recasting of this kind leaves
trails as they are. `runs_alike_of_skeleton_eq` says so for runs on trees and on statements.

Nothing is said about how much of a skeleton a given query looks at; the same skeleton serves for
all queries.
-/

namespace ShapeQuery

/-! ### Skeletons -/

mutual

/-- An expression without what queries do not look at. -/
def Expr.skeleton : Expr → Expr
  | .binary op left right => .binary op left.skeleton right.skeleton
  | .unary op operand _ => .unary op operand.skeleton false
  | .assign op left right => .assign op left.skeleton right.skeleton
  | .declarator _ (some initial) => .declarator "" (some initial.skeleton)
  | .declarator _ none => .declarator "" none
  | .identifier name => .identifier name
  | .thisRef => .thisRef
  | .number _ => .number .zero
  | .string _ => .string ""
  | .boolean _ => .boolean false
  | .call callee args => .call callee.skeleton (Expr.skeletons args)
  | .construct callee args => .construct callee.skeleton (Expr.skeletons args)
  | .function (some name) params _ => .function (some name.skeleton) (Expr.skeletons params) []
  | .function none params _ => .function none (Expr.skeletons params) []
  | .dot left member => .dot left.skeleton member.skeleton
  | .bracket left member => .bracket left.skeleton member.skeleton
  | .conditional test consequent alternate =>
    .conditional test.skeleton consequent.skeleton alternate.skeleton
  | .sequence items => .sequence (Expr.skeletons items)
  | .array items => .array (Expr.skeletons items)
  | .object properties => .object (Expr.skeletonsOfProperties properties)

/-- The skeletons of some expressions. -/
def Expr.skeletons : List Expr → List Expr
  | [] => []
  | e :: rest => e.skeleton :: Expr.skeletons rest

/-- The properties of an object literal with empty keys and the skeletons of the values. -/
def Expr.skeletonsOfProperties : List (String × Expr) → List (String × Expr)
  | [] => []
  | (_, e) :: rest => ("", e.skeleton) :: Expr.skeletonsOfProperties rest

end

theorem Expr.skeletons_eq_map (es : List Expr) : Expr.skeletons es = es.map Expr.skeleton := by
  induction es with
  | nil => rfl
  | cons e es ih => rw [skeletons, ih, List.map_cons]

theorem Expr.map_snd_skeletonsOfProperties (ps : List (String × Expr)) :
    (Expr.skeletonsOfProperties ps).map Prod.snd = (ps.map Prod.snd).map Expr.skeleton := by
  induction ps with
  | nil => rfl
  | cons p ps ih => rw [skeletonsOfProperties, List.map_cons, ih, List.map_cons, List.map_cons]

/-- The children of a skeleton are the skeletons of the children. -/
theorem Expr.children_skeleton (e : Expr) :
    e.skeleton.children = e.children.map Expr.skeleton := by
  cases e with
  | declarator name initial => cases initial <;> rfl
  | call callee args => rw [skeleton, children, skeletons_eq_map]; rfl
  | construct callee args => rw [skeleton, children, skeletons_eq_map]; rfl
  | function name params body =>
    cases name with
    | none => exact skeletons_eq_map params
    | some name => exact congrArg (name.skeleton :: ·) (skeletons_eq_map params)
  | sequence items => exact skeletons_eq_map items
  | array items => exact skeletons_eq_map items
  | object properties => exact map_snd_skeletonsOfProperties properties
  | _ => rfl

/-- The same position, with the skeleton of the node. -/
def Place.skeleton (p : Place) : Place := ⟨p.trail, p.node.skeleton⟩

/-- The skeleton of a node is a node of the same kind, with the same operator or name. -/
theorem Expr.skeleton_head (e : Expr) :
    e.skeleton.kind = e.kind ∧ e.skeleton.operator? = e.operator? ∧ e.skeleton.name? = e.name? := by
  cases e with
  | declarator name initial => cases initial <;> exact ⟨rfl, rfl, rfl⟩
  | function name params body => cases name <;> exact ⟨rfl, rfl, rfl⟩
  | _ => exact ⟨rfl, rfl, rfl⟩

theorem recasting_skeleton : Recasting Place.skeleton where
  kind p := p.node.skeleton_head.1
  operator? p := p.node.skeleton_head.2.1
  name? p := p.node.skeleton_head.2.2
  children p := by
    have hnode : p.skeleton.node.children = p.node.children.map Expr.skeleton :=
      p.node.children_skeleton
    rw [Place.children, hnode]
    refine List.ext_getElem (by simp [Place.children]) fun i _ _ ↦ ?_
    simp [Place.children, Place.child, Place.skeleton]

/-! ### Runs on skeletons -/

namespace Query

variable (query : Query)

/-- A run on a skeleton is the skeleton of the run. -/
theorem run_skeleton (e : Expr) : query.run e.skeleton = (query.run e).map Place.skeleton :=
  recasting_skeleton.execute_map query (.root e) .empty

theorem executeEach_skeleton (es : List Expr) (c : Capture) :
    query.executeEach (es.map Expr.skeleton) (c.map Place.skeleton) =
      ⟨(query.executeEach es c).result, (query.executeEach es c).capture.map Place.skeleton,
        (query.executeEach es c).log⟩ := by
  induction es generalizing c with
  | nil => rfl
  | cons e rest ih =>
    have hfirst : Query.execute query (.root e.skeleton) (c.map Place.skeleton) =
        (Query.execute query (.root e) c).map Place.skeleton :=
      recasting_skeleton.execute_map query (.root e) c
    rw [List.map_cons, executeEach, executeEach, hfirst]
    simp only [Run.map]
    rcases (Query.execute query (.root e) c).result with err | p
    · rfl
    · simp only [Except.map, ih]

end Query

/-! ### Two runs -/

/-- Two runs that end alike: both match, or both fail with the same error, and their logs are the
same. -/
structure Run.Alike {α : Type} (r₁ r₂ : Run α) : Prop where
  verdict : r₁.isMatch = r₂.isMatch
  error : ∀ err, r₁.result = .error err ↔ r₂.result = .error err
  log : r₁.log = r₂.log

theorem Run.Alike.of_outcome {α : Type} {r₁ r₂ : Run α}
    (houtcome : r₁.result.outcome = r₂.result.outcome) (hlog : r₁.log = r₂.log) :
    r₁.Alike r₂ where
  verdict := (Except.outcome_eq_outcome_iff.1 houtcome).1
  error := (Except.outcome_eq_outcome_iff.1 houtcome).2
  log := hlog

/-- Either two places are both absent, or both lie in the first of the listed trees, where they are
at the same position. -/
inductive SamePosition : List Expr → List Expr → Option Place → Option Place → Prop
  | absent {trees₁ trees₂ : List Expr} : SamePosition trees₁ trees₂ none none
  | present {e₁ e₂ : Expr} {rest₁ rest₂ : List Expr} {p₁ p₂ : Place}
      (h₁ : (Place.root e₁).Walked p₁) (h₂ : (Place.root e₂).Walked p₂)
      (h : p₁.trail = p₂.trail) :
      SamePosition (e₁ :: rest₁) (e₂ :: rest₂) (some p₁) (some p₂)

/-- Walked places with the same skeleton are at the same position. -/
theorem SamePosition.of_skeleton {e₁ e₂ : Expr} {rest₁ rest₂ : List Expr} {o₁ o₂ : Option Place}
    (h : o₁.map Place.skeleton = o₂.map Place.skeleton)
    (h₁ : ∀ p ∈ o₁, (Place.root e₁).Walked p) (h₂ : ∀ p ∈ o₂, (Place.root e₂).Walked p) :
    SamePosition (e₁ :: rest₁) (e₂ :: rest₂) o₁ o₂ := by
  cases o₁ with
  | none =>
    cases o₂ with
    | none => exact .absent
    | some p₂ => cases h
  | some p₁ =>
    cases o₂ with
    | none => cases h
    | some p₂ =>
      have htrail : p₁.skeleton.trail = p₂.skeleton.trail :=
        congrArg Place.trail (Option.some.inj h)
      exact .present (h₁ p₁ rfl) (h₂ p₂ rfl) htrail

/-- What is captured in runs on several trees in turn lies in the first of them. -/
theorem Query.walked_of_collected_executeEach {query : Query} {e : Expr} {rest : List Expr}
    {p : Place} (h : (query.executeEach (e :: rest) .empty).capture.collected = some p) :
    (Place.root e).Walked p := by
  rw [executeEach_eq] at h
  exact walked_of_head?_handedOnEach h

/-- Runs on two trees with the same skeleton end alike, at places of the same position. -/
theorem Query.run_alike (query : Query) {e₁ e₂ : Expr} (h : e₁.skeleton = e₂.skeleton) :
    (query.run e₁).Alike (query.run e₂) ∧
      SamePosition [e₁] [e₂] (query.run e₁).result.toOption (query.run e₂).result.toOption ∧
      SamePosition [e₁] [e₂] (query.run e₁).capture.collected
        (query.run e₂).capture.collected := by
  have hrun : (query.run e₁).map Place.skeleton = (query.run e₂).map Place.skeleton := by
    rw [← query.run_skeleton, h, query.run_skeleton]
  obtain ⟨hresult, hcapture, hlog⟩ := Run.mk.inj hrun
  have houtcome : (query.run e₁).result.outcome = (query.run e₂).result.outcome := by
    have h := congrArg Except.outcome hresult
    rwa [Except.outcome_map, Except.outcome_map] at h
  have hlast : (query.run e₁).result.toOption.map Place.skeleton =
      (query.run e₂).result.toOption.map Place.skeleton := by
    have h := congrArg Except.toOption hresult
    rwa [Except.toOption_map, Except.toOption_map] at h
  have hwalked : ∀ e, ∀ p ∈ (query.run e).result.toOption, (Place.root e).Walked p := by
    intro e p hp
    exact Query.walked_of_leads
      ((query.understood (.root e) .empty p).1 (Except.toOption_eq_some_iff.1 hp))
  have hcaptured : ∀ e, ∀ p ∈ (query.run e).capture.collected, (Place.root e).Walked p := by
    intro e p hp
    rw [run, query.collected_execute] at hp
    exact Query.walked_of_mem_handedOn (List.mem_of_mem_head? hp)
  exact ⟨.of_outcome houtcome hlog, .of_skeleton hlast (hwalked e₁) (hwalked e₂),
    .of_skeleton (Capture.mk.inj hcapture) (hcaptured e₁) (hcaptured e₂)⟩

/-- Runs on two statements of one kind whose trees have the same skeletons end alike, and capture
places of the same position. -/
theorem Query.runStatement_alike (query : Query) {s₁ s₂ : Statement} (hkind : s₁.kind = s₂.kind)
    (h : s₁.queried.map Expr.skeleton = s₂.queried.map Expr.skeleton) :
    (query.runStatement s₁).Alike (query.runStatement s₂) ∧
      SamePosition s₁.queried s₂.queried (query.runStatement s₁).capture.collected
        (query.runStatement s₂).capture.collected := by
  rw [runStatement, runStatement]
  rcases hqueried₁ : s₁.queried with - | ⟨e₁, rest₁⟩
  · -- without trees it is the kind that decides
    have hqueried₂ : s₂.queried = [] := by
      rw [hqueried₁] at h
      exact List.map_eq_nil_iff.1 h.symm
    have hcollected : (query.executeStatement s₂ .empty).capture.collected = none := by
      rw [query.executeStatement_eq, hqueried₂]
      rfl
    rw [executeStatement_of_queried_nil hqueried₁, hkind,
      ← executeStatement_of_queried_nil hqueried₂, hcollected]
    exact ⟨.of_outcome rfl rfl, .absent⟩
  · rcases hqueried₂ : s₂.queried with - | ⟨e₂, rest₂⟩
    · rw [hqueried₁, hqueried₂] at h
      cases h
    · have heach := query.executeEach_skeleton s₁.queried .empty
      rw [h, query.executeEach_skeleton s₂.queried .empty, hqueried₁, hqueried₂] at heach
      obtain ⟨hresult, hcapture, hlog⟩ := Run.mk.inj heach
      rw [executeStatement_eq_executeEach (by simp [hqueried₁]),
        executeStatement_eq_executeEach (by simp [hqueried₂]), hqueried₁, hqueried₂]
      exact ⟨.of_outcome (congrArg Except.outcome hresult.symm) hlog.symm,
        .of_skeleton (Capture.mk.inj hcapture).symm (fun _ ↦ walked_of_collected_executeEach)
          fun _ ↦ walked_of_collected_executeEach⟩

/-- Runs on two trees with the same skeleton have the same verdict, error and log, and end at and
capture places of the same position. The same holds of runs on two statements of one kind whose
trees have the same skeletons. -/
theorem runs_alike_of_skeleton_eq (query : Query) :
    (∀ e₁ e₂ : Expr, e₁.skeleton = e₂.skeleton →
      (query.run e₁).Alike (query.run e₂) ∧
      SamePosition [e₁] [e₂] (query.run e₁).result.toOption (query.run e₂).result.toOption ∧
      SamePosition [e₁] [e₂] (query.run e₁).capture.collected
        (query.run e₂).capture.collected) ∧
    ∀ s₁ s₂ : Statement, s₁.kind = s₂.kind →
      s₁.queried.map Expr.skeleton = s₂.queried.map Expr.skeleton →
      (query.runStatement s₁).Alike (query.runStatement s₂) ∧
      SamePosition s₁.queried s₂.queried (query.runStatement s₁).capture.collected
        (query.runStatement s₂).capture.collected :=
  ⟨fun _ _ h ↦ query.run_alike h, fun _ _ hkind h ↦ query.runStatement_alike hkind h⟩

/-- Two calls of function literals that differ in the body of the function and in a string, alone
and as the initial values of declarators that differ in the name. -/
theorem runs_alike_of_skeleton_eq_bodies :
    let e₁ : Expr := .call (.function none [] [.expression .thisRef]) [.string "a"]
    let e₂ : Expr := .call (.function none [] []) [.string "b"]
    let query : Query := [.findCall true, .containsThis]
    e₁.skeleton = e₂.skeleton ∧
      (query.run e₁).Alike (query.run e₂) ∧
      SamePosition [e₁] [e₂] (query.run e₁).capture.collected
        (query.run e₂).capture.collected ∧
      (query.runStatement (.declaration [.declarator "x" (some e₁)])).Alike
        (query.runStatement (.declaration [.declarator "y" (some e₂)])) := by
  intro e₁ e₂ query
  have hskeleton : e₁.skeleton = e₂.skeleton := rfl
  obtain ⟨htrees, hstatements⟩ := runs_alike_of_skeleton_eq query
  obtain ⟨halike, -, hcollected⟩ := htrees e₁ e₂ hskeleton
  obtain ⟨hdeclaration, -⟩ := hstatements (.declaration [.declarator "x" (some e₁)])
    (.declaration [.declarator "y" (some e₂)]) rfl rfl
  exact ⟨hskeleton, halike, hcollected, hdeclaration⟩

end ShapeQuery
