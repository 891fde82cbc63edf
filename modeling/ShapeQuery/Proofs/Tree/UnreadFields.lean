import Mathlib.Data.List.Nodup
import Mathlib.Logic.Relation
import ShapeQuery.Proofs.Tree.Normalization

/-!
# Fields that are not read

A value that is read as a tree can hold more than the tree: members that its kind does not have, at
every node and of any content. It can also spell the same thing in two ways, since a child that is
null may be left out, and so may a flag that is false. None of this shows in what is read.

`Edited` has the changes, one at a time, at a node of any depth: its unread members change in any
way, or a default is written out. `Similar` allows any number of them, in either direction. The
values need not spell a tree. An edit may be made beside a fault, around it or behind it, and what
is written into an unread member may be anything.

Two values are *read alike* (`ReadAlike`) if reading them ends in the same way and they have the
same normal form. An edit keeps that (`Edited.readAlike`): the fields of the node hold the same, or
something that counts as the same (`Slot.Alike`), and no kind has a field called `type`, so the tag
stays (`Opens.ne_type`). That two values which are read alike are read as the same tree is then the
round trip: the tree can be had back from the normal form (`ReadAlike.read_eq`).
-/

namespace ShapeQuery

/-! ### Names of fields -/

open Interchange (Field)

theorem ExprKind.nodup_fields (kind : ExprKind) : ("type" :: kind.fields.map Field.name).Nodup := by
  cases kind <;> decide

theorem StatementKind.nodup_fields (kind : StatementKind) :
    ("type" :: kind.fields.map Field.name).Nodup := by
  cases kind <;> decide

namespace Interchange

/-! ### Edits -/

/-- In what a field holds, one of the values that are read as trees there is replaced by another:
the one that the field holds, or an item of its list. -/
inductive Slot.Replaces (shape : Shape) (u u' : Json) : Slot → Json → Json → Prop
  | tree : Replaces shape u u' (.tree shape) u u'
  | optional : Replaces shape u u' (.optional shape) u u'
  | item (before after : List Json) :
      Replaces shape u u' (.list shape) (.array (before ++ u :: after))
        (.array (before ++ u' :: after))

/-- One change to a value that is read in a shape, at a node of any depth. -/
inductive Edited : Shape → Json → Json → Prop
  /-- Members that are not read are added, removed or changed. What is read is the type tag and, if
  that names a kind of the sort, the fields of the kind; of a property, its two fields. -/
  | unread {shape : Shape} {members members' : List (String × Json)}
      (tag : shape ≠ .property → members'.lookup "type" = members.lookup "type")
      (fields : ∀ node, Opens shape (.object members) node → ∀ f ∈ node.fields,
        members'.lookup f.name = members.lookup f.name) :
      Edited shape (.object members) (.object members')
  /-- A field that may be absent is given the value that its absence stands for. -/
  | writtenOut {shape : Shape} {members members' : List (String × Json)} {node : Node} {f : Field}
      {w : Json} (opens : Opens shape (.object members) node) (field : f ∈ node.fields)
      (default : f.slot.default? = some w) (absent : members.lookup f.name = none)
      (written : members'.lookup f.name = some w)
      (others : ∀ name, name ≠ f.name → members'.lookup name = members.lookup name) :
      Edited shape (.object members) (.object members')
  /-- A tree in one of the fields is edited. -/
  | inside {shape shape' : Shape} {members members' : List (String × Json)} {node : Node}
      {f : Field} {u u' w w' : Json} (opens : Opens shape (.object members) node)
      (field : f ∈ node.fields) (value : members.lookup f.name = some w)
      (value' : members'.lookup f.name = some w')
      (others : ∀ name, name ≠ f.name → members'.lookup name = members.lookup name)
      (replaces : f.slot.Replaces shape' u u' w w') (edit : Edited shape' u u') :
      Edited shape (.object members) (.object members')

/-- Any number of edits, in either direction. -/
def Similar (shape : Shape) : Json → Json → Prop := Relation.EqvGen (Edited shape)

namespace Edited

variable {shape : Shape} {members : List (String × Json)}

/-- Putting in a member under a key that is not read is an edit. -/
theorem insert_unread {key : String} (w : Json) (htype : "type" ≠ key)
    (hunread : ∀ node, Opens shape (.object members) node → ∀ f ∈ node.fields, f.name ≠ key) :
    Edited shape (.object members) (.object (Json.insertMember key w members)) := by
  refine .unread (fun _ ↦ ?_) fun node hnode f hf ↦ ?_
  · rw [Json.lookup_insertMember, if_neg htype]
  · rw [Json.lookup_insertMember, if_neg (hunread node hnode f hf)]

variable {node : Node} {f : Field}

/-- Writing out a default is an edit. -/
theorem insert_default {w : Json} (opens : Opens shape (.object members) node)
    (field : f ∈ node.fields) (default : f.slot.default? = some w)
    (absent : members.lookup f.name = none) :
    Edited shape (.object members) (.object (Json.insertMember f.name w members)) := by
  refine .writtenOut opens field default absent ?_ fun name hname ↦ ?_
  · rw [Json.lookup_insertMember, if_pos rfl]
  · rw [Json.lookup_insertMember, if_neg hname]

/-- Putting back a tree after an edit is an edit. -/
theorem insert_inside {shape' : Shape} {u u' w w' : Json} (edit : Edited shape' u u')
    (opens : Opens shape (.object members) node) (field : f ∈ node.fields)
    (value : members.lookup f.name = some w) (replaces : f.slot.Replaces shape' u u' w w') :
    Edited shape (.object members) (.object (Json.insertMember f.name w' members)) := by
  refine .inside opens field value ?_ (fun name hname ↦ ?_) replaces edit
  · rw [Json.lookup_insertMember, if_pos rfl]
  · rw [Json.lookup_insertMember, if_neg hname]

end Edited

/-! ### Values that are read alike -/

/-- Reading ends in the same way, and the normal forms are the same. -/
structure ReadAlike (shape : Shape) (v v' : Json) : Prop where
  outcome : shape.read v' = shape.read v
  normal : normalize shape v' = normalize shape v

/-- What a field holds counts as the same: reading it ends in the same way, whatever names a fault
would be reported under, and the normal forms are the same. -/
structure Slot.Alike (slot : Slot) (v? v?' : Option Json) : Prop where
  outcome : ∀ node name, slot.read node name v?' = slot.read node name v?
  normal : v?'.elim slot.default? (some ∘ slot.normalize) =
    v?.elim slot.default? (some ∘ slot.normalize)

theorem Slot.alike_refl (slot : Slot) (v? : Option Json) : slot.Alike v? v? :=
  ⟨fun _ _ ↦ rfl, rfl⟩

/-- A default counts as the absence that it stands for. -/
theorem Slot.alike_default {slot : Slot} {w : Json} (h : slot.default? = some w) :
    slot.Alike none (some w) := by
  cases slot with
  | flag =>
    cases h
    exact ⟨fun _ _ ↦ rfl, rfl⟩
  | optional shape =>
    cases h
    exact ⟨fun _ _ ↦ rfl, by simp [Slot.normalize, Interchange.normalize, Slot.default?]⟩
  | _ => cases h

theorem normalizeItems_eq_map (shape : Shape) (items : List Json) :
    normalizeItems shape items = items.map (normalize shape) := by
  induction items with
  | nil => rw [normalizeItems, List.map_nil]
  | cons v rest ih => rw [normalizeItems, List.map_cons, ih]

/-- A field counts as the same if a tree in it is replaced by one that is read alike. Neither may be
null, which would stand for no tree at all. -/
theorem Slot.Replaces.alike {slot : Slot} {shape : Shape} {u u' w w' : Json}
    (h : slot.Replaces shape u u' w w') (hu : isNull u = false) (hu' : isNull u' = false)
    (halike : ReadAlike shape u u') : slot.Alike (some w) (some w') := by
  cases h with
  | tree => exact ⟨fun _ _ ↦ halike.outcome, congrArg some halike.normal⟩
  | optional =>
    refine ⟨fun node name ↦ ?_, congrArg some halike.normal⟩
    rw [Slot.read_optional, Slot.read_optional, hu, hu']
    exact halike.outcome
  | item before after =>
    refine ⟨fun node name ↦ ?_, congrArg (some ∘ Json.array) ?_⟩
    · show forM (before ++ u' :: after) shape.read = forM (before ++ u :: after) shape.read
      rw [List.forM_append, List.forM_append, List.forM_cons, List.forM_cons, halike.outcome]
    · simp only [normalizeItems_eq_map, List.map_append, List.map_cons, halike.normal]

section Nodes

variable {shape : Shape} {v v' : Json} {members members' : List (String × Json)} {node : Node}

/-! ### The fields of a node -/

theorem Opens.nodup_fields (h : Opens shape v node) :
    ("type" :: node.fields.map Field.name).Nodup := by
  cases h with
  | expression kind => exact kind.nodup_fields
  | statement kind => exact kind.nodup_fields
  | property members => exact (by decide : ("type" :: propertyFields.map Field.name).Nodup)

/-- No kind has a field called like the tag. -/
theorem Opens.ne_type (h : Opens shape v node) {f : Field} (hf : f ∈ node.fields) :
    "type" ≠ f.name := fun htype ↦
  (List.nodup_cons.1 h.nodup_fields).1 (htype ▸ List.mem_map_of_mem hf)

/-- Two fields of a node have different names. -/
theorem Opens.eq_of_name_eq (h : Opens shape v node) {f g : Field} (hf : f ∈ node.fields)
    (hg : g ∈ node.fields) (hname : f.name = g.name) : f = g :=
  List.inj_on_of_nodup_map (List.nodup_cons.1 h.nodup_fields).2 hf hg hname

theorem Opens.members_eq (h : Opens shape (.object members) node) : node.members = members := by
  cases h <;> rfl

/-- An object with the same tag opens as the same kind of node. -/
theorem Opens.retag (h : Opens shape (.object members) node)
    (tag : shape ≠ .property → members'.lookup "type" = members.lookup "type") :
    Opens shape (.object members') ⟨node.name, node.fields, members'⟩ := by
  cases h with
  | expression kind found => exact .expression kind ((tag (by decide)).trans found)
  | statement kind found => exact .statement kind ((tag (by decide)).trans found)
  | property => exact .property members'

/-- The normal form of a node has its tag and its fields. -/
theorem Opens.kept_eq (h : Opens shape (.object members) node) :
    shape.kept members =
      (if shape = .property then [] else [⟨"type", .string⟩]) ++ node.fields := by
  cases h with
  | expression kind found => exact Shape.kept_expression (typeTag_eq_ok_iff.2 found)
  | statement kind found => exact Shape.kept_statement (typeTag_eq_ok_iff.2 found)
  | property => rfl

/-- A node is read alike if its tag stays and its fields count as the same. -/
theorem Opens.readAlike (h : Opens shape (.object members) node)
    (tag : shape ≠ .property → members'.lookup "type" = members.lookup "type")
    (fields : ∀ f ∈ node.fields, f.slot.Alike (members.lookup f.name) (members'.lookup f.name)) :
    ReadAlike shape (.object members) (.object members') := by
  have hretagged := h.retag tag
  constructor
  · rw [hretagged.read_eq, h.read_eq]
    refine Except.forM_congr fun f hf ↦ ?_
    rw [Node.read, Node.read, Node.value?, Node.value?, h.members_eq]
    exact (fields f hf).outcome node.name f.name
  · rw [normalize, normalize, h.kept_eq, hretagged.kept_eq]
    refine congrArg Json.ofMembers (List.filterMap_congr fun f hf ↦ ?_)
    rw [normalizeField_eq, normalizeField_eq]
    refine congrArg (Option.map _) ?_
    rcases List.mem_append.1 hf with hf | hf
    · -- the tag is kept as it is, where there is one
      by_cases hshape : shape = .property
      · rw [if_pos hshape] at hf
        exact absurd hf List.not_mem_nil
      · rw [if_neg hshape] at hf
        obtain rfl := List.mem_singleton.1 hf
        rw [tag hshape]
    · exact (fields f hf).normal

/-- A node is read alike if one of its fields counts as the same and nothing else has changed. -/
theorem Opens.readAlike_of_field (h : Opens shape (.object members) node) {f : Field}
    (hf : f ∈ node.fields)
    (hfield : f.slot.Alike (members.lookup f.name) (members'.lookup f.name))
    (others : ∀ name, name ≠ f.name → members'.lookup name = members.lookup name) :
    ReadAlike shape (.object members) (.object members') := by
  refine h.readAlike (fun _ ↦ others _ (h.ne_type hf)) fun g hg ↦ ?_
  by_cases hname : g.name = f.name
  · obtain rfl := h.eq_of_name_eq hg hf hname
    exact hfield
  · rw [others _ hname]
    exact g.slot.alike_refl _

/-- An object that does not open as a node has the same fault if its tag stays, or that it has
none. -/
theorem HeadFault.retag {err : ReadError} (h : HeadFault shape (.object members) err)
    (tag : shape ≠ .property → members'.lookup "type" = members.lookup "type") :
    HeadFault shape (.object members') err := by
  cases h with
  | notAnObject tagged hobject => exact absurd rfl (hobject members)
  | missingType tagged hnone => exact .missingType tagged fun t ↦ (tag tagged).symm ▸ hnone t
  | unknownExpression found hkind => exact .unknownExpression ((tag (by decide)).trans found) hkind
  | unknownStatement found hkind => exact .unknownStatement ((tag (by decide)).trans found) hkind
  | property hobject => exact absurd rfl (hobject members)

/-- Nothing is left of an object that does not open as a node. -/
theorem HeadFault.kept_eq {err : ReadError} (h : HeadFault shape (.object members) err) :
    shape.kept members = [] := by
  cases h with
  | notAnObject tagged hobject => exact absurd rfl (hobject members)
  | missingType tagged hnone =>
    cases shape with
    | property => exact absurd rfl tagged
    | _ => rw [Shape.kept, typeTag_eq_missingType hnone]
  | @unknownExpression _ tag found hkind =>
    have hname : ExprKind.ofName? tag = none :=
      Option.eq_none_iff_forall_ne_some.2 fun kind hk ↦
        hkind kind (ExprKind.ofName?_eq_some_iff.1 hk)
    simp only [Shape.kept, typeTag_eq_ok_iff.2 found, hname, Option.map_none, Option.getD_none]
  | @unknownStatement _ tag found hkind =>
    have hname : StatementKind.ofName? tag = none :=
      Option.eq_none_iff_forall_ne_some.2 fun kind hk ↦
        hkind kind (StatementKind.ofName?_eq_some_iff.1 hk)
    simp only [Shape.kept, typeTag_eq_ok_iff.2 found, hname, Option.map_none, Option.getD_none]
  | property hobject => exact absurd rfl (hobject members)

theorem HeadFault.readAlike {err : ReadError} (h : HeadFault shape (.object members) err)
    (tag : shape ≠ .property → members'.lookup "type" = members.lookup "type") :
    ReadAlike shape (.object members) (.object members') where
  outcome := (h.retag tag).read_eq.trans h.read_eq.symm
  normal := by rw [normalize, normalize, h.kept_eq, (h.retag tag).kept_eq]; rfl

/-! ### Edits are not seen -/

/-- Only objects are edited, so what is edited is never taken for an absent child. -/
theorem Edited.isNull_eq_false (h : Edited shape v v') : isNull v = false ∧ isNull v' = false := by
  cases h <;> exact ⟨rfl, rfl⟩

/-- A value is read alike after an edit. -/
theorem Edited.readAlike (h : Edited shape v v') : ReadAlike shape v v' := by
  induction h with
  | @unread shape members members' tag fields =>
    rcases opens_or_headFault shape (.object members) with ⟨node, hopens⟩ | ⟨err, hfault⟩
    · refine hopens.readAlike tag fun f hf ↦ ?_
      rw [fields node hopens f hf]
      exact f.slot.alike_refl _
    · exact hfault.readAlike tag
  | writtenOut opens field default absent written others =>
    refine opens.readAlike_of_field field ?_ others
    rw [absent, written]
    exact Slot.alike_default default
  | inside opens field value value' others replaces edit ih =>
    obtain ⟨hu, hu'⟩ := edit.isNull_eq_false
    refine opens.readAlike_of_field field ?_ others
    rw [value, value']
    exact replaces.alike hu hu' ih

theorem Similar.readAlike (h : Similar shape v v') : ReadAlike shape v v' := by
  induction h with
  | rel _ _ edit => exact edit.readAlike
  | refl v => exact ⟨rfl, rfl⟩
  | symm _ _ _ ih => exact ⟨ih.outcome.symm, ih.normal.symm⟩
  | trans _ _ _ _ _ first second =>
    exact ⟨second.outcome.trans first.outcome, second.normal.trans first.normal⟩

/-- Values that are read alike are read as the same tree, or refused with the same error. -/
theorem ReadAlike.read_eq {α : Type} {read : Json → Except ReadError α} {write : α → Json}
    {identify : α → α} (hread : ∀ v, shape.read v = (read v).outcome)
    (hwrite : ∀ v a, read v = .ok a → normalize shape v = write a ∧ identify a = a)
    (hback : ∀ a, read (write a) = .ok (identify a)) (h : ReadAlike shape v v') :
    read v' = read v := by
  have houtcome : (read v').outcome = (read v).outcome := by
    rw [← hread, ← hread, h.outcome]
  cases hv : read v with
  | error err =>
    rw [hv] at houtcome
    exact Except.outcome_eq_error_iff.1 houtcome
  | ok a =>
    rw [hv] at houtcome
    obtain ⟨a', ha'⟩ := Except.outcome_eq_ok_iff.1 houtcome
    obtain ⟨hnormal, hclean⟩ := hwrite v a hv
    obtain ⟨hnormal', hclean'⟩ := hwrite v' a' ha'
    -- both trees are read back from the one normal form
    have hsame : read (write a') = read (write a) := by rw [← hnormal, ← hnormal', h.normal]
    rw [hback, hback, hclean, hclean'] at hsame
    rw [ha', hsame]

end Nodes

end Interchange

open Interchange (Edited Similar)

/-- Values that differ in members which are not read, and in whether defaults are written out, are
read as the same tree or refused with the same error. -/
theorem ofJson_eq_of_similar (v v' : Json) :
    (Similar .expression v v' → Expr.ofJson v' = Expr.ofJson v) ∧
    (Similar .statement v v' → Statement.ofJson v' = Statement.ofJson v) := by
  constructor
  · intro h
    refine h.readAlike.read_eq Interchange.Shape.read_toExpr (fun w e hw ↦ ?_)
      Interchange.treeInduction_read_written.expr
    exact (Interchange.reencoded (sizeOf w + 1)).expr w e (Nat.lt_succ_self _) hw
  · intro h
    refine h.readAlike.read_eq Interchange.Shape.read_toStatement (fun w s hw ↦ ?_)
      Interchange.treeInduction_read_written.statement
    exact (Interchange.reencoded (sizeOf w + 1)).statement w s (Nat.lt_succ_self _) hw

/-- A call with a fault in the operand of its argument. The operand has no known kind, so a value
with that fault in it may be put there under a key that other kinds read; the operator is given its
flag, and a statement its missing argument. -/
theorem ofJson_eq_of_similar_fault :
    let operand := [("type", Json.string "widget")]
    let negation := [("operand", Json.object operand), ("operator", .string "-"),
      ("type", .string "unary")]
    let call := [("arguments", Json.array [.object negation]),
      ("callee", .object [("type", .string "this")]), ("type", .string "call")]
    let operand' := Json.insertMember "left" (.array [.object operand]) operand
    let negation' := Json.insertMember "operand" (.object operand') negation
    let negation'' := Json.insertMember "postfix" (.bool false) negation'
    let call' := Json.insertMember "arguments" (.array [.object negation']) call
    let call'' := Json.insertMember "arguments" (.array [.object negation'']) call'
    let stop := [("type", Json.string "return_statement")]
    (Expr.ofJson (.object call'') = Expr.ofJson (.object call) ∧
      Expr.ofJson (.object call) = .error (.unknownType "widget")) ∧
    Statement.ofJson (.object (Json.insertMember "argument" .null stop)) =
      Statement.ofJson (.object stop) := by
  intro operand negation call operand' negation' negation'' call' call'' stop
  have hoperand : Edited .expression (.object operand) (.object operand') := by
    refine .insert_unread _ (by decide) fun node hnode ↦ ?_
    obtain ⟨kind, htag⟩ := hnode
    have hname : "widget" = kind.name := Json.string.inj (Option.some.inj htag)
    have hunknown : ExprKind.ofName? "widget" = none := rfl
    rw [ExprKind.ofName?_eq_some_iff.2 hname] at hunknown
    cases hunknown
  have hnegation : Edited .expression (.object negation) (.object negation') :=
    hoperand.insert_inside (f := ⟨"operand", .tree .expression⟩) (.expression .unary rfl)
      (by simp [ExprKind.fields]) rfl .tree
  have hflag : Edited .expression (.object negation') (.object negation'') :=
    .insert_default (f := ⟨"postfix", .flag⟩) (.expression .unary rfl)
      (by simp [ExprKind.fields]) rfl rfl
  have hcall : Edited .expression (.object call) (.object call') :=
    hnegation.insert_inside (f := ⟨"arguments", .list .expression⟩) (.expression .call rfl)
      (by simp [ExprKind.fields]) rfl (.item [] [])
  have hcall' : Edited .expression (.object call') (.object call'') :=
    hflag.insert_inside (f := ⟨"arguments", .list .expression⟩) (.expression .call rfl)
      (by simp [ExprKind.fields]) rfl (.item [] [])
  have hstop :
      Edited .statement (.object stop) (.object (Json.insertMember "argument" .null stop)) :=
    .insert_default (f := ⟨"argument", .optional .expression⟩) (.statement .returns rfl)
      (by simp [StatementKind.fields]) rfl rfl
  refine ⟨⟨(ofJson_eq_of_similar _ _).1 ?_, rfl⟩, (ofJson_eq_of_similar _ _).2 (.rel _ _ hstop)⟩
  exact .trans _ _ _ (.rel _ _ hcall) (.rel _ _ hcall')

end ShapeQuery
