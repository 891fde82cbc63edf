import ShapeQuery.Json.Basic

/-!
# Members of an object

Members are put in one at a time, each at its place in the order of keys. A member with the greatest
key goes to the end (`insertMember_append`), so members that are put in by increasing key stay as
they come (`foldl_insertMember`). What is found under a key is what was put in there last
(`lookup_insertMember`).
-/

namespace ShapeQuery

namespace Json

section Order

variable {key k : String} {value v : Json} {rest : List (String × Json)}

theorem insertMember_nil : insertMember key value [] = [(key, value)] := rfl

theorem insertMember_of_lt (h : key < k) :
    insertMember key value ((k, v) :: rest) = (key, value) :: (k, v) :: rest :=
  if_pos h

theorem insertMember_of_gt (h : k < key) :
    insertMember key value ((k, v) :: rest) = (k, v) :: insertMember key value rest := by
  have hne : key ≠ k := fun heq ↦ String.lt_irrefl k (heq ▸ h)
  rw [insertMember, if_neg (String.lt_asymm h), if_neg hne]

/-- A member with the greatest key goes to the end. -/
theorem insertMember_append {members : List (String × Json)} (h : ∀ m ∈ members, m.1 < key) :
    insertMember key value members = members ++ [(key, value)] := by
  induction members with
  | nil => rfl
  | cons m rest ih =>
    obtain ⟨hm, hrest⟩ := List.forall_mem_cons.1 h
    rw [insertMember_of_gt hm, ih hrest, List.cons_append]

/-- Members that are put in by increasing key stay as they come. -/
theorem foldl_insertMember {members done : List (String × Json)}
    (h : ((done ++ members).map Prod.fst).Pairwise (· < ·)) :
    members.foldl (fun done m ↦ insertMember m.1 m.2 done) done = done ++ members := by
  induction members generalizing done with
  | nil => rw [List.foldl_nil, List.append_nil]
  | cons m rest ih =>
    have hlast : ∀ n ∈ done, n.1 < m.1 := by
      intro n hn
      rw [List.map_append, List.pairwise_append] at h
      exact h.2.2 _ (List.mem_map_of_mem hn) _ (List.mem_map_of_mem List.mem_cons_self)
    rw [List.append_cons] at h
    rw [List.foldl_cons, insertMember_append hlast, ih h, List.append_assoc]
    rfl

end Order

section Lookup

variable (key name : String) (value : Json) (members : List (String × Json))

theorem lookup_cons_eq_ite :
    ((key, value) :: members).lookup name =
      if name = key then some value else members.lookup name := by
  rw [List.lookup_cons]
  by_cases h : name = key
  · rw [if_pos h, beq_iff_eq.2 h]
  · rw [if_neg h, beq_eq_false_iff_ne.2 h]

/-- A member that is added is found under its key, and the others as before. -/
theorem lookup_insertMember :
    (insertMember key value members).lookup name =
      if name = key then some value else members.lookup name := by
  induction members with
  | nil => rw [insertMember, lookup_cons_eq_ite]
  | cons m rest ih =>
    obtain ⟨k, v⟩ := m
    rw [insertMember]
    by_cases hlt : key < k
    · rw [if_pos hlt, lookup_cons_eq_ite]
    · by_cases hkey : key = k
      · subst hkey
        rw [if_neg hlt, if_pos rfl, lookup_cons_eq_ite, lookup_cons_eq_ite]
        by_cases hname : name = key <;> simp only [hname, if_true, if_false]
      · rw [if_neg hlt, if_neg hkey, lookup_cons_eq_ite, lookup_cons_eq_ite, ih]
        by_cases hname : name = k
        · have hne : ¬ name = key := fun h ↦ hkey (h.symm.trans hname)
          rw [if_pos hname, if_neg hne, if_pos hname]
        · rw [if_neg hname, if_neg hname]

end Lookup

end Json

end ShapeQuery
