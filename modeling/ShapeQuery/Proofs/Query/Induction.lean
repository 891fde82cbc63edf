import ShapeQuery.Query.Operation

/-!
# Induction on queries

Operations hold queries and queries are lists of operations. A statement about queries is proved
together with one about operations: it passes from the queries that an operation holds
(`Operation.nested`) to the operation, and from operations to the query that they make up.
-/

namespace ShapeQuery

/-- `P` passes from the queries inside an operation to the operation, and `Q` from the operations of
a query to the query. -/
structure QueryInduction (P : Operation → Prop) (Q : Query → Prop) : Prop where
  step : ∀ op : Operation, (∀ query ∈ op.nested, Q query) → P op
  nil : Q []
  cons : ∀ op rest, P op → Q rest → Q (op :: rest)

namespace QueryInduction

variable {P : Operation → Prop} {Q : Query → Prop}

mutual

/-- The conclusion for operations. -/
theorem operation (h : QueryInduction P Q) : ∀ op : Operation, P op
  | .operands query => h.step _ (List.forall_mem_singleton.2 (h.query query))
  | .sides one other =>
    h.step _ (List.forall_mem_cons.2 ⟨h.query one, List.forall_mem_singleton.2 (h.query other)⟩)
  | .rightSide query => h.step _ (List.forall_mem_singleton.2 (h.query query))
  | .either alternatives => h.step _ (h.queries alternatives)
  | .pass => h.step _ (List.forall_mem_nil _)
  | .guard _ => h.step _ (List.forall_mem_nil _)
  | .anonymousCall => h.step _ (List.forall_mem_nil _)
  | .hasOperator _ => h.step _ (List.forall_mem_nil _)
  | .accept _ _ => h.step _ (List.forall_mem_nil _)
  | .findCall _ => h.step _ (List.forall_mem_nil _)
  | .calleeIdentifier => h.step _ (List.forall_mem_nil _)
  | .containsThis => h.step _ (List.forall_mem_nil _)
  | .nameMatches _ => h.step _ (List.forall_mem_nil _)

/-- The conclusion for queries. -/
theorem query (h : QueryInduction P Q) : ∀ query : List Operation, Q query
  | [] => h.nil
  | op :: rest => h.cons op rest (h.operation op) (h.query rest)

theorem queries (h : QueryInduction P Q) :
    ∀ queries : List (List Operation), ∀ query ∈ queries, Q query
  | [] => List.forall_mem_nil _
  | query :: rest => List.forall_mem_cons.2 ⟨h.query query, h.queries rest⟩

end

end QueryInduction

end ShapeQuery
