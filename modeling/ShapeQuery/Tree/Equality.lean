import ShapeQuery.Tree.Basic

/-!
# Equality of trees

Two trees are equal when they have the same shape and the same parts, numbers being compared
numerically: a tree that holds a NaN differs from itself, and the two zeros do not tell trees apart.
-/

namespace ShapeQuery

mutual

/-- Equality of expressions, with numbers compared numerically. -/
def Expr.beq : Expr → Expr → Bool
  | .binary op l r, b =>
    match b with
    | .binary op' l' r' => op == op' && Expr.beq l l' && Expr.beq r r'
    | _ => false
  | .unary op e p, b =>
    match b with
    | .unary op' e' p' => op == op' && Expr.beq e e' && p == p'
    | _ => false
  | .assign op l r, b =>
    match b with
    | .assign op' l' r' => op == op' && Expr.beq l l' && Expr.beq r r'
    | _ => false
  | .declarator n (some e), b =>
    match b with
    | .declarator n' (some e') => n == n' && Expr.beq e e'
    | _ => false
  | .declarator n none, b =>
    match b with
    | .declarator n' none => n == n'
    | _ => false
  | .identifier n, b =>
    match b with
    | .identifier n' => n == n'
    | _ => false
  | .thisRef, b =>
    match b with
    | .thisRef => true
    | _ => false
  | .number x, b =>
    match b with
    | .number x' => x.numEq x'
    | _ => false
  | .string s, b =>
    match b with
    | .string s' => s == s'
    | _ => false
  | .boolean v, b =>
    match b with
    | .boolean v' => v == v'
    | _ => false
  | .call f args, b =>
    match b with
    | .call f' args' => Expr.beq f f' && Expr.beqList args args'
    | _ => false
  | .construct f args, b =>
    match b with
    | .construct f' args' => Expr.beq f f' && Expr.beqList args args'
    | _ => false
  | .function (some n) params body, b =>
    match b with
    | .function (some n') params' body' =>
      Expr.beq n n' && Expr.beqList params params' && Statement.beqList body body'
    | _ => false
  | .function none params body, b =>
    match b with
    | .function none params' body' => Expr.beqList params params' && Statement.beqList body body'
    | _ => false
  | .dot l m, b =>
    match b with
    | .dot l' m' => Expr.beq l l' && Expr.beq m m'
    | _ => false
  | .bracket l m, b =>
    match b with
    | .bracket l' m' => Expr.beq l l' && Expr.beq m m'
    | _ => false
  | .conditional t c a, b =>
    match b with
    | .conditional t' c' a' => Expr.beq t t' && Expr.beq c c' && Expr.beq a a'
    | _ => false
  | .sequence es, b =>
    match b with
    | .sequence es' => Expr.beqList es es'
    | _ => false
  | .array es, b =>
    match b with
    | .array es' => Expr.beqList es es'
    | _ => false
  | .object ps, b =>
    match b with
    | .object ps' => Expr.beqProperties ps ps'
    | _ => false

/-- Equality of lists of expressions. -/
def Expr.beqList : List Expr → List Expr → Bool
  | [], bs => bs.isEmpty
  | a :: as, bs =>
    match bs with
    | b :: bs => Expr.beq a b && Expr.beqList as bs
    | [] => false

/-- Equality of the properties of two objects. -/
def Expr.beqProperties : List (String × Expr) → List (String × Expr) → Bool
  | [], bs => bs.isEmpty
  | (k, a) :: as, bs =>
    match bs with
    | (k', b) :: bs => k == k' && Expr.beq a b && Expr.beqProperties as bs
    | [] => false

/-- Equality of statements, with numbers compared numerically. -/
def Statement.beq : Statement → Statement → Bool
  | .expression e, b =>
    match b with
    | .expression e' => Expr.beq e e'
    | _ => false
  | .returns (some e), b =>
    match b with
    | .returns (some e') => Expr.beq e e'
    | _ => false
  | .returns none, b =>
    match b with
    | .returns none => true
    | _ => false
  | .declaration ds, b =>
    match b with
    | .declaration ds' => Expr.beqList ds ds'
    | _ => false
  | .block ss, b =>
    match b with
    | .block ss' => Statement.beqList ss ss'
    | _ => false
  | .branch t c (some a), b =>
    match b with
    | .branch t' c' (some a') => Expr.beq t t' && Statement.beq c c' && Statement.beq a a'
    | _ => false
  | .branch t c none, b =>
    match b with
    | .branch t' c' none => Expr.beq t t' && Statement.beq c c'
    | _ => false
  | .loop t s, b =>
    match b with
    | .loop t' s' => Expr.beq t t' && Statement.beq s s'
    | _ => false
  | .throws e, b =>
    match b with
    | .throws e' => Expr.beq e e'
    | _ => false
  | .empty, b =>
    match b with
    | .empty => true
    | _ => false

/-- Equality of lists of statements. -/
def Statement.beqList : List Statement → List Statement → Bool
  | [], bs => bs.isEmpty
  | a :: as, bs =>
    match bs with
    | b :: bs => Statement.beq a b && Statement.beqList as bs
    | [] => false

end

instance : BEq Expr := ⟨Expr.beq⟩

instance : BEq Statement := ⟨Statement.beq⟩

end ShapeQuery
