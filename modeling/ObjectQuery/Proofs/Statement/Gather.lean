import ObjectQuery.Clause.Filter
import ObjectQuery.Statement.Basic

/-! What is found in the expressions of a statement, from left to right. -/

namespace ObjectQuery

namespace Expr

section

variable {α : Type} (f : Expr → List α)

mutual

/-- What `f` finds in the parts of an expression and then in the expression itself. -/
def gather : Expr → List α
  | .call name distinct args => gatherOf args ++ f (.call name distinct args)
  | .compare op left right => left.gather ++ right.gather ++ f (.compare op left right)
  | .like e pattern => e.gather ++ pattern.gather ++ f (.like e pattern)
  | .in negated e name => e.gather ++ f (.in negated e name)
  | .between e low high => e.gather ++ low.gather ++ high.gather ++ f (.between e low high)
  | .isNull negated e => e.gather ++ f (.isNull negated e)
  | .and operands => gatherOf operands ++ f (.and operands)
  | .or operands => gatherOf operands ++ f (.or operands)
  | .not e => e.gather ++ f (.not e)
  | .paren e => e.gather ++ f (.paren e)
  | e => f e

def gatherOf : List Expr → List α
  | [] => []
  | e :: rest => e.gather ++ gatherOf rest

end

variable {f}

theorem gatherOf_append (es fs : List Expr) :
    gatherOf f (es ++ fs) = gatherOf f es ++ gatherOf f fs := by
  induction es with
  | nil => rfl
  | cons e es ih => simp only [List.cons_append, gatherOf, ih, List.append_assoc]

theorem mem_gatherOf {es : List Expr} {x : α} :
    x ∈ gatherOf f es ↔ ∃ e ∈ es, x ∈ e.gather f := by
  induction es with
  | nil => simp [gatherOf]
  | cons e es ih => simp [gatherOf, ih]

theorem gatherOf_eq_nil {es : List Expr} (h : ∀ e ∈ es, e.gather f = []) : gatherOf f es = [] := by
  apply List.eq_nil_iff_forall_not_mem.mpr
  intro x hx
  obtain ⟨e, he, hx⟩ := mem_gatherOf.mp hx
  simp [h e he] at hx

theorem gather_parenthesized (hp : ∀ e, f (.paren e) = []) (e : Expr) :
    e.parenthesized.gather f = e.gather f := by
  cases e <;> simp only [parenthesized, gather, hp, List.append_nil]

theorem gatherOf_combine (hp : ∀ e, f (.paren e) = []) {connective : List Expr → Expr}
    (hc : ∀ es, (connective es).gather f = gatherOf f es) (es : List Expr) :
    gatherOf f (combine connective es).toList = gatherOf f es := by
  match es with
  | [] => rfl
  | [e] => rfl
  | e :: g :: rest =>
    simp only [combine, Option.toList_some, gatherOf, gather, hp, hc, List.append_nil]

end

end Expr

namespace Statement

def gather {α : Type} (f : Expr → List α) (s : Statement) : List α :=
  Expr.gatherOf f s.select ++ Expr.gatherOf f s.conditions ++ Expr.gatherOf f s.groupBy

end Statement

end ObjectQuery
