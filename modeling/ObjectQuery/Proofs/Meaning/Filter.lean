import ObjectQuery.Proofs.Meaning.Condition
import ObjectQuery.Proofs.Parameter.Slots

/-! The condition of a filter means what the filter means, with every placeholder read in the
parameters of the whole statement. -/

namespace ObjectQuery

namespace Bindings

variable {b final : Bindings} {base : String}

theorem scalar?_bind {x : Value} (h : (b.bind base (.scalar x)).2.entries <+: final.entries) :
    final.scalar? (b.bind base (.scalar x)).1 = some x := by
  rw [scalar?, find?_of_isPrefix h (find?_bind_self b base _)]

theorem list?_bind {values : List Value}
    (h : (b.bind base (.list values)).2.entries <+: final.entries) :
    final.list? (b.bind base (.list values)).1 = some values := by
  rw [list?, find?_of_isPrefix h (find?_bind_self b base _)]

end Bindings

namespace Operator

variable (store : Store) (x : Value)

theorem truth_of_comparison? {operator : Operator} {op : Comparison} {y : Value}
    (hy : y.isNull = false) (ho : operator.comparison? = some op) :
    operator.truth store x [y] = store.comparison op x y := by
  cases operator <;> cases ho <;> cases y <;> first | rfl | cases hy

theorem truth_of_pattern? {operator : Operator} {y : Value} {pattern : String}
    (ho : operator.pattern? y.patternText = some pattern) :
    operator.truth store x [y] = store.likeness x (.string pattern) := by
  cases operator <;> cases ho <;> rfl

end Operator

theorem Resolver.owner_of_not_related {root path : String}
    (h : ((dotted root).resolve path).isRelated = false) :
    ((dotted root).resolve path).owner = root := by
  simp only [dotted, Bool.not_eq_false'] at h ⊢
  rw [if_pos h]

theorem isSome_combine (connective : List Expr → Expr) (es : List Expr) :
    (combine connective es).isSome = !es.isEmpty := by
  match es with
  | [] | [_] | _ :: _ :: _ => rfl

theorem leafLaw (resolver : Resolver) :
    FilterLaw resolver (fun r _ o _ => o.isSome = r.hasLeaf)
      (fun children _ es _ => (!es.isEmpty) = Restriction.anyHasLeaf children) where
  simple _ := rfl
  and h := (isSome_combine _ _).trans h
  or h := (isSome_combine _ _).trans h
  not h := Option.isSome_map.trans h
  arbitrary := rfl
  nil := rfl
  gap h := h
  child {_ _ _ operand _ _ _} _ _ h h' := by
    rw [Restriction.anyHasLeaf, ← h, ← h']
    cases operand <;> rfl

section

variable {store : Store} {v : Valuation} {root : String}

theorem ResolvedPath.value?_expr (path : String) (b : Bindings) :
    let p := (Resolver.dotted root).resolve path
    p.expr.value? v root b = some (v.valueOf p.owner p.field) := by
  intro p
  unfold ResolvedPath.expr
  split
  · rename_i hp
    have hr : p.isRelated = false := by simpa using hp.2
    have howner : p.owner = root := Resolver.owner_of_not_related hr
    rw [Expr.value?, hp.1, howner]
  · rw [Expr.value?]

/-- An argument is read where its name was bound, however many more are bound behind it. -/
theorem ValueCondition.truth {target e : Expr} {base : String} {operator : Operator}
    {values : List Value} {b b' final : Bindings} {x : Value}
    (h : ValueCondition target base b operator values e b')
    (hx : target.value? v root final = some x) (hf : b'.entries <+: final.entries) :
    e.truth? store v root final = some (operator.truth store x values) := by
  cases h with
  | isIn | notIn =>
    have hl := Bindings.list?_bind hf
    simp [Expr.truth?, hx, hl, Operator.truth]
  | between low high =>
    have hlow := Bindings.scalar?_bind ((Bindings.Grows.one _ base high).isPrefix.trans hf)
    have hhigh := Bindings.scalar?_bind hf
    simp [Expr.truth?, hx, hlow, hhigh, Operator.truth]
  | isNull | isNotNull => simp [Expr.truth?, hx, Operator.truth]
  | @compare _ op y hy ho =>
    have hv := Bindings.scalar?_bind hf
    simp [Expr.truth?, hx, hv, Operator.truth_of_comparison? store x hy ho]
  | @like _ y pattern _ ho =>
    have hv := Bindings.scalar?_bind hf
    simp [Expr.truth?, hx, hv, Operator.truth_of_pattern? store x ho]

namespace Expr

theorem truth?_parenthesized (e : Expr) (b : Bindings) :
    e.parenthesized.truth? store v root b = e.truth? store v root b := by
  cases e <;> rfl

theorem truths?_toList_append {o : Option Expr} {es : List Expr} {b : Bindings} {ts : List Truth}
    (hes : truths? store v root b es = some ts) :
    truths? store v root b (o.toList ++ es) =
      o.elim (some ts) fun e => (e.truth? store v root b).map (· :: ts) := by
  cases o with
  | none => exact hes
  | some e =>
    cases he : e.truth? store v root b with
    | none => simp [truths?, he]
    | some t => simp [truths?, he, hes]

/-- One operand stands for itself, since it is neutral to conjoin or disjoin nothing else. -/
theorem truth?_combine {connective : List Expr → Expr} {fold : List Truth → Truth} {b : Bindings}
    (hc : ∀ es, (connective es).truth? store v root b = (truths? store v root b es).map fold)
    (hf : ∀ t, fold [t] = t) {es : List Expr} {ts : List Truth}
    (hes : truths? store v root b es = some ts) {e : Expr} (he : combine connective es = some e) :
    e.truth? store v root b = some (fold ts) := by
  match es, he with
  | [f], he =>
    obtain rfl : f = e := Option.some.inj he
    cases ht : f.truth? store v root b with
    | none => simp [truths?, ht] at hes
    | some t =>
      obtain rfl : [t] = ts := by simpa [truths?, ht] using hes
      rw [hf]
  | f :: g :: rest, he =>
    obtain rfl := Option.some.inj he
    rw [truth?, hc, hes]
    rfl

end Expr

theorem truthLaw (store : Store) (v : Valuation) (root : String) :
    FilterLaw (.dotted root)
      (fun r _ o b' => ∀ final : Bindings, b'.entries <+: final.entries → ∀ e, o = some e →
        e.truth? store v root final = some (r.truth store v (.dotted root)))
      (fun children _ es b' => ∀ final : Bindings, b'.entries <+: final.entries →
        Expr.truths? store v root final es =
          some (Restriction.childTruths store v (.dotted root) children)) where
  simple {path _ _ _ _ _} h := by
    intro final hf e he
    cases he
    exact h.truth (ResolvedPath.value?_expr path final) hf
  and h := by
    intro final hf e he
    exact Expr.truth?_combine (fun _ => rfl) Truth.all_singleton (h final hf) he
  or h := by
    intro final hf e he
    exact Expr.truth?_combine (fun _ => rfl) Truth.any_singleton (h final hf) he
  not {_ _ inner _} h := by
    intro final hf e he
    obtain ⟨f, rfl, rfl⟩ := Option.map_eq_some_iff.mp he
    rw [Expr.truth?, Expr.truth?_parenthesized, h final hf f rfl]
    rfl
  arbitrary {_ _} := by
    intro final _ e he
    cases he
    rfl
  nil := fun _ _ => rfl
  gap h := h
  child {child rest _ operand _ operands _} hchild hrest h h' := by
    intro final hf
    have hadded := ((growthLaw _).operands hrest).isPrefix
    have hl := (leafLaw _).filter hchild
    rw [Expr.truths?_toList_append (h' final hf), Restriction.childTruths]
    cases operand with
    | none =>
      have hl : child.hasLeaf = false := hl.symm
      simp [hl]
    | some e =>
      have hl : child.hasLeaf = true := hl.symm
      have ht := h final (hadded.trans hf) e rfl
      simp [hl, ht]

end

namespace Compiler

end Compiler

end ObjectQuery
