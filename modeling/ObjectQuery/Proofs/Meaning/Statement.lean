import ObjectQuery.Proofs.Localized.Conditions

/-! The truth of the conditions of a whole statement. They hold together, so a statement admits a
valuation exactly when the filter of its query holds and every localized row has an admitted
code. -/

namespace ObjectQuery

namespace Truth

theorem and_eq_yes {s t : Truth} : s.and t = .yes ↔ s = .yes ∧ t = .yes := by
  cases s <;> cases t <;> simp [and]

theorem yes_and (t : Truth) : Truth.yes.and t = t := by
  cases t <;> rfl

theorem all_cons (t : Truth) (ts : List Truth) : all (t :: ts) = t.and (all ts) :=
  rfl

theorem all_eq_yes {ts : List Truth} : all ts = .yes ↔ ∀ t ∈ ts, t = .yes := by
  induction ts with
  | nil => simp [all]
  | cons t rest ih => simp [all_cons, and_eq_yes, ih]

end Truth

/-- The truth of the conditions of a statement, with its own arguments. -/
def Compiled.truth? (store : Store) (v : Valuation) (s : Compiled) : Option Truth :=
  (Expr.truths? store v s.statement.root s.parameters s.statement.conditions).map .all

/-- The truth of the filter. A filter that says nothing holds. -/
def Query.filterTruth (store : Store) (v : Valuation) (resolver : Resolver) (q : Query) : Truth :=
  q.filter.elim .yes fun r => if r.hasLeaf then r.truth store v resolver else .yes

namespace Compiler

variable {names : Conventions} {q : Query} {s : Compiled}

theorem compile_limits {resolver : Resolver}
    (h : (resolving names resolver).compile q = .ok s) :
    ∃ filter b locale,
      filterCondition resolver (q.filter.getD (.and [])) .empty = .ok (filter, b) ∧
      b.entries <+: s.parameters.entries ∧
      s.statement.conditions = filter.toList ++ locale ∧
      List.Forall₂ (fun owner e => e.Limits names s.parameters owner q.locale.fallback)
        (q.localizedAliases names resolver) locale := by
  obtain ⟨filter, b, hf, hconditions, hparameters⟩ :=
    conditions_parts (compile_parts h).1.conditions
  refine ⟨filter, b, _, hf, ?_, hconditions, limits_localeConditions ?_⟩
  · rw [hparameters]
    exact (localeConditions_grows names _ _ b).isPrefix
  · rw [hparameters]
    exact List.prefix_refl _

/-- In front of the locale conditions stands the filter, where it has anything to say. -/
theorem compile_filterTruth {root : String}
    (h : (resolving names (.dotted root)).compile q = .ok s) :
    ∃ (filter : Option Expr) (locale : List Expr),
      s.statement.conditions = filter.toList ++ locale ∧
      List.Forall₂ (fun owner e => e.Limits names s.parameters owner q.locale.fallback)
        (q.localizedAliases names (.dotted root)) locale ∧
      filter.isSome = q.filter.any Restriction.hasLeaf ∧
      ∀ (store : Store) (v : Valuation),
        (filter.elim (some .yes) fun e => e.truth? store v root s.parameters) =
          some (q.filterTruth store v (.dotted root)) := by
  obtain ⟨filter, b, locale, hf, hb, hconditions, hlimits⟩ := compile_limits h
  have hleaf := (leafLaw (.dotted root)).filter hf
  refine ⟨filter, locale, hconditions, hlimits, ?_, fun store v => ?_⟩
  · rw [hleaf]
    cases q.filter <;> rfl
  · have htruth := (truthLaw store v root).filter hf s.parameters hb
    rw [Query.filterTruth]
    cases hq : q.filter with
    | none =>
      rw [hq, Option.getD_none] at hleaf
      have hnone : filter = none := by
        simpa [Restriction.hasLeaf, Restriction.anyHasLeaf] using hleaf
      simp [hnone]
    | some r =>
      rw [hq, Option.getD_some] at hleaf htruth
      cases filter with
      | none =>
        have hr : r.hasLeaf = false := hleaf.symm
        simp [hr]
      | some e =>
        have hr : r.hasLeaf = true := hleaf.symm
        simp [hr, htruth e rfl]

theorem compile_truth {root : String} (h : (resolving names (.dotted root)).compile q = .ok s)
    (store : Store) (v : Valuation) :
    s.truth? store v = some ((q.filterTruth store v (.dotted root)).and
      (.all ((q.localizedAliases names (.dotted root)).map fun owner =>
        store.admits q.locale.fallback (v.valueOf owner names.localeField)))) := by
  obtain ⟨filter, locale, hconditions, hlimits, _, hfilter⟩ := compile_filterTruth h
  have hroot : s.statement.root = root := (compile_parts h).1.root
  have hlocale := truths?_of_limits store v root hlimits
  have htruth := hfilter store v
  rw [Compiled.truth?, hroot, hconditions, Expr.truths?_toList_append hlocale]
  cases filter with
  | none =>
    obtain hyes : Truth.yes = q.filterTruth store v (.dotted root) := Option.some.inj htruth
    simp [← hyes, Truth.yes_and]
  | some e =>
    rw [Option.elim_some] at htruth
    simp [htruth, Truth.all_cons]

end Compiler

end ObjectQuery
