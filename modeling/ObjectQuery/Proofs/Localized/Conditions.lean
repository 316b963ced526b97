import Mathlib.Data.List.Forall2
import ObjectQuery.Proofs.Meaning.Filter

/-! Locale conditions. There is one for each alias with localized rows, and it admits the rows with
a code that is bound to it and the rows without a code. -/

namespace ObjectQuery

/-- Whether a code is among those admitted. A row without a code always is. -/
def Store.admits (store : Store) (codes : List String) (code : Value) : Truth :=
  .any [store.membership code (codes.map .string), .ofBool code.isNull]

/-- A condition that limits the rows of an alias to some codes. Without a code no list is bound. -/
inductive Expr.Limits (names : Conventions) (b : Bindings) (owner : String) :
    List String → Expr → Prop where
  | none : Limits names b owner [] (.paren (.isNull false (.column owner names.localeField)))
  | some {codes : List String} {name : String} (hcodes : codes ≠ [])
      (hname : b.list? name = some (codes.map .string)) :
      Limits names b owner codes (.paren (.or [.in false (.column owner names.localeField) name,
        .isNull false (.column owner names.localeField)]))

section

variable {names : Conventions} {codes : List String} {owner : String} {final : Bindings}

theorem limits_localeCondition {b : Bindings}
    (hf : (localeCondition names codes owner b).2.entries <+: final.entries) :
    (localeCondition names codes owner b).1.Limits names final owner codes := by
  by_cases hcodes : codes = []
  · subst hcodes
    exact .none
  · have hempty : codes.isEmpty = false := by simpa using hcodes
    simp only [localeCondition, hempty] at hf ⊢
    exact .some hcodes (Bindings.list?_bind hf)

theorem limits_localeConditions {owners : List String} {b : Bindings}
    (hf : (localeConditions names codes owners b).2.entries <+: final.entries) :
    List.Forall₂ (fun owner e => e.Limits names final owner codes) owners
      (localeConditions names codes owners b).1 := by
  induction owners generalizing b with
  | nil => exact .nil
  | cons owner rest ih =>
    have hrest := (localeConditions_grows names codes rest
      (localeCondition names codes owner b).2).isPrefix
    exact .cons (limits_localeCondition (hrest.trans hf)) (ih hf)

variable (store : Store) (v : Valuation) (root : String)

theorem Expr.Limits.truth?_eq {e : Expr} (h : e.Limits names final owner codes) :
    e.truth? store v root final =
      .some (store.admits codes (v.valueOf owner names.localeField)) := by
  cases h with
  | none =>
    have hno : store.membership (v.valueOf owner names.localeField) [] = .no := rfl
    rw [Store.admits, List.map_nil, hno]
    cases hnull : (v.valueOf owner names.localeField).isNull <;>
      simp [Expr.truth?, Expr.value?, hnull, Truth.any, Truth.or, Truth.ofBool]
  | some _ hname =>
    simp [Expr.truth?, Expr.truths?, Expr.value?, hname, Store.admits]

theorem truths?_of_limits {owners : List String} {es : List Expr}
    (h : List.Forall₂ (fun owner e => e.Limits names final owner codes) owners es) :
    Expr.truths? store v root final es = some (owners.map fun owner =>
      store.admits codes (v.valueOf owner names.localeField)) := by
  induction h with
  | nil => rfl
  | cons he _ ih => simp [Expr.truths?, he.truth?_eq store v root, ih]

end

namespace Query

variable {names : Conventions} {resolver : Resolver} {q : Query}

theorem mem_localizedAliases {owner : String} : owner ∈ q.localizedAliases names resolver ↔
    (∃ c ∈ q.columns, c.aggregate = some .locale ∧ (resolver.resolve c.path).owner = owner) ∨
    ∃ path ∈ q.filter.elim [] Restriction.paths,
      (resolver.resolve path).isLocalized names = true ∧ (resolver.resolve path).owner = owner := by
  simp only [localizedAliases, List.mem_eraseDups, List.map_append, List.mem_append, List.map_map,
    List.mem_map, List.mem_filter, decide_eq_true_eq, Function.comp_apply]
  constructor
  · rintro (⟨c, ⟨hc, hlocale⟩, howner⟩ | ⟨p, ⟨⟨path, hpath, rfl⟩, hlocalized⟩, howner⟩)
    · exact .inl ⟨c, hc, hlocale, howner⟩
    · exact .inr ⟨path, hpath, hlocalized, howner⟩
  · rintro (⟨c, hc, hlocale, howner⟩ | ⟨path, hpath, hlocalized, howner⟩)
    · exact .inl ⟨c, ⟨hc, hlocale⟩, howner⟩
    · exact .inr ⟨_, ⟨⟨path, hpath, rfl⟩, hlocalized⟩, howner⟩

end Query

end ObjectQuery
