import Mathlib.Data.List.Infix
import ObjectQuery.Proofs.Meaning.Filter

/-! What the tests for a prefix and for a substring match. Their value becomes part of a `LIKE`
pattern as it is, so a percent sign or an underscore in it matches more than itself. The tests are
exact just for the values that have neither. -/

namespace ObjectQuery

/-- What a pattern matches. Nothing in it stands for a percent sign or an underscore alone. -/
inductive Like : List Char → List Char → Prop where
  | nil : Like [] []
  | any {p t : List Char} (skipped : List Char) (h : Like p t) : Like ('%' :: p) (skipped ++ t)
  | one {p t : List Char} (c : Char) (h : Like p t) : Like ('_' :: p) (c :: t)
  | same {p t : List Char} {c : Char} (hany : c ≠ '%') (hone : c ≠ '_') (h : Like p t) :
      Like (c :: p) (c :: t)

namespace Like

variable {p q t : List Char} {c : Char}

theorem nil_iff : Like [] t ↔ t = [] := by
  constructor
  · intro h
    cases h
    rfl
  · rintro rfl
    exact .nil

theorem any_iff : Like ('%' :: p) t ↔ ∃ skipped rest, t = skipped ++ rest ∧ Like p rest := by
  constructor
  · intro h
    cases h with
    | any skipped h => exact ⟨skipped, _, rfl, h⟩
    | same hany => exact absurd rfl hany
  · rintro ⟨skipped, rest, rfl, h⟩
    exact .any skipped h

theorem one_iff : Like ('_' :: p) t ↔ ∃ c rest, t = c :: rest ∧ Like p rest := by
  constructor
  · intro h
    cases h with
    | one c h => exact ⟨c, _, rfl, h⟩
    | same _ hone => exact absurd rfl hone
  · rintro ⟨c, rest, rfl, h⟩
    exact .one c h

theorem same_iff (hany : c ≠ '%') (hone : c ≠ '_') :
    Like (c :: p) t ↔ ∃ rest, t = c :: rest ∧ Like p rest := by
  constructor
  · intro h
    cases h with
    | any => exact absurd rfl hany
    | one => exact absurd rfl hone
    | same _ _ h => exact ⟨_, rfl, h⟩
  · rintro ⟨rest, rfl, h⟩
    exact .same hany hone h

/-- A store tries every rest of the text behind a percent sign. -/
def test : List Char → List Char → Bool
  | [], t => t.isEmpty
  | '%' :: p, t => t.tails.any (test p)
  | _ :: _, [] => false
  | c :: p, d :: t => (c = '_' || c = d) && test p t

theorem test_iff : test p t = true ↔ Like p t := by
  induction p generalizing t with
  | nil => rw [nil_iff, test, List.isEmpty_iff]
  | cons c p ih =>
    by_cases hany : c = '%'
    · subst hany
      simp only [test, List.any_eq_true, List.mem_tails, ih, any_iff]
      constructor
      · rintro ⟨rest, ⟨skipped, rfl⟩, h⟩
        exact ⟨skipped, rest, rfl, h⟩
      · rintro ⟨skipped, rest, rfl, h⟩
        exact ⟨rest, List.suffix_append skipped rest, h⟩
    · by_cases hone : c = '_'
      · subst hone
        rw [one_iff]
        cases t <;> simp [test, ih]
      · rw [same_iff hany hone]
        cases t with
        | nil => simp [test]
        | cons d t => simpa [test, ih, hone] using fun _ => eq_comm

instance (p t : List Char) : Decidable (Like p t) :=
  decidable_of_iff _ test_iff

theorem append (hp : Like p t) {u : List Char} (hq : Like q u) : Like (p ++ q) (t ++ u) := by
  induction hp with
  | nil => exact hq
  | any skipped _ ih =>
    rw [List.cons_append, List.append_assoc]
    exact .any skipped ih
  | one c _ ih => exact .one c ih
  | same hany hone _ ih => exact .same hany hone ih

theorem exists_of_append (h : Like (p ++ q) t) :
    ∃ first rest, t = first ++ rest ∧ Like p first ∧ Like q rest := by
  induction p generalizing t with
  | nil => exact ⟨[], t, rfl, .nil, h⟩
  | cons c p ih =>
    rw [List.cons_append] at h
    cases h with
    | any skipped h =>
      obtain ⟨first, rest, rfl, hp, hq⟩ := ih h
      exact ⟨skipped ++ first, rest, (List.append_assoc ..).symm, .any skipped hp, hq⟩
    | one d h =>
      obtain ⟨first, rest, rfl, hp, hq⟩ := ih h
      exact ⟨d :: first, rest, rfl, .one d hp, hq⟩
    | same hany hone h =>
      obtain ⟨first, rest, rfl, hp, hq⟩ := ih h
      exact ⟨c :: first, rest, rfl, .same hany hone hp, hq⟩

theorem percent (t : List Char) : Like ['%'] t :=
  any_iff.mpr ⟨t, [], (List.append_nil t).symm, .nil⟩

theorem prefix_iff : Like (p ++ ['%']) t ↔ ∃ s, s <+: t ∧ Like p s := by
  constructor
  · intro h
    obtain ⟨first, rest, rfl, hp, _⟩ := exists_of_append h
    exact ⟨first, List.prefix_append first rest, hp⟩
  · rintro ⟨s, ⟨rest, rfl⟩, hp⟩
    exact hp.append (percent rest)

theorem infix_iff : Like ('%' :: (p ++ ['%'])) t ↔ ∃ s, s <:+: t ∧ Like p s := by
  rw [any_iff]
  constructor
  · rintro ⟨skipped, _, rfl, h⟩
    obtain ⟨s, ⟨rest, rfl⟩, hp⟩ := prefix_iff.mp h
    exact ⟨s, ⟨skipped, rest, List.append_assoc ..⟩, hp⟩
  · rintro ⟨s, ⟨skipped, rest, rfl⟩, hp⟩
    refine ⟨skipped, s ++ rest, List.append_assoc .., ?_⟩
    exact prefix_iff.mpr ⟨s, List.prefix_append s rest, hp⟩

/-- A text matches itself, whatever signs it has. -/
theorem refl (p : List Char) : Like p p := by
  induction p with
  | nil => exact .nil
  | cons c p ih =>
    by_cases hany : c = '%'
    · subst hany
      exact .any ['%'] ih
    · by_cases hone : c = '_'
      · subst hone
        exact .one '_' ih
      · exact .same hany hone ih

theorem eq_of_plain (hany : '%' ∉ p) (hone : '_' ∉ p) (h : Like p t) : t = p := by
  induction h with
  | nil => rfl
  | any => simp at hany
  | one => simp at hone
  | same _ _ _ ih => rw [ih (by simp_all) (by simp_all)]

/-- The text with a dash for each sign. -/
def filled (p : List Char) : List Char :=
  p.map fun c => if c = '%' ∨ c = '_' then '-' else c

theorem like_filled (p : List Char) : Like p (filled p) := by
  induction p with
  | nil => exact .nil
  | cons c p ih =>
    by_cases hany : c = '%'
    · subst hany
      exact .any ['-'] ih
    · by_cases hone : c = '_'
      · subst hone
        exact .one '-' ih
      · have hc : filled (c :: p) = c :: filled p := by simp [filled, hany, hone]
        rw [hc]
        exact .same hany hone ih

theorem length_filled (p : List Char) : (filled p).length = p.length :=
  List.length_map _

theorem not_mem_filled (p : List Char) : '%' ∉ filled p ∧ '_' ∉ filled p := by
  constructor
  all_goals
    intro h
    obtain ⟨c, _, hc⟩ := List.mem_map.mp h
    split at hc
    · cases hc
    · rename_i hplain
      simp [hc] at hplain

end Like

/-- Where the operators for a prefix and for a substring look for a text. -/
def Operator.Finds (s t : List Char) : Operator → Prop
  | .startsWith => s <+: t
  | .contains => s <:+: t
  | _ => False

namespace Operator

variable {operator : Operator} {s t : List Char}

theorem Finds.eq_of_length (h : operator.Finds s t) (hl : s.length = t.length) : s = t := by
  cases operator with
  | startsWith => exact List.IsPrefix.eq_of_length h hl
  | contains => exact List.IsInfix.eq_of_length h hl
  | _ => exact h.elim

theorem pattern?_finds (ho : operator = .startsWith ∨ operator = .contains) (v : String) :
    ∃ pattern, operator.pattern? v = some pattern ∧
      ∀ t, Like pattern.toList t ↔ ∃ s, operator.Finds s t ∧ Like v.toList s := by
  rcases ho with rfl | rfl
  · refine ⟨_, rfl, fun t => ?_⟩
    rw [String.toList_append]
    exact Like.prefix_iff
  · refine ⟨_, rfl, fun t => ?_⟩
    rw [String.toList_append, String.toList_append]
    exact Like.infix_iff

theorem finds_exact_iff (ho : operator = .startsWith ∨ operator = .contains) {v : List Char} :
    (∀ t, (∃ s, operator.Finds s t ∧ Like v s) ↔ operator.Finds v t) ↔
      '%' ∉ v ∧ '_' ∉ v := by
  constructor
  · intro h
    -- Of the filled value the test is true, so it must be the value itself.
    have hself : operator.Finds (Like.filled v) (Like.filled v) := by
      rcases ho with rfl | rfl
      · exact List.prefix_refl _
      · exact List.infix_refl _
    have hfilled := (h (Like.filled v)).mp ⟨_, hself, Like.like_filled v⟩
    rw [hfilled.eq_of_length (Like.length_filled v).symm]
    exact Like.not_mem_filled v
  · rintro ⟨hany, hone⟩ t
    constructor
    · rintro ⟨s, hs, h⟩
      rwa [Like.eq_of_plain hany hone h] at hs
    · intro h
      exact ⟨v, h, Like.refl v⟩

end Operator

/-- Texts are matched as `Like` says. -/
def Store.MatchesLike (store : Store) : Prop :=
  ∀ text pattern : String, store.matchesLike (.string text) (.string pattern) = true ↔
    Like pattern.toList text.toList

namespace Expr

variable {store : Store} {valuation : Valuation} {root t pattern name : String} {e : Expr}
  {b : Bindings}

theorem truth?_like_eq_yes (hstore : store.MatchesLike)
    (ht : e.value? valuation root b = some (.string t))
    (hpattern : b.scalar? name = some (.string pattern)) :
    (like e (.param name)).truth? store valuation root b = some .yes ↔
      Like pattern.toList t.toList := by
  have hlikeness : store.likeness (.string t) (.string pattern) =
      .ofBool (store.matchesLike (.string t) (.string pattern)) := rfl
  rw [← hstore t pattern, ← Truth.ofBool_eq_yes, ← hlikeness]
  simp [truth?, ht, hpattern]

end Expr

section

variable (resolver : Resolver) (path : String) (b : Bindings)

theorem filterCondition_pattern {operator : Operator} {y : Value} {pattern : String}
    (hy : y.isNull = false) (ho : operator.pattern? y.patternText = some pattern) :
    filterCondition resolver (.simple path operator [y]) b =
      let p := resolver.resolve path
      let bound := b.bind (parameterBase p.qualified) (.scalar (.string pattern))
      .ok (some (.like p.expr (.param bound.1)), bound.2) := by
  cases operator <;> cases ho <;>
    simp [filterCondition, simpleCondition, valueCondition, scalarCondition, hy,
      Operator.comparison?, Operator.pattern?]

theorem ResolvedPath.exists_valuation (p : ResolvedPath) (root : String) (x : Value) :
    ∃ valuation, ∀ b, p.expr.value? valuation root b = some x := by
  refine ⟨⟨fun _ _ => x, fun _ => .unknown⟩, fun b => ?_⟩
  unfold ResolvedPath.expr
  split <;> rfl

/-- The test for a prefix is true of the texts with a prefix that its value matches as a pattern,
and the test for a substring alike. So neither misses a text that has the value itself, and they
accept no other text just if the value has neither sign. -/
theorem textTest_truth {operator : Operator} (ho : operator = .startsWith ∨ operator = .contains)
    (v : String) :
    ∃ e b', filterCondition resolver (.simple path operator [.string v]) b = .ok (some e, b') ∧
      ∀ (store : Store) (root : String) (final : Bindings), store.MatchesLike →
        b'.entries <+: final.entries →
        (∀ (valuation : Valuation) (t : String),
          (resolver.resolve path).expr.value? valuation root final = some (.string t) →
          (e.truth? store valuation root final = some .yes ↔
            ∃ s, operator.Finds s t.toList ∧ Like v.toList s) ∧
          (operator.Finds v.toList t.toList → e.truth? store valuation root final = some .yes)) ∧
        ((∀ (valuation : Valuation) (t : String),
          (resolver.resolve path).expr.value? valuation root final = some (.string t) →
          (e.truth? store valuation root final = some .yes ↔
            operator.Finds v.toList t.toList)) ↔ '%' ∉ v.toList ∧ '_' ∉ v.toList) := by
  obtain ⟨pattern, hpattern, hfinds⟩ := operator.pattern?_finds ho v
  refine ⟨_, _, filterCondition_pattern resolver path b rfl hpattern, ?_⟩
  intro store root final hstore hf
  have htruth {valuation : Valuation} {t : String}
      (ht : (resolver.resolve path).expr.value? valuation root final = some (.string t)) :=
    (Expr.truth?_like_eq_yes hstore ht (Bindings.scalar?_bind hf)).trans (hfinds t.toList)
  constructor
  · intro valuation t ht
    refine ⟨htruth ht, fun h => ?_⟩
    exact (htruth ht).mpr ⟨v.toList, h, Like.refl _⟩
  · rw [← Operator.finds_exact_iff ho]
    constructor
    · intro h t
      obtain ⟨valuation, ht⟩ :=
        (resolver.resolve path).exists_valuation root (.string (String.ofList t))
      have hexact := (htruth (ht final)).symm.trans (h valuation _ (ht final))
      rwa [String.toList_ofList] at hexact
    · intro h valuation t ht
      exact (htruth ht).trans (h t.toList)

end

/-- A store that knows texts only. -/
def Store.texts : Store where
  compare _ _ _ := false
  matchesLike
    | .string text, .string pattern => Like.test pattern.toList text.toList
    | _, _ => false

theorem Store.texts_matchesLike : Store.texts.MatchesLike :=
  fun _ _ => Like.test_iff

def codeText (t : String) : Valuation :=
  ⟨fun _ _ => .string t, fun _ => .unknown⟩

/-- A value with a backslash has no sign. -/
theorem textTest_truth_backslash : ∃ e b',
    filterCondition (.dotted "obj") (.simple "code" .contains [.string "B\\"]) .empty =
      .ok (some e, b') ∧
    e.truth? .texts (codeText "AB\\%C") "obj" b' = some .yes ∧
    e.truth? .texts (codeText "AB_C") "obj" b' ≠ some .yes := by
  have hcontains : Operator.contains = .startsWith ∨ Operator.contains = .contains := .inr rfl
  obtain ⟨e, b', he, htruth⟩ :=
    textTest_truth (.dotted "obj") "code" .empty hcontains "B\\"
  obtain ⟨_, hexact⟩ := htruth .texts "obj" b' Store.texts_matchesLike (List.prefix_refl _)
  have hfinds := hexact.mpr (by decide)
  have hfound : "B\\".toList <:+: "AB\\%C".toList := by decide
  have hmissed : ¬ "B\\".toList <:+: "AB_C".toList := by decide
  exact ⟨e, b', he, (hfinds (codeText "AB\\%C") _ rfl).mpr hfound,
    mt (hfinds (codeText "AB_C") _ rfl).mp hmissed⟩

/-- An underscore is no prefix of this text and a percent sign no substring, but both tests are
true of it. -/
theorem signs_match_other_texts :
    Store.texts.MatchesLike ∧
    (∃ e b', filterCondition (.dotted "obj") (.simple "code" .startsWith [.string "_"]) .empty =
        .ok (some e, b') ∧
      e.truth? .texts (codeText "AB") "obj" b' = some .yes ∧ ¬ "_".toList <+: "AB".toList) ∧
    ∃ e b', filterCondition (.dotted "obj") (.simple "code" .contains [.string "%"]) .empty =
        .ok (some e, b') ∧
      e.truth? .texts (codeText "AB") "obj" b' = some .yes ∧ ¬ "%".toList <:+: "AB".toList := by
  refine ⟨Store.texts_matchesLike, ⟨_, _, rfl, ?_, ?_⟩, _, _, rfl, ?_, ?_⟩
  all_goals decide

end ObjectQuery
