import ObjectQuery.Proofs.Compiler.Parts
import ObjectQuery.Proofs.Shape.Filter

/-! Values have no part in the text of a statement. Queries of one shape, whose filters differ in
values alone and whose locales are both roots or both not, cannot be told apart by what they compile
to, but for the arguments themselves. -/

namespace ObjectQuery

theorem Locale.isEmpty_fallback (l : Locale) : l.fallback.isEmpty = l.isRoot := by
  unfold fallback
  cases l.isRoot <;> simp

/-- Queries that differ in the values of their filters, and in locales that are both the root or
both not. -/
structure Query.SameShape (q p : Query) : Prop where
  entity : q.entity = p.entity
  columns : q.columns = p.columns
  filter : Option.Rel Restriction.SameShape q.filter p.filter
  sort : q.sort = p.sort
  locale : q.locale.isRoot = p.locale.isRoot
  includeId : q.includeId = p.includeId
  distinctId : q.distinctId = p.distinctId
  totalCount : q.totalCount = p.totalCount

theorem localeCondition_agree {names : Conventions} {codes more : List String}
    (hc : codes.isEmpty = more.isEmpty) (owner : String) {b c : Bindings} (hb : b.kinds = c.kinds) :
    (localeCondition names codes owner b).1 = (localeCondition names more owner c).1 ∧
      (localeCondition names codes owner b).2.kinds =
        (localeCondition names more owner c).2.kinds := by
  unfold localeCondition
  by_cases he : codes.isEmpty = true
  · rw [if_pos he, if_pos (hc ▸ he)]
    exact ⟨rfl, hb⟩
  · rw [if_neg he, if_neg (hc ▸ he)]
    dsimp only
    rw [Bindings.bind_name_eq hb _ (.list (codes.map .string)) (.list (more.map .string))]
    refine ⟨rfl, Bindings.kinds_bind_eq hb _ ?_⟩
    rfl

theorem localeConditions_agree {names : Conventions} {codes more : List String}
    (hc : codes.isEmpty = more.isEmpty) (owners : List String) {b c : Bindings}
    (hb : b.kinds = c.kinds) :
    (localeConditions names codes owners b).1 = (localeConditions names more owners c).1 ∧
      (localeConditions names codes owners b).2.kinds =
        (localeConditions names more owners c).2.kinds := by
  induction owners generalizing b c with
  | nil => exact ⟨rfl, hb⟩
  | cons owner rest ih =>
    obtain ⟨hcondition, hk⟩ := localeCondition_agree hc owner hb
    obtain ⟨hconditions, hk'⟩ := ih hk
    exact ⟨List.cons_eq_cons.mpr ⟨hcondition, hconditions⟩, hk'⟩

namespace Query.SameShape

variable {q p : Query}

theorem exists_eq (h : q.SameShape p) :
    ∃ filter locale, p = { q with filter := filter, locale := locale } := by
  obtain ⟨he, hc, _, hs, _, hi, hd, ht⟩ := h
  refine ⟨p.filter, p.locale, ?_⟩
  rw [he, hc, hs, hi, hd, ht]

theorem filter_getD (h : q.SameShape p) :
    (q.filter.getD (.and [])).SameShape (p.filter.getD (.and [])) := by
  have hf := h.filter
  generalize q.filter = o, p.filter = o' at hf
  cases hf with
  | none => exact .and .nil
  | some hr => exact hr

/-- What is read off the filter without its values is the same. -/
theorem elim_filter_eq (h : q.SameShape p) {α : Type} (d : α) {f : Restriction → α}
    (hf : ∀ {r t : Restriction}, r.SameShape t → f r = f t) :
    q.filter.elim d f = p.filter.elim d f := by
  have hr := h.filter
  generalize q.filter = o, p.filter = o' at hr
  cases hr with
  | none => rfl
  | some hr => exact hf hr

theorem gapDiagnostics_eq (h : q.SameShape p) : q.gapDiagnostics = p.gapDiagnostics := by
  rw [gapDiagnostics, gapDiagnostics, h.elim_filter_eq [] Restriction.SameShape.gaps_eq]

theorem groupDiagnostics_eq (h : q.SameShape p) : q.groupDiagnostics = p.groupDiagnostics := by
  obtain ⟨_, _, rfl⟩ := h.exists_eq
  rfl

theorem check_eq (h : q.SameShape p) : Compiler.check q = Compiler.check p := by
  obtain ⟨_, _, rfl⟩ := h.exists_eq
  rfl

theorem countCheck_eq (h : q.SameShape p) : Compiler.countCheck q = Compiler.countCheck p := by
  obtain ⟨_, _, rfl⟩ := h.exists_eq
  rfl

theorem paths_eq (h : q.SameShape p) : q.paths = p.paths := by
  rw [paths, paths, h.columns, h.elim_filter_eq [] Restriction.SameShape.paths_eq]

theorem select_eq (h : q.SameShape p) (names : Conventions) (resolver : Resolver) :
    q.select names resolver = p.select names resolver := by
  obtain ⟨_, _, rfl⟩ := h.exists_eq
  rfl

theorem rows_eq (h : q.SameShape p) (c : Compiler) (conditions : List Expr) :
    c.rows q conditions = c.rows p conditions := by
  have hjoins : q.joins c.resolver = p.joins c.resolver := joins_congr h.paths_eq
  rw [Compiler.rows, Compiler.rows, hjoins]
  obtain ⟨_, _, rfl⟩ := h.exists_eq
  rfl

theorem localizedAliases_eq (h : q.SameShape p) (names : Conventions) (resolver : Resolver) :
    q.localizedAliases names resolver = p.localizedAliases names resolver := by
  rw [localizedAliases, localizedAliases, h.columns,
    h.elim_filter_eq [] Restriction.SameShape.paths_eq]

theorem localeConditions_agree (h : q.SameShape p) (names : Conventions) (resolver : Resolver)
    {b c : Bindings} (hb : b.kinds = c.kinds) :
    (q.localeConditions names resolver b).1 = (p.localeConditions names resolver c).1 ∧
      (q.localeConditions names resolver b).2.kinds =
        (p.localeConditions names resolver c).2.kinds := by
  have hcodes : q.locale.fallback.isEmpty = p.locale.fallback.isEmpty := by
    rw [Locale.isEmpty_fallback, Locale.isEmpty_fallback, h.locale]
  rw [Query.localeConditions, Query.localeConditions, h.localizedAliases_eq]
  exact ObjectQuery.localeConditions_agree hcodes _ hb

end Query.SameShape

namespace Compiler

variable {names : Conventions} {resolver : Resolver} {q p : Query}

theorem conditions_agree (h : q.SameShape p) :
    Agree ((resolving names resolver).conditions q) ((resolving names resolver).conditions p) := by
  rw [conditions_eq, conditions_eq]
  apply (filterCondition_agree resolver h.filter_getD rfl).bind
  intro filter b c hk
  obtain ⟨hlocale, hk'⟩ := h.localeConditions_agree names resolver hk
  dsimp only
  rw [hlocale]
  exact .ok _ hk'

theorem joinedConditions_agree (h : q.SameShape p) :
    Agree ((resolving names resolver).joinedConditions q)
      ((resolving names resolver).joinedConditions p) := by
  rw [joinedConditions, joinedConditions, Query.follow_congr h.paths_eq]
  cases p.follow resolver with
  | error e => exact .error e
  | ok _ => exact conditions_agree h

theorem rowConditions_agree (h : q.SameShape p) :
    Agree ((resolving names resolver).rowConditions q)
      ((resolving names resolver).rowConditions p) := by
  rw [rowConditions, rowConditions, h.select_eq]
  apply (joinedConditions_agree h).bind
  intro es b c hk
  cases p.select names resolver with
  | error e => exact .error e
  | ok _ => exact .ok es hk

theorem countConditions_agree (h : q.SameShape p) :
    Agree ((resolving names resolver).countConditions q)
      ((resolving names resolver).countConditions p) := by
  rw [countConditions, countConditions, h.includeId]
  split
  · exact rowConditions_agree h
  · exact joinedConditions_agree h

/-- What anyone sees of two compilations but the arguments: the same error, or the same statement
and remarks, with parameters of the same names and kinds. -/
def Indistinguishable : Except CompileError Compiled → Except CompileError Compiled → Prop
  | .error e, .error e' => e = e'
  | .ok s, .ok t => s.text = t.text ∧ s.diagnostics = t.diagnostics ∧
      s.parameters.names = t.parameters.names ∧
      ∀ name, (s.parameters.find? name).map Argument.isList =
        (t.parameters.find? name).map Argument.isList
  | _, _ => False

theorem Indistinguishable.of_agree {conditions others : Except CompileError (List Expr × Bindings)}
    (h : Agree conditions others) (check : Except CompileError Unit)
    (statement : List Expr → Statement) (remarks : List Diagnostic) :
    Indistinguishable
      (do
        check
        let (es, b) ← conditions
        return ⟨statement es, b, remarks⟩)
      (do
        check
        let (es, b) ← others
        return ⟨statement es, b, remarks⟩) := by
  cases check with
  | error e => rfl
  | ok _ =>
    cases h with
    | error e => rfl
    | @ok es b c hk =>
      refine ⟨rfl, rfl, ?_, ?_⟩
      · change b.names = c.names
        rw [Bindings.names_eq_map_kinds, Bindings.names_eq_map_kinds, hk]
      · intro name
        change (b.find? name).map _ = (c.find? name).map _
        rw [← Bindings.lookup_kinds, ← Bindings.lookup_kinds, hk]

/-- Values and the codes of a locale show neither in the text nor in an error. -/
theorem compile_indistinguishable (h : q.SameShape p) :
    Indistinguishable ((resolving names resolver).compile q)
        ((resolving names resolver).compile p) ∧
      Indistinguishable ((resolving names resolver).compileCount q)
        ((resolving names resolver).compileCount p) := by
  have hrows : (resolving names resolver).rows q = (resolving names resolver).rows p :=
    funext (h.rows_eq _)
  constructor
  · rw [compile_eq, compile_eq, h.check_eq, h.gapDiagnostics_eq, h.groupDiagnostics_eq, hrows]
    exact .of_agree (rowConditions_agree h) _ _ _
  · rw [compileCount_eq, compileCount_eq, h.countCheck_eq, h.gapDiagnostics_eq,
      h.groupDiagnostics_eq, hrows, h.includeId]
    exact .of_agree (countConditions_agree h) (countCheck p)
      (fun es => ((resolving names resolver).rows p es).projecting _) _

/-- A query with a text, two limits and a list of codes in its filter. -/
def lookupQuery (title : String) (low high : Int64) (codes : List Value) (locale : Locale) :
    Query :=
  { Query.ofEntity "Order" with
    columns := [⟨"customer.name", none⟩]
    filter := some (.and [none, some (.simple "localeData.title" .contains [.string title]),
      some (.not (.or [some (.simple "total" .between [.int low, .int high]),
        some (.simple "status" .notIn codes)])), some (.eq "region" .null)])
    locale := locale }

theorem sameShape_lookupQuery {title title' : String} {low high low' high' : Int64}
    {codes codes' : List Value} {locale locale' : Locale} (hc : codes = [] ↔ codes' = [])
    (hl : locale.isRoot = locale'.isRoot) :
    (lookupQuery title low high codes locale).SameShape
      (lookupQuery title' low' high' codes' locale') := by
  have htitle : Operator.contains.SameArity [.string title] [.string title'] := by
    simp [Operator.SameArity, Value.isNull]
  have htotal : Operator.between.SameArity [.int low, .int high] [.int low', .int high'] := Iff.rfl
  have hregion : Operator.equals.SameArity [.null] [.null] := by
    simp [Operator.SameArity, Value.isNull]
  refine ⟨rfl, rfl, .some ?_, rfl, hl, rfl, rfl, rfl⟩
  exact .and (.gap (.child (.simple _ htitle) (.child
    (.not (.or (.child (.simple _ htotal) (.child (.simple _ hc) .nil))))
    (.child (.simple _ hregion) .nil))))

theorem compile_indistinguishable_lookup : ∃ s t : Compiled,
    standard.compile (lookupQuery "a' OR 1 = 1" 1 2 [.null] ⟨"en", "US", ""⟩) = .ok s ∧
      standard.compile (lookupQuery ":total" 9 0 [.bool true, .int 4] ⟨"fr", "", ""⟩) = .ok t ∧
      s.text = t.text ∧ s.parameters.names = ["localeDatatitle", "objtotal", "objtotal_1",
        "objstatus", "localeDatalocale"] ∧ t.parameters.names = s.parameters.names := by
  obtain ⟨s, hs, hn⟩ : ∃ s : Compiled,
      standard.compile (lookupQuery "a' OR 1 = 1" 1 2 [.null] ⟨"en", "US", ""⟩) = .ok s ∧
        s.parameters.names = ["localeDatatitle", "objtotal", "objtotal_1", "objstatus",
          "localeDatalocale"] := ⟨_, rfl, rfl⟩
  obtain ⟨t, ht⟩ : ∃ t : Compiled,
      standard.compile (lookupQuery ":total" 9 0 [.bool true, .int 4] ⟨"fr", "", ""⟩) = .ok t :=
    ⟨_, rfl⟩
  have hshape : (lookupQuery "a' OR 1 = 1" 1 2 [.null] ⟨"en", "US", ""⟩).SameShape
      (lookupQuery ":total" 9 0 [.bool true, .int 4] ⟨"fr", "", ""⟩) :=
    sameShape_lookupQuery (by simp) rfl
  have h : Indistinguishable (standard.compile _) (standard.compile _) :=
    (compile_indistinguishable hshape).1
  rw [hs, ht] at h
  exact ⟨s, t, hs, ht, h.1, hn, h.2.2.1.symm⟩

end Compiler

end ObjectQuery
