import ObjectQuery.Proofs.Compiler.Parts
import ObjectQuery.Proofs.Filter.Normal

/-! What says nothing in a filter is not seen. A query and the query with its filter in normal form
compile to the same statement and arguments, or fail with the same error. -/

namespace ObjectQuery

/-- The query with its filter in normal form, and without a filter if that has no leaf. -/
def Query.normalized (q : Query) : Query :=
  { q with filter := q.filter.bind Restriction.normalize }

/-- The same compilation with more remarks in front. -/
def Compiled.remarking (remarks : List Diagnostic) (s : Compiled) : Compiled :=
  { s with diagnostics := remarks ++ s.diagnostics }

namespace Query

variable (q : Query)

theorem filter_normalized_eq_none_iff :
    q.normalized.filter = none ↔ ∀ r ∈ q.filter, r.hasLeaf = false := by
  cases hf : q.filter with
  | none => simp [normalized, hf]
  | some r => simp [normalized, hf, ← Restriction.isSome_normalize]

theorem normal_of_mem_filter_normalized {t : Restriction} (h : t ∈ q.normalized.filter) :
    t.Normal := by
  obtain ⟨r, _, ht⟩ := Option.bind_eq_some_iff.mp h
  exact Restriction.normal_normalize ht

theorem gapDiagnostics_normalized : q.normalized.gapDiagnostics = [] := by
  rw [gapDiagnostics]
  cases hf : q.normalized.filter with
  | none => rfl
  | some t =>
    have hgaps := (q.normal_of_mem_filter_normalized hf).gaps_eq_nil
    simp [hgaps]

theorem elim_paths_normalized :
    q.normalized.filter.elim [] Restriction.paths = q.filter.elim [] Restriction.paths := by
  cases hf : q.filter with
  | none => simp [normalized, hf]
  | some r => simpa [normalized, hf] using r.elim_paths_normalize

theorem paths_normalized : q.normalized.paths = q.paths := by
  rw [paths, paths, elim_paths_normalized]
  rfl

theorem localeConditions_normalized (names : Conventions) (resolver : Resolver) (b : Bindings) :
    q.normalized.localeConditions names resolver b = q.localeConditions names resolver b := by
  rw [localeConditions, localeConditions, localizedAliases, localizedAliases, elim_paths_normalized]
  rfl

end Query

namespace Compiler

variable (names : Conventions) (resolver : Resolver) (q : Query)

theorem filterPart_normalized : (resolving names resolver).filterPart q.normalized =
    (resolving names resolver).filterPart q := by
  unfold filterPart Query.normalized
  cases q.filter with
  | none => rfl
  | some r => exact conditionOf?_normalize resolver r .empty

theorem conditions_normalized : (resolving names resolver).conditions q.normalized =
    (resolving names resolver).conditions q := by
  rw [conditions_bind, conditions_bind, filterPart_normalized]
  simp only [Query.localeConditions_normalized]

theorem joinedConditions_normalized : (resolving names resolver).joinedConditions q.normalized =
    (resolving names resolver).joinedConditions q := by
  rw [joinedConditions, joinedConditions, Query.follow_congr q.paths_normalized,
    conditions_normalized]

theorem rowConditions_normalized : (resolving names resolver).rowConditions q.normalized =
    (resolving names resolver).rowConditions q := by
  rw [rowConditions, rowConditions, joinedConditions_normalized]
  rfl

theorem countConditions_normalized : (resolving names resolver).countConditions q.normalized =
    (resolving names resolver).countConditions q := by
  rw [countConditions, countConditions, rowConditions_normalized, joinedConditions_normalized]
  rfl

theorem rows_normalized (c : Compiler) : c.rows q.normalized = c.rows q := by
  funext conditions
  rw [rows, rows, Query.joins_congr q.paths_normalized]
  rfl

theorem errors_or_remarks (check : Except CompileError Unit)
    (conditions : Except CompileError (List Expr × Bindings)) (statement : List Expr → Statement)
    (gaps remarks : List Diagnostic) :
    (do
      check
      let (es, b) ← conditions
      return (⟨statement es, b, gaps ++ remarks⟩ : Compiled)) =
    Except.map (Compiled.remarking gaps) (do
      check
      let (es, b) ← conditions
      return ⟨statement es, b, remarks⟩) := by
  cases check with
  | error e => rfl
  | ok _ =>
    cases conditions with
    | error e => rfl
    | ok r => rfl

/-- Placeholders, branches without a leaf and composites of one child make no difference to the
error, the statement and the arguments, whether rows are fetched or counted. All they leave is a
remark on each placeholder. -/
theorem compile_normalized :
    (resolving names resolver).compile q =
        ((resolving names resolver).compile q.normalized).map (.remarking q.gapDiagnostics) ∧
      (resolving names resolver).compileCount q =
        ((resolving names resolver).compileCount q.normalized).map (.remarking q.gapDiagnostics) ∧
      (q.normalized.filter = none ↔ ∀ r ∈ q.filter, r.hasLeaf = false) ∧
      ∀ t ∈ q.normalized.filter, t.Normal := by
  have hcheck : check q.normalized = check q := rfl
  have hcount : countCheck q.normalized = countCheck q := rfl
  have hremarks : q.normalized.groupDiagnostics = q.groupDiagnostics := rfl
  have hid : q.normalized.includeId = q.includeId := rfl
  refine ⟨?_, ?_, q.filter_normalized_eq_none_iff, fun t => q.normal_of_mem_filter_normalized⟩
  · rw [compile_eq, compile_eq, hcheck, rowConditions_normalized, rows_normalized,
      q.gapDiagnostics_normalized, hremarks]
    exact errors_or_remarks ..
  · rw [compileCount_eq, compileCount_eq, hcount, countConditions_normalized, rows_normalized,
      q.gapDiagnostics_normalized, hremarks, hid]
    exact errors_or_remarks _ _
      (fun es => ((resolving names resolver).rows q es).projecting
        (resolving names resolver).countItem) _ _

/-- Two placeholders, a negation without a leaf, and wrappers around a range and a text. -/
def paddedQuery : Query :=
  { Query.ofEntity "Order" with
    columns := [⟨"customer.name", none⟩]
    filter := some (.and [none,
      some (.or [some (.not (.and [none])),
        some (.not (.or [some (.simple "total" .between [.int 1, .int 2])]))]),
      some (.and [some (.arbitrary "a OR b")])]) }

theorem compile_normalized_padded :
    (∃ s t : Compiled, standard.compile paddedQuery = .ok s ∧
      standard.compile paddedQuery.normalized = .ok t ∧ s.statement = t.statement ∧
      s.parameters = t.parameters ∧ s.diagnostics.length = 2 ∧ t.diagnostics = []) ∧
    ∃ t, paddedQuery.normalized.filter = some t ∧
      t = .and [some (.not (.simple "total" .between [.int 1, .int 2])),
        some (.arbitrary "a OR b")] ∧ t.Normal := by
  obtain ⟨hrows, _, _, hnormal⟩ := compile_normalized .standard (.dotted "obj") paddedQuery
  constructor
  · obtain ⟨t, ht, hd⟩ : ∃ t : Compiled, standard.compile paddedQuery.normalized = .ok t ∧
        t.diagnostics = [] := ⟨_, rfl, rfl⟩
    have hgaps : (paddedQuery.gapDiagnostics ++ t.diagnostics).length = 2 := by
      rw [hd]
      rfl
    change standard.compile paddedQuery = _ at hrows
    exact ⟨_, t, hrows.trans (congrArg _ ht), ht, rfl, rfl, hgaps, hd⟩
  · exact ⟨_, rfl, rfl, hnormal _ rfl⟩

end Compiler

end ObjectQuery
