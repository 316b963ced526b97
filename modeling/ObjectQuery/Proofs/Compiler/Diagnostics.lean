import ObjectQuery.Proofs.Compiler.Count
import ObjectQuery.Proofs.Group.Keys
import ObjectQuery.Proofs.Restriction.Location

/-! The remarks on a query that compiles: first the placeholders of its filter, then the locale
columns that its groups leave out. -/

namespace ObjectQuery

theorem Query.groupDiagnostics_of_grouping {q : Query}
    (h : ∃ c ∈ q.columns, ∃ a, c.aggregate = some a ∧ a ≠ .locale) :
    q.groupDiagnostics =
      (q.columns.filter (·.aggregate = some .locale)).map (.localeNotGrouped ·.path) :=
  if_pos (isGrouping_iff.mpr h)

theorem Query.groupDiagnostics_of_not_grouping {q : Query}
    (h : ¬ ∃ c ∈ q.columns, ∃ a, c.aggregate = some a ∧ a ≠ .locale) : q.groupDiagnostics = [] :=
  if_neg (mt isGrouping_iff.mp h)

theorem Query.place_gapDiagnostics (q : Query) :
    q.gapDiagnostics.map Diagnostic.place =
      (q.filter.elim [] Restriction.gaps).map Restriction.locationText :=
  List.map_map

namespace Compiler

variable {c : Compiler} {q : Query} {s : Compiled}

theorem compile_diagnostics (h : c.compile q = .ok s) :
    s.diagnostics = q.gapDiagnostics ++ q.groupDiagnostics := by
  rw [compile_eq] at h
  obtain ⟨_, _, h⟩ := bind_eq_ok h
  obtain ⟨_, _, h⟩ := bind_eq_ok h
  cases h
  rfl

theorem compileCount_diagnostics (h : c.compileCount q = .ok s) :
    s.diagnostics = q.gapDiagnostics ++ if q.includeId then q.groupDiagnostics else [] := by
  rw [compileCount_eq] at h
  obtain ⟨_, _, h⟩ := bind_eq_ok h
  obtain ⟨_, _, h⟩ := bind_eq_ok h
  cases h
  rfl

/-- Every placeholder of a tree is located, and a query that compiles is remarked on for those of
its filter and, if its rows are grouped, for its locale columns. When its entities are counted the
columns matter only along with the id. -/
theorem diagnostics_complete :
    (∀ r : Restriction, r.LocatesGaps (r.gaps.map Restriction.locationText)) ∧
    ∀ (c : Compiler) (q : Query) (s : Compiled), c.compile q = .ok s →
      ∃ skipped grouping : List Diagnostic, s.diagnostics = skipped ++ grouping ∧
        skipped = (q.filter.elim [] Restriction.gaps).map .skippedGap ∧
        skipped.map Diagnostic.place =
          (q.filter.elim [] Restriction.gaps).map Restriction.locationText ∧
        ((∃ column ∈ q.columns, ∃ a, column.aggregate = some a ∧ a ≠ .locale) →
          grouping =
            (q.columns.filter (·.aggregate = some .locale)).map (.localeNotGrouped ·.path)) ∧
        ((¬ ∃ column ∈ q.columns, ∃ a, column.aggregate = some a ∧ a ≠ .locale) →
          grouping = []) ∧
        ∃ count, c.compileCount q = .ok count ∧
          (q.includeId = true → count.diagnostics = s.diagnostics) ∧
          (q.includeId = false → count.diagnostics = skipped) := by
  refine ⟨Restriction.locatesGaps, fun c q s h => ?_⟩
  obtain ⟨remarks, hcount⟩ := compileCount_of_compile h
  have hremarks := compileCount_diagnostics hcount
  refine ⟨q.gapDiagnostics, q.groupDiagnostics, compile_diagnostics h, rfl,
    q.place_gapDiagnostics, Query.groupDiagnostics_of_grouping,
    Query.groupDiagnostics_of_not_grouping, _, hcount, fun hid => ?_, fun hid => ?_⟩
  · rw [hremarks, if_pos hid, compile_diagnostics h]
  · rw [hremarks, hid, if_neg Bool.false_ne_true, List.append_nil]

/-- Placeholders at three depths, and a locale column beside a sum. -/
def skippingQuery : Query where
  entity := "Order"
  columns := [⟨"localeData.title", some .locale⟩, ⟨"total", some .sum⟩]
  filter := some (.or [none, some (.not (.and [some (.eq "status" (.string "OPEN")), none])),
    some (.and [none])])
  sort := []
  locale := .root
  includeId := false
  distinctId := false
  totalCount := false

theorem diagnostics_complete_skipping : ∃ s count : Compiled,
    standard.compile skippingQuery = .ok s ∧
      s.diagnostics.map Diagnostic.place =
        ["or[0]", "or[1].not.and[1]", "or[2].and[0]", "localeData.title"] ∧
      standard.compileCount skippingQuery = .ok count ∧
      count.diagnostics.map Diagnostic.place = ["or[0]", "or[1].not.and[1]", "or[2].and[0]"] := by
  obtain ⟨s, hs⟩ : ∃ s : Compiled, standard.compile skippingQuery = .ok s := ⟨_, rfl⟩
  obtain ⟨skipped, grouping, hdiagnostics, -, hplaces, hgrouping, -, count, hcount, -, hskipped⟩ :=
    diagnostics_complete.2 standard skippingQuery s hs
  have hsum : ∃ column ∈ skippingQuery.columns, ∃ a, column.aggregate = some a ∧ a ≠ .locale :=
    ⟨⟨"total", some .sum⟩, by decide, .sum, rfl, by decide⟩
  have hgaps : skipped.map Diagnostic.place = ["or[0]", "or[1].not.and[1]", "or[2].and[0]"] := by
    rw [hplaces]
    decide
  refine ⟨s, count, hs, ?_, hcount, ?_⟩
  · rw [hdiagnostics, List.map_append, hgaps, hgrouping hsum]
    decide
  · rw [hskipped rfl, hgaps]

end Compiler

end ObjectQuery
