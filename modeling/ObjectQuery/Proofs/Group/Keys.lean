import ObjectQuery.Proofs.Compiler.Parts
import ObjectQuery.Proofs.Path.Star

/-! Group keys and the select list. A column that is not aggregated is grouped by the very
expression that is selected for it, but for the bare star, which no group key stands for. -/

namespace ObjectQuery

namespace Statement

/-- The select items of the columns without an aggregate, in the order of the columns. -/
def plainItems (q : Query) (s : Statement) : List Expr :=
  ((q.columns.zip (s.select.drop (if q.includeId then 1 else 0))).filter
    (·.1.aggregate.isNone)).map (·.2)

end Statement

theorem Column.item_of_plain {names : Conventions} {resolver : Resolver} {c : Column}
    (h : c.aggregate = none) : c.item names resolver = (resolver.resolve c.path).expr := by
  simp only [Column.item, h]

namespace Query

variable {names : Conventions} {resolver : Resolver} {q : Query}

theorem isGrouping_iff :
    q.isGrouping = true ↔ ∃ c ∈ q.columns, ∃ a, c.aggregate = some a ∧ a ≠ .locale := by
  simp only [isGrouping, List.any_eq_true, Column.isGrouping, Option.any_eq_true,
    Aggregate.isGrouping, decide_eq_true_eq]

def plainColumns (q : Query) : List Column :=
  q.columns.filter (·.aggregate.isNone)

theorem mem_plainColumns {c : Column} :
    c ∈ q.plainColumns ↔ c ∈ q.columns ∧ c.aggregate = none := by
  simp [plainColumns]

theorem plainItems_eq {s : Statement} (h : s.select = q.items names resolver) :
    s.plainItems q = q.plainColumns.map fun c => (resolver.resolve c.path).expr := by
  have hdrop : s.select.drop (if q.includeId then 1 else 0) =
      q.columns.map (Column.item names resolver) := by
    rw [h, items]
    cases q.includeId <;> rfl
  rw [Statement.plainItems, hdrop, plainColumns]
  induction q.columns with
  | nil => rfl
  | cons c rest ih =>
    cases ha : c.aggregate with
    | none => simp [ha, ih, Column.item_of_plain ha]
    | some a => simp [ha, ih]

theorem groupKeys_of_isGrouping (h : q.isGrouping = true) :
    q.groupKeys names resolver = (if q.includeId then [idExpr names resolver] else []) ++
      q.plainColumns.map (Column.groupKey resolver) :=
  if_pos h

theorem star_not_mem_groupKeys : Expr.star ∉ q.groupKeys names resolver := by
  intro h
  rcases mem_groupKeys h with h | ⟨c, _, h⟩
  · cases h
  · cases h

/-- The bare star is the only path whose item is not its group key. -/
theorem groupKey_eq_item_iff {root : String} {c : Column} :
    c.groupKey (.dotted root) = ((Resolver.dotted root).resolve c.path).expr ↔ c.path ≠ "*" := by
  have hpath : ((Resolver.dotted root).resolve c.path).expr = .star ↔ c.path = "*" :=
    Resolver.expr_dotted_eq_star
  rw [ne_eq, ← hpath]
  constructor
  · intro h hstar
    rw [hstar] at h
    cases h
  · intro h
    exact (ResolvedPath.expr_eq_column h).symm

variable {root : String}

theorem groupKeys_eq_iff (h : q.isGrouping = true) :
    q.groupKeys names (.dotted root) =
        (if q.includeId then [idExpr names (.dotted root)] else []) ++
          q.plainColumns.map (fun c => ((Resolver.dotted root).resolve c.path).expr) ↔
      ∀ c ∈ q.plainColumns, c.path ≠ "*" := by
  rw [groupKeys_of_isGrouping h, List.append_cancel_left_eq, List.map_inj_left]
  constructor
  · intro hkeys c hc
    exact groupKey_eq_item_iff.mp (hkeys c hc)
  · intro hpaths c hc
    exact groupKey_eq_item_iff.mpr (hpaths c hc)

theorem items_subset_groupKeys_iff (h : q.isGrouping = true) :
    (∀ e ∈ q.plainColumns.map (fun c => ((Resolver.dotted root).resolve c.path).expr),
        e ∈ q.groupKeys names (.dotted root)) ↔
      ∀ c ∈ q.plainColumns, c.path ≠ "*" := by
  constructor
  · intro hkeys c hc hstar
    have hmem := hkeys _ (List.mem_map_of_mem hc)
    rw [Resolver.expr_dotted_eq_star.mpr hstar] at hmem
    exact star_not_mem_groupKeys hmem
  · intro hpaths e he
    rw [(groupKeys_eq_iff h).mpr hpaths]
    exact List.mem_append_right _ he

end Query

namespace Compiler

/-- Rows are grouped by the select items of the columns without an aggregate, and by the id before
them, exactly when no such column is a bare star, which is selected but never grouped by. -/
theorem compile_groupBy_iff {names : Conventions} {root : String} {q : Query} {s : Compiled}
    (h : (resolving names (.dotted root)).compile q = .ok s) :
    ((∃ c ∈ q.columns, ∃ a, c.aggregate = some a ∧ a ≠ .locale) →
      (s.statement.groupBy = (if q.includeId then [.column root names.idField] else []) ++
          s.statement.plainItems q ↔ ∀ c ∈ q.columns, c.aggregate = none → c.path ≠ "*") ∧
      ((∀ e ∈ s.statement.plainItems q, e ∈ s.statement.groupBy) ↔
        ∀ c ∈ q.columns, c.aggregate = none → c.path ≠ "*")) ∧
    ((¬ ∃ c ∈ q.columns, ∃ a, c.aggregate = some a ∧ a ≠ .locale) → s.statement.groupBy = []) := by
  obtain ⟨_, hselect, hgroup⟩ := compile_parts h
  have hplain : (∀ c ∈ q.plainColumns, c.path ≠ "*") ↔
      ∀ c ∈ q.columns, c.aggregate = none → c.path ≠ "*" := by
    simp only [Query.mem_plainColumns, and_imp]
  rw [Query.plainItems_eq hselect, hgroup, ← Query.isGrouping_iff, ← hplain]
  constructor
  · intro hgrouping
    exact ⟨Query.groupKeys_eq_iff hgrouping, Query.items_subset_groupKeys_iff hgrouping⟩
  · intro hgrouping
    exact if_neg hgrouping

/-- Rows grouped by an attribute of the root, one behind relations, and a star behind a relation. -/
def salesQuery : Query :=
  { Query.ofEntity "Order" with
    columns := [⟨"status", none⟩, ⟨"total", some .sum⟩, ⟨"customer.region.name", none⟩,
      ⟨"lines.*", none⟩, ⟨"lines.localeData.title", some .locale⟩] }

theorem compile_groupBy_sales : ∃ s : Compiled, standard.compile salesQuery = .ok s ∧
    s.statement.groupBy = .column "obj" "id" :: s.statement.plainItems salesQuery ∧
    s.statement.plainItems salesQuery =
      [.column "obj" "status", .column "customerregion" "name", .column "lines" "*"] := by
  obtain ⟨s, hs, hi⟩ : ∃ s : Compiled, standard.compile salesQuery = .ok s ∧
      s.statement.plainItems salesQuery =
        [.column "obj" "status", .column "customerregion" "name", .column "lines" "*"] :=
    ⟨_, rfl, rfl⟩
  have hgrouping : ∃ c ∈ salesQuery.columns, ∃ a, c.aggregate = some a ∧ a ≠ .locale :=
    ⟨⟨"total", some .sum⟩, by decide, .sum, rfl, by decide⟩
  have hpaths : ∀ c ∈ salesQuery.columns, c.aggregate = none → c.path ≠ "*" := by decide
  exact ⟨s, hs, ((compile_groupBy_iff hs).1 hgrouping).1.mpr hpaths, hi⟩

def wholeRowQuery : Query :=
  { Query.ofEntity "Order" with columns := [⟨"*", none⟩, ⟨"total", some .sum⟩] }

/-- A bare star is selected as it is, but the group key for it is qualified by the root alias. -/
theorem bare_star_not_grouped : ∃ s : Compiled, standard.compile wholeRowQuery = .ok s ∧
    s.statement.plainItems wholeRowQuery = [.star] ∧
    s.statement.groupBy = [.column "obj" "id", .column "obj" "*"] ∧
    s.statement.groupBy ≠ .column "obj" "id" :: s.statement.plainItems wholeRowQuery ∧
    ¬ ∀ e ∈ s.statement.plainItems wholeRowQuery, e ∈ s.statement.groupBy := by
  obtain ⟨s, hs, hi, hg⟩ : ∃ s : Compiled, standard.compile wholeRowQuery = .ok s ∧
      s.statement.plainItems wholeRowQuery = [.star] ∧
      s.statement.groupBy = [.column "obj" "id", .column "obj" "*"] := ⟨_, rfl, rfl, rfl⟩
  refine ⟨s, hs, hi, hg, ?_, ?_⟩
  · rw [hg, hi]
    simp
  · rw [hg, hi]
    simp

end Compiler

end ObjectQuery
