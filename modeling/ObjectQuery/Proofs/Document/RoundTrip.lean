import ObjectQuery.Proofs.Document.Restriction
import ObjectQuery.Proofs.Json.Text

/-! Queries that are read back from the JSON they are written as. Only the numbers of the filter may
come back as others. -/

namespace ObjectQuery

open Json (Outline)

theorem Aggregate.parse_name (a : Aggregate) : parse a.name = .ok a := by
  cases a <;> decide +kernel

namespace Document

theorem reads_aggregate (a : Aggregate) : Reads aggregate a.toJson a := by
  intro depth _
  have hname : string depth (.ofJson a.toJson) = .ok a.name := rfl
  simp [aggregate, hname, a.parse_name, bind, Except.bind, pure, Except.pure]

theorem reads_column (c : Column) : Reads column c.toJson c := by
  refine reads_record ⟨some c.path, some c.aggregate⟩ ?_ rfl
  intro depth hdepth
  have haggregate : optional aggregate depth
      (.ofJson (.ofOption Aggregate.toJson c.aggregate)) = .ok c.aggregate := by
    refine reads_optional (by simp [Aggregate.toJson]) (fun a _ => reads_aggregate a) depth ?_
    exact Nat.le_trans (Json.depth_le_of_mem_fields "aggregate" (by simp)) hdepth
  have hpath := reads_string c.path depth (Nat.zero_le _)
  simp [Outline.ofFields, RecordDecoder.entries, columnFields, RecordDecoder.once, hpath,
    haggregate, closing, bind, Except.bind, pure, Except.pure, Except.map]

theorem reads_sortDescriptor (s : SortDescriptor) : Reads sortDescriptor s.toJson s := by
  refine reads_record ⟨some s.column, some s.ascending⟩ ?_ rfl
  intro depth _
  have hcolumn := reads_index s.column depth (Nat.zero_le _)
  have hascending := reads_bool s.ascending depth (Nat.zero_le _)
  simp [Outline.ofFields, RecordDecoder.entries, sortFields, RecordDecoder.once, hcolumn,
    hascending, closing, bind, Except.bind, pure, Except.pure, Except.map]

theorem reads_sort (entries : List (Option SortDescriptor)) :
    Reads sort (Query.sortToJson entries) entries :=
  reads_list fun _ _ =>
    reads_optional (by simp [SortDescriptor.toJson]) fun s _ => reads_sortDescriptor s

theorem reads_locale (l : Locale) : Reads locale l.toJson (Locale.parse l.tag) :=
  fun _ _ => rfl

end Document

def Query.values (q : Query) : List Value :=
  q.filter.elim [] Restriction.values

section

open Json (numbersOfItems numbersOfFields numbersOfItems_eq_flatMap)
open Json.Number (ReadsBack)

theorem Column.numbers_toJson (c : Column) : c.toJson.numbers = [] := by
  cases h : c.aggregate <;>
    simp [toJson, h, Json.ofOption, Aggregate.toJson, Json.numbers, numbersOfFields]

theorem Query.numbers_columns (q : Query) :
    (Json.array (q.columns.map Column.toJson)).numbers = [] := by
  rw [Json.numbers, numbersOfItems_eq_flatMap, List.flatMap_map]
  exact List.flatMap_eq_nil_iff.mpr fun c _ => c.numbers_toJson

theorem SortDescriptor.numbers_toJson (s : SortDescriptor) :
    s.toJson.numbers = [.int s.column] := by
  simp [toJson, Json.int, Json.numbers, numbersOfFields]

theorem Query.mem_numbers_sort {sort : List (Option SortDescriptor)} {n : Json.Number} :
    n ∈ (sortToJson sort).numbers ↔ ∃ s, some s ∈ sort ∧ n = .int s.column := by
  rw [sortToJson, Json.numbers, numbersOfItems_eq_flatMap, List.flatMap_map, List.mem_flatMap]
  constructor
  · rintro ⟨entry, hentry, hn⟩
    cases entry with
    | none => cases hn
    | some s =>
      rw [Json.ofOption, s.numbers_toJson, List.mem_singleton] at hn
      exact ⟨s, hentry, hn⟩
  · rintro ⟨s, hs, rfl⟩
    exact ⟨some s, hs, by rw [Json.ofOption, s.numbers_toJson]; exact List.mem_singleton_self _⟩

namespace Restriction

mutual

theorem numbers_toJson : ∀ r : Restriction,
    r.toJson.numbers = r.values.flatMap fun v => v.toJson.numbers
  | .simple path operator values => by
    simp [toJson, Operator.toJson, Json.numbers, numbersOfFields, numbersOfItems_eq_flatMap,
      Restriction.values, List.flatMap_map]
  | .and children | .or children => by
    simpa [toJson, Json.numbers, numbersOfFields, values] using numbers_childrenToJson children
  | .not child => by
    simpa [toJson, Json.numbers, numbersOfFields, values] using numbers_toJson child
  | .arbitrary text => by simp [toJson, Json.numbers, numbersOfFields, values]

theorem numbers_childrenToJson : ∀ children : List (Option Restriction),
    numbersOfItems (childrenToJson children) =
      (childValues children).flatMap fun v => v.toJson.numbers
  | [] => rfl
  | none :: rest => numbers_childrenToJson rest
  | some child :: rest => by
    rw [childrenToJson, numbersOfItems, childValues, List.flatMap_append, numbers_toJson child,
      numbers_childrenToJson rest]

end

end Restriction

theorem Query.numbers_filter (q : Query) : (Json.ofOption Restriction.toJson q.filter).numbers =
    q.values.flatMap fun v => v.toJson.numbers := by
  cases h : q.filter with
  | none => simp [Json.ofOption, Json.numbers, values, h]
  | some r => simpa [Json.ofOption, values, h] using r.numbers_toJson

theorem Query.mem_numbers {q : Query} {n : Json.Number} : n ∈ q.toJson.numbers ↔
    (∃ v ∈ q.values, n ∈ v.toJson.numbers) ∨ ∃ s, some s ∈ q.sort ∧ n = .int s.column := by
  have hcolumns : numbersOfItems (q.columns.map Column.toJson) = [] := q.numbers_columns
  rw [← Query.mem_numbers_sort, ← List.mem_flatMap, ← q.numbers_filter]
  simp [toJson, Locale.toJson, Json.numbers, numbersOfFields, hcolumns]

theorem Value.readsBack {v : Value} (h : ∀ x, v = .float x → (Json.Number.float x).ReadsBack) :
    ∀ n ∈ v.toJson.numbers, n.ReadsBack := by
  intro n hn
  cases v with
  | int i =>
    obtain rfl := List.mem_singleton.mp hn
    have hlow := i.le_toInt
    have hhigh := i.toInt_lt
    refine Json.Number.readsBack_int ?_ ?_
    · omega
    · unfold Json.Number.maxWord
      omega
  | float x =>
    rw [toJson] at hn
    split at hn
    · obtain rfl := List.mem_singleton.mp hn
      exact h x rfl
    · cases hn
  | _ => simp [toJson, Json.numbers] at hn

theorem Query.readsBack {q : Query}
    (hfloats : ∀ x, .float x ∈ q.values → (Json.Number.float x).ReadsBack)
    (hsort : ∀ s, some s ∈ q.sort → s.column ≤ Json.Number.maxWord) :
    ∀ n ∈ q.toJson.numbers, n.ReadsBack := by
  intro n hn
  rcases Query.mem_numbers.mp hn with ⟨v, hv, hn⟩ | ⟨s, hs, rfl⟩
  · exact v.readsBack (fun x hx => hfloats x (hx ▸ hv)) n hn
  · have hcolumn := hsort s hs
    exact Json.Number.readsBack_int (by omega) (by omega)

end

variable {f : Json.Number → Json.Number}

/-- What is read for the query where `f` has replaced the numbers of its filter. -/
def Query.renumbered (f : Json.Number → Json.Number) (q : Query) : Query :=
  { q with filter := q.filter.map (Restriction.mapValues (Value.renumbered f)) }

theorem Query.renumbered_id {q : Query} (h : ∀ v ∈ q.values, v.isFinite = true) :
    q.renumbered id = q := by
  cases q with
  | mk entity columns filter =>
    cases filter with
    | none => rfl
    | some r =>
      have hr : r.mapValues (Value.renumbered id) = r :=
        r.mapValues_eq_self fun v hv => Value.renumbered_id (h v hv)
      rw [renumbered, Option.map_some, hr]

namespace Document

theorem reads_filter (f : Json.Number → Json.Number) (filter : Option Restriction) :
    Reads (optional restriction) ((Json.ofOption Restriction.toJson filter).mapNumbers f)
      (filter.map (Restriction.mapValues (Value.renumbered f))) := by
  intro depth hdepth
  cases filter with
  | none => rfl
  | some r =>
    have hr := reads_restriction f r depth hdepth
    have hne : Outline.ofJson (r.toJson.mapNumbers f) ≠ .null := by
      obtain ⟨kind, fields, hobject, _⟩ := r.exists_tagged_mapNumbers (f := f)
      simp [hobject, Outline.ofJson]
    rw [Json.ofOption, optional_of_ne_null hne, hr]
    rfl

/-- All of a query but its locale is read back as it was, and the numbers of its filter as they
stand in the document. -/
theorem reads_query_renumbered {q : Query}
    (hsort : ∀ s, some s ∈ q.sort → f (.int s.column) = .int s.column) :
    Reads query (q.toJson.mapNumbers f)
      { q.renumbered f with locale := .parse q.locale.tag } := by
  have hcolumns : (Json.array (q.columns.map Column.toJson)).mapNumbers f =
      .array (q.columns.map Column.toJson) :=
    Json.mapNumbers_eq_self _ (by simp [q.numbers_columns])
  have hsort : (Query.sortToJson q.sort).mapNumbers f = Query.sortToJson q.sort := by
    refine Json.mapNumbers_eq_self _ fun n hn => ?_
    obtain ⟨s, hs, rfl⟩ := Query.mem_numbers_sort.mp hn
    exact hsort s hs
  have hjson : q.toJson.mapNumbers f = .object [("entity_name", .string q.entity),
      ("columns", .array (q.columns.map Column.toJson)),
      ("filter", (Json.ofOption Restriction.toJson q.filter).mapNumbers f),
      ("sort", Query.sortToJson q.sort), ("locale", q.locale.toJson),
      ("include_id", .bool q.includeId), ("distinct_id", .bool q.distinctId),
      ("calculate_total_count", .bool q.totalCount)] := by
    rw [Query.toJson, Json.mapNumbers]
    simp only [Json.mapFields, hcolumns, hsort]
    rfl
  rw [hjson]
  refine reads_record ⟨some q.entity, some q.columns, some (q.renumbered f).filter, some q.sort,
    some (.parse q.locale.tag), some q.includeId, some q.distinctId, some q.totalCount⟩ ?_ rfl
  intro depth hdepth
  have hcolumns : list column depth (.ofJson (.array (q.columns.map Column.toJson))) =
      .ok q.columns := by
    refine reads_list (fun c _ => reads_column c) depth ?_
    exact Nat.le_trans (Json.depth_le_of_mem_fields "columns" (by simp)) hdepth
  have hfilter : optional restriction depth
      (.ofJson ((Json.ofOption Restriction.toJson q.filter).mapNumbers f)) =
        .ok (q.renumbered f).filter := by
    refine reads_filter f q.filter depth ?_
    exact Nat.le_trans (Json.depth_le_of_mem_fields "filter" (by simp)) hdepth
  have hsort : sort depth (.ofJson (Query.sortToJson q.sort)) = .ok q.sort :=
    reads_sort q.sort depth
      (Nat.le_trans (Json.depth_le_of_mem_fields "sort" (by simp)) hdepth)
  have hlocale : locale depth (.ofJson q.locale.toJson) = .ok (.parse q.locale.tag) :=
    reads_locale q.locale depth
      (Nat.le_trans (Json.depth_le_of_mem_fields "locale" (by simp)) hdepth)
  have hentity := reads_string q.entity depth (Nat.zero_le _)
  have hflag (b : Bool) := reads_bool b depth (Nat.zero_le _)
  simp [Outline.ofFields, RecordDecoder.entries, queryFields, RecordDecoder.once, hentity,
    hcolumns, hfilter, hsort, hlocale, hflag, closing, bind, Except.bind, pure, Except.pure,
    Except.map]

theorem reads_query {q : Query} (hfinite : ∀ v ∈ q.values, v.isFinite = true)
    (hlocale : Locale.parse q.locale.tag = q.locale) : Reads query q.toJson q := by
  have hquery := reads_query_renumbered (f := id) (q := q) (by simp)
  rwa [Json.mapNumbers_eq_self _ (by simp), Query.renumbered_id hfinite, hlocale] at hquery

end Document

namespace Document

theorem ofText_of_reads {α : Type} {decode : Decoder α} {j : Json} {x : α}
    (h : Reads decode j x) (hdepth : j.depth ≤ maxDepth) {text : String}
    (htext : Outline.ofText text = (.ofJson j, true)) : ofText decode text = .ok x := by
  have hread := h maxDepth hdepth
  rw [ofText, htext]
  simp [hread, closing, bind, Except.bind, pure, Except.pure]

/-- A query is read back from every text whose outline is that of its document. Its compact text has
that outline wherever its floats are read back. -/
theorem ofText_toJson {q : Query} (hfinite : ∀ v ∈ q.values, v.isFinite = true)
    (hlocale : Locale.parse q.locale.tag = q.locale) (hdepth : q.toJson.depth ≤ maxDepth) :
    (∀ text, Outline.ofText text = (.ofJson q.toJson, true) → ofText query text = .ok q) ∧
    ((∀ x, .float x ∈ q.values → (Json.Number.float x).ReadsBack) →
      (∀ s, some s ∈ q.sort → s.column ≤ Json.Number.maxWord) →
        ofText query q.toJson.compact = .ok q) := by
  have hquery := reads_query hfinite hlocale
  refine ⟨fun text htext => ofText_of_reads hquery hdepth htext, ?_⟩
  intro hfloats hsort
  exact ofText_of_reads hquery hdepth
    (Outline.ofText_compact (q.readsBack hfloats hsort))

/-- Values that differ in nothing but their kind, placeholders inside and around them, and a sort
entry that is null. -/
def kindsQuery : Query where
  entity := "Order"
  columns := [⟨"code", none⟩, ⟨"total", some .groupConcatDistinct⟩,
    ⟨"lines.localeData.title", some .locale⟩]
  filter := some (.or [none, some (.not (.and [
    some (.simple "total" .notIn [.null, .bool true, .int 3, .float 3, .string "3"]), none])),
    some (.simple "code" .startsWith []), some (.arbitrary "\"a\" \\ b\n")])
  sort := [some ⟨1, false⟩, none]
  locale := ⟨"de", "AT", ""⟩
  includeId := false
  distinctId := true
  totalCount := true

theorem readsBack_three : (Json.Number.float 3).ReadsBack :=
  Json.Number.readsBack_iff.mpr <|
    Json.Number.reread?_of_text (l := ⟨false, ['3'], ['0'], false, []⟩) "3.0"
      (by decide +kernel) rfl (by simp) (by decide +kernel)

theorem ofText_toJson_kinds :
    kindsQuery.toJson.depth = 8 ∧
    ofText query kindsQuery.toJson.compact = .ok kindsQuery ∧
    ∀ text, Outline.ofText text = Outline.ofText kindsQuery.toJson.compact →
      ofText query text = .ok kindsQuery := by
  have hfinite : ∀ v ∈ kindsQuery.values, v.isFinite = true := by decide +kernel
  have hlocale : Locale.parse kindsQuery.locale.tag = kindsQuery.locale := by decide +kernel
  have hdepth : kindsQuery.toJson.depth = 8 := by decide +kernel
  have hfloats : ∀ x, .float x ∈ kindsQuery.values → (Json.Number.float x).ReadsBack := by
    intro x hx
    obtain rfl : x = 3 := by
      simpa [kindsQuery, Query.values, Restriction.values, Restriction.childValues] using hx
    exact readsBack_three
  have hsort : ∀ s, some s ∈ kindsQuery.sort → s.column ≤ Json.Number.maxWord := by
    intro s hs
    obtain rfl : s = ⟨1, false⟩ := by simpa [kindsQuery] using hs
    decide
  have hread := ofText_toJson hfinite hlocale (by rw [hdepth]; decide)
  have houtline := Outline.ofText_compact (kindsQuery.readsBack hfloats hsort)
  exact ⟨hdepth, hread.2 hfloats hsort, fun text htext => hread.1 text (htext.trans houtline)⟩

end Document

end ObjectQuery
