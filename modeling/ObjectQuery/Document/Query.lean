import ObjectQuery.Document.Restriction
import ObjectQuery.Query.Basic

/-! Queries in JSON. Every field is written; all but the entity may be missing when one is read. -/

namespace ObjectQuery

open Document (RecordDecoder)
open Document.RecordDecoder (once required)
open Json (Outline)

namespace Json

/-- An absent value is null. -/
def ofOption {α : Type} (toJson : α → Json) : Option α → Json
  | some x => toJson x
  | none => .null

end Json

def Aggregate.toJson (a : Aggregate) : Json :=
  .string a.name

def Locale.toJson (l : Locale) : Json :=
  .string l.tag

def Column.toJson (c : Column) : Json :=
  .object [("attribute_path", .string c.path),
    ("aggregate", .ofOption Aggregate.toJson c.aggregate)]

def SortDescriptor.toJson (s : SortDescriptor) : Json :=
  .object [("column_index", .int s.column), ("ascending", .bool s.ascending)]

def Query.sortToJson (sort : List (Option SortDescriptor)) : Json :=
  .array (sort.map (.ofOption SortDescriptor.toJson))

def Query.toJson (q : Query) : Json :=
  .object [("entity_name", .string q.entity), ("columns", .array (q.columns.map Column.toJson)),
    ("filter", .ofOption Restriction.toJson q.filter), ("sort", sortToJson q.sort),
    ("locale", q.locale.toJson), ("include_id", .bool q.includeId),
    ("distinct_id", .bool q.distinctId), ("calculate_total_count", .bool q.totalCount)]

namespace Document

def locale : Decoder Locale
  | depth, o => (string depth o).map Locale.parse

def aggregate : Decoder Aggregate
  | depth, o => do
    let name ← string depth o
    match Aggregate.parse name with
    | .ok a => return a
    | .error _ => throw (.unsupportedAggregate name)

structure ColumnParts where
  path : Option String := none
  aggregate : Option (Option Aggregate) := none

def columnFields : RecordDecoder ColumnParts where
  names := ["attribute_path", "aggregate"]
  step depth name o p :=
    match name with
    | "attribute_path" => do return { p with path := ← once name p.path (string depth o) }
    | "aggregate" => do
      return { p with aggregate := ← once name p.aggregate (optional aggregate depth o) }
    | _ => .ok p

def column : Decoder Column :=
  columnFields.decode {} fun fault p => do
    let path ← required fault "attribute_path" p.path
    return ⟨path, p.aggregate.getD none⟩

structure SortParts where
  column : Option Nat := none
  ascending : Option Bool := none

def sortFields : RecordDecoder SortParts where
  names := ["column_index", "ascending"]
  step depth name o p :=
    match name with
    | "column_index" => do return { p with column := ← once name p.column (index depth o) }
    | "ascending" => do return { p with ascending := ← once name p.ascending (bool depth o) }
    | _ => .ok p

def sortDescriptor : Decoder SortDescriptor :=
  sortFields.decode {} fun fault p => do
    let column ← required fault "column_index" p.column
    let ascending ← required fault "ascending" p.ascending
    return ⟨column, ascending⟩

def sort : Decoder (List (Option SortDescriptor)) :=
  list (optional sortDescriptor)

structure QueryParts where
  entity : Option String := none
  columns : Option (List Column) := none
  filter : Option (Option Restriction) := none
  sort : Option (List (Option SortDescriptor)) := none
  locale : Option Locale := none
  includeId : Option Bool := none
  distinctId : Option Bool := none
  totalCount : Option Bool := none

def queryFields : RecordDecoder QueryParts where
  names := ["entity_name", "columns", "filter", "sort", "locale", "include_id", "distinct_id",
    "calculate_total_count"]
  step depth name o p :=
    match name with
    | "entity_name" => do return { p with entity := ← once name p.entity (string depth o) }
    | "columns" => do return { p with columns := ← once name p.columns (list column depth o) }
    | "filter" => do return { p with filter := ← once name p.filter (optional restriction depth o) }
    | "sort" => do return { p with sort := ← once name p.sort (sort depth o) }
    | "locale" => do return { p with locale := ← once name p.locale (locale depth o) }
    | "include_id" => do return { p with includeId := ← once name p.includeId (bool depth o) }
    | "distinct_id" => do return { p with distinctId := ← once name p.distinctId (bool depth o) }
    | "calculate_total_count" => do
      return { p with totalCount := ← once name p.totalCount (bool depth o) }
    | _ => .ok p

/-- What is missing is as in a query of the bare entity. -/
def query : Decoder Query :=
  queryFields.decode {} fun fault p => do
    let entity ← required fault "entity_name" p.entity
    let bare := Query.ofEntity entity
    return {
      entity := entity
      columns := p.columns.getD bare.columns
      filter := p.filter.getD bare.filter
      sort := p.sort.getD bare.sort
      locale := p.locale.getD bare.locale
      includeId := p.includeId.getD bare.includeId
      distinctId := p.distinctId.getD bare.distinctId
      totalCount := p.totalCount.getD bare.totalCount }

end Document

end ObjectQuery
