import ObjectQuery.Locale
import ObjectQuery.Query.Aggregate
import ObjectQuery.Restriction.Basic

/-! Queries over an entity and the entities related to it. -/

namespace ObjectQuery

structure Column where
  path : String
  aggregate : Option Aggregate
  deriving Repr, DecidableEq, Inhabited

def Column.isGrouping (c : Column) : Bool :=
  c.aggregate.any Aggregate.isGrouping

/-- A sort on a projected column, which is counted from zero. -/
structure SortDescriptor where
  column : Nat
  ascending : Bool
  deriving Repr, DecidableEq, Inhabited

/-- The order of the columns is the order of the select list. -/
structure Query where
  entity : String
  columns : List Column
  filter : Option Restriction
  sort : List (Option SortDescriptor)
  locale : Locale
  includeId : Bool
  distinctId : Bool
  totalCount : Bool
  deriving Repr, BEq, Inhabited

namespace Query

/-- A query that projects the id alone. -/
def ofEntity (entity : String) : Query where
  entity := entity
  columns := []
  filter := none
  sort := []
  locale := .root
  includeId := true
  distinctId := false
  totalCount := false

def isGrouping (q : Query) : Bool :=
  q.columns.any Column.isGrouping

/-- Attribute paths of the columns, then of the filter. -/
def paths (q : Query) : List String :=
  q.columns.map Column.path ++ q.filter.elim [] Restriction.paths

def addColumn (q : Query) (path : String) (aggregate : Option Aggregate) : Query :=
  { q with columns := q.columns ++ [⟨path, aggregate⟩] }

def addSort (q : Query) (column : Nat) (ascending : Bool) : Query :=
  { q with sort := q.sort ++ [some ⟨column, ascending⟩] }

def withSort (q : Query) (sort : List SortDescriptor) : Query :=
  { q with sort := sort.map some }

def hasEntity (q : Query) : Bool :=
  !Text.isBlankText q.entity

/-- The first sort entry that is null or points at no column, if there is one. -/
def sortError? (columns : Nat) (position : Nat) : List (Option SortDescriptor) → Option CompileError
  | [] => none
  | none :: _ => some (.nullSortDescriptor position)
  | some s :: rest =>
    if columns ≤ s.column then some (.sortColumnOutOfRange s.column columns)
    else sortError? columns (position + 1) rest

/-- A valid query names its entity, and each of its sort entries is a descriptor of a column. -/
def validate (q : Query) : Except CompileError Unit :=
  if !q.hasEntity then .error .missingEntity
  else
    match sortError? q.columns.length 0 q.sort with
    | some e => .error e
    | none => .ok ()

end Query

/-- The sorts on the named columns. Names and directions are paired by position; a name without a
direction ascends. -/
def SortDescriptor.byName (identifiers : List String) :
    List String → List Bool → Except CompileError (List SortDescriptor)
  | [], _ => .ok []
  | name :: names, directions =>
    match identifiers.idxOf? name with
    | none => .error (.unknownColumn name)
    | some column =>
      (SortDescriptor.byName identifiers names directions.tail).map
        (⟨column, directions.headD true⟩ :: ·)

end ObjectQuery
