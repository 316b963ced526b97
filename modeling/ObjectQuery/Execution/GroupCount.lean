import ObjectQuery.Execution.Service

/-! How many rows share each value of the column a query is sorted on. -/

namespace ObjectQuery

/-- Matches the values that were seen in a column, and null if it was. -/
def groupMatch (path : String) (values : List Value) (hasNull : Bool) : Restriction :=
  if hasNull then
    if values.isEmpty then .eq path .null else .anyOf [.isIn path values, .eq path .null]
  else .isIn path values

/-- Projects the column of the first sort and the number of rows for each of its values. Entity,
locale, filter and the direction of the sort are kept. -/
def Query.groupCounts (q : Query) (values : List Value) (hasNull : Bool) :
    Except CompileError Query :=
  match q.sort with
  | [] => .error .missingPrimarySort
  | none :: _ => .error (.nullSortDescriptor 0)
  | some primary :: _ =>
    match q.columns[primary.column]? with
    | none => .error (.sortColumnOutOfRange primary.column q.columns.length)
    | some column =>
      .ok {
        entity := q.entity
        columns := [⟨column.path, none⟩, ⟨"*", some .count⟩]
        filter := some (.allOf (q.filter.toList ++ [groupMatch column.path values hasNull]))
        sort := [some ⟨0, primary.ascending⟩]
        locale := q.locale
        includeId := false
        distinctId := false
        totalCount := true }

/-- The values of a column that are not null, each once, and whether there is a null or nothing
in it. -/
def ResultSet.distinct (r : ResultSet) (column : Nat) : List Value × Bool :=
  let cells := r.cells column
  let values := (cells.filterMap id).filter (!·.isNull)
  (values.eraseDups, cells.any fun cell => cell.all Value.isNull)

/-- A row of the group counts: a value and how often it occurs. -/
def ResultRow.groupCount (row : ResultRow) : Except ExecutionError (Value × Nat) :=
  match row.values with
  | value :: count :: _ =>
    match count with
    | .int n =>
      if 0 ≤ n then .ok (value, n.toInt.toNat)
      else .error (.backend (countFault value count))
    | _ => .error (.backend (countFault value count))
  | _ => .error (.backend "Group count row is missing its value or count column")
where
  countFault (value count : Value) : String :=
    "Expected a non-negative integer group count for " ++ value.text ++ ", got " ++ count.text

abbrev ServiceDialogue (α : Type) : Type :=
  Dialogue Query (fun _ => Except ExecutionError ResultSet) (Except ExecutionError α)

/-- Counts the groups of a result of the query by one further query, unless there are none. -/
def ResultSet.groupCounts (r : ResultSet) (q : Query) : ServiceDialogue (List (Value × Nat)) :=
  match q.sort.head?.join with
  | none => .done (.error (.compile .missingPrimarySort))
  | some primary =>
    let (values, hasNull) := r.distinct primary.column
    if r.bailedOut || (values.isEmpty && !hasNull) then .done (.ok [])
    else
      match q.groupCounts values hasNull with
      | .error e => .done (.error (.compile e))
      | .ok groups =>
        .ask groups fun
          | .error e => .done (.error e)
          | .ok counts => .done (counts.rows.mapM ResultRow.groupCount)

/-- Runs queries on a service that may be set later. -/
structure Runner where
  service : Option Service

namespace Runner

def execute (r : Runner) (q : Query) : StoreDialogue ResultSet :=
  match r.service with
  | none => .done (.error .missingService)
  | some service => service.execute q

def groupCounts (r : Runner) (q : Query) (results : ResultSet) :
    StoreDialogue (List (Value × Nat)) :=
  (results.groupCounts q).through r.execute

end Runner

end ObjectQuery
