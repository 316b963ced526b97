import ObjectQuery.Error
import ObjectQuery.Value

/-! What executing a query gives. -/

namespace ObjectQuery

inductive ExecutionError where
  | missingService
  | compile (error : CompileError)
  | backend (message : String)
  deriving Repr, DecidableEq

def ExecutionError.message : ExecutionError → String
  | .missingService => "No query service configured"
  | .compile error => "Compilation failed: " ++ error.message
  | .backend message => "Backend error: " ++ message

/-- The id of the entity, if the query included it, and the values of the columns. -/
structure ResultRow where
  id : Option Value
  values : List Value
  deriving Repr, BEq

/-- A store gives rows with the id in front. -/
def ResultRow.ofValues (includeId : Bool) : List Value → ResultRow
  | [] => ⟨none, []⟩
  | v :: rest => if includeId then ⟨some v, rest⟩ else ⟨none, v :: rest⟩

/-- `matches` counts what the query matches, of which `rows` may have been left in the store. -/
structure ResultSet where
  rows : List ResultRow
  matchCount : Nat
  bailedOut : Bool
  deriving Repr, BEq, Inhabited

namespace ResultSet

def empty : ResultSet := ⟨[], 0, false⟩

/-- No row was fetched, since too many match. -/
def tooMany (count : Nat) : ResultSet := ⟨[], count, true⟩

def rowCount (r : ResultSet) : Nat :=
  if r.bailedOut then 0 else r.rows.length

def row? (r : ResultSet) (index : Nat) : Option ResultRow :=
  r.rows[index]?

def value? (r : ResultSet) (row column : Nat) : Option Value :=
  (r.row? row).bind (·.values[column]?)

/-- What stands in a column, row by row. -/
def cells (r : ResultSet) (column : Nat) : List (Option Value) :=
  (r.rows.take r.rowCount).map (·.values[column]?)

end ResultSet

end ObjectQuery
