import ObjectQuery.Compiler
import ObjectQuery.Execution.Dialogue
import ObjectQuery.Execution.Result
import ObjectQuery.Settings.Basic

/-! Execution of a query against a store that runs statements. -/

namespace ObjectQuery

/-- What a store is asked for: the number a statement counts, or the rows it selects. -/
inductive Fetch where
  | count (statement : Compiled)
  | rows (statement : Compiled)

def Fetch.Answer : Fetch → Type
  | .count _ => Except ExecutionError Nat
  | .rows _ => Except ExecutionError (List (List Value))

def Fetch.statement : Fetch → Compiled
  | .count statement => statement
  | .rows statement => statement

abbrev StoreDialogue (α : Type) : Type :=
  Dialogue Fetch Fetch.Answer (Except ExecutionError α)

/-- More than `maxMatches` matching rows are not fetched. -/
structure Service where
  compiler : Compiler
  maxMatches : Option Nat

namespace Service

def standard : Service := ⟨.standard, none⟩

def ofSettings (s : Settings) : Service :=
  ⟨.ofConventions s.names, s.maxMatches⟩

/-- Fetches the rows of a query whose matches may have been counted before. -/
def fetchRows (s : Service) (q : Query) (count? : Option Nat) : StoreDialogue ResultSet :=
  match s.compiler.compile q with
  | .error e => .done (.error (.compile e))
  | .ok statement =>
    .ask (.rows statement) fun
      | .error e => .done (.error e)
      | .ok rows =>
        .done (.ok ⟨rows.map (.ofValues q.includeId), count?.getD rows.length, false⟩)

def needsCount (s : Service) (q : Query) : Bool :=
  q.totalCount || s.maxMatches.isSome

/-- Counts first where the query asks for it or the number of matches is limited. -/
def execute (s : Service) (q : Query) : StoreDialogue ResultSet :=
  if s.needsCount q then
    match s.compiler.compileCount q with
    | .error e => .done (.error (.compile e))
    | .ok statement =>
      .ask (.count statement) fun
        | .error e => .done (.error e)
        | .ok count =>
          if s.maxMatches.any (· < count) then .done (.ok (.tooMany count))
          else s.fetchRows q (some count)
  else s.fetchRows q none

end Service

end ObjectQuery
