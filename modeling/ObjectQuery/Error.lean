import ObjectQuery.Restriction.Operator

/-! Why a query is refused, and where its compilation breaks off. -/

namespace ObjectQuery

/-- What is wrong with the values of a simple restriction. -/
inductive ValueFault where
  | noValue
  | notTwo
  | notOne
  | comparedWithNull
  deriving Repr, DecidableEq

def ValueFault.message : ValueFault → String
  | .noValue => "requires at least one value"
  | .notTwo => "requires exactly two values"
  | .notOne => "requires exactly one value"
  | .comparedWithNull => "cannot compare against null"

inductive CompileError where
  | missingEntity
  | emptyProjection
  | nullSortDescriptor (position : Nat)
  | sortColumnOutOfRange (index columns : Nat)
  | unsupportedAggregate (name : String)
  | invalidRestriction (path : String) (operator : Operator) (fault : ValueFault)
  | unknownColumn (name : String)
  | missingPrimarySort
  /-- No refusal: compilation breaks off at a path that has this many relations and more hops. -/
  | missingRelation (relations : Nat)
  /-- No refusal: compilation breaks off at a locale prefix that no text can hold. -/
  | endlessPrefix
  deriving Repr, DecidableEq

def CompileError.message : CompileError → String
  | .missingEntity => "Query has no entity name"
  | .emptyProjection => "Query projects no columns and does not include the id"
  | .nullSortDescriptor position => s!"Sort descriptor at position {position} is null"
  | .sortColumnOutOfRange index columns =>
    s!"Sort descriptor references column {index} but the query has {columns} columns"
  | .unsupportedAggregate name => s!"Unsupported aggregate function: {name}"
  | .invalidRestriction path operator fault =>
    "Invalid " ++ operator.name ++ " restriction on '" ++ path ++ "': " ++ fault.message
  | .unknownColumn name => s!"Unknown column: {name}"
  | .missingPrimarySort => "Query has no primary sort column"
  | .missingRelation relations =>
    s!"range end index {relations + 1} out of range for slice of length {relations}"
  | .endlessPrefix => "capacity overflow"

/-- Whether nothing is answered, not even that the query is refused. -/
def CompileError.breaksOff : CompileError → Bool
  | .missingRelation _ | .endlessPrefix => true
  | _ => false

end ObjectQuery
