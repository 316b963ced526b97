import ObjectQuery.Restriction.Gap

/-! Remarks on a query that compiles all the same. -/

namespace ObjectQuery

inductive Diagnostic where
  /-- A composite has a placeholder at the location; it filters nothing. -/
  | skippedGap (location : List Restriction.Step)
  /-- The column is resolved over all rows of a group. -/
  | localeNotGrouped (path : String)
  deriving Repr, DecidableEq

namespace Diagnostic

/-- The place in the query: a location in the filter, or an attribute path. -/
def place : Diagnostic → String
  | .skippedGap location => Restriction.locationText location
  | .localeNotGrouped path => path

def message : Diagnostic → String
  | .skippedGap location =>
    "Composite restriction has a null child at " ++ Restriction.locationText location ++ "; skipped"
  | .localeNotGrouped path =>
    "LOCALE column '" ++ path ++ "' is not grouped; it resolves across each group"

end Diagnostic

end ObjectQuery
