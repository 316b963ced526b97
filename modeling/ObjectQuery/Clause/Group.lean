import ObjectQuery.Clause.Select
import ObjectQuery.Diagnostic

/-! Group keys. Rows are grouped as soon as one column combines them. -/

namespace ObjectQuery

/-- A group key names the attribute, whatever it is called. -/
def Column.groupKey (resolver : Resolver) (c : Column) : Expr :=
  let p := resolver.resolve c.path
  .column p.owner p.field

def Query.groupKeys (names : Conventions) (resolver : Resolver) (q : Query) : List Expr :=
  if q.isGrouping then
    (if q.includeId then [idExpr names resolver] else []) ++
      (q.columns.filter (·.aggregate.isNone)).map (Column.groupKey resolver)
  else []

/-- Locale columns are no group keys, and each of them is remarked on. -/
def Query.groupDiagnostics (q : Query) : List Diagnostic :=
  if q.isGrouping then
    (q.columns.filter (·.aggregate = some .locale)).map (.localeNotGrouped ·.path)
  else []

end ObjectQuery
