import ObjectQuery.Clause.Select
import ObjectQuery.Parameter

/-! Conditions that limit localized rows to the locale of the query and its fallbacks, and to rows
without a locale. -/

namespace ObjectQuery

/-- Whether the path leads over the relation to localized rows. -/
def ResolvedPath.isLocalized (names : Conventions) (p : ResolvedPath) : Bool :=
  p.segments.contains names.localeMarker

/-- The aliases whose rows are chosen by locale: those of the locale columns, then those of
localized paths in the filter, each once. -/
def Query.localizedAliases (names : Conventions) (resolver : Resolver) (q : Query) :
    List String :=
  let columns := (q.columns.filter (·.aggregate = some .locale)).map (resolver.resolve ·.path)
  let filtered := (q.filter.elim [] Restriction.paths).map resolver.resolve
  ((columns ++ filtered.filter (·.isLocalized names)).map ResolvedPath.owner).eraseDups

/-- A root locale has no code, so only rows without a locale are left. -/
def localeCondition (names : Conventions) (codes : List String) (owner : String) (b : Bindings) :
    Expr × Bindings :=
  let code := Expr.column owner names.localeField
  if codes.isEmpty then (.paren (.isNull false code), b)
  else
    let base := parameterBase (owner ++ "." ++ names.localeField)
    let (name, b) := b.bind base (.list (codes.map .string))
    (.paren (.or [.in false code name, .isNull false code]), b)

def localeConditions (names : Conventions) (codes : List String) :
    List String → Bindings → List Expr × Bindings
  | [], b => ([], b)
  | owner :: rest, b =>
    let (condition, b) := localeCondition names codes owner b
    let (conditions, b) := localeConditions names codes rest b
    (condition :: conditions, b)

def Query.localeConditions (names : Conventions) (resolver : Resolver) (q : Query)
    (b : Bindings) : List Expr × Bindings :=
  ObjectQuery.localeConditions names q.locale.fallback (q.localizedAliases names resolver) b

end ObjectQuery
