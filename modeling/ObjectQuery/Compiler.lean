import ObjectQuery.Clause.Filter
import ObjectQuery.Clause.Group
import ObjectQuery.Clause.Join
import ObjectQuery.Clause.LocaleMatch
import ObjectQuery.Clause.Order

/-! Compilation of a query into the statement that fetches its rows and the one that counts them. -/

namespace ObjectQuery

structure Compiler where
  names : Conventions
  resolver : Resolver
  filters : FilterCompiler

/-- A statement with the arguments of its parameters and the remarks on its query. -/
structure Compiled where
  statement : Statement
  parameters : Bindings
  diagnostics : List Diagnostic

def Compiled.text (c : Compiled) : String :=
  c.statement.text

/-- One remark for each placeholder of the filter. -/
def Query.gapDiagnostics (q : Query) : List Diagnostic :=
  (q.filter.elim [] Restriction.gaps).map .skippedGap

namespace Compiler

/-- Resolves dotted paths against the root alias of the conventions. -/
def ofConventions (names : Conventions) : Compiler :=
  ⟨names, .dotted names.rootAlias, .standard⟩

def standard : Compiler :=
  .ofConventions .standard

/-- The condition of the filter, if it has one, and then the locale conditions. -/
def conditions (c : Compiler) (q : Query) : Except CompileError (List Expr × Bindings) := do
  let (filter, b) ←
    match q.filter with
    | some restriction => c.filters c.resolver q restriction .empty
    | none => pure (none, .empty)
  let (locale, b) := q.localeConditions c.names c.resolver b
  return (filter.toList ++ locale, b)

/-- The statement without its select list, grouping and order. -/
def source (c : Compiler) (q : Query) : Except CompileError (Statement × Bindings) := do
  let joins ← q.follow c.resolver
  let (conditions, b) ← c.conditions q
  let statement : Statement :=
    { select := []
      entity := q.entity
      root := c.resolver.root
      joins := joins.joins
      conditions := conditions
      groupBy := []
      orderBy := [] }
  return (statement, b)

/-- What has to hold before a query is compiled for its rows. -/
def check (q : Query) : Except CompileError Unit := do
  q.validate
  if q.columns.isEmpty && !q.includeId then throw .emptyProjection

def compile (c : Compiler) (q : Query) : Except CompileError Compiled := do
  check q
  let (source, b) ← c.source q
  let items ← q.select c.names c.resolver
  let statement :=
    { source with
      select := items
      groupBy := q.groupKeys c.names c.resolver
      orderBy := orderKeys (q.sort.filterMap id) q.columns.length q.includeId }
  return ⟨statement, b, q.gapDiagnostics ++ q.groupDiagnostics⟩

/-- The item that counts entities, however many joined rows each has. -/
def countItem (c : Compiler) : Expr :=
  .call "count" true [idExpr c.names c.resolver]

/-- With the id, counting is refused whenever fetching the rows is, and takes over the statement.
Without it only the entity is checked, since neither columns nor sorts are used. -/
def compileCount (c : Compiler) (q : Query) : Except CompileError Compiled := do
  if q.includeId then
    let rows ← c.compile q
    return { rows with statement := rows.statement.projecting c.countItem }
  else
    if !q.hasEntity then throw .missingEntity
    let (source, b) ← c.source q
    return ⟨source.projecting c.countItem, b, q.gapDiagnostics⟩

end Compiler

end ObjectQuery
