import ObjectQuery.Compiler

/-! What is reported while a query is compiled, in the order it happens. -/

namespace ObjectQuery

inductive Severity where
  | debug
  | warn
  deriving Repr, DecidableEq

structure Report where
  severity : Severity
  message : String
  deriving Repr, DecidableEq

namespace Compiler

private def warnings (diagnostics : List Diagnostic) : List Report :=
  diagnostics.map (⟨.warn, ·.message⟩)

private def joinReport (j : Join) : Report :=
  ⟨.debug, "Joining " ++ j.parent ++ "." ++ j.relation ++ " as " ++ j.child⟩

/-- The joins that are made. Of the path that breaks off they are those over its relations. -/
private def joinsMade (resolver : Resolver) (q : Query) : List Join :=
  let paths := q.paths.map resolver.resolve
  let followed := paths.takeWhile (·.breakOff?.isNone)
  let broken := (paths.drop followed.length).take 1
  let reached := followed ++ broken.map fun p => { p with hops := p.segments.length }
  ((reached.flatMap (·.joins resolver.root)).foldl Joins.add ⟨.of resolver.root, []⟩).joins

private def sourceReports (c : Compiler) (q : Query) : List Report :=
  let made := warnings q.gapDiagnostics ++ (joinsMade c.resolver q).map joinReport
  match q.follow c.resolver, q.filter with
  | .ok _, none => made ++ [⟨.debug, "No filter criteria specified for the query"⟩]
  | _, _ => made

private def orderReports (q : Query) : List Report :=
  match q.sort.filterMap id with
  | [primary] => [⟨.debug, s!"Primary sort on ordinal {(primary.key q.includeId).ordinal}"⟩]
  | _ => []

/-- Nothing is reported for a query that does not pass the checks, and nothing after its source or
its select list fails. -/
def trace (c : Compiler) (q : Query) : List Report :=
  match check q, c.source q, q.select c.names c.resolver with
  | .error _, _, _ => []
  | .ok _, .ok _, .ok _ => c.sourceReports q ++ warnings q.groupDiagnostics ++ orderReports q
  | .ok _, _, _ => c.sourceReports q

def countTrace (c : Compiler) (q : Query) : List Report :=
  if q.includeId then c.trace q
  else if q.hasEntity then c.sourceReports q
  else []

end Compiler

end ObjectQuery
