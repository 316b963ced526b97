import ObjectQuery.Proofs.Compiler.Parts
import ObjectQuery.Proofs.Filter.Fault

/-! When a query is refused or its compilation breaks off, and why. A blank entity comes before the
sorts, the sorts before an empty select list, then come a path that cannot be followed and a filter
that is refused, and last a locale prefix without end; nothing else goes wrong. -/

namespace ObjectQuery

namespace Query

/-- A sort entry is refused that is null or that points behind the last column. -/
def entryFault? (columns : Nat) : Option SortDescriptor × Nat → Option CompileError
  | (none, position) => some (.nullSortDescriptor position)
  | (some s, _) =>
    if s.column < columns then none else some (.sortColumnOutOfRange s.column columns)

theorem sortError?_eq (columns position : Nat) (sort : List (Option SortDescriptor)) :
    sortError? columns position sort =
      (sort.zipIdx position).findSome? (entryFault? columns) := by
  induction sort generalizing position with
  | nil => rfl
  | cons entry rest ih =>
    cases entry with
    | none => rfl
    | some s =>
      by_cases h : s.column < columns
      · simp [sortError?, entryFault?, h, Nat.not_le.mpr h, ih]
      · simp [sortError?, entryFault?, h, Nat.not_lt.mp h]

variable (q : Query)

/-- The error of the first sort entry that is refused. -/
def sortFault? : Option CompileError :=
  q.sort.zipIdx.findSome? (entryFault? q.columns.length)

def projectionFault? : Option CompileError :=
  if q.columns = [] ∧ q.includeId = false then some .emptyProjection else none

/-- Where the first path breaks off that cannot be followed, among those of the columns and then
those of the leaves. -/
def pathFault? (resolver : Resolver) : Option CompileError :=
  (q.columns.map Column.path ++ (q.filter.elim [] Restriction.leaves).map Leaf.path).findSome?
    fun path => (resolver.resolve path).breakOff?

/-- The error of the first leaf that is refused. -/
def filterFault? : Option CompileError :=
  (q.filter.elim [] Restriction.leaves).findSome? Leaf.error?

def prefixFault? (names : Conventions) : Option CompileError :=
  if (∃ c ∈ q.columns, c.aggregate = some .locale) ∧ maxTextLength < names.localeWidth then
    some .endlessPrefix
  else none

/-- Why the rows of a query cannot be fetched, if they cannot. -/
def rowsFault? (names : Conventions) (resolver : Resolver) : Option CompileError :=
  if Text.isBlankText q.entity then some .missingEntity
  else q.sortFault?.or (q.projectionFault?.or
    ((q.pathFault? resolver).or (q.filterFault?.or (q.prefixFault? names))))

theorem pathFault?_dotted (root : String) : q.pathFault? (.dotted root) = none := by
  rw [pathFault?, List.findSome?_eq_none_iff]
  intro path _
  exact if_neg fun h => Nat.lt_irrefl _ h.2

theorem rowsFault?_eq_none_iff {names : Conventions} {resolver : Resolver} :
    q.rowsFault? names resolver = none ↔ Text.isBlankText q.entity = false ∧
      q.sortFault? = none ∧ q.projectionFault? = none ∧ q.pathFault? resolver = none ∧
        q.filterFault? = none ∧ q.prefixFault? names = none := by
  rw [rowsFault?]
  cases Text.isBlankText q.entity <;> simp

end Query

namespace Compiler

variable {names : Conventions} {resolver : Resolver} {q : Query}

theorem errorOf?_validate : errorOf? q.validate =
    if Text.isBlankText q.entity then some .missingEntity else q.sortFault? := by
  unfold Query.validate Query.hasEntity Query.sortFault?
  rw [← Query.sortError?_eq]
  cases Text.isBlankText q.entity with
  | true => rfl
  | false =>
    cases Query.sortError? q.columns.length 0 q.sort with
    | none => rfl
    | some e => rfl

theorem errorOf?_check : errorOf? (check q) = (errorOf? q.validate).or q.projectionFault? := by
  apply errorOf?_bind
  intro _
  unfold Query.projectionFault?
  cases q.columns <;> cases q.includeId <;> rfl

theorem errorOf?_follow : errorOf? (q.follow resolver) = q.pathFault? resolver := by
  have hpaths : (q.filter.elim [] Restriction.leaves).map Leaf.path =
      q.filter.elim [] Restriction.paths := by
    cases q.filter with
    | none => rfl
    | some r => exact r.map_path_leaves
  unfold Query.follow Query.pathFault?
  rw [hpaths, ← Query.paths]
  cases q.paths.findSome? fun path => (resolver.resolve path).breakOff? with
  | none => rfl
  | some e => rfl

theorem errorOf?_select : errorOf? (q.select names resolver) = q.prefixFault? names := by
  unfold Query.select Query.prefixFault?
  simp only [List.any_eq_true, decide_eq_true_eq]
  split <;> rfl

theorem errorOf?_conditions :
    errorOf? ((resolving names resolver).conditions q) = q.filterFault? := by
  rw [conditions_eq, errorOf?_bind_none fun _ => rfl, errorOf?_filterCondition, Query.filterFault?]
  cases q.filter with
  | none => rfl
  | some r => rfl

theorem errorOf?_joinedConditions : errorOf? ((resolving names resolver).joinedConditions q) =
    (q.pathFault? resolver).or q.filterFault? := by
  rw [joinedConditions, errorOf?_bind fun _ => errorOf?_conditions, errorOf?_follow]

theorem errorOf?_rowConditions : errorOf? ((resolving names resolver).rowConditions q) =
    (q.pathFault? resolver).or (q.filterFault?.or (q.prefixFault? names)) := by
  have hselect : ∀ r : List Expr × Bindings, errorOf? (do
      let _ ← q.select names resolver
      return r) = q.prefixFault? names := by
    intro r
    rw [errorOf?_bind_none fun _ => rfl, errorOf?_select]
  rw [rowConditions, errorOf?_bind hselect, errorOf?_joinedConditions, Option.or_assoc]

/-- Behind the checks and the conditions nothing can be at fault. -/
theorem errorOf?_check_bind (check : Except CompileError Unit)
    {conditions : Except CompileError (List Expr × Bindings)}
    {f : List Expr × Bindings → Except CompileError Compiled} (h : ∀ r, errorOf? (f r) = none) :
    errorOf? (check >>= fun _ => conditions >>= f) =
      (errorOf? check).or (errorOf? conditions) := by
  apply errorOf?_bind
  intro _
  exact errorOf?_bind_none h

theorem errorOf?_compile :
    errorOf? ((resolving names resolver).compile q) = q.rowsFault? names resolver := by
  rw [compile_eq, errorOf?_check_bind _ fun _ => rfl, errorOf?_rowConditions, errorOf?_check,
    errorOf?_validate, Query.rowsFault?]
  by_cases hentity : Text.isBlankText q.entity = true
  · rw [if_pos hentity, if_pos hentity]
    rfl
  · rw [if_neg hentity, if_neg hentity, Option.or_assoc]

/-- The first leaf at fault is the range behind the negation, and a sort is refused before it. -/
example :
    let filter : Restriction := .or [none, some (.isIn "code" [.null]),
      some (.not (.and [none, some (.simple "total" .between [.int 1]),
        some (.simple "status" .lessThan [.null])]))]
    let q : Query := { Query.ofEntity "Order" with filter := some filter }
    q.rowsFault? .standard (.dotted "obj") =
        some (.invalidRestriction "total" .between .notTwo) ∧
      Query.rowsFault? { q with sort := [some ⟨0, true⟩, none] } .standard (.dotted "obj") =
        some (.sortColumnOutOfRange 0 0) :=
  ⟨rfl, rfl⟩

end Compiler

end ObjectQuery
