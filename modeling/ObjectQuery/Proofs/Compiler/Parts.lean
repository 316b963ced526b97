import ObjectQuery.Compiler

/-! The parts of a compiled statement. Its sources and conditions are those of the query, whether
it fetches rows or counts them. -/

namespace ObjectQuery

namespace Query

variable {names : Conventions} {resolver : Resolver} {q p : Query} {e : Expr}

theorem mem_items (h : e ∈ q.items names resolver) :
    e = q.idItem names resolver ∨ ∃ c ∈ q.columns, e = c.item names resolver := by
  rcases List.mem_append.mp h with h | h
  · split at h
    · exact .inl (List.mem_singleton.mp h)
    · simp at h
  · obtain ⟨c, hc, rfl⟩ := List.mem_map.mp h
    exact .inr ⟨c, hc, rfl⟩

theorem mem_groupKeys (h : e ∈ q.groupKeys names resolver) :
    e = idExpr names resolver ∨ ∃ c ∈ q.columns, e = c.groupKey resolver := by
  unfold groupKeys at h
  split at h
  · rcases List.mem_append.mp h with h | h
    · split at h
      · exact .inl (List.mem_singleton.mp h)
      · simp at h
    · obtain ⟨c, hc, rfl⟩ := List.mem_map.mp h
      exact .inr ⟨c, List.mem_filter.mp hc |>.1, rfl⟩
  · simp at h

theorem joins_congr (h : q.paths = p.paths) : q.joins resolver = p.joins resolver :=
  congrArg (Joins.ofPaths resolver) h

theorem follow_congr (h : q.paths = p.paths) : q.follow resolver = p.follow resolver := by
  rw [follow, follow, joins_congr h, h]

end Query

namespace Compiler

abbrev resolving (names : Conventions) (resolver : Resolver) : Compiler :=
  ⟨names, resolver, .standard⟩

/-- A statement between whose `FROM` and grouping stands the source of the query. -/
structure HasSource (c : Compiler) (q : Query) (s : Compiled) : Prop where
  conditions : c.conditions q = .ok (s.statement.conditions, s.parameters)
  joins : s.statement.joins = (q.joins c.resolver).joins
  root : s.statement.root = c.resolver.root
  entity : s.statement.entity = q.entity

theorem bind_eq_ok {ε α β : Type} {x : Except ε α} {f : α → Except ε β} {y : β}
    (h : (x >>= f) = .ok y) : ∃ a, x = .ok a ∧ f a = .ok y := by
  cases x with
  | error e => cases h
  | ok a => exact ⟨a, rfl, h⟩

theorem check_eq_ok_iff {q : Query} : check q = .ok () ↔
    q.hasEntity = true ∧ Query.sortError? q.columns.length 0 q.sort = none ∧
      (q.columns ≠ [] ∨ q.includeId = true) := by
  unfold check Query.validate
  cases q.hasEntity with
  | false => simp [bind, Except.bind]
  | true =>
    cases Query.sortError? q.columns.length 0 q.sort with
    | some e => simp [bind, Except.bind]
    | none =>
      cases q.columns <;> cases q.includeId <;>
        simp [bind, Except.bind, pure, Except.pure, throw, throwThe, MonadExceptOf.throw]

theorem follow_eq_ok {q : Query} {resolver : Resolver} {joins : Joins}
    (h : q.follow resolver = .ok joins) : joins = q.joins resolver := by
  unfold Query.follow at h
  split at h
  · cases h
  · exact (Except.ok.inj h).symm

theorem select_eq_ok {q : Query} {names : Conventions} {resolver : Resolver} {items : List Expr}
    (h : q.select names resolver = .ok items) : items = q.items names resolver := by
  unfold Query.select at h
  split at h
  · cases h
  · exact (Except.ok.inj h).symm

/-- The conditions of a query whose paths can be followed. -/
def joinedConditions (c : Compiler) (q : Query) : Except CompileError (List Expr × Bindings) := do
  let _ ← q.follow c.resolver
  c.conditions q

/-- The conditions of a query whose rows can be fetched. -/
def rowConditions (c : Compiler) (q : Query) : Except CompileError (List Expr × Bindings) := do
  let conditions ← c.joinedConditions q
  let _ ← q.select c.names c.resolver
  return conditions

/-- The conditions of a query whose entities can be counted. -/
def countConditions (c : Compiler) (q : Query) : Except CompileError (List Expr × Bindings) :=
  if q.includeId then c.rowConditions q else c.joinedConditions q

section

variable {c : Compiler} {q : Query} {r : List Expr × Bindings}

theorem conditions_of_joined (h : c.joinedConditions q = .ok r) : c.conditions q = .ok r := by
  obtain ⟨_, _, h⟩ := bind_eq_ok h
  exact h

theorem joined_of_rowConditions (h : c.rowConditions q = .ok r) : c.joinedConditions q = .ok r := by
  obtain ⟨r', hjoined, h⟩ := bind_eq_ok h
  obtain ⟨_, _, h⟩ := bind_eq_ok h
  rwa [← Except.ok.inj h]

theorem joined_of_countConditions (h : c.countConditions q = .ok r) :
    c.joinedConditions q = .ok r := by
  unfold countConditions at h
  split at h
  · exact joined_of_rowConditions h
  · exact h

end

/-- The statement that fetches the rows of a query, once its conditions are compiled. -/
def rows (c : Compiler) (q : Query) (conditions : List Expr) : Statement where
  select := q.items c.names c.resolver
  entity := q.entity
  root := c.resolver.root
  joins := (q.joins c.resolver).joins
  conditions := conditions
  groupBy := q.groupKeys c.names c.resolver
  orderBy := orderKeys (q.sort.filterMap id) q.columns.length q.includeId

theorem source_eq (c : Compiler) (q : Query) :
    c.source q = do
      let (conditions, b) ← c.joinedConditions q
      let joins := (q.joins c.resolver).joins
      return (⟨[], q.entity, c.resolver.root, joins, conditions, [], []⟩, b) := by
  unfold source joinedConditions
  cases hjoins : q.follow c.resolver with
  | error e => rfl
  | ok joins =>
    rw [follow_eq_ok hjoins]
    cases c.conditions q with
    | error e => rfl
    | ok r => rfl

/-- The rows need joins, conditions and a select list. -/
theorem exists_rowConditions_iff {c : Compiler} {q : Query} :
    (∃ r, c.rowConditions q = .ok r) ↔ (∃ joins, q.follow c.resolver = .ok joins) ∧
      (∃ r, c.conditions q = .ok r) ∧ ∃ items, q.select c.names c.resolver = .ok items := by
  rw [rowConditions, joinedConditions]
  cases q.follow c.resolver <;> cases c.conditions q <;> cases q.select c.names c.resolver <;>
    simp [bind, Except.bind, pure, Except.pure]

theorem compile_eq (c : Compiler) (q : Query) :
    c.compile q = do
      check q
      let (conditions, b) ← c.rowConditions q
      return ⟨c.rows q conditions, b, q.gapDiagnostics ++ q.groupDiagnostics⟩ := by
  unfold compile rowConditions
  rw [source_eq]
  cases check q with
  | error e => rfl
  | ok _ =>
    cases c.joinedConditions q with
    | error e => rfl
    | ok r =>
      cases hitems : q.select c.names c.resolver with
      | error e => rfl
      | ok items =>
        rw [select_eq_ok hitems]
        rfl

/-- What has to hold before the entities of a query are counted. -/
def countCheck (q : Query) : Except CompileError Unit :=
  if q.includeId then check q else if q.hasEntity then .ok () else .error .missingEntity

/-- The two ways to count differ in what they check and in the remarks on groups alone. -/
theorem compileCount_eq (c : Compiler) (q : Query) :
    c.compileCount q = do
      countCheck q
      let (conditions, b) ← c.countConditions q
      return ⟨(c.rows q conditions).projecting c.countItem, b,
        q.gapDiagnostics ++ if q.includeId then q.groupDiagnostics else []⟩ := by
  unfold compileCount countCheck countConditions
  split
  · rw [compile_eq]
    cases check q with
    | error e => rfl
    | ok _ =>
      cases c.rowConditions q with
      | error e => rfl
      | ok r => rfl
  · rw [source_eq]
    cases q.hasEntity with
    | false => rfl
    | true =>
      cases c.joinedConditions q with
      | error e => rfl
      | ok r => simp only [List.append_nil]; rfl

theorem compile_parts {c : Compiler} {q : Query} {s : Compiled} (h : c.compile q = .ok s) :
    c.HasSource q s ∧ s.statement.select = q.items c.names c.resolver ∧
      s.statement.groupBy = q.groupKeys c.names c.resolver := by
  rw [compile_eq] at h
  obtain ⟨_, _, h⟩ := bind_eq_ok h
  obtain ⟨⟨conditions, b⟩, hc, h⟩ := bind_eq_ok h
  cases h
  exact ⟨⟨conditions_of_joined (joined_of_rowConditions hc), rfl, rfl, rfl⟩, rfl, rfl⟩

theorem compile_rows {c : Compiler} {q : Query} {s : Compiled} (h : c.compile q = .ok s) :
    check q = .ok () ∧ ∃ conditions, s.statement = c.rows q conditions := by
  rw [compile_eq] at h
  obtain ⟨_, hcheck, h⟩ := bind_eq_ok h
  obtain ⟨⟨conditions, b⟩, _, h⟩ := bind_eq_ok h
  cases h
  exact ⟨hcheck, conditions, rfl⟩

theorem compileCount_parts {c : Compiler} {q : Query} {s : Compiled}
    (h : c.compileCount q = .ok s) :
    c.HasSource q s ∧ s.statement.select = [c.countItem] ∧ s.statement.groupBy = [] := by
  rw [compileCount_eq] at h
  obtain ⟨_, _, h⟩ := bind_eq_ok h
  obtain ⟨⟨conditions, b⟩, hc, h⟩ := bind_eq_ok h
  cases h
  exact ⟨⟨conditions_of_joined (joined_of_countConditions hc), rfl, rfl, rfl⟩, rfl, rfl⟩

/-- The condition of the filter alone. -/
def filterPart (c : Compiler) (q : Query) : Except CompileError (Option Expr × Bindings) :=
  match q.filter with
  | some r => c.filters c.resolver q r .empty
  | none => .ok (none, .empty)

theorem conditions_bind (c : Compiler) (q : Query) :
    c.conditions q = do
      let (filter, b) ← c.filterPart q
      let (locale, b) := q.localeConditions c.names c.resolver b
      return (filter.toList ++ locale, b) := by
  unfold conditions filterPart
  cases q.filter with
  | none => rfl
  | some r => rfl

/-- A query without a filter is compiled like one whose filter says nothing. -/
theorem filterPart_resolving (names : Conventions) (resolver : Resolver) (q : Query) :
    (resolving names resolver).filterPart q =
      filterCondition resolver (q.filter.getD (.and [])) .empty := by
  unfold filterPart
  cases q.filter with
  | none => rfl
  | some r => rfl

theorem conditions_eq (names : Conventions) (resolver : Resolver) (q : Query) :
    (resolving names resolver).conditions q = do
      let (filter, b) ← filterCondition resolver (q.filter.getD (.and [])) .empty
      let (locale, b) := q.localeConditions names resolver b
      return (filter.toList ++ locale, b) := by
  rw [conditions_bind, filterPart_resolving]

/-- The locale conditions stand last, whatever compiles the filter. -/
theorem conditions_locale {c : Compiler} {q : Query} {es : List Expr} {b : Bindings}
    (h : c.conditions q = .ok (es, b)) :
    ∃ filter b₁, c.filterPart q = .ok (filter, b₁) ∧
      es = filter.toList ++ (q.localeConditions c.names c.resolver b₁).1 ∧
      b = (q.localeConditions c.names c.resolver b₁).2 := by
  rw [conditions_bind] at h
  obtain ⟨⟨filter, b₁⟩, hf, h⟩ := bind_eq_ok h
  cases h
  exact ⟨filter, b₁, hf, rfl, rfl⟩

theorem conditions_parts {names : Conventions} {resolver : Resolver} {q : Query}
    {es : List Expr} {b : Bindings} (h : (resolving names resolver).conditions q = .ok (es, b)) :
    ∃ filter b₁,
      filterCondition resolver (q.filter.getD (.and [])) .empty = .ok (filter, b₁) ∧
      es = filter.toList ++ (q.localeConditions names resolver b₁).1 ∧
      b = (q.localeConditions names resolver b₁).2 := by
  obtain ⟨filter, b₁, hf, hes, hb⟩ := conditions_locale h
  rw [filterPart_resolving] at hf
  exact ⟨filter, b₁, hf, hes, hb⟩

end Compiler

end ObjectQuery
