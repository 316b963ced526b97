import Mathlib.Data.List.Forall2
import ObjectQuery.Execution.Service
import ObjectQuery.Proofs.Compiler.Count

/-! What a store is asked while a query is executed, and what becomes of its answers. The count
comes first where it is needed, and the rows follow unless too many match. -/

namespace ObjectQuery

/-- With its id in front again, the row is the one the store gave. -/
def ResultRow.Shows (includeId : Bool) (row : ResultRow) (values : List Value) : Prop :=
  row.id.toList ++ row.values = values ∧
    (row.id.isSome = true ↔ includeId = true ∧ values ≠ [])

theorem ResultRow.shows_ofValues (includeId : Bool) (values : List Value) :
    (ofValues includeId values).Shows includeId values := by
  cases values with
  | nil => simp [ofValues, Shows]
  | cons v rest => cases includeId <;> simp [ofValues, Shows]

/-- All rows of the store are shown in their order. Where the matches were not counted, the rows
are. -/
structure ResultSet.Shows (q : Query) (count? : Option Nat) (r : ResultSet)
    (given : List (List Value)) : Prop where
  bailedOut : r.bailedOut = false
  rows : List.Forall₂ (ResultRow.Shows q.includeId) r.rows given
  matchCount : r.matchCount = count?.getD given.length

/-- A failure of the store is passed on. -/
def Query.Delivers (q : Query) (count? : Option Nat) :
    Except ExecutionError (List (List Value)) → Except ExecutionError ResultSet → Prop
  | .error e, result => result = .error e
  | .ok rows, result => ∃ r : ResultSet, result = .ok r ∧ r.Shows q count? rows

theorem ResultSet.shows_ofValues (q : Query) (count? : Option Nat) (rows : List (List Value)) :
    ResultSet.Shows q count?
      ⟨rows.map (.ofValues q.includeId), count?.getD rows.length, false⟩ rows where
  bailedOut := rfl
  rows := by
    rw [List.forall₂_map_left_iff, List.forall₂_same]
    exact fun values _ => ResultRow.shows_ofValues q.includeId values
  matchCount := rfl

namespace Service

variable {s : Service} {q : Query}

def Exceeds (s : Service) (count : Nat) : Prop :=
  ∃ limit, s.maxMatches = some limit ∧ limit < count

theorem exceeds_some_iff (compiler : Compiler) (limit count : Nat) :
    Exceeds ⟨compiler, some limit⟩ count ↔ limit < count := by
  simp [Exceeds]

theorem exceeds_iff {count : Nat} :
    s.Exceeds count ↔ s.maxMatches.any (· < count) = true := by
  simp [Exceeds, Option.any_eq_true]

theorem needsCount_eq_false_iff :
    s.needsCount q = false ↔ q.totalCount = false ∧ s.maxMatches = none := by
  simp [needsCount]

section

variable {σ : Type} (answer : (question : Fetch) → σ → question.Answer × σ) (state : σ)

theorem run_fetchRows {rows : Compiled} (h : s.compiler.compile q = .ok rows)
    (count? : Option Nat) :
    ∃ result state', (s.fetchRows q count?).run answer state = (result, state', [.rows rows]) ∧
      q.Delivers count? (answer (.rows rows) state).1 result := by
  simp only [fetchRows, h, Dialogue.run]
  cases ha : answer (.rows rows) state with
  | mk reply state' =>
    cases reply with
    | error e => exact ⟨_, _, rfl, rfl⟩
    | ok values => exact ⟨_, _, rfl, _, rfl, ResultSet.shows_ofValues q count? values⟩

theorem execute_uncounted (h : s.needsCount q = false) : s.execute q = s.fetchRows q none := by
  rw [execute, h, if_neg Bool.false_ne_true]

section

variable {answer state} {count : Compiled} (h : s.needsCount q = true)
  (hc : s.compiler.compileCount q = .ok count)

include h hc

theorem run_execute_of_count_error {e : ExecutionError}
    (ha : (answer (.count count) state).1 = .error e) :
    (s.execute q).run answer state =
      (.error e, (answer (.count count) state).2, [.count count]) := by
  simp only [execute, h, hc, if_true, Dialogue.run, ha]

theorem run_execute_of_exceeds {n : Nat} (ha : (answer (.count count) state).1 = .ok n)
    (hn : s.Exceeds n) :
    (s.execute q).run answer state =
      (.ok (.tooMany n), (answer (.count count) state).2, [.count count]) := by
  simp only [execute, h, hc, if_true, Dialogue.run, ha, exceeds_iff.mp hn]

theorem run_execute_of_count {n : Nat} (ha : (answer (.count count) state).1 = .ok n)
    (hn : ¬ s.Exceeds n) :
    (s.execute q).run answer state =
      let (result, state', asked) :=
        (s.fetchRows q (some n)).run answer (answer (.count count) state).2
      (result, state', .count count :: asked) := by
  simp only [execute, h, hc, if_true, Dialogue.run, ha, if_neg (mt exceeds_iff.mpr hn)]

end

/-- The statements that a store is given, one after the other, and what comes of its answers. Both
statements take the same arguments. -/
theorem execute_protocol {rows : Compiled} (h : s.compiler.compile q = .ok rows) :
    ∃ count, s.compiler.compileCount q = .ok count ∧ count.parameters = rows.parameters ∧
      let result := ((s.execute q).run answer state).1
      let asked := ((s.execute q).run answer state).2.2
      let counted := answer (.count count) state
      (q.totalCount = false ∧ s.maxMatches = none →
        asked = [.rows rows] ∧ q.Delivers none (answer (.rows rows) state).1 result) ∧
      (¬ (q.totalCount = false ∧ s.maxMatches = none) →
        (∀ e, counted.1 = .error e → result = .error e ∧ asked = [.count count]) ∧
        ∀ n, counted.1 = .ok n →
          (s.Exceeds n → asked = [.count count] ∧
            ∃ r, result = .ok r ∧ r.bailedOut = true ∧ r.rows = [] ∧ r.rowCount = 0 ∧
              r.matchCount = n) ∧
          (¬ s.Exceeds n → asked = [.count count, .rows rows] ∧
            q.Delivers (some n) (answer (.rows rows) counted.2).1 result)) := by
  obtain ⟨remarks, hcount⟩ := Compiler.compileCount_of_compile h
  refine ⟨_, hcount, rfl, ?_⟩
  rw [← needsCount_eq_false_iff]
  constructor
  · intro hn
    obtain ⟨result, state', hrun, hresult⟩ := run_fetchRows answer state h none
    rw [execute_uncounted hn, hrun]
    exact ⟨rfl, hresult⟩
  · intro hn
    have hn : s.needsCount q = true := Bool.not_eq_false _ ▸ hn
    constructor
    · intro e ha
      rw [run_execute_of_count_error hn hcount ha]
      exact ⟨rfl, rfl⟩
    · intro n ha
      constructor
      · intro hlimit
        rw [run_execute_of_exceeds hn hcount ha hlimit]
        exact ⟨rfl, _, rfl, rfl, rfl, rfl, rfl⟩
      · intro hlimit
        obtain ⟨result, state', hrun, hresult⟩ := run_fetchRows answer _ h (some n)
        rw [run_execute_of_count hn hcount ha hlimit, hrun]
        exact ⟨rfl, hresult⟩

end

def openOrdersQuery : Query :=
  { Query.ofEntity "Order" with
    columns := [⟨"code", none⟩]
    filter := some (.eq "status" (.string "OPEN")) }

def smallStore : (question : Fetch) → Nat → question.Answer × Nat
  | .count _, calls => (.ok 2, calls + 1)
  | .rows _, calls => (.ok [[.int 7, .string "A-1"], []], calls + 1)

/-- As many rows match as are allowed; one of them is empty. -/
theorem execute_protocol_limited : ∃ rows count : Compiled,
    Compiler.standard.compile openOrdersQuery = .ok rows ∧
      Compiler.standard.compileCount openOrdersQuery = .ok count ∧
      count.parameters = rows.parameters ∧
      let run := (Service.execute ⟨.standard, some 2⟩ openOrdersQuery).run smallStore 0
      run.2.2 = [.count count, .rows rows] ∧
        ∃ r : ResultSet, run.1 = .ok r ∧
          r.Shows openOrdersQuery (some 2) [[.int 7, .string "A-1"], []] := by
  obtain ⟨rows, hrows⟩ : ∃ rows : Compiled,
      Compiler.standard.compile openOrdersQuery = .ok rows := ⟨_, rfl⟩
  have hlimit : ¬ Service.Exceeds ⟨.standard, some 2⟩ 2 := by
    rw [exceeds_some_iff]
    omega
  obtain ⟨count, hcount, hparameters, _, hcounted⟩ :=
    execute_protocol (s := ⟨.standard, some 2⟩) smallStore 0 hrows
  obtain ⟨hasked, hdelivers⟩ := ((hcounted (by simp)).2 2 rfl).2 hlimit
  exact ⟨rows, count, hrows, hcount, hparameters, hasked, hdelivers⟩

end Service

end ObjectQuery
