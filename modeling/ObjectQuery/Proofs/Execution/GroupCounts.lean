import Mathlib.Data.List.Forall2
import ObjectQuery.Execution.GroupCount
import ObjectQuery.Proofs.Value.Distinct

/-! The groups of a result and their sizes. A further query is made for the values that are in the
column of the first sort, and each row it gives is one group. -/

namespace ObjectQuery

namespace ResultRow

/-- The row starts with a value and how often it occurs. -/
inductive Counts : ResultRow → Value × Nat → Prop where
  | intro (id : Option Value) (value : Value) {n : Int64} {count : Nat} (rest : List Value)
      (h : n.toInt = count) : Counts ⟨id, value :: .int n :: rest⟩ (value, count)

/-- What is said of a row that counts nothing. -/
inductive Faulty : ResultRow → String → Prop where
  | short (id : Option Value) {values : List Value} (h : values.length < 2) :
      Faulty ⟨id, values⟩ "Group count row is missing its value or count column"
  | uncounted (id : Option Value) (value : Value) {count : Value} (rest : List Value)
      (h : ∀ n : Int64, count = .int n → n.toInt < 0) :
      Faulty ⟨id, value :: count :: rest⟩
        ("Expected a non-negative integer group count for " ++ value.text ++ ", got " ++ count.text)

variable {row : ResultRow}

theorem Counts.groupCount {pair : Value × Nat} (h : row.Counts pair) :
    row.groupCount = .ok pair := by
  cases h with
  | @intro id value n count rest h =>
    have hn : 0 ≤ n := by
      rw [Int64.le_iff_toInt_le, h]
      exact Int.natCast_nonneg count
    simp only [ResultRow.groupCount, if_pos hn, h, Int.toNat_natCast]

theorem Faulty.groupCount {message : String} (h : row.Faulty message) :
    row.groupCount = .error (.backend message) := by
  cases h with
  | @short id values h =>
    match values, h with
    | [], _ => rfl
    | [_], _ => rfl
  | @uncounted id value count rest h =>
    cases count with
    | int n =>
      have hn : ¬ 0 ≤ n := by
        rw [Int64.le_iff_toInt_le]
        exact Int.not_le.mpr (h n rfl)
      simp only [ResultRow.groupCount, if_neg hn]
      rfl
    | _ =>
      simp only [ResultRow.groupCount]
      rfl

theorem counts_or_faulty (row : ResultRow) :
    (∃ pair, row.Counts pair) ∨ ∃ message, row.Faulty message := by
  match row with
  | ⟨id, []⟩ => exact .inr ⟨_, .short id Nat.zero_lt_two⟩
  | ⟨id, [value]⟩ => exact .inr ⟨_, .short id Nat.one_lt_two⟩
  | ⟨id, value :: count :: rest⟩ =>
    by_cases h : ∃ n : Int64, count = .int n ∧ 0 ≤ n.toInt
    · obtain ⟨n, rfl, hn⟩ := h
      exact .inl ⟨_, .intro id value rest (Int.toNat_of_nonneg hn).symm⟩
    · exact .inr ⟨_, .uncounted id value rest fun n hcount =>
        Int.not_le.mp fun hn => h ⟨n, hcount, hn⟩⟩

theorem Faulty.not_counts {message : String} (h : row.Faulty message) (pair : Value × Nat) :
    ¬ row.Counts pair := by
  intro hp
  have := h.groupCount.symm.trans hp.groupCount
  cases this

end ResultRow

/-- Every row is one group, in the order of the rows, or the first row that counts nothing is
reported. -/
inductive Tally : List ResultRow → Except ExecutionError (List (Value × Nat)) → Prop where
  | counted {rows : List ResultRow} {pairs : List (Value × Nat)}
      (h : List.Forall₂ ResultRow.Counts rows pairs) : Tally rows (.ok pairs)
  | faulty {good : List ResultRow} {pairs : List (Value × Nat)} {row : ResultRow}
      {message : String} (h : List.Forall₂ ResultRow.Counts good pairs)
      (hrow : row.Faulty message) (rest : List ResultRow) :
      Tally (good ++ row :: rest) (.error (.backend message))

namespace Tally

variable {rows : List ResultRow} {result : Except ExecutionError (List (Value × Nat))}

theorem cons {row : ResultRow} {pair : Value × Nat} (hrow : row.Counts pair)
    (h : Tally rows result) : Tally (row :: rows) (result.map (pair :: ·)) := by
  cases h with
  | counted h => exact .counted (.cons hrow h)
  | faulty h hfaulty rest => exact .faulty (.cons hrow h) hfaulty rest

theorem mapM_groupCount (rows : List ResultRow) :
    Tally rows (rows.mapM ResultRow.groupCount) := by
  induction rows with
  | nil => exact .counted .nil
  | cons row rest ih =>
    rw [List.mapM_cons]
    obtain ⟨pair, hp⟩ | ⟨message, hm⟩ := row.counts_or_faulty
    · rw [hp.groupCount]
      exact ih.cons hp
    · rw [hm.groupCount]
      exact .faulty .nil hm rest

theorem isOk_iff (h : Tally rows result) :
    (∃ pairs, result = .ok pairs) ↔ ∀ row ∈ rows, ∃ pair, row.Counts pair := by
  cases h with
  | counted h =>
    refine iff_of_true ⟨_, rfl⟩ fun row hrow => ?_
    obtain ⟨i, hi, rfl⟩ := List.getElem_of_mem hrow
    exact ⟨_, h.get hi (h.length_eq ▸ hi)⟩
  | faulty h hrow rest =>
    refine iff_of_false nofun fun hall => ?_
    obtain ⟨pair, hp⟩ := hall _ (List.mem_append_right _ List.mem_cons_self)
    exact hrow.not_counts pair hp

end Tally

namespace ResultSet

variable {r : ResultSet} {column : Nat}

/-- What stands in a column, row by row, where there is something. -/
def columnValues (r : ResultSet) (column : Nat) : List Value :=
  (r.rows.filterMap (·.values[column]?)).filter (!·.isNull)

theorem cells_eq (h : r.bailedOut = false) (column : Nat) :
    r.cells column = r.rows.map (·.values[column]?) := by
  rw [cells, rowCount, h, if_neg Bool.false_ne_true, List.take_length]

theorem distinct_fst (h : r.bailedOut = false) (column : Nat) :
    (r.distinct column).1 = newValues [] (r.columnValues column) := by
  rw [distinct, cells_eq h, eraseDups_eq_newValues, columnValues, List.filterMap_map]
  rfl

theorem distinct_snd_iff (h : r.bailedOut = false) (column : Nat) :
    (r.distinct column).2 = true ↔
      ∃ row ∈ r.rows, row.values[column]? = none ∨ row.values[column]? = some .null := by
  rw [distinct, cells_eq h, List.any_map, List.any_eq_true]
  refine exists_congr fun row => and_congr_right fun _ => ?_
  cases hcell : row.values[column]? with
  | none => simp [hcell]
  | some v => cases v <;> simp [hcell, Value.isNull]

theorem columnValues_eq_nil_iff :
    r.columnValues column = [] ↔
      ∀ row ∈ r.rows, row.values[column]? = none ∨ row.values[column]? = some .null := by
  simp only [columnValues, List.filter_eq_nil_iff, List.mem_filterMap, forall_exists_index, and_imp]
  constructor
  · intro h row hrow
    cases hcell : row.values[column]? with
    | none => exact .inl rfl
    | some v =>
      have hv := h v row hrow hcell
      cases v with
      | null => exact .inr rfl
      | _ => simp [Value.isNull] at hv
  · intro h v row hrow hcell
    obtain hnone | hnull := h row hrow
    · rw [hnone] at hcell
      cases hcell
    · rw [hnull] at hcell
      cases hcell
      simp [Value.isNull]

/-- A row adds a value or the null, so that only a result without rows has neither. -/
theorem distinct_isEmpty_iff (h : r.bailedOut = false) (column : Nat) :
    ((r.distinct column).1.isEmpty && !(r.distinct column).2) = true ↔ r.rows = [] := by
  rw [Bool.and_eq_true, Bool.not_eq_true', ← Bool.not_eq_true, distinct_snd_iff h, distinct_fst h,
    List.isEmpty_iff, newValues_eq_nil_iff, columnValues_eq_nil_iff]
  constructor
  · rintro ⟨hvalues, hnull⟩
    refine List.eq_nil_iff_forall_not_mem.mpr fun row hrow => hnull ⟨row, hrow, hvalues row hrow⟩
  · intro hr
    simp [hr]

section

variable {q : Query} {primary : SortDescriptor} (h : q.sort.head? = some (some primary))

include h

theorem groupCounts_of_empty (hr : r.bailedOut = true ∨ r.rows = []) :
    r.groupCounts q = .done (.ok []) := by
  have hnone : (r.bailedOut || ((r.distinct primary.column).1.isEmpty &&
      !(r.distinct primary.column).2)) = true := by
    cases hb : r.bailedOut with
    | true => rfl
    | false => exact (distinct_isEmpty_iff hb _).mpr (hr.resolve_left (by simp [hb]))
  simp only [groupCounts, h, Option.join_some, hnone, if_true]

section

variable (hb : r.bailedOut = false) (hr : r.rows ≠ []) {σ : Type}
  (answer : Query → σ → Except ExecutionError ResultSet × σ) (state : σ)

include hb hr

theorem run_groupCounts_refused {e : CompileError}
    (hq : q.groupCounts (r.distinct primary.column).1 (r.distinct primary.column).2 = .error e) :
    (r.groupCounts q).run answer state = (.error (.compile e), state, []) := by
  have hsome := mt (distinct_isEmpty_iff hb primary.column).mp hr
  simp only [groupCounts, h, Option.join_some, hb, Bool.false_or, if_neg hsome, hq, Dialogue.run]

theorem run_groupCounts_asked {groups : Query}
    (hq : q.groupCounts (r.distinct primary.column).1 (r.distinct primary.column).2 =
      .ok groups) :
    (r.groupCounts q).run answer state =
      ((answer groups state).1.bind fun counts => counts.rows.mapM ResultRow.groupCount,
        (answer groups state).2, [groups]) := by
  have hsome := mt (distinct_isEmpty_iff hb primary.column).mp hr
  simp only [groupCounts, h, Option.join_some, hb, Bool.false_or, if_neg hsome, hq, Dialogue.run]
  cases (answer groups state).1 <;> rfl

end

end

/-- The groups of a result are asked for once, by the values of the column in the order in which
they come up. A runner asks its service, which in turn asks a store. -/
theorem groupCounts_tally {q : Query} {primary : SortDescriptor}
    (h : q.sort.head? = some (some primary)) (r : ResultSet) :
    (∀ {σ : Type} (answer : Query → σ → Except ExecutionError ResultSet × σ) (state : σ),
      let run := (r.groupCounts q).run answer state
      (r.bailedOut = true ∨ r.rows = [] → run = (.ok [], state, [])) ∧
      (r.bailedOut = false → r.rows ≠ [] → ∃ hasNull : Bool,
        (hasNull = true ↔ ∃ row ∈ r.rows,
          row.values[primary.column]? = none ∨ row.values[primary.column]? = some .null) ∧
        match q.groupCounts (newValues [] (r.columnValues primary.column)) hasNull with
        | .error e => run = (.error (.compile e), state, [])
        | .ok groups =>
          let (reply, state') := answer groups state
          run.2 = (state', [groups]) ∧
            match reply with
            | .error e => run.1 = .error e
            | .ok counts => Tally counts.rows run.1 ∧
                ((∃ pairs, run.1 = .ok pairs) ↔
                  ∀ row ∈ counts.rows, ∃ pair, row.Counts pair))) ∧
    ∀ {σ : Type} (service : Service) (store : (question : Fetch) → σ → question.Answer × σ)
      (state : σ),
      let run := (Runner.groupCounts ⟨some service⟩ q r).run store state
      let relayed := (r.groupCounts q).run (Dialogue.relay store service.execute) (state, [])
      run.1 = relayed.1 ∧ run.2 = relayed.2.1 := by
  refine ⟨fun answer state => ⟨fun hr => ?_, fun hb hr => ?_⟩, fun service store state => ?_⟩
  · rw [groupCounts_of_empty h hr, Dialogue.run]
  · refine ⟨(r.distinct primary.column).2, distinct_snd_iff hb _, ?_⟩
    rw [← distinct_fst hb]
    cases hq : q.groupCounts (r.distinct primary.column).1 (r.distinct primary.column).2 with
    | error e => exact run_groupCounts_refused h hb hr answer state hq
    | ok groups =>
      rw [run_groupCounts_asked h hb hr answer state hq]
      refine ⟨rfl, ?_⟩
      cases (answer groups state).1 with
      | error e => rfl
      | ok counts =>
        have htally := Tally.mapM_groupCount counts.rows
        exact ⟨htally, htally.isOk_iff⟩
  · obtain ⟨hresult, hstate⟩ :=
      Dialogue.run_through store service.execute (r.groupCounts q) state []
    exact ⟨hresult.symm, hstate.symm⟩

def shelvesQuery : Query :=
  { Query.ofEntity "Book" with
    columns := [⟨"shelf", none⟩]
    sort := [some ⟨0, true⟩]
    includeId := false }

/-- A shelf comes up twice, one book is on none, and one row is empty. -/
def shelves : ResultSet where
  rows := [⟨none, [.string "B"]⟩, ⟨none, [.null]⟩, ⟨none, []⟩, ⟨none, [.string "A"]⟩,
    ⟨none, [.string "B"]⟩]
  matchCount := 5
  bailedOut := false

def shelfCounts : ResultSet where
  rows := [⟨none, [.string "A", .int 1]⟩, ⟨none, [.string "B", .int 2, .null]⟩]
  matchCount := 2
  bailedOut := false

/-- A service that counts its calls. -/
def shelfService (_ : Query) (calls : Nat) : Except ExecutionError ResultSet × Nat :=
  (.ok shelfCounts, calls + 1)

theorem groupCounts_tally_shelves : ∃ groups : Query,
    shelvesQuery.groupCounts [.string "B", .string "A"] true = .ok groups ∧
      let run := (shelves.groupCounts shelvesQuery).run shelfService 0
      run.2 = (1, [groups]) ∧ Tally shelfCounts.rows run.1 ∧ ∃ pairs, run.1 = .ok pairs := by
  obtain ⟨hasNull, hnull, hrun⟩ :=
    ((groupCounts_tally (q := shelvesQuery) rfl shelves).1 shelfService 0).2 rfl nofun
  obtain rfl : hasNull = true := hnull.mpr ⟨⟨none, []⟩, by simp [shelves], .inl rfl⟩
  obtain ⟨hasked, htally, hok⟩ := hrun
  refine ⟨_, rfl, hasked, htally, hok.mpr fun row hrow => ?_⟩
  obtain rfl | rfl : row = ⟨none, [.string "A", .int 1]⟩ ∨
      row = ⟨none, [.string "B", .int 2, .null]⟩ := by simpa [shelfCounts] using hrow
  · exact ⟨_, .intro _ _ _ (show _ = ((1 : Nat) : Int) from rfl)⟩
  · exact ⟨_, .intro _ _ _ (show _ = ((2 : Nat) : Int) from rfl)⟩

end ResultSet

end ObjectQuery
