import ObjectQuery.Proofs.Parameter.Fresh

/-! Arguments that are bound one after another. The search for a name has no bound but the range of
its count, yet each ends, and within the range: no more candidates can be taken than there are
names, and every name is taken once. -/

namespace ObjectQuery.Bindings

/-- A search that has come to candidate `n` ends at candidate `stop`. It goes on for as long as it
meets names that are bound, and breaks off if there is no number left for the next one. -/
inductive Searches (b : Bindings) (base : String) : Nat → Nat → Prop where
  | found {n : Nat} (h : candidate base n ∉ b.names) : Searches b base n n
  | next {n stop : Nat} (h : candidate base n ∈ b.names) (hn : n < maxSuffix)
    (rest : Searches b base (n + 1) stop) : Searches b base n stop

section

variable {b : Bindings} {base : String}

theorem Searches.of_taken {n stop : Nat} (hn : n ≤ stop) (hstop : stop ≤ maxSuffix)
    (hfree : candidate base stop ∉ b.names)
    (htaken : ∀ m, n ≤ m → m < stop → candidate base m ∈ b.names) : b.Searches base n stop := by
  induction hk : stop - n generalizing n with
  | zero =>
    obtain rfl : n = stop := by omega
    exact .found hfree
  | succ k ih =>
    refine .next (htaken n (Nat.le_refl n) (by omega)) (by omega) (ih (by omega) ?_ (by omega))
    exact fun m hm hlt => htaken m (by omega) hlt

/-- There is always a candidate that is free, so the index that is returned was found. -/
theorem find?_candidates (b : Bindings) (base : String) :
    ((List.range (b.names.length + 1)).find? fun n => !b.names.contains (candidate base n)) =
      some (b.freshIndex base) := by
  cases hf : (List.range (b.names.length + 1)).find? fun n =>
      !b.names.contains (candidate base n) with
  | some n => simp only [freshIndex, hf, Option.getD_some]
  | none =>
    have hindex : b.freshIndex base = b.names.length := by
      simp only [freshIndex, hf, Option.getD_none]
    have hfree := b.candidate_freshIndex_not_mem base
    have htaken := List.find?_range_eq_none.mp hf b.names.length (Nat.lt_succ_self _)
    rw [hindex] at hfree
    simp [hfree] at htaken

theorem freshIndex_le_length (b : Bindings) (base : String) :
    b.freshIndex base ≤ b.names.length := by
  have hmem := (List.find?_range_eq_some.mp (b.find?_candidates base)).2.1
  rw [List.mem_range] at hmem
  omega

theorem candidate_mem_of_lt {n : Nat} (h : n < b.freshIndex base) :
    candidate base n ∈ b.names := by
  simpa using (List.find?_range_eq_some.mp (b.find?_candidates base)).2.2 n h

theorem searches_freshIndex (h : b.names.length ≤ maxSuffix) (base : String) :
    b.Searches base 0 (b.freshIndex base) :=
  .of_taken (Nat.zero_le _) (Nat.le_trans (b.freshIndex_le_length base) h)
    (b.candidate_freshIndex_not_mem base) fun _ _ => candidate_mem_of_lt

end

/-- Binds arguments to bases, one after another; the names are in the order of the arguments. -/
def bindAll (b : Bindings) : List (String × Argument) → List String × Bindings
  | [] => ([], b)
  | (base, a) :: rest =>
    let (name, b) := b.bind base a
    let (names, b) := b.bindAll rest
    (name :: names, b)

theorem bindAll_append (b : Bindings) (calls more : List (String × Argument)) :
    b.bindAll (calls ++ more) =
      ((b.bindAll calls).1 ++ ((b.bindAll calls).2.bindAll more).1,
        ((b.bindAll calls).2.bindAll more).2) := by
  induction calls generalizing b with
  | nil => rfl
  | cons call rest ih => simp only [List.cons_append, bindAll, ih]

theorem length_bindAll (b : Bindings) (calls : List (String × Argument)) :
    (b.bindAll calls).1.length = calls.length := by
  induction calls generalizing b with
  | nil => rfl
  | cons call rest ih => simp only [bindAll, List.length_cons, ih]

theorem entries_bindAll (b : Bindings) (calls : List (String × Argument)) :
    (b.bindAll calls).2.entries =
      b.entries ++ (b.bindAll calls).1.zip (calls.map Prod.snd) := by
  induction calls generalizing b with
  | nil => simp [bindAll]
  | cons call rest ih =>
    simp only [bindAll, ih, entries_bind, List.map_cons, List.zip_cons_cons, List.append_assoc,
      List.singleton_append]

theorem names_bindAll (b : Bindings) (calls : List (String × Argument)) :
    (b.bindAll calls).2.names = b.names ++ (b.bindAll calls).1 := by
  rw [names, entries_bindAll, List.map_append, List.map_fst_zip (by simp [length_bindAll])]
  rfl

theorem nodup_names_bindAll {b : Bindings} (h : b.names.Nodup)
    (calls : List (String × Argument)) : (b.bindAll calls).2.names.Nodup := by
  induction calls generalizing b with
  | nil => exact h
  | cons call rest ih => exact ih (nodup_names_bind h call.1 call.2)

theorem getElem?_bindAll (b : Bindings) {calls : List (String × Argument)} {i : Nat}
    {base : String} {a : Argument} (h : calls[i]? = some (base, a)) :
    ∃ later, (b.bindAll calls).1 = (b.bindAll (calls.take i)).1 ++
        (((b.bindAll (calls.take i)).2.bind base a).1 :: later) ∧
      ((b.bindAll (calls.take i)).2.bind base a).2.entries <+: (b.bindAll calls).2.entries := by
  obtain ⟨hi, hcall⟩ := List.getElem?_eq_some_iff.mp h
  have hcalls : calls = calls.take i ++ (base, a) :: calls.drop (i + 1) := by
    rw [← hcall, List.getElem_cons_drop, List.take_append_drop]
  have hall := b.bindAll_append (calls.take i) ((base, a) :: calls.drop (i + 1))
  rw [← hcalls, bindAll] at hall
  rw [hall]
  refine ⟨_, rfl, ?_⟩
  rw [entries_bindAll]
  exact List.prefix_append _ _

/-- Whatever the bases are, every search ends, at the first candidate that is free; no name is given
twice, and each argument is found under its own. The search for the name at place `i` tries no more
than `i + 1` candidates, so none breaks off while there are as many numbers as calls. -/
theorem bindAll_firstFree {calls : List (String × Argument)} (h : calls.length ≤ maxSuffix + 1) :
    (empty.bindAll calls).1.Nodup ∧
    (empty.bindAll calls).1.length = calls.length ∧
    (empty.bindAll calls).2.entries = (empty.bindAll calls).1.zip (calls.map Prod.snd) ∧
    ∀ i base a, calls[i]? = some (base, a) →
      ∃ n ≤ i, (empty.bindAll (calls.take i)).2.Searches base 0 n ∧
        (empty.bindAll calls).1[i]? = some (candidate base n) ∧
        candidate base n ∉ (empty.bindAll calls).1.take i ∧
        (∀ m < n, candidate base m ∈ (empty.bindAll calls).1.take i) ∧
        (empty.bindAll calls).2.find? (candidate base n) = some a := by
  have hnames := names_bindAll empty calls
  refine ⟨?_, length_bindAll empty calls, entries_bindAll empty calls, ?_⟩
  · have hnodup := nodup_names_bindAll (b := empty) List.nodup_nil calls
    rwa [hnames] at hnodup
  · intro i base a hcall
    obtain ⟨later, hall, hgrown⟩ := empty.getElem?_bindAll hcall
    have hi : i < calls.length := (List.getElem?_eq_some_iff.mp hcall).1
    generalize hb : (empty.bindAll (calls.take i)).2 = before at hall hgrown
    have hbefore : before.names = (empty.bindAll (calls.take i)).1 := by
      rw [← hb, names_bindAll]
      rfl
    have hlength : before.names.length = i := by
      rw [hbefore, length_bindAll, List.length_take, Nat.min_eq_left (Nat.le_of_lt hi)]
    have htake : (empty.bindAll calls).1.take i = before.names := by
      rw [hall, ← hbefore, List.take_left' hlength]
    rw [htake]
    refine ⟨before.freshIndex base, ?_, searches_freshIndex (by omega) base, ?_,
      before.bind_not_mem base a, fun m => candidate_mem_of_lt,
      find?_of_isPrefix hgrown (before.find?_bind_self base a)⟩
    · exact hlength ▸ before.freshIndex_le_length base
    · rw [hall, ← hbefore, List.getElem?_append_right (by omega), hlength, Nat.sub_self]
      rfl

/-- Bases that are empty, repeated, or look like names given before. -/
def rivalCalls : List (String × Argument) :=
  [("obja_1", .scalar (.int 0)), ("obja", .scalar (.int 1)), ("obja", .scalar (.int 2)),
    ("", .list [.null]), ("obja_1", .scalar (.int 3)), ("", .scalar .null)]

theorem bindAll_firstFree_rivals :
    rivalCalls.length ≤ maxSuffix + 1 ∧
    (empty.bindAll rivalCalls).1 = ["obja_1", "obja", "obja_2", "", "obja_1_1", "_1"] ∧
    rivalCalls[2]? = some ("obja", .scalar (.int 2)) ∧
    ∃ n ≤ 2, (empty.bindAll (rivalCalls.take 2)).2.Searches "obja" 0 n ∧
      (empty.bindAll rivalCalls).1[2]? = some (candidate "obja" n) ∧
      (empty.bindAll rivalCalls).2.find? (candidate "obja" n) = some (.scalar (.int 2)) := by
  have hcall : rivalCalls[2]? = some ("obja", .scalar (.int 2)) := rfl
  have hlength : rivalCalls.length ≤ maxSuffix + 1 := by decide
  obtain ⟨n, hn, hsearch, hname, _, _, hfind⟩ :=
    (bindAll_firstFree hlength).2.2.2 2 "obja" (.scalar (.int 2)) hcall
  exact ⟨hlength, by decide +kernel, hcall, n, hn, hsearch, hname, hfind⟩

end ObjectQuery.Bindings
