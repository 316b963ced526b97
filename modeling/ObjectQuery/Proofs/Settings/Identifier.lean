import ObjectQuery.Parameter
import ObjectQuery.Proofs.Path.Star
import ObjectQuery.Settings.Basic

/-! Names made of identifiers are identifiers: aliases out of relations, and parameters out of
attributes with a number behind them. -/

namespace ObjectQuery

theorem isIdentifierPart_of_start {c : Char} (h : isIdentifierStart c = true) :
    isIdentifierPart c = true := by
  simp only [isIdentifierStart, isIdentifierPart, Char.isAlphanum, Bool.or_eq_true] at *
  rcases h with h | h
  · exact .inl (.inl h)
  · exact .inr h

theorem isIdentifier_iff {s : String} : isIdentifier s = true ↔
    ∃ c rest, s.toList = c :: rest ∧ isIdentifierStart c = true ∧
      rest.all isIdentifierPart = true := by
  unfold isIdentifier
  cases s.toList with
  | nil => simp
  | cons c rest =>
    constructor
    · intro h
      exact ⟨c, rest, rfl, by simpa using h⟩
    · rintro ⟨_, _, ⟨⟩, hc, hrest⟩
      simp [hc, hrest]

theorem all_part_of_isIdentifier {s : String} (h : isIdentifier s = true) :
    s.toList.all isIdentifierPart = true := by
  obtain ⟨c, rest, hs, hc, hrest⟩ := isIdentifier_iff.mp h
  rw [hs, List.all_cons, isIdentifierPart_of_start hc, hrest]
  rfl

theorem not_mem_of_isIdentifier {s : String} {c : Char} (h : isIdentifier s = true)
    (hc : isIdentifierPart c = false) : c ∉ s.toList := by
  intro hmem
  have hpart := List.all_eq_true.mp (all_part_of_isIdentifier h) c hmem
  simp [hc] at hpart

theorem isIdentifier_append {s t : String} (hs : isIdentifier s = true)
    (ht : t.toList.all isIdentifierPart = true) : isIdentifier (s ++ t) = true := by
  obtain ⟨c, rest, hl, hc, hrest⟩ := isIdentifier_iff.mp hs
  refine isIdentifier_iff.mpr ⟨c, rest ++ t.toList, by simp [hl], hc, ?_⟩
  rw [List.all_append, hrest, ht]
  rfl

theorem isIdentifier_join {names : List String} (hne : names ≠ [])
    (h : ∀ name ∈ names, isIdentifier name = true) : isIdentifier (String.join names) = true := by
  induction names with
  | nil => exact absurd rfl hne
  | cons name rest ih =>
    rw [String.join_cons]
    apply isIdentifier_append (h name List.mem_cons_self)
    cases rest with
    | nil => rfl
    | cons next rest =>
      exact all_part_of_isIdentifier
        (ih (by simp) fun name hname => h name (List.mem_cons_of_mem _ hname))

theorem all_part_toString (n : Nat) : (toString n).toList.all isIdentifierPart = true := by
  rw [Nat.toString_eq_ofList_toDigits, String.toList_ofList, List.all_eq_true]
  intro c hc
  have hdigit := Nat.isDigit_of_mem_toDigits (by omega) (by omega) hc
  simp [isIdentifierPart, Char.isAlphanum, hdigit]

theorem isIdentifier_candidate {base : String} (h : isIdentifier base = true) (n : Nat) :
    isIdentifier (Bindings.candidate base n) = true := by
  cases n with
  | zero => exact h
  | succ n =>
    have hnumber : ("_" ++ toString (n + 1)).toList.all isIdentifierPart = true := by
      rw [String.toList_append, List.all_append, all_part_toString]
      rfl
    rw [Bindings.candidate, String.append_assoc]
    exact isIdentifier_append h hnumber

theorem isIdentifier_bind {base : String} (h : isIdentifier base = true) (b : Bindings)
    (a : Argument) : isIdentifier (b.bind base a).1 = true :=
  isIdentifier_candidate h _

theorem parameterBase_append {owner field : String} (ho : isIdentifier owner = true)
    (hf : isIdentifier field = true) : parameterBase (owner ++ "." ++ field) = owner ++ field := by
  have hkeep {name : String} (h : isIdentifier name = true) :
      name.toList.filter (· ≠ '.') = name.toList := by
    apply List.filter_eq_self.mpr
    intro c hc
    have hdot := not_mem_of_isIdentifier (c := '.') h (by decide)
    simpa using fun heq : c = '.' => hdot (heq ▸ hc)
  have hdot : ".".toList.filter (· ≠ '.') = [] := by decide
  rw [parameterBase, String.toList_append, String.toList_append, List.filter_append,
    List.filter_append, hkeep ho, hdot, hkeep hf, List.append_nil, String.ofList_append]
  simp

theorem isIdentifier_parameterBase {owner field : String} (ho : isIdentifier owner = true)
    (hf : isIdentifier field = true) :
    isIdentifier (parameterBase (owner ++ "." ++ field)) = true := by
  rw [parameterBase_append ho hf]
  exact isIdentifier_append ho (all_part_of_isIdentifier hf)

/-- Every part of the path is an identifier. -/
def IdentifierPath (path : String) : Prop :=
  ∀ part ∈ Text.split '.' path.toList, isIdentifier (String.ofList part) = true

instance (path : String) : Decidable (IdentifierPath path) :=
  inferInstanceAs (Decidable (∀ part ∈ _, _))

namespace IdentifierPath

variable {root path : String}

theorem isIdentifier_of_mem_segments (h : IdentifierPath path) :
    ∀ s ∈ ((Resolver.dotted root).resolve path).segments, isIdentifier s = true := by
  intro s hs
  obtain ⟨part, hpart, rfl⟩ := List.mem_map.mp ((List.dropLast_subset _) hs)
  exact h part hpart

theorem isIdentifier_owner (h : IdentifierPath path) (hroot : isIdentifier root = true) :
    isIdentifier ((Resolver.dotted root).resolve path).owner = true := by
  have hsegments : ∀ s ∈ ((Resolver.dotted root).resolve path).segments, isIdentifier s = true :=
    h.isIdentifier_of_mem_segments
  simp only [Resolver.dotted] at hsegments ⊢
  split
  · exact hroot
  · rename_i hne
    exact isIdentifier_join (by simpa using hne) hsegments

theorem isIdentifier_field (h : IdentifierPath path) :
    isIdentifier ((Resolver.dotted root).resolve path).field = true := by
  have hne : (Text.split '.' path.toList).map String.ofList ≠ [] := by
    simpa using Text.split_ne_nil '.' path.toList
  obtain ⟨part, hpart, heq⟩ := List.mem_map.mp (List.getLast_mem hne)
  have hfield : ((Resolver.dotted root).resolve path).field = String.ofList part := by
    rw [heq]
    simp only [Resolver.dotted, List.getLastD_eq_getLast?, List.getLast?_eq_some_getLast hne,
      Option.getD_some]
  rw [hfield]
  exact h part hpart

end IdentifierPath

end ObjectQuery
