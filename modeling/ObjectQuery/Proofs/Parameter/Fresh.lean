import Mathlib.Data.List.Perm.Subperm
import Mathlib.Data.List.Nodup
import ObjectQuery.Parameter

/-! Parameter names are fresh: a name that is bound is never bound again, so an argument that was
found once is found in all later bindings. -/

namespace ObjectQuery.Bindings

theorem candidate_injective (base : String) : Function.Injective (candidate base) := by
  have hsuffix : ∀ n : Nat, base ≠ base ++ "_" ++ toString (n + 1) := by
    intro n h
    have hl := congrArg String.length h
    simp only [String.length_append] at hl
    have hu : "_".length = 1 := rfl
    omega
  intro m n h
  cases m with
  | zero =>
    cases n with
    | zero => rfl
    | succ n => exact absurd h (hsuffix n)
  | succ m =>
    cases n with
    | zero => exact absurd h.symm (hsuffix m)
    | succ n =>
      have ht := congrArg String.toList ((String.append_right_inj _).mp h)
      have hd := congrArg (fun digits => Nat.ofDigitChars 10 digits 0) ht
      simpa [Nat.toString_eq_ofList_toDigits] using hd

theorem candidate_freshIndex_not_mem (b : Bindings) (base : String) :
    candidate base (b.freshIndex base) ∉ b.names := by
  cases hf : (List.range (b.names.length + 1)).find? fun n =>
      !b.names.contains (candidate base n) with
  | some n =>
    have hn := List.find?_some hf
    have hi : b.freshIndex base = n := by simp only [freshIndex, hf, Option.getD_some]
    rw [hi]
    simpa using hn
  | none =>
    have hall : (List.range (b.names.length + 1)).map (candidate base) ⊆ b.names := by
      intro name hname
      obtain ⟨n, hn, rfl⟩ := List.mem_map.mp hname
      simpa using List.find?_eq_none.mp hf n hn
    have hnd : ((List.range (b.names.length + 1)).map (candidate base)).Nodup :=
      List.nodup_range.map (candidate_injective base)
    have hl := (hnd.subperm hall).length_le
    rw [List.length_map, List.length_range] at hl
    omega

theorem entries_bind (b : Bindings) (base : String) (a : Argument) :
    (b.bind base a).2.entries = b.entries ++ [((b.bind base a).1, a)] := rfl

theorem bind_not_mem (b : Bindings) (base : String) (a : Argument) :
    (b.bind base a).1 ∉ b.names :=
  b.candidate_freshIndex_not_mem base

theorem nodup_names_bind {b : Bindings} (h : b.names.Nodup) (base : String) (a : Argument) :
    (b.bind base a).2.names.Nodup := by
  rw [names_bind, ← List.concat_eq_append]
  exact h.concat (b.bind_not_mem base a)

theorem find?_eq_none_of_not_mem {b : Bindings} {name : String} (h : name ∉ b.names) :
    b.find? name = none := by
  rw [find?, List.lookup_eq_none_iff]
  intro entry he
  have hne : name ≠ entry.1 := fun hn => h (hn ▸ List.mem_map_of_mem he)
  simpa using hne

theorem find?_bind_self (b : Bindings) (base : String) (a : Argument) :
    (b.bind base a).2.find? (b.bind base a).1 = some a := by
  have hn := find?_eq_none_of_not_mem (b.bind_not_mem base a)
  rw [find?] at hn
  rw [find?, entries_bind, List.lookup_append, hn]
  simp

theorem find?_of_isPrefix {b b' : Bindings} (h : b.entries <+: b'.entries) {name : String}
    {a : Argument} (ha : b.find? name = some a) : b'.find? name = some a := by
  obtain ⟨added, he⟩ := h
  rw [find?] at ha
  rw [find?, ← he, List.lookup_append, ha]
  rfl

theorem mem_names_iff_find? (b : Bindings) (name : String) :
    name ∈ b.names ↔ (b.find? name).isSome := by
  constructor
  · intro h
    rw [Option.isSome_iff_ne_none]
    intro hn
    obtain ⟨entry, he, rfl⟩ := List.mem_map.mp h
    have hne := List.lookup_eq_none_iff.mp hn entry he
    simp at hne
  · intro h
    by_contra hn
    simp [find?_eq_none_of_not_mem hn] at h

end ObjectQuery.Bindings
