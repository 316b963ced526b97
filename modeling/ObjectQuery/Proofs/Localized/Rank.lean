import Mathlib.Data.List.Lex
import Mathlib.Data.String.Basic
import ObjectQuery.Locale

/-! The order of the fallback codes. Each code extends those behind it, by a character greater than
a blank. Filled up with blanks, it is greater than any of them that is shorter than the width. -/

namespace ObjectQuery

def Extends (longer shorter : String) : Prop :=
  ∃ c rest, longer.toList = shorter.toList ++ c :: rest ∧ ' ' < c

namespace Extends

theorem trans {x y z : String} (h : Extends x y) (h' : Extends y z) : Extends x z := by
  obtain ⟨c, rest, hx, _⟩ := h
  obtain ⟨d, rest', hy, hd⟩ := h'
  refine ⟨d, rest' ++ c :: rest, ?_, hd⟩
  rw [hx, hy, List.append_assoc, List.cons_append]

instance : Trans Extends Extends Extends :=
  ⟨trans⟩

theorem separated (code part : String) : Extends (code ++ "_" ++ part) code := by
  refine ⟨'_', part.toList, ?_, by decide⟩
  simp

end Extends

/-- Cut or filled up with blanks to `width` characters. -/
def padded (width : Nat) (code : String) : List Char :=
  (code.toList ++ List.replicate width ' ').take width

@[simp] theorem length_padded (width : Nat) (code : String) :
    (padded width code).length = width := by
  simp [padded]

theorem take_append_cons {width : Nat} {xs : List Char} (h : xs.length < width) (c : Char)
    (ys : List Char) :
    (xs ++ c :: ys).take width = xs ++ c :: ys.take (width - xs.length - 1) := by
  obtain ⟨n, rfl⟩ := Nat.exists_eq_add_of_lt h
  rw [List.take_append, List.take_of_length_le (by omega)]
  have hn : xs.length + n + 1 - xs.length = n + 1 := by omega
  rw [hn, List.take_succ_cons, Nat.add_sub_cancel]

/-- The codes differ within the width, so what stands behind them does not matter. -/
theorem Extends.padded_append_lt {width : Nat} {longer shorter : String}
    (h : Extends longer shorter) (hw : shorter.length < width) (xs ys : List Char) :
    padded width shorter ++ xs < padded width longer ++ ys := by
  obtain ⟨c, rest, hlonger, hc⟩ := h
  have hw' : shorter.toList.length < width := by rwa [String.length_toList]
  obtain ⟨n, rfl⟩ := Nat.exists_eq_add_of_lt hw'
  -- Where the shorter code is followed by a blank, the longer one has a greater character.
  have hshorter := take_append_cons hw' ' ' (List.replicate (shorter.toList.length + n) ' ')
  have hlonger' := take_append_cons hw' c
    (rest ++ List.replicate (shorter.toList.length + n + 1) ' ')
  rw [padded, padded, hlonger, List.append_assoc, List.cons_append, hlonger', List.replicate_succ,
    hshorter, List.append_assoc, List.append_assoc, List.cons_append, List.cons_append]
  exact List.append_left_lt (List.cons_lt_cons_iff.mpr (.inl hc))

namespace Locale

/-- Rows are ranked by the first `width` characters of their codes. Only the most specific code of
the locale may fill them. -/
structure RankedBy (l : Locale) (width : Nat) : Prop where
  visible : l.isRoot = true ∨ ∃ c rest, l.language.toList = c :: rest ∧ ' ' < c
  width_pos : 1 ≤ width
  length_lt : ∀ code ∈ l.fallback.tail, code.length < width

variable {l : Locale} {width : Nat}

theorem fallback_of_isRoot (h : l.isRoot = true) : l.fallback = [] := by
  rw [fallback, if_pos h]

theorem tag_of_variant (hv : l.variant.isEmpty = false) :
    l.tag = l.language ++ "_" ++ l.country ++ "_" ++ l.variant := by
  simp [tag, hv, String.append_assoc]

theorem fallback_extends (h : l.RankedBy width) :
    (l.fallback ++ [""]).Pairwise Extends := by
  cases hr : l.isRoot with
  | true => simp [fallback_of_isRoot hr]
  | false =>
    have hlanguage : Extends l.language "" := by
      rcases h.visible with hv | ⟨c, rest, hc, hlt⟩
      · exact absurd hv (by simp [hr])
      · exact ⟨c, rest, hc, hlt⟩
    have hcountry := Extends.separated l.language l.country
    rw [← List.isChain_iff_pairwise]
    cases hv : l.variant.isEmpty with
    | true =>
      cases hc : l.country.isEmpty <;> simp [fallback, hr, hv, hc, hlanguage, hcountry]
    | false =>
      have hvariant : Extends l.tag (l.language ++ "_" ++ l.country) := by
        rw [tag_of_variant hv]
        exact Extends.separated _ _
      have htag := hvariant.trans hcountry
      cases hc : l.country.isEmpty <;>
        simp [fallback, hr, hv, hc, hlanguage, hcountry, hvariant, htag]

/-- What the locale of a chosen row may be, from the most to the least specific. -/
def ranks (l : Locale) : List (Option String) :=
  l.fallback.map some ++ [none]

theorem ranks_map_getD : l.ranks.map (·.getD "") = l.fallback ++ [""] := by
  simp [ranks, Function.comp_def]

theorem pairwise_mem_tail {α : Type} (xs : List α) : xs.Pairwise fun _ y => y ∈ xs.tail := by
  cases xs with
  | nil => exact .nil
  | cons x rest =>
    exact List.pairwise_cons.mpr
      ⟨fun _ hy => hy, List.pairwise_of_forall_mem_list fun _ _ _ hy => hy⟩

theorem length_lt_of_mem_tail (h : l.RankedBy width) {code : String}
    (hc : code ∈ (l.fallback ++ [""]).tail) : code.length < width := by
  cases hl : l.fallback with
  | nil => simp [hl] at hc
  | cons first rest =>
    rw [hl, List.cons_append, List.tail_cons] at hc
    rcases List.mem_append.mp hc with hc | hc
    · exact h.length_lt code (by rwa [hl, List.tail_cons])
    · obtain rfl := List.mem_singleton.mp hc
      exact h.width_pos

theorem ranks_pairwise (h : l.RankedBy width) : l.ranks.Pairwise fun x y =>
    ∀ xs ys, padded width (y.getD "") ++ xs < padded width (x.getD "") ++ ys := by
  have hp := (l.fallback_extends h).and (pairwise_mem_tail _)
  rw [← ranks_map_getD, List.pairwise_map] at hp
  refine hp.imp ?_
  rintro x y ⟨hx, hy⟩
  rw [ranks_map_getD] at hy
  exact hx.padded_append_lt (length_lt_of_mem_tail h hy)

end Locale

end ObjectQuery
