import ObjectQuery.Clause.Select

/-! The star of a path. A bare star stands for the whole row, and every other path for an attribute
of the entity that it leads to. -/

namespace ObjectQuery

theorem ResolvedPath.expr_eq_column {p : ResolvedPath} (h : p.expr ≠ .star) :
    p.expr = .column p.owner p.field := by
  unfold expr at h ⊢
  split
  · rename_i hp
    exact absurd (if_pos hp) h
  · rfl

theorem Text.split_ne_nil (separator : Char) (cs : List Char) : split separator cs ≠ [] := by
  cases cs with
  | nil => simp [split]
  | cons c rest =>
    rw [split]
    split
    · simp
    · split <;> simp

theorem Text.eq_of_split_eq_singleton {separator : Char} {cs part : List Char}
    (h : split separator cs = [part]) : part = cs := by
  induction cs generalizing part with
  | nil => exact (List.singleton_inj.mp h).symm
  | cons c rest ih =>
    rw [split] at h
    split at h
    · exact absurd (List.tail_eq_of_cons_eq h) (split_ne_nil separator rest)
    · cases hr : split separator rest with
      | nil => exact absurd hr (split_ne_nil separator rest)
      | cons first parts =>
        rw [hr] at h
        obtain ⟨rfl, rfl⟩ := List.cons.inj h
        rw [ih hr]

/-- Of the dotted paths, the bare star alone stands for the whole row. -/
theorem Resolver.expr_dotted_eq_star {root path : String} :
    ((dotted root).resolve path).expr = .star ↔ path = "*" := by
  constructor
  · intro h
    unfold ResolvedPath.expr at h
    split at h
    · rename_i hp
      match hs : Text.split '.' path.toList with
      | [] => exact absurd hs (Text.split_ne_nil '.' path.toList)
      | [part] =>
        obtain rfl := Text.eq_of_split_eq_singleton hs
        simpa [dotted, hs] using hp.1
      | first :: second :: rest => simp [dotted, hs] at hp
    · cases h
  · rintro rfl
    rfl

end ObjectQuery
