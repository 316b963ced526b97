import ObjectQuery.Parameter
import ObjectQuery.Proofs.Path.Star

/-! Dotted paths taken apart. The relations and the field of a path have no point, and joined with
points they are the path, so nothing of it is lost. -/

namespace ObjectQuery

namespace Text

variable {separator : Char}

theorem split_eq_splitOn (separator : Char) (cs : List Char) :
    split separator cs = cs.splitOn separator := by
  induction cs with
  | nil => rfl
  | cons c rest ih =>
    rw [split, List.splitOn_cons_eq_if_modifyHead, ← ih]
    by_cases hc : c = separator
    · simp [hc]
    · cases hs : split separator rest with
      | nil => exact absurd hs (split_ne_nil separator rest)
      | cons part parts => simp [hc]

theorem not_mem_of_mem_split {cs part : List Char} (h : part ∈ split separator cs) :
    separator ∉ part := by
  induction cs generalizing part with
  | nil =>
    obtain rfl := List.mem_singleton.mp h
    exact List.not_mem_nil
  | cons c rest ih =>
    rw [split] at h
    by_cases hc : c = separator
    · rw [if_pos hc] at h
      rcases List.mem_cons.mp h with rfl | h
      · exact List.not_mem_nil
      · exact ih h
    · rw [if_neg hc] at h
      cases hs : split separator rest with
      | nil => exact absurd hs (split_ne_nil separator rest)
      | cons first parts =>
        rw [hs] at h ih
        rcases List.mem_cons.mp h with rfl | h
        · have hfirst := ih List.mem_cons_self
          simp [Ne.symm hc, hfirst]
        · exact ih (List.mem_cons_of_mem first h)

theorem flatten_split (separator : Char) (cs : List Char) :
    (split separator cs).flatten = cs.filter (· ≠ separator) := by
  induction cs with
  | nil => rfl
  | cons c rest ih =>
    rw [split]
    by_cases hc : c = separator
    · simp [hc, ih]
    · cases hs : split separator rest with
      | nil => exact absurd hs (split_ne_nil separator rest)
      | cons part parts =>
        rw [hs] at ih
        simpa [hc] using ih

theorem split_eq_singleton_iff {cs : List Char} :
    split separator cs = [cs] ↔ separator ∉ cs := by
  constructor
  · intro h
    exact not_mem_of_mem_split (h ▸ List.mem_singleton_self cs)
  · intro h
    rw [split_eq_splitOn, List.splitOn_eq_singleton h]

end Text

/-- The path is taken apart into the relations it follows and the field it ends in. -/
structure ResolvedPath.Decomposes (p : ResolvedPath) (path : String) : Prop where
  not_mem_segment : ∀ s ∈ p.segments, '.' ∉ s.toList
  not_mem_field : '.' ∉ p.field.toList
  intercalate_eq : ".".intercalate (p.segments ++ [p.field]) = path
  /-- There is no other way to take the path apart. -/
  unique : ∀ segments field, (∀ part ∈ segments ++ [field], '.' ∉ part.toList) →
    ".".intercalate (segments ++ [field]) = path → segments = p.segments ∧ field = p.field
  isRelated_iff : p.isRelated = true ↔ '.' ∈ path.toList
  hops_pos_iff : 0 < p.hops ↔ '.' ∈ path.toList
  hops_eq : p.hops = p.segments.length
  aliasAfter_hops : p.isRelated = true → p.aliasAfter p.hops = p.owner
  aliasAfter_prefix : ∀ n < p.hops, (p.aliasAfter n).toList <+: (p.aliasAfter (n + 1)).toList
  parameterBase_eq : p.isRelated = true →
    parameterBase p.qualified = String.ofList (path.toList.filter (· ≠ '.'))

namespace Resolver

section

variable (root path : String)

theorem segments_append_field :
    ((dotted root).resolve path).segments ++ [((dotted root).resolve path).field] =
      (Text.split '.' path.toList).map String.ofList := by
  have hne : (Text.split '.' path.toList).map String.ofList ≠ [] := by
    simpa using Text.split_ne_nil '.' path.toList
  have hfield : ((Text.split '.' path.toList).map String.ofList).getLastD "" =
      ((Text.split '.' path.toList).map String.ofList).getLast hne := by
    rw [List.getLastD_eq_getLast?, List.getLast?_eq_some_getLast hne, Option.getD_some]
  simp only [dotted, hfield]
  exact List.dropLast_concat_getLast hne

theorem map_toList_parts :
    (((dotted root).resolve path).segments ++ [((dotted root).resolve path).field]).map
      String.toList = Text.split '.' path.toList := by
  rw [segments_append_field, List.map_map]
  simp [Function.comp_def]

theorem toList_join_parts :
    (String.join ((dotted root).resolve path).segments).toList ++
      ((dotted root).resolve path).field.toList = path.toList.filter (· ≠ '.') := by
  rw [← Text.flatten_split, ← map_toList_parts root, String.toList_join, List.flatMap_def]
  simp

end

variable {root path : String}

theorem isRelated_iff : ((dotted root).resolve path).isRelated = true ↔
    ((dotted root).resolve path).segments ≠ [] := by
  simp [dotted]

theorem owner_of_isRelated (h : ((dotted root).resolve path).isRelated = true) :
    ((dotted root).resolve path).owner = String.join ((dotted root).resolve path).segments := by
  have hne := isRelated_iff.mp h
  simp only [dotted] at hne ⊢
  rw [if_neg (by simpa using hne)]

theorem segments_eq_nil_iff :
    ((dotted root).resolve path).segments = [] ↔ '.' ∉ path.toList := by
  have hparts := map_toList_parts root path
  rw [← Text.split_eq_singleton_iff]
  constructor
  · intro h
    rw [h, List.nil_append, List.map_singleton] at hparts
    rw [← hparts, Text.eq_of_split_eq_singleton hparts.symm]
  · intro h
    rw [h] at hparts
    have hlength := congrArg List.length hparts
    simpa using hlength

theorem not_mem_part {part : String}
    (h : part ∈ ((dotted root).resolve path).segments ++ [((dotted root).resolve path).field]) :
    '.' ∉ part.toList := by
  have hmem : part.toList ∈ Text.split '.' path.toList := by
    rw [← map_toList_parts root]
    exact List.mem_map_of_mem h
  exact Text.not_mem_of_mem_split hmem

theorem parts_of_intercalate (root : String) {parts : List String} (hne : parts ≠ [])
    (hpoint : ∀ part ∈ parts, '.' ∉ part.toList) (h : ".".intercalate parts = path) :
    parts = ((dotted root).resolve path).segments ++ [((dotted root).resolve path).field] := by
  have hsplit : Text.split '.' path.toList = parts.map String.toList := by
    rw [← h, String.toList_intercalate, Text.split_eq_splitOn]
    exact List.splitOn_intercalate '.' (by simpa using hpoint) (by simpa using hne)
  rw [segments_append_field, hsplit, List.map_map]
  simp [Function.comp_def]

/-- The qualified name of a related path has one point, between the alias and the field. -/
theorem filter_point_qualified (h : ((dotted root).resolve path).isRelated = true) :
    ((dotted root).resolve path).qualified.toList.filter (· ≠ '.') =
      path.toList.filter (· ≠ '.') := by
  have hpoint : ".".toList.filter (· ≠ '.') = [] := by decide
  rw [ResolvedPath.qualified, owner_of_isRelated h, String.toList_append, String.toList_append,
    List.filter_append, List.filter_append, hpoint, List.append_nil, ← List.filter_append,
    toList_join_parts, List.filter_filter]
  simp

/-- Every path is taken apart without loss, whatever points it has. -/
theorem resolve_decomposes (root path : String) :
    ((dotted root).resolve path).Decomposes path := by
  constructor
  case not_mem_segment => exact fun s hs => not_mem_part (List.mem_append_left _ hs)
  case not_mem_field => exact not_mem_part (List.mem_append_right _ (List.mem_singleton_self _))
  case intercalate_eq =>
    rw [← String.toList_inj, String.toList_intercalate, map_toList_parts, Text.split_eq_splitOn]
    exact List.intercalate_splitOn '.'
  case unique =>
    intro segments field hpoint h
    have hparts := parts_of_intercalate root (by simp) hpoint h
    exact ⟨List.append_inj_left' hparts rfl, by simpa using List.append_inj_right' hparts rfl⟩
  case isRelated_iff => rw [isRelated_iff, ne_eq, segments_eq_nil_iff, Decidable.not_not]
  case hops_pos_iff =>
    have hhops : 0 < ((dotted root).resolve path).hops ↔
        ((dotted root).resolve path).segments ≠ [] := List.length_pos_iff
    rw [hhops, ne_eq, segments_eq_nil_iff, Decidable.not_not]
  case hops_eq => rfl
  case aliasAfter_hops =>
    intro h
    rw [owner_of_isRelated h]
    exact congrArg String.join (List.take_length)
  case aliasAfter_prefix =>
    intro n hn
    have hn : n < ((dotted root).resolve path).segments.length := hn
    rw [ResolvedPath.aliasAfter, ResolvedPath.aliasAfter, ← List.take_append_getElem hn,
      String.join_append, String.toList_append]
    exact List.prefix_append _ _
  case parameterBase_eq =>
    intro h
    rw [parameterBase, filter_point_qualified h]

/-- Points at the ends and next to each other leave relations and fields that are empty. -/
example : (dotted "obj").resolve ".a..b." =
    ⟨true, 4, ["", "a", "", "b"], "ab", ""⟩ := by decide

end Resolver

end ObjectQuery
