import ObjectQuery.Clause.LocaleMatch
import ObjectQuery.Proofs.Alias.FirstUse
import ObjectQuery.Proofs.Parameter.Fresh
import ObjectQuery.Proofs.Statement.Text

/-! One locale condition is made for each alias of localized rows, in the order of their first use.
Each has a parameter of its own with all codes of the locale, unless the locale has none. -/

namespace ObjectQuery

namespace Expr

variable (names : Conventions) (owner param : String)

/-- The row has no code. -/
def uncoded : Expr :=
  .paren (.isNull false (.column owner names.localeField))

/-- The code of the row is one of those bound to the parameter, or it has none. -/
def codeAmong : Expr :=
  .paren (.or [.in false (.column owner names.localeField) param,
    .isNull false (.column owner names.localeField)])

theorem text_uncoded :
    (uncoded names owner).text = "(" ++ owner ++ "." ++ names.localeField ++ " IS NULL)" := by
  apply String.toList_inj.mp
  simp [text, uncoded, tokens, render, Token.text]

theorem text_codeAmong :
    (codeAmong names owner param).text =
      "(" ++ owner ++ "." ++ names.localeField ++ " IN (:" ++ param ++ ") OR " ++
        owner ++ "." ++ names.localeField ++ " IS NULL)" := by
  apply String.toList_inj.mp
  simp [text, codeAmong, tokens, phrases, Token.separated, Token.spaced, render, Token.text]

end Expr

section

variable (names : Conventions) (codes owners : List String) (b : Bindings)

theorem localeConditions_without_codes :
    localeConditions names [] owners b = (owners.map (Expr.uncoded names), b) := by
  induction owners with
  | nil => rfl
  | cons owner rest ih =>
    have hone : localeCondition names [] owner b = (.uncoded names owner, b) := rfl
    simp only [localeConditions, hone, ih, List.map_cons]

theorem localeCondition_with_codes (owner : String) (hcodes : codes ≠ []) :
    ∃ param, param ∉ b.names ∧
      (localeCondition names codes owner b).1 = .codeAmong names owner param ∧
      (localeCondition names codes owner b).2.entries =
        b.entries ++ [(param, .list (codes.map .string))] := by
  have hempty : codes.isEmpty = false := by simpa using hcodes
  refine ⟨_, b.bind_not_mem (parameterBase (owner ++ "." ++ names.localeField))
    (.list (codes.map .string)), ?_, ?_⟩
  · simp [localeCondition, hempty, Expr.codeAmong]
  · simp [localeCondition, hempty, Bindings.entries_bind]

theorem localeConditions_with_codes (hcodes : codes ≠ []) :
    ∃ params : List String, params.length = owners.length ∧ params.Nodup ∧
      (∀ param ∈ params, param ∉ b.names) ∧
      (localeConditions names codes owners b).1 =
        List.zipWith (Expr.codeAmong names) owners params ∧
      (localeConditions names codes owners b).2.entries =
        b.entries ++ params.map fun param => (param, .list (codes.map .string)) := by
  induction owners generalizing b with
  | nil => exact ⟨[], rfl, List.nodup_nil, by simp, rfl, by simp [localeConditions]⟩
  | cons owner rest ih =>
    obtain ⟨param, hfresh, hcondition, hentries⟩ :=
      localeCondition_with_codes names codes b owner hcodes
    obtain ⟨params, hlength, hnodup, hrest, hconditions, hall⟩ :=
      ih (localeCondition names codes owner b).2
    have hnames : (localeCondition names codes owner b).2.names = b.names ++ [param] := by
      simp [Bindings.names, hentries]
    have hnew : param ∉ params := by
      intro hmem
      exact hrest param hmem (by simp [hnames])
    refine ⟨param :: params, by simp [hlength], List.nodup_cons.mpr ⟨hnew, hnodup⟩, ?_, ?_, ?_⟩
    · intro other hother
      rcases List.mem_cons.mp hother with rfl | hother
      · exact hfresh
      · have hlater := hrest other hother
        rw [hnames] at hlater
        exact fun hmem => hlater (List.mem_append_left _ hmem)
    · simp only [localeConditions, hcondition, hconditions, List.zipWith_cons_cons]
    · simp only [localeConditions, hall, hentries, List.map_cons, List.append_assoc,
        List.singleton_append]

end

/-- Names that are bound behind others to one argument hide nothing and are found themselves. -/
theorem Bindings.find?_of_entries_append {b b' : Bindings} {params : List String} {a : Argument}
    (hfresh : ∀ param ∈ params, param ∉ b.names)
    (he : b'.entries = b.entries ++ params.map fun param => (param, a)) (name : String) :
    b'.find? name = if name ∈ params then some a else b.find? name := by
  have hlookup : (params.map fun param => (param, a)).lookup name =
      if name ∈ params then some a else none := by
    clear hfresh he
    induction params with
    | nil => rfl
    | cons param rest ih =>
      by_cases hn : name = param
      · simp [hn]
      · have hb : (name == param) = false := by simpa using hn
        simp [List.lookup_cons, hb, hn, ih]
  rw [find?, he, List.lookup_append, hlookup]
  by_cases hm : name ∈ params
  · have hnone : b.entries.lookup name = none := find?_eq_none_of_not_mem (hfresh name hm)
    simp [hm, hnone]
  · simp [hm, find?]

/-- What is made of the paths so far: the attributes that have a condition, the conditions, and the
bindings. -/
structure Localization where
  seen : List String
  conditions : List Expr
  bindings : Bindings

namespace Localization

variable (names : Conventions) (codes : List String)

def codeField (owner : String) : String :=
  owner ++ "." ++ names.localeField

def add (s : Localization) (p : ResolvedPath) : Localization :=
  if s.seen.contains (codeField names p.owner) then s
  else
    let (condition, b) := localeCondition names codes p.owner s.bindings
    ⟨s.seen ++ [codeField names p.owner], s.conditions ++ [condition], b⟩

theorem mem_map_codeField {owner : String} {owners : List String} :
    codeField names owner ∈ owners.map (codeField names) ↔ owner ∈ owners := by
  constructor
  · intro h
    obtain ⟨other, hother, heq⟩ := List.mem_map.mp h
    have hdot := (String.append_left_inj _).mp heq
    have howner : other = owner := (String.append_left_inj _).mp hdot
    exact howner ▸ hother
  · exact List.mem_map_of_mem

variable {names}

theorem foldl_add {s : Localization} {known : List String}
    (hs : s.seen = known.map (codeField names)) (ps : List ResolvedPath) :
    let new := firstUses known (ps.map ResolvedPath.owner)
    (ps.foldl (add names codes) s).conditions =
        s.conditions ++ (localeConditions names codes new s.bindings).1 ∧
      (ps.foldl (add names codes) s).bindings =
        (localeConditions names codes new s.bindings).2 := by
  induction ps generalizing s known with
  | nil => simp [firstUses, localeConditions]
  | cons p ps ih =>
    rw [List.foldl_cons, List.map_cons]
    by_cases hp : p.owner ∈ known
    · have hseen : s.seen.contains (codeField names p.owner) = true := by
        rw [hs, List.contains_iff_mem, mem_map_codeField]
        exact hp
      have hadd : s.add names codes p = s := by rw [add, if_pos hseen]
      rw [hadd, firstUses_cons_of_mem hp]
      exact ih hs
    · have hseen : ¬ s.seen.contains (codeField names p.owner) = true := by
        rw [hs, List.contains_iff_mem, mem_map_codeField]
        exact hp
      have hadd : s.add names codes p = ⟨s.seen ++ [codeField names p.owner],
          s.conditions ++ [(localeCondition names codes p.owner s.bindings).1],
          (localeCondition names codes p.owner s.bindings).2⟩ := by
        rw [add, if_neg hseen]
      have hknown : (s.add names codes p).seen = (known ++ [p.owner]).map (codeField names) := by
        rw [hadd, hs, List.map_append, List.map_singleton]
      obtain ⟨hconditions, hbindings⟩ := ih hknown
      rw [firstUses_cons_of_not_mem hp]
      constructor
      · rw [hconditions, hadd, List.append_assoc]
        rfl
      · rw [hbindings, hadd]
        rfl

end Localization

namespace Query

variable (names : Conventions) (resolver : Resolver) (q : Query) (b : Bindings)

/-- One pass over the locale columns and then over the filter. -/
def localization : Localization :=
  let step (s : Localization) (path : String) : Localization :=
    s.add names q.locale.fallback (resolver.resolve path)
  let columns := (q.columns.filter (·.aggregate = some .locale)).foldl (fun s c => step s c.path)
    ⟨[], [], b⟩
  q.filter.elim columns fun r => r.visit
    (fun s path => if (resolver.resolve path).isLocalized names then step s path else s) columns

/-- The paths of the locale columns and the localized paths in the filter. -/
def localizedPaths : List ResolvedPath :=
  (q.columns.filter (·.aggregate = some .locale)).map (resolver.resolve ·.path) ++
    ((q.filter.elim [] Restriction.paths).map resolver.resolve).filter (·.isLocalized names)

/-- The aliases these paths lead to, as often as they do. -/
def localizedOwners : List String :=
  (q.columns.filter (·.aggregate = some .locale)).map (resolver.owner ·.path) ++
    ((q.filter.elim [] Restriction.paths).filter
      fun path => (resolver.segments path).contains names.localeMarker).map resolver.owner

theorem map_owner_localizedPaths :
    (q.localizedPaths names resolver).map ResolvedPath.owner =
      q.localizedOwners names resolver := by
  rw [localizedPaths, localizedOwners, List.map_append, List.map_map, List.filter_map, List.map_map]
  rfl

theorem localization_eq : q.localization names resolver b =
    (q.localizedPaths names resolver).foldl (Localization.add names q.locale.fallback)
      ⟨[], [], b⟩ := by
  rw [localizedPaths, List.foldl_append, List.foldl_map, List.foldl_filter, List.foldl_map,
    localization]
  cases q.filter with
  | none => rfl
  | some r => exact r.visit_eq_foldl _ _

theorem localeConditions_eq_owners : q.localeConditions names resolver b =
    ObjectQuery.localeConditions names q.locale.fallback
      (q.localizedOwners names resolver).eraseDups b := by
  rw [← map_owner_localizedPaths]
  rfl

theorem localization_eq_localeConditions :
    ((q.localization names resolver b).conditions, (q.localization names resolver b).bindings) =
      q.localeConditions names resolver b := by
  have hnone : (⟨[], [], b⟩ : Localization).seen =
      ([] : List String).map (Localization.codeField names) := rfl
  obtain ⟨hconditions, hbindings⟩ := Localization.foldl_add q.locale.fallback hnone
    (q.localizedPaths names resolver)
  have hnew : firstUses [] ((q.localizedPaths names resolver).map ResolvedPath.owner) =
      (q.localizedOwners names resolver).eraseDups := by
    simp [firstUses, map_owner_localizedPaths]
  rw [localization_eq, hconditions, hbindings, hnew, localeConditions_eq_owners]
  rfl

/-- Each alias of localized rows gets one condition, in the order of first use, and a parameter that
no other name hides and that takes all codes of the locale. The root locale has no code, so that no
parameter is needed. One pass over the columns and the filter makes these conditions. -/
theorem localeConditions_injected :
    let owners := (q.localizedOwners names resolver).eraseDups
    let result := q.localeConditions names resolver b
    ((q.localization names resolver b).conditions,
      (q.localization names resolver b).bindings) = result ∧
    (q.locale.isRoot = true → result = (owners.map (Expr.uncoded names), b)) ∧
    (q.locale.isRoot = false → ∃ params : List String, params.length = owners.length ∧
      params.Nodup ∧ (∀ param ∈ params, param ∉ b.names) ∧
      result.1 = List.zipWith (Expr.codeAmong names) owners params ∧
      ∀ name, result.2.find? name =
        if name ∈ params then some (.list (q.locale.fallback.map .string)) else b.find? name) ∧
    (∀ owner, (Expr.uncoded names owner).text =
      "(" ++ owner ++ "." ++ names.localeField ++ " IS NULL)") ∧
    ∀ owner param, (Expr.codeAmong names owner param).text =
      "(" ++ owner ++ "." ++ names.localeField ++ " IN (:" ++ param ++ ") OR " ++
        owner ++ "." ++ names.localeField ++ " IS NULL)" := by
  intro owners result
  have hresult : result = ObjectQuery.localeConditions names q.locale.fallback owners b :=
    q.localeConditions_eq_owners names resolver b
  refine ⟨q.localization_eq_localeConditions names resolver b, ?_, ?_, Expr.text_uncoded names,
    Expr.text_codeAmong names⟩
  · intro hroot
    have hcodes : q.locale.fallback = [] := by rw [Locale.fallback, if_pos hroot]
    rw [hresult, hcodes, localeConditions_without_codes]
  · intro hroot
    have hcodes : q.locale.fallback ≠ [] := by simp [Locale.fallback, hroot]
    obtain ⟨params, hlength, hnodup, hfresh, hconditions, hentries⟩ :=
      localeConditions_with_codes names q.locale.fallback owners b hcodes
    rw [← hresult] at hconditions hentries
    exact ⟨params, hlength, hnodup, hfresh, hconditions,
      Bindings.find?_of_entries_append hfresh hentries⟩

/-- Two columns and two leaves share an alias, whose parameter has to make way for an argument that
is bound before. -/
def catalogQuery : Query :=
  { Query.ofEntity "Order" with
    columns := [⟨"localeData.title", some .locale⟩, ⟨"lines.localeData.text", some .max⟩,
      ⟨"localeData.summary", some .locale⟩]
    filter := some (.or [some (.not (.eq "lines.localeData.text" (.string "x"))), none,
      some (.and [some (.arbitrary "code = 'y'"), some (.eq "localeData.title" .null)])])
    locale := ⟨"de", "AT", ""⟩ }

theorem localeConditions_injected_catalog :
    let b : Bindings := ⟨[("localeDatalocale", .scalar (.int 1))]⟩
    let result := catalogQuery.localeConditions .standard (.dotted "obj") b
    catalogQuery.locale.isRoot = false ∧ (∃ params : List String, params.Nodup ∧
      result.1 = List.zipWith (Expr.codeAmong .standard)
        ["localeData", "lineslocaleData"] params ∧
      ∀ name, result.2.find? name = if name ∈ params then
        some (.list [.string "de_AT", .string "de"]) else b.find? name) ∧
    { catalogQuery with locale := .root }.localeConditions .standard (.dotted "obj") b =
      (["localeData", "lineslocaleData"].map (Expr.uncoded .standard), b) := by
  intro b result
  have howners : (catalogQuery.localizedOwners .standard (.dotted "obj")).eraseDups =
      ["localeData", "lineslocaleData"] := by decide
  obtain ⟨_, _, hcodes, _⟩ := catalogQuery.localeConditions_injected .standard (.dotted "obj") b
  obtain ⟨params, _, hnodup, _, hconditions, hfind⟩ := hcodes rfl
  rw [howners] at hconditions
  refine ⟨rfl, ⟨params, hnodup, hconditions, hfind⟩, ?_⟩
  obtain ⟨_, hroot, _⟩ := { catalogQuery with locale := .root }.localeConditions_injected
    .standard (.dotted "obj") b
  exact hroot rfl

end Query

end ObjectQuery
