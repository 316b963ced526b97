import ObjectQuery.Proofs.Document.Readable
import ObjectQuery.Proofs.Locale.Tag

/-! Queries that are read, written and read again. The locale that comes back is the one of the
printed tag, which is the locale of the query unless the tag ends in white space. -/

namespace ObjectQuery

open Compiler (bind_eq_ok)
open Json (Number Outline)
open Text (EndsBlank)

namespace Document

section

variable {σ α : Type} {r : RecordDecoder σ} {depth : Nat} {s s' : σ} {P : σ → Prop}

/-- No field takes the property away. -/
def RecordDecoder.Preserves (r : RecordDecoder σ) (P : σ → Prop) : Prop :=
  ∀ depth name o s s', r.step depth name o s = .ok s' → P s → P s'

theorem RecordDecoder.entries_induction (hr : r.Preserves P) {closed : Bool}
    {entries : List (Outline × Outline)} (h : r.entries depth closed s entries = .ok s')
    (hs : P s) : P s' := by
  induction entries generalizing s with
  | nil =>
    obtain ⟨_, _, h⟩ := bind_eq_ok h
    cases h
    exact hs
  | cons entry rest ih =>
    obtain ⟨key, value⟩ := entry
    match key with
    | .string (some name) =>
      rw [RecordDecoder.entries] at h
      split at h
      · obtain ⟨s₁, hs₁, h⟩ := bind_eq_ok h
        exact ih h (hr depth name value s s₁ hs₁ hs)
      · obtain ⟨_, _, h⟩ := bind_eq_ok h
        exact ih h hs
    | .null | .bool _ | .number _ | .string none | .array _ _ | .object _ _ | .broken => cases h

theorem RecordDecoder.items_induction (hr : r.Preserves P) {names : List String}
    {items rest : List Outline} (h : r.items depth s names items = .ok (s', rest)) (hs : P s) :
    P s' := by
  induction names generalizing s items with
  | nil =>
    rw [RecordDecoder.items] at h
    · cases h
      exact hs
    · simp
  | cons name names ih =>
    cases items with
    | nil =>
      cases h
      exact hs
    | cons item items =>
      obtain ⟨s₁, hs₁, h⟩ := bind_eq_ok h
      exact ih h (hr depth name item s s₁ hs₁ hs)

/-- What every field preserves holds of the fields that a record is made of. -/
theorem RecordDecoder.exists_finish {finish : (String → DocumentError) → σ → Except DocumentError α}
    (hr : r.Preserves P) (hs : P s) {o : Outline} {x : α} (h : r.decode s finish depth o = .ok x) :
    ∃ fault s', P s' ∧ finish fault s' = .ok x := by
  match o, depth with
  | .object entries closed, depth + 1 =>
    obtain ⟨s', hentries, h⟩ := bind_eq_ok h
    exact ⟨_, s', entries_induction hr hentries hs, h⟩
  | .array items closed, depth + 1 =>
    obtain ⟨⟨s', rest⟩, hitems, h⟩ := bind_eq_ok h
    have hfinish : ∃ x', finish (fun _ => .invalidLength) s' = .ok x' ∧
        (closing (rest.isEmpty && closed) >>= fun _ => pure x') = .ok x := by
      dsimp only at h
      split at h
      · obtain ⟨_, _, h⟩ := bind_eq_ok h
        exact bind_eq_ok h
      · exact bind_eq_ok h
    obtain ⟨x', hfinish, h⟩ := hfinish
    obtain ⟨_, _, h⟩ := bind_eq_ok h
    cases h
    exact ⟨_, s', items_induction hr hitems hs, hfinish⟩
  | .object _ _, 0 | .array _ _, 0 => cases h
  | .null, _ | .bool _, _ | .number _, _ | .string _, _ | .broken, _ => cases h

end

theorem locale_of_step {depth : Nat} {name : String} {o : Outline} {p p' : QueryParts}
    (hname : name ≠ "locale") (h : queryFields.step depth name o p = .ok p') :
    p'.locale = p.locale := by
  simp only [queryFields] at h
  split at h
  all_goals first
    | exact absurd rfl hname
    | cases h; rfl
    | obtain ⟨found, _, h⟩ := bind_eq_ok h
      cases h
      rfl

theorem queryFields_preserves :
    queryFields.Preserves fun p => ∀ l ∈ p.locale, l.WellFormed := by
  intro depth name o p p' h hp
  by_cases hname : name = "locale"
  · subst hname
    obtain ⟨found, hfound, h⟩ := bind_eq_ok h
    obtain ⟨l, hl, rfl⟩ := once_eq_ok hfound
    obtain ⟨text, _, rfl⟩ := map_eq_ok hl
    cases h
    simpa using Locale.parse_wellFormed text
  · rwa [locale_of_step hname h]

theorem wellFormed_of_query {depth : Nat} {o : Outline} {q : Query} (h : query depth o = .ok q) :
    q.locale.WellFormed := by
  obtain ⟨fault, p, hp, hfinish⟩ :=
    RecordDecoder.exists_finish queryFields_preserves (by simp) h
  obtain ⟨_, _, hfinish⟩ := bind_eq_ok hfinish
  cases hfinish
  cases hlocale : p.locale with
  | none =>
    have hroot : Locale.parse "" = .root := by decide +kernel
    have hempty := Locale.parse_wellFormed ""
    rwa [hroot] at hempty
  | some l => exact hp l hlocale

/-- What comes back when the document of a query is read from the text, and when it does. -/
structure Rereads (q : Query) (text : String) (readable : Prop) : Prop where
  readable_iff : (∃ q', ofText query text = .ok q') ↔ readable
  locale_iff : ∀ q', ofText query text = .ok q' →
    (q'.locale = q.locale ↔ ¬ EndsBlank q.locale.tag.toList)
  fallback_iff : ∀ q', ofText query text = .ok q' →
    (q'.locale.fallback = q.locale.fallback ↔
      ¬ EndsBlank q.locale.tag.toList ∨ q.locale.isRoot = true)

section

variable {read? : Number → Option Number} {q : Query} {text : String}

theorem ofText_of_readable (hint : ∀ (n : Nat) (m : Int), read? (.int n) = some (.int m) → m = n)
    (htext : Outline.ofText text = (Outline.reading read? q.toJson, true))
    (h : Readable read? maxDepth q) : ofText query text =
      .ok { q.renumbered (fun n => (read? n).getD n) with locale := .parse q.locale.tag } := by
  let f (n : Number) : Number := (read? n).getD n
  have hsort : ∀ s, some s ∈ q.sort → read? (.int s.column) = some (.int s.column) := by
    intro s hs
    obtain ⟨m, hm⟩ := h.sort s hs
    rw [hm, hint s.column m hm]
  have hread : ∀ n ∈ q.toJson.numbers, read? n = some (f n) := by
    intro n hn
    have hsome : (read? n).isSome = true := by
      rcases Query.mem_numbers.mp hn with ⟨v, hv, hn⟩ | ⟨s, hs, rfl⟩
      · exact h.values v hv n hn
      · rw [hsort s hs, Option.isSome_some]
    obtain ⟨m, hm⟩ := Option.isSome_iff_exists.mp hsome
    simp [f, hm]
  have hquery := reads_query_renumbered (f := f) (q := q) fun s hs => by simp [f, hsort s hs]
  have hdepth : (q.toJson.mapNumbers f).depth ≤ maxDepth := by
    rw [Json.depth_mapNumbers]
    exact h.depth_le
  refine ofText_of_reads hquery hdepth ?_
  rw [htext, Outline.reading_eq_ofJson _ hread]

theorem rereads_of_reading (hint : ∀ (n : Nat) (m : Int), read? (.int n) = some (.int m) → m = n)
    (hq : q.locale.WellFormed)
    (htext : Outline.ofText text = (Outline.reading read? q.toJson, true)) :
    Rereads q text (Readable read? maxDepth q) := by
  have hreadable : ∀ q', ofText query text = .ok q' → Readable read? maxDepth q := by
    intro q' h
    rw [ofText, htext] at h
    obtain ⟨q', hread, _⟩ := bind_eq_ok h
    exact readable_of_query (by decide) hread
  have hsame : ∀ q', ofText query text = .ok q' → q'.locale = .parse q.locale.tag := by
    -- A text is read in one way, so it is enough to have read it once.
    intro q' h
    have hq₁ := ofText_of_readable hint htext (hreadable q' h)
    obtain rfl := Except.ok.inj (h.symm.trans hq₁)
    rfl
  constructor
  case readable_iff =>
    constructor
    · rintro ⟨q', h⟩
      exact hreadable q' h
    · exact fun h => ⟨_, ofText_of_readable hint htext h⟩
  case locale_iff =>
    intro q' h
    rw [hsame q' h]
    exact hq.parse_tag_eq_iff
  case fallback_iff =>
    intro q' h
    rw [hsame q' h]
    exact hq.fallback_parse_tag_iff

end

theorem readable_some_iff {depth : Nat} {q : Query} :
    Readable some depth q ↔ q.toJson.depth ≤ depth :=
  ⟨Readable.depth_le, fun h => ⟨h, by simp, by simp⟩⟩

theorem column_of_reread {n : Nat} {m : Int} (h : (Number.int n).reread? = some (.int m)) :
    n ≤ Number.maxWord ∧ m = n := by
  have hn : (n : Int) ≤ Number.maxWord := Number.le_maxWord_of_reread? h
  have hread : (Number.int n).ReadsBack := Number.readsBack_int (by omega) hn
  rw [Number.readsBack_iff.mp hread] at h
  cases h
  exact ⟨by omega, rfl⟩

/-- The floats of the filter are written as numbers that can be read, and the positions of the sort
entries fit a word. -/
def NumbersReread (q : Query) : Prop :=
  (∀ x, .float x ∈ q.values → x.isFinite = true → (Number.float x).reread?.isSome = true) ∧
    ∀ s, some s ∈ q.sort → s.column ≤ Number.maxWord

theorem readable_reread?_iff {depth : Nat} {q : Query} :
    Readable Number.reread? depth q ↔ q.toJson.depth ≤ depth ∧ NumbersReread q := by
  constructor
  · intro h
    refine ⟨h.depth_le, fun x hx hfinite => ?_, fun s hs => ?_⟩
    · apply h.values (.float x) hx
      simp [Value.toJson, hfinite, Json.float, Json.numbers]
    · obtain ⟨m, hm⟩ := h.sort s hs
      exact (column_of_reread hm).1
  · rintro ⟨hdepth, hfloats, hsort⟩
    refine ⟨hdepth, fun v hv n hn => ?_, fun s hs => ?_⟩
    · by_cases hfloat : ∃ x, v = .float x
      · obtain ⟨x, rfl⟩ := hfloat
        rw [Value.toJson] at hn
        split at hn
        · rename_i hfinite
          obtain rfl := List.mem_singleton.mp hn
          exact hfloats x hv hfinite
        · cases hn
      · have hread := v.readsBack (fun x hx => absurd ⟨x, hx⟩ hfloat) n hn
        rw [Number.readsBack_iff.mp hread, Option.isSome_some]
    · have hcolumn := hsort s hs
      have hread : (Number.int s.column).ReadsBack := Number.readsBack_int (by omega) (by omega)
      exact ⟨s.column, Number.readsBack_iff.mp hread⟩

/-- The locale of a tag comes back from its printed tag unless that ends in white space, which is
when the parts of the tag do. Hence so does that of a query that is read, written and read again,
whether or not its numbers come back as they were. -/
theorem locale_reread :
    (∀ text, (Locale.parse (Locale.parse text).tag = .parse text ↔
        ¬ EndsBlank (Locale.parse text).tag.toList) ∧
      (EndsBlank (Locale.parse text).tag.toList ↔ EndsBlank (Locale.parts text).flatten)) ∧
    ∀ source q, ofText query source = .ok q →
      (∀ text, Outline.ofText text = (.ofJson q.toJson, true) →
        Rereads q text (q.toJson.depth ≤ maxDepth)) ∧
      Rereads q q.toJson.compact (q.toJson.depth ≤ maxDepth ∧ NumbersReread q) := by
  constructor
  · intro text
    exact ⟨(Locale.parse_wellFormed text).parse_tag_eq_iff, Locale.endsBlank_tag_parse_iff text⟩
  · intro source q h
    obtain ⟨q', hread, h⟩ := bind_eq_ok h
    obtain ⟨_, _, h⟩ := bind_eq_ok h
    cases h
    have hq := wellFormed_of_query hread
    constructor
    · intro text htext
      rw [← Outline.reading_some] at htext
      rw [← readable_some_iff]
      exact rereads_of_reading (by simp) hq htext
    · rw [← readable_reread?_iff]
      exact rereads_of_reading (fun n m hm => (column_of_reread hm).2) hq
        (Outline.ofText_compact_reading q.toJson)

/-- A locale with a variant and no country, and a filter on a float. -/
def variantQuery (x : Float) : Query :=
  { Query.ofEntity "Order" with
    filter := some (.simple "total" .equals [.float x])
    locale := ⟨"de", "", "POSIX"⟩ }

theorem variantQuery_readable {x y : Float} (hread : (Number.float x).reread? = some (.float y)) :
    (variantQuery x).toJson.depth ≤ maxDepth ∧ NumbersReread (variantQuery x) := by
  have hvalue : ∀ x', .float x' ∈ (variantQuery x).values → x' = x := by
    simp [variantQuery, Query.values, Restriction.values]
  have hsort : (variantQuery x).sort = [] := rfl
  refine ⟨?_, ?_, ?_⟩
  · by_cases hfinite : x.isFinite = true
    all_goals
      simp [variantQuery, Query.ofEntity, Query.toJson, Query.sortToJson, Locale.toJson,
        Json.ofOption, Restriction.toJson, Operator.toJson, Value.toJson, hfinite, Json.float,
        Json.depth, Json.depthItems, Json.depthFields, maxDepth]
  · intro x' hx' _
    rw [hvalue x' hx', hread, Option.isSome_some]
  · simp [hsort]

theorem ofText_variantQuery {x y : Float} (hread : (Number.float x).reread? = some (.float y))
    (hfinite : x.isFinite = true) :
    ofText query (variantQuery x).toJson.compact = .ok (variantQuery y) := by
  have hlocale : Locale.parse (variantQuery x).locale.tag = (variantQuery x).locale := by
    change Locale.parse (⟨"de", "", "POSIX"⟩ : Locale).tag = ⟨"de", "", "POSIX"⟩
    decide +kernel
  have hvalue : (Value.float x).renumbered (fun n => n.reread?.getD n) = .float y := by
    rw [Value.renumbered, Value.toJson, if_pos hfinite, Json.float, Json.mapNumbers, hread]
    rfl
  have hquery := ofText_of_readable (fun n m hm => (column_of_reread hm).2)
    (Outline.ofText_compact_reading (variantQuery x).toJson)
    (readable_reread?_iff.mpr (variantQuery_readable hread))
  rw [hquery, hlocale]
  simp [Query.renumbered, variantQuery, Restriction.mapValues, hvalue]

/-- The float of the query that is read is another one than that of the query that is read again. -/
theorem locale_reread_variant :
    ofText query (variantQuery 3.0582846136230975e181).toJson.compact =
      .ok (variantQuery 3.058284613623097e181) ∧
    ¬ (Number.float 3.058284613623097e181).ReadsBack ∧
    Rereads (variantQuery 3.058284613623097e181) (variantQuery 3.058284613623097e181).toJson.compact
      ((variantQuery 3.058284613623097e181).toJson.depth ≤ maxDepth ∧
        NumbersReread (variantQuery 3.058284613623097e181)) ∧
    NumbersReread (variantQuery 3.058284613623097e181) := by
  have hfirst : (Number.float 3.0582846136230975e181).reread? =
      some (.float 3.058284613623097e181) :=
    Number.reread?_of_text "3.0582846136230975e+181"
      (l := ⟨false, ['3'], "0582846136230975".toList, false, "181".toList⟩)
      (by decide +kernel) rfl (by simp) (by decide +kernel)
  have hsecond : (Number.float 3.058284613623097e181).reread? =
      some (.float 3.0582846136230968e181) :=
    Number.reread?_of_text "3.058284613623097e+181"
      (l := ⟨false, ['3'], "058284613623097".toList, false, "181".toList⟩)
      (by decide +kernel) rfl (by simp) (by decide +kernel)
  have hread := ofText_variantQuery hfirst (by decide +kernel)
  refine ⟨hread, ?_, (locale_reread.2 _ _ hread).2, (variantQuery_readable hsecond).2⟩
  have hne : (3.0582846136230968e181 : Float) ≠ 3.058284613623097e181 := by decide +kernel
  rw [Number.readsBack_iff, hsecond]
  simpa using hne

/-- The space before the separator ends up at the end of the printed tag. -/
theorem locale_not_reread : Locale.parse (Locale.parse "en _").tag ≠ .parse "en _" := by
  decide +kernel

end Document

end ObjectQuery
