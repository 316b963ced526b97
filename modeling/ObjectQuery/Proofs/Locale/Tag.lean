import Mathlib.Data.List.DropRight
import ObjectQuery.Proofs.Localized.Rank
import ObjectQuery.Proofs.Text.Case

/-! Locale tags that are printed and read again. A tag loses the white space at its two ends, but
its parts are taken as they are, so a locale is read back from its tag unless that ends in white
space. -/

namespace ObjectQuery

namespace Text

/-- White space stands at the end. -/
def EndsBlank (cs : List Char) : Prop :=
  ∃ b ∈ cs.getLast?, isBlank b = true

theorem endsBlank_append {xs ys : List Char} (h : ys ≠ []) :
    EndsBlank (xs ++ ys) ↔ EndsBlank ys := by
  rw [EndsBlank, EndsBlank, List.getLast?_append_of_ne_nil _ h]

theorem EndsBlank.of_suffix {xs ys : List Char} (h : EndsBlank xs) (hs : xs <:+ ys) :
    EndsBlank ys := by
  obtain ⟨before, rfl⟩ := hs
  have hne : xs ≠ [] := by
    obtain ⟨b, hb, _⟩ := h
    exact List.ne_nil_of_mem (List.mem_of_getLast? hb)
  exact (endsBlank_append hne).mpr h

theorem not_endsBlank_rdropWhile (cs : List Char) : ¬ EndsBlank (cs.rdropWhile isBlank) := by
  rintro ⟨b, hb, hblank⟩
  obtain ⟨hne, rfl⟩ := List.mem_getLast?_eq_getLast hb
  exact List.rdropWhile_last_not isBlank cs hne hblank

theorem rdropWhile_of_not_endsBlank {cs : List Char} (h : ¬ EndsBlank cs) :
    cs.rdropWhile isBlank = cs := by
  rw [List.rdropWhile_eq_self_iff]
  exact fun hne hblank => h ⟨_, List.getLast?_eq_some_getLast hne, hblank⟩

theorem rdropWhile_append_cons {c : Char} (hc : isBlank c = false) (xs ys : List Char) :
    (xs ++ c :: ys).rdropWhile isBlank = xs ++ c :: ys.rdropWhile isBlank := by
  induction ys using List.reverseRecOn with
  | nil => exact List.rdropWhile_concat_neg _ _ _ (by simp [hc])
  | append_singleton ys y ih =>
    rw [← List.cons_append, ← List.append_assoc]
    cases hy : isBlank y with
    | true => rw [List.rdropWhile_concat_pos _ _ _ hy, ih, List.rdropWhile_concat_pos _ _ _ hy]
    | false =>
      have hy : ¬ isBlank y = true := by simp [hy]
      rw [List.rdropWhile_concat_neg _ _ _ hy, List.rdropWhile_concat_neg _ _ _ hy]
      simp

theorem toList_trim (s : String) :
    (trim s).toList = (s.toList.dropWhile isBlank).rdropWhile isBlank := by
  rw [trim, String.toList_ofList]
  rfl

theorem not_endsBlank_trim (s : String) : ¬ EndsBlank (trim s).toList := by
  rw [toList_trim]
  exact not_endsBlank_rdropWhile _

theorem isBlank_of_head_trim {s : String} {c : Char} (h : (trim s).toList.head? = some c) :
    isBlank c = false := by
  have hprefix : (trim s).toList <+: s.toList.dropWhile isBlank := by
    rw [toList_trim]
    exact List.rdropWhile_prefix _ _
  obtain ⟨rest, hrest⟩ := hprefix
  have hhead : (s.toList.dropWhile isBlank).head? = some c := by
    rw [← hrest, List.head?_append, h]
    rfl
  have hnot := List.head?_dropWhile_not isBlank s.toList
  rw [hhead] at hnot
  exact hnot

theorem toList_trim_of_head {s : String} (h : ∀ c ∈ s.toList.head?, isBlank c = false) :
    (trim s).toList = s.toList.rdropWhile isBlank := by
  rw [toList_trim]
  cases hs : s.toList with
  | nil => rfl
  | cons c rest =>
    have hc := h c (by simp [hs])
    rw [List.dropWhile_cons_of_neg (by simp [hc])]

theorem Recased.endsBlank_iff {cs ds : List Char} (h : Recased cs ds) :
    EndsBlank ds ↔ EndsBlank cs := by
  constructor
  · rintro ⟨b, hb, hblank⟩
    exact ⟨b, (h.getLast?_iff (isNeutral_of_isBlank hblank)).mp hb, hblank⟩
  · rintro ⟨b, hb, hblank⟩
    exact ⟨b, (h.getLast?_iff (isNeutral_of_isBlank hblank)).mpr hb, hblank⟩

/-- A text that case mapping keeps comes back from what is left without the white space at its end
only if there is none. -/
theorem recase_rdropWhile_eq_iff {f : String → String}
    (hf : ∀ cs, Recased cs (f (String.ofList cs)).toList) {s : String} (hs : f s = s) :
    f (String.ofList (s.toList.rdropWhile isBlank)) = s ↔ ¬ EndsBlank s.toList := by
  constructor
  · intro h hends
    have hrecased := hf (s.toList.rdropWhile isBlank)
    rw [h] at hrecased
    exact not_endsBlank_rdropWhile _ (hrecased.endsBlank_iff.mp hends)
  · intro h
    rw [rdropWhile_of_not_endsBlank h, String.ofList_toList, hs]

end Text

open Text (EndsBlank Recased isBlank)

namespace Locale

theorem isNeutral_of_isSeparator {c : Char} (h : isSeparator c = true) : Text.IsNeutral c := by
  simp only [isSeparator, Bool.or_eq_true, decide_eq_true_eq] at h
  unfold Text.IsNeutral
  rcases h with rfl | rfl <;> decide

def IsPart (cs : List Char) : Prop :=
  ∀ c ∈ cs, isSeparator c = false

theorem IsPart.recased {cs ds : List Char} (h : IsPart cs) (hr : Recased cs ds) : IsPart ds := by
  intro c hc
  cases hs : isSeparator c with
  | false => rfl
  | true =>
    have hmem := hr.mem (isNeutral_of_isSeparator hs) hc
    exact hs.symm.trans (h c hmem)

theorem IsPart.rdropWhile {cs : List Char} (h : IsPart cs) : IsPart (cs.rdropWhile isBlank) :=
  fun c hc => h c ((List.rdropWhile_prefix _ _).subset hc)

theorem splitPart_of_isPart {cs : List Char} (h : IsPart cs) : splitPart cs = (cs, []) := by
  have htake : cs.takeWhile (!isSeparator ·) = cs :=
    List.takeWhile_eq_self_iff.mpr fun c hc => by simp [h c hc]
  have hdrop : cs.dropWhile (!isSeparator ·) = [] :=
    List.dropWhile_eq_nil_iff.mpr fun c hc => by simp [h c hc]
  rw [splitPart, htake, hdrop]
  rfl

theorem splitPart_append {cs : List Char} (h : IsPart cs) (rest : List Char) :
    splitPart (cs ++ '_' :: rest) = (cs, rest) := by
  have hpart : ∀ c ∈ cs, (!isSeparator c) = true := fun c hc => by simp [h c hc]
  rw [splitPart, List.takeWhile_append_of_pos hpart, List.dropWhile_append_of_pos hpart,
    List.takeWhile_cons_of_neg (by decide), List.dropWhile_cons_of_neg (by decide),
    List.append_nil]
  rfl

theorem isPart_splitPart (cs : List Char) : IsPart (splitPart cs).1 := by
  intro c hc
  have hpart := List.mem_takeWhile_imp hc
  simpa using hpart

theorem splitPart_prefix (cs : List Char) : (splitPart cs).1 <+: cs :=
  List.takeWhile_prefix _

theorem splitPart_suffix (cs : List Char) : (splitPart cs).2 <:+ cs :=
  (List.drop_suffix 1 _).trans (List.dropWhile_suffix _)

/-- What holds of every locale that is read from a tag. -/
structure WellFormed (l : Locale) : Prop where
  lowercase_language : Text.lowercase l.language = l.language
  uppercase_country : Text.uppercase l.country = l.country
  isPart_language : IsPart l.language.toList
  isPart_country : IsPart l.country.toList
  head_language : ∀ c ∈ l.language.toList.head?, isBlank c = false
  not_endsBlank_variant : ¬ EndsBlank l.variant.toList

/-- The parts of a tag as they stand between its separators. -/
def parts (text : String) : List (List Char) :=
  let (language, rest) := splitPart (Text.trim text).toList
  let (country, variant) := splitPart rest
  [language, country, variant]

theorem parse_of_splitPart {text : String} {language rest country variant : List Char}
    (h : splitPart (Text.trim text).toList = (language, rest))
    (h' : splitPart rest = (country, variant)) :
    parse text = ⟨Text.lowercase (String.ofList language), Text.uppercase (String.ofList country),
      String.ofList variant⟩ := by
  simp only [parse, h, h']

theorem exists_parts (text : String) : ∃ language country variant : List Char,
    parts text = [language, country, variant] ∧
      parse text = ⟨Text.lowercase (String.ofList language),
        Text.uppercase (String.ofList country), String.ofList variant⟩ ∧
      IsPart language ∧ IsPart country ∧
      language <+: (Text.trim text).toList ∧ variant <:+ (Text.trim text).toList := by
  obtain ⟨language, rest, hlanguage⟩ : ∃ language rest,
      splitPart (Text.trim text).toList = (language, rest) := ⟨_, _, rfl⟩
  obtain ⟨country, variant, hcountry⟩ : ∃ country variant,
      splitPart rest = (country, variant) := ⟨_, _, rfl⟩
  have hfirst := splitPart_suffix (Text.trim text).toList
  have hsecond := splitPart_suffix rest
  have hprefix := splitPart_prefix (Text.trim text).toList
  have hpart := isPart_splitPart (Text.trim text).toList
  have hpart' := isPart_splitPart rest
  rw [hlanguage] at hfirst hprefix hpart
  rw [hcountry] at hsecond hpart'
  refine ⟨language, country, variant, ?_, parse_of_splitPart hlanguage hcountry, hpart, hpart',
    hprefix, hsecond.trans hfirst⟩
  simp only [parts, hlanguage, hcountry]

theorem parse_wellFormed (text : String) : (parse text).WellFormed := by
  obtain ⟨language, country, variant, _, hparse, hlanguage, hcountry, hprefix, hsuffix⟩ :=
    exists_parts text
  have hlower := Text.recased_lowercase language
  have hupper := Text.recased_uppercase country
  rw [hparse]
  constructor
  case lowercase_language => exact Text.lowercase_lowercase _
  case uppercase_country => exact Text.uppercase_uppercase _
  case isPart_language => exact hlanguage.recased hlower
  case isPart_country => exact hcountry.recased hupper
  case head_language =>
    intro c hc
    cases hblank : isBlank c with
    | false => rfl
    | true =>
      have hhead := (hlower.head?_iff (Text.isNeutral_of_isBlank hblank)).mp hc
      obtain ⟨rest, hrest⟩ := hprefix
      have htrim : (Text.trim text).toList.head? = some c := by
        rw [← hrest, List.head?_append, hhead]
        rfl
      exact hblank.symm.trans (Text.isBlank_of_head_trim htrim)
  case not_endsBlank_variant =>
    intro h
    rw [String.toList_ofList] at h
    exact Text.not_endsBlank_trim text (h.of_suffix hsuffix)

theorem tag_of_language {l : Locale} (hc : l.country = "") (hv : l.variant = "") :
    l.tag = l.language := by
  simp [tag, hc, hv]

theorem toList_tag_of_country {l : Locale} (hc : l.country ≠ "") (hv : l.variant = "") :
    l.tag.toList = l.language.toList ++ '_' :: l.country.toList := by
  simp [tag, hc, hv]

theorem toList_tag_of_variant {l : Locale} (hv : l.variant ≠ "") :
    l.tag.toList = l.language.toList ++ '_' :: (l.country.toList ++ '_' :: l.variant.toList) := by
  rw [tag_of_variant (by simpa using hv)]
  simp

/-- The white space at the end of a tag is that at the end of its parts. -/
theorem endsBlank_tag_iff (l : Locale) : EndsBlank l.tag.toList ↔
    EndsBlank (l.language.toList ++ l.country.toList ++ l.variant.toList) := by
  by_cases hv : l.variant = ""
  · by_cases hc : l.country = ""
    · simp [tag_of_language hc hv, hc, hv]
    · have hne : l.country.toList ≠ [] := by simpa using hc
      rw [toList_tag_of_country hc hv, hv, List.append_cons, Text.endsBlank_append hne,
        String.toList_empty, List.append_nil, Text.endsBlank_append hne]
  · have hne : l.variant.toList ≠ [] := by simpa using hv
    rw [toList_tag_of_variant hv, List.append_cons, ← List.append_assoc, List.append_cons,
      Text.endsBlank_append hne, Text.endsBlank_append hne]

theorem endsBlank_tag_parse_iff (text : String) :
    EndsBlank (parse text).tag.toList ↔ EndsBlank (parts text).flatten := by
  obtain ⟨language, country, variant, hparts, hparse, _⟩ := exists_parts text
  have hlower := Text.recased_lowercase language
  have hupper := Text.recased_uppercase country
  rw [endsBlank_tag_iff, hparts, hparse]
  have hrecased := (hlower.append hupper).append (.refl variant)
  simpa using hrecased.endsBlank_iff

theorem eq_of_fallback {l l' : Locale} (hroot : ¬ l.isRoot = true) (hv' : l'.variant = "")
    (hv : l.variant = "") (h : l'.fallback = l.fallback) : l' = l := by
  have hroot' : ¬ l'.isRoot = true := by
    intro hroot'
    rw [fallback, if_pos hroot', fallback, if_neg hroot] at h
    simp at h
  obtain ⟨language, country, variant⟩ := l
  obtain ⟨language', country', variant'⟩ := l'
  obtain ⟨rfl, rfl⟩ := And.intro hv hv'
  rw [fallback, if_neg hroot', fallback, if_neg hroot] at h
  have hcodes := List.append_inj' h rfl
  obtain rfl : language' = language := List.singleton_inj.mp hcodes.2
  have hcountry : country' = country := by
    by_cases hc : country = "" <;> by_cases hc' : country' = "" <;> simp_all
  rw [hcountry]

namespace WellFormed

variable {l : Locale}

theorem head_tag (h : l.WellFormed) : ∀ c ∈ l.tag.toList.head?, isBlank c = false := by
  have hlanguage : ∀ rest, ∀ c ∈ (l.language.toList ++ '_' :: rest).head?, isBlank c = false := by
    intro rest c hc
    rw [List.head?_append] at hc
    cases hl : l.language.toList.head? with
    | none =>
      obtain rfl : '_' = c := by simpa [hl] using hc
      decide
    | some first =>
      obtain rfl : first = c := by simpa [hl] using hc
      exact h.head_language first hl
  by_cases hv : l.variant = ""
  · by_cases hc : l.country = ""
    · rw [tag_of_language hc hv]
      exact h.head_language
    · rw [toList_tag_of_country hc hv]
      exact hlanguage _
  · rw [toList_tag_of_variant hv]
    exact hlanguage _

theorem parse_tag_of_language (h : l.WellFormed) (hc : l.country = "") (hv : l.variant = "") :
    parse l.tag =
      ⟨Text.lowercase (String.ofList (l.language.toList.rdropWhile isBlank)), "", ""⟩ := by
  have htrim := Text.toList_trim_of_head h.head_tag
  have hsplit : splitPart (Text.trim l.tag).toList =
      (l.language.toList.rdropWhile isBlank, []) := by
    rw [htrim, tag_of_language hc hv, splitPart_of_isPart h.isPart_language.rdropWhile]
  have hempty : Text.uppercase (String.ofList []) = "" := by decide
  rw [parse_of_splitPart hsplit (splitPart_of_isPart fun _ hmem => absurd hmem List.not_mem_nil),
    hempty, String.ofList_nil]

theorem parse_tag_of_country (h : l.WellFormed) (hc : l.country ≠ "") (hv : l.variant = "") :
    parse l.tag = ⟨l.language,
      Text.uppercase (String.ofList (l.country.toList.rdropWhile isBlank)), ""⟩ := by
  have htrim := Text.toList_trim_of_head h.head_tag
  have hsplit : splitPart (Text.trim l.tag).toList =
      (l.language.toList, l.country.toList.rdropWhile isBlank) := by
    rw [htrim, toList_tag_of_country hc hv, Text.rdropWhile_append_cons (by decide),
      splitPart_append h.isPart_language]
  rw [parse_of_splitPart hsplit (splitPart_of_isPart h.isPart_country.rdropWhile),
    String.ofList_toList, h.lowercase_language, String.ofList_nil]

theorem parse_tag_of_variant (h : l.WellFormed) (hv : l.variant ≠ "") : parse l.tag = l := by
  have htrim := Text.toList_trim_of_head h.head_tag
  have hne : l.variant.toList ≠ [] := by simpa using hv
  have hends : ¬ EndsBlank l.tag.toList := by
    rw [endsBlank_tag_iff, Text.endsBlank_append hne]
    exact h.not_endsBlank_variant
  have hsplit : splitPart (Text.trim l.tag).toList =
      (l.language.toList, l.country.toList ++ '_' :: l.variant.toList) := by
    rw [htrim, Text.rdropWhile_of_not_endsBlank hends, toList_tag_of_variant hv,
      splitPart_append h.isPart_language]
  rw [parse_of_splitPart hsplit (splitPart_append h.isPart_country _), String.ofList_toList,
    String.ofList_toList, String.ofList_toList, h.lowercase_language, h.uppercase_country]

/-- Only the last part of a tag can lose something when the tag is read, and if it does it does not
come back. -/
theorem parse_tag_eq_iff (h : l.WellFormed) : parse l.tag = l ↔ ¬ EndsBlank l.tag.toList := by
  rw [endsBlank_tag_iff]
  by_cases hv : l.variant = ""
  · by_cases hc : l.country = ""
    · have hlanguage := Text.recase_rdropWhile_eq_iff Text.recased_lowercase h.lowercase_language
      rw [h.parse_tag_of_language hc hv]
      obtain ⟨language, country, variant⟩ := l
      obtain ⟨rfl, rfl⟩ := And.intro hc hv
      simpa using hlanguage
    · have hne : l.country.toList ≠ [] := by simpa using hc
      have hcountry := Text.recase_rdropWhile_eq_iff Text.recased_uppercase h.uppercase_country
      rw [h.parse_tag_of_country hc hv, hv, String.toList_empty, List.append_nil,
        Text.endsBlank_append hne, ← hcountry]
      obtain ⟨language, country, variant⟩ := l
      obtain rfl := hv
      simp
  · have hne : l.variant.toList ≠ [] := by simpa using hv
    rw [Text.endsBlank_append hne]
    exact iff_of_true (h.parse_tag_of_variant hv) h.not_endsBlank_variant

theorem variant_parse_tag (h : l.WellFormed) (hv : l.variant = "") :
    (parse l.tag).variant = "" := by
  by_cases hc : l.country = ""
  · rw [h.parse_tag_of_language hc hv]
  · rw [h.parse_tag_of_country hc hv]

theorem isRoot_parse_tag (h : l.WellFormed) (hroot : l.isRoot = true) :
    (parse l.tag).isRoot = true := by
  have hlanguage : l.language = "" := by simpa [isRoot] using hroot
  have hempty : Text.lowercase (String.ofList []) = "" := by decide
  by_cases hv : l.variant = ""
  · by_cases hc : l.country = ""
    · rw [h.parse_tag_of_language hc hv, hlanguage, String.toList_empty, List.rdropWhile_nil,
        hempty]
      rfl
    · rw [h.parse_tag_of_country hc hv, hlanguage]
      rfl
  · rw [h.parse_tag_of_variant hv]
    exact hroot

/-- The codes of a locale tell when its tag has lost something, but the root has none. -/
theorem fallback_parse_tag_iff (h : l.WellFormed) :
    (parse l.tag).fallback = l.fallback ↔ ¬ EndsBlank l.tag.toList ∨ l.isRoot = true := by
  constructor
  · intro hfallback
    by_cases hroot : l.isRoot = true
    · exact .inr hroot
    · have hsame : parse l.tag = l := by
        by_cases hv : l.variant = ""
        · exact eq_of_fallback hroot (h.variant_parse_tag hv) hv hfallback
        · exact h.parse_tag_of_variant hv
      exact .inl (h.parse_tag_eq_iff.mp hsame)
  · rintro (hends | hroot)
    · rw [h.parse_tag_eq_iff.mpr hends]
    · rw [fallback, fallback, if_pos hroot, if_pos (h.isRoot_parse_tag hroot)]

end WellFormed

end Locale

end ObjectQuery
