import Mathlib.Data.List.Basic
import ObjectQuery.Text.Blank
import ObjectQuery.Text.Case

/-! Case mapping done twice is case mapping done once, and white space and the signs `-` and `_`
are neither made nor changed by it. The code points that are mapped and those that result are
compared as sets of bits. -/

namespace ObjectQuery.Text

/-- The number whose bits are set at the code points. -/
def bits : List Nat → Nat
  | [] => 0
  | code :: rest => 1 <<< code ||| bits rest

theorem testBit_bits {codes : List Nat} {n : Nat} :
    (bits codes).testBit n = true ↔ n ∈ codes := by
  induction codes with
  | nil => simp [bits]
  | cons code rest ih =>
    rw [bits, Nat.testBit_or, Nat.one_shiftLeft, Nat.testBit_two_pow, Bool.or_eq_true, ih,
      decide_eq_true_eq, List.mem_cons]
    exact or_congr eq_comm Iff.rfl

theorem disjoint_of_bits {xs ys : List Nat} (h : bits xs &&& bits ys = 0) : xs.Disjoint ys := by
  intro n hx hy
  have hn := congrArg (·.testBit n) h
  simp [Nat.testBit_and, testBit_bits.mpr hx, testBit_bits.mpr hy] at hn

/-- White space, `-` and `_`. -/
def neutralCodes : List Nat :=
  List.range' 0x9 5 ++ List.range' 0x2000 11 ++
    [0x20, 0x85, 0xA0, 0x1680, 0x2028, 0x2029, 0x202F, 0x205F, 0x3000, 0x2D, 0x5F]

def IsNeutral (c : Char) : Prop :=
  c.toNat ∈ neutralCodes

theorem isNeutral_of_isBlank {c : Char} (h : isBlank c = true) : IsNeutral c := by
  simp only [isBlank, Bool.or_eq_true, Bool.and_eq_true, decide_eq_true_eq,
    List.contains_eq_mem] at h
  simp only [IsNeutral, neutralCodes, List.mem_append, List.mem_range'_1]
  rcases h with (h | h) | h
  · exact .inl (.inl ⟨h.1, by omega⟩)
  · exact .inl (.inr ⟨h.1, by omega⟩)
  · refine .inr ?_
    simp only [List.mem_cons, List.not_mem_nil, or_false] at h ⊢
    omega

def CaseRun.codes (run : CaseRun) : List Nat :=
  List.range' run.first ((run.last - run.first) / run.step + 1) run.step

theorem CaseRun.mem_codes_of_covers {run : CaseRun} {code : Nat} (h : run.covers code = true) :
    code ∈ run.codes := by
  simp only [covers, Bool.and_eq_true, decide_eq_true_eq, beq_iff_eq] at h
  obtain ⟨⟨hfirst, hlast⟩, hstep⟩ := h
  refine List.mem_range'.mpr ⟨(code - run.first) / run.step, ?_, ?_⟩
  · exact Nat.lt_succ_of_le (Nat.div_le_div_right (by omega))
  · have hdiv := Nat.div_add_mod (code - run.first) run.step
    omega

section

variable (runs : List CaseRun) (expansions : List (Nat × List Nat))

def sources : List Nat :=
  expansions.map Prod.fst ++ runs.flatMap CaseRun.codes

/-- The code points of the characters that others are mapped to. -/
def targets : List Nat :=
  (expansions.flatMap Prod.snd ++ runs.flatMap fun run => run.codes.map run.apply).map
    fun code => (Char.ofNat code).toNat

variable {runs expansions} {c d : Char}

theorem mapped_of_not_mem (h : c.toNat ∉ sources runs expansions) :
    mapped runs expansions c = [c] := by
  rw [sources, List.mem_append, not_or] at h
  have hlookup : expansions.lookup c.toNat = none := by
    rw [List.lookup_eq_none_iff]
    intro entry he
    simpa using fun heq : c.toNat = entry.1 => h.1 (heq ▸ List.mem_map_of_mem he)
  have hfind : runs.find? (·.covers c.toNat) = none := by
    rw [List.find?_eq_none]
    exact fun run hr hc => h.2 (List.mem_flatMap.mpr ⟨run, hr, CaseRun.mem_codes_of_covers hc⟩)
  rw [mapped, hlookup]
  simp only [hfind]

theorem mem_mapped (h : d ∈ mapped runs expansions c) :
    d = c ∧ mapped runs expansions c = [c] ∨ d.toNat ∈ targets runs expansions := by
  have htarget {code : Nat} (hcode : code ∈ expansions.flatMap Prod.snd ++
      runs.flatMap fun run => run.codes.map run.apply) :
      (Char.ofNat code).toNat ∈ targets runs expansions := List.mem_map_of_mem hcode
  cases hlookup : expansions.lookup c.toNat with
  | some codes =>
    simp only [mapped, hlookup] at h
    obtain ⟨code, hcode, rfl⟩ := List.mem_map.mp h
    obtain ⟨_, _, hexpansions, _⟩ := List.lookup_eq_some_iff.mp hlookup
    have hentry : (c.toNat, codes) ∈ expansions := by simp [hexpansions]
    exact .inr (htarget (List.mem_append_left _ (List.mem_flatMap.mpr ⟨_, hentry, hcode⟩)))
  | none =>
    cases hfind : runs.find? (·.covers c.toNat) with
    | some run =>
      simp only [mapped, hlookup, hfind, List.mem_singleton] at h
      have hcovers : run.covers c.toNat = true := by simpa using List.find?_some hfind
      have hcode := CaseRun.mem_codes_of_covers hcovers
      have himage : run.apply c.toNat ∈ runs.flatMap fun run => run.codes.map run.apply :=
        List.mem_flatMap.mpr ⟨run, List.mem_of_find?_eq_some hfind, List.mem_map_of_mem hcode⟩
      exact .inr (h ▸ htarget (List.mem_append_right _ himage))
    | none =>
      simp only [mapped, hlookup, hfind, List.mem_singleton] at h ⊢
      exact .inl ⟨h, trivial⟩

theorem mapped_ne_nil (h : ∀ entry ∈ expansions, entry.2 ≠ []) (c : Char) :
    mapped runs expansions c ≠ [] := by
  cases hlookup : expansions.lookup c.toNat with
  | some codes =>
    obtain ⟨_, _, hexpansions, _⟩ := List.lookup_eq_some_iff.mp hlookup
    have hentry : (c.toNat, codes) ∈ expansions := by simp [hexpansions]
    simpa [mapped, hlookup] using h _ hentry
  | none =>
    cases hfind : runs.find? (·.covers c.toNat) <;> simp [mapped, hlookup, hfind]

end

/-- What is mapped is not mapped on, and neutral characters are not touched. -/
structure Settles (f : Char → List Char) : Prop where
  ne_nil : ∀ c, f c ≠ []
  again : ∀ c, ∀ d ∈ f c, f d = [d]
  neutral : ∀ c, IsNeutral c → f c = [c]
  eq_of_neutral : ∀ c, ∀ d ∈ f c, IsNeutral d → d = c

theorem settles_mapped {runs : List CaseRun} {expansions : List (Nat × List Nat)}
    (hne : ∀ entry ∈ expansions, entry.2 ≠ [])
    (hsources : (sources runs expansions).Disjoint (targets runs expansions ++ neutralCodes))
    (htargets : (targets runs expansions).Disjoint neutralCodes) :
    Settles (mapped runs expansions) := by
  constructor
  case ne_nil => exact mapped_ne_nil hne
  case again =>
    intro c d hd
    rcases mem_mapped hd with ⟨rfl, hc⟩ | ht
    · exact hc
    · exact mapped_of_not_mem fun hs => hsources hs (List.mem_append_left _ ht)
  case neutral =>
    intro c hc
    exact mapped_of_not_mem fun hs => hsources hs (List.mem_append_right _ hc)
  case eq_of_neutral =>
    intro c d hd hn
    rcases mem_mapped hd with ⟨hdc, _⟩ | ht
    · exact hdc
    · exact absurd hn (htargets ht)

theorem settles_lowerChar : Settles lowerChar := by
  have hbits : bits (sources lowerRuns lowerExpansions) &&&
        bits (targets lowerRuns lowerExpansions ++ neutralCodes) = 0 ∧
      bits (targets lowerRuns lowerExpansions) &&& bits neutralCodes = 0 := by decide +kernel
  exact settles_mapped (by decide) (disjoint_of_bits hbits.1) (disjoint_of_bits hbits.2)

theorem settles_upperChar : Settles upperChar := by
  have hbits : bits (sources upperRuns upperExpansions) &&&
        bits (targets upperRuns upperExpansions ++ neutralCodes) = 0 ∧
      bits (targets upperRuns upperExpansions) &&& bits neutralCodes = 0 := by decide +kernel
  exact settles_mapped (by decide) (disjoint_of_bits hbits.1) (disjoint_of_bits hbits.2)

/-- Every character is replaced by characters of its own, neutral ones by themselves alone. -/
inductive Recased : List Char → List Char → Prop where
  | nil : Recased [] []
  | cons {c : Char} {cs piece ds : List Char} (hne : piece ≠ [])
      (hpiece : ∀ d ∈ piece, IsNeutral d → d = c) (hneutral : IsNeutral c → piece = [c])
      (h : Recased cs ds) : Recased (c :: cs) (piece ++ ds)

namespace Recased

theorem refl (cs : List Char) : Recased cs cs := by
  induction cs with
  | nil => exact .nil
  | cons c rest ih => exact .cons (List.cons_ne_nil c []) (by simp) (fun _ => rfl) ih

theorem append {cs ds more made : List Char} (h : Recased cs ds) (h' : Recased more made) :
    Recased (cs ++ more) (ds ++ made) := by
  induction h with
  | nil => exact h'
  | cons hne hpiece hneutral _ ih =>
    rw [List.append_assoc]
    exact .cons hne hpiece hneutral ih

variable {cs ds : List Char} {e : Char}

theorem eq_nil_iff (h : Recased cs ds) : ds = [] ↔ cs = [] := by
  cases h with
  | nil => rfl
  | cons hne => simp [hne]

theorem mem (h : Recased cs ds) (he : IsNeutral e) (hmem : e ∈ ds) : e ∈ cs := by
  induction h with
  | nil => exact hmem
  | cons _ hpiece _ _ ih =>
    rcases List.mem_append.mp hmem with hmem | hmem
    · exact hpiece e hmem he ▸ List.mem_cons_self
    · exact List.mem_cons_of_mem _ (ih hmem)

theorem head?_iff (h : Recased cs ds) (he : IsNeutral e) :
    ds.head? = some e ↔ cs.head? = some e := by
  cases h with
  | nil => rfl
  | @cons c _ piece _ hne hpiece hneutral =>
    rw [List.head?_append_of_ne_nil _ hne, List.head?_cons, Option.some_inj]
    constructor
    · intro hhead
      exact (hpiece e (List.mem_of_mem_head? hhead) he).symm
    · rintro rfl
      rw [hneutral he]
      rfl

theorem getLast?_iff (h : Recased cs ds) (he : IsNeutral e) :
    ds.getLast? = some e ↔ cs.getLast? = some e := by
  induction h with
  | nil => rfl
  | @cons c rest piece ds hne hpiece hneutral h ih =>
    cases hrest : rest with
    | nil =>
      rw [h.eq_nil_iff.mpr hrest, List.append_nil, List.getLast?_singleton, Option.some_inj]
      constructor
      · intro hlast
        exact (hpiece e (List.mem_of_getLast? hlast) he).symm
      · rintro rfl
        rw [hneutral he]
        rfl
    | cons next rest' =>
      have hds : ds ≠ [] := by rw [ne_eq, h.eq_nil_iff, hrest]; exact List.cons_ne_nil _ _
      rw [List.getLast?_append_of_ne_nil _ hds, ih, hrest, List.getLast?_cons_cons]

end Recased

theorem Settles.recased_flatMap {f : Char → List Char} (h : Settles f) (cs : List Char) :
    Recased cs (cs.flatMap f) := by
  induction cs with
  | nil => exact .nil
  | cons c rest ih => exact .cons (h.ne_nil c) (h.eq_of_neutral c) (h.neutral c) ih

theorem recased_uppercase (cs : List Char) :
    Recased cs (uppercase (String.ofList cs)).toList := by
  rw [uppercase, String.toList_ofList, String.toList_ofList]
  exact settles_upperChar.recased_flatMap cs

theorem uppercase_uppercase (s : String) : uppercase (uppercase s) = uppercase s := by
  have hagain : ∀ d ∈ s.toList.flatMap upperChar, upperChar d = [d] := by
    intro d hd
    obtain ⟨c, _, hd⟩ := List.mem_flatMap.mp hd
    exact settles_upperChar.again c d hd
  rw [uppercase, uppercase, String.toList_ofList, List.flatMap_congr hagain]
  simp

/-- What a character is lowered to in its place in a word. -/
def loweredAt (before : List Char) (c : Char) (rest : List Char) : List Char :=
  if c = 'Σ' then [if meetsCased before && !meetsCased rest then 'ς' else 'σ'] else lowerChar c

theorem lowerAfter_cons (before : List Char) (c : Char) (rest : List Char) :
    lowerAfter before (c :: rest) = loweredAt before c rest ++ lowerAfter (c :: before) rest := rfl

/-- A capital sigma is lowered by the letters around it, every other character alone. -/
theorem loweredAt_cases (before : List Char) (c : Char) (rest : List Char) :
    c = 'Σ' ∧ (loweredAt before c rest = ['ς'] ∨ loweredAt before c rest = ['σ']) ∨
      c ≠ 'Σ' ∧ loweredAt before c rest = lowerChar c := by
  unfold loweredAt
  by_cases hc : c = 'Σ'
  · rw [if_pos hc]
    refine .inl ⟨hc, ?_⟩
    cases meetsCased before && !meetsCased rest
    · exact .inr rfl
    · exact .inl rfl
  · rw [if_neg hc]
    exact .inr ⟨hc, rfl⟩

/-- The character stays as it is wherever it stands. -/
def IsLowered (c : Char) : Prop :=
  c ≠ 'Σ' ∧ lowerChar c = [c]

theorem isLowered_of_mem_loweredAt {before rest : List Char} {c d : Char}
    (h : d ∈ loweredAt before c rest) : IsLowered d := by
  have hsigma : ¬ lowerChar 'Σ' = ['Σ'] := by decide
  rcases loweredAt_cases before c rest with ⟨_, hl | hl⟩ | ⟨_, hl⟩
  · rw [hl, List.mem_singleton] at h
    subst h
    exact ⟨by decide, by decide⟩
  · rw [hl, List.mem_singleton] at h
    subst h
    exact ⟨by decide, by decide⟩
  · rw [hl] at h
    have hd := settles_lowerChar.again c d h
    refine ⟨?_, hd⟩
    rintro rfl
    exact hsigma hd

theorem isLowered_of_mem_lowerAfter {before cs : List Char} {d : Char}
    (h : d ∈ lowerAfter before cs) : IsLowered d := by
  induction cs generalizing before with
  | nil => cases h
  | cons c rest ih =>
    rw [lowerAfter_cons] at h
    rcases List.mem_append.mp h with h | h
    · exact isLowered_of_mem_loweredAt h
    · exact ih h

theorem lowerAfter_eq_self {before cs : List Char} (h : ∀ c ∈ cs, IsLowered c) :
    lowerAfter before cs = cs := by
  induction cs generalizing before with
  | nil => rfl
  | cons c rest ih =>
    obtain ⟨hsigma, hc⟩ := h c List.mem_cons_self
    rw [lowerAfter_cons, loweredAt, if_neg hsigma, hc,
      ih fun d hd => h d (List.mem_cons_of_mem _ hd)]
    rfl

theorem recased_lowerAfter (before cs : List Char) : Recased cs (lowerAfter before cs) := by
  have hsigma : ¬ IsNeutral 'Σ' ∧ ¬ IsNeutral 'ς' ∧ ¬ IsNeutral 'σ' := by
    unfold IsNeutral
    decide
  induction cs generalizing before with
  | nil => exact .nil
  | cons c rest ih =>
    rw [lowerAfter_cons]
    rcases loweredAt_cases before c rest with ⟨rfl, hl | hl⟩ | ⟨_, hl⟩
    · rw [hl]
      exact .cons (by simp) (by simp [hsigma]) (fun hc => absurd hc hsigma.1) (ih _)
    · rw [hl]
      exact .cons (by simp) (by simp [hsigma]) (fun hc => absurd hc hsigma.1) (ih _)
    · rw [hl]
      exact .cons (settles_lowerChar.ne_nil c) (settles_lowerChar.eq_of_neutral c)
        (settles_lowerChar.neutral c) (ih _)

theorem recased_lowercase (cs : List Char) :
    Recased cs (lowercase (String.ofList cs)).toList := by
  rw [lowercase, String.toList_ofList, String.toList_ofList]
  exact recased_lowerAfter [] cs

theorem lowercase_lowercase (s : String) : lowercase (lowercase s) = lowercase s := by
  rw [lowercase, lowercase, String.toList_ofList,
    lowerAfter_eq_self fun _ hd => isLowered_of_mem_lowerAfter hd]

end ObjectQuery.Text
