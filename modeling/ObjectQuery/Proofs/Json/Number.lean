import Mathlib.Data.List.TakeDrop
import Mathlib.Data.List.TakeWhile
import ObjectQuery.Json.Reader
import ObjectQuery.Proofs.Decimal.Notation

/-! Number literals that are read back. A literal ends where it is written to end, as long as what
stands behind it cannot be a part of it. -/

namespace ObjectQuery.Json

namespace Number

def Ends (rest : List Char) : Prop :=
  ∀ c ∈ rest.head?, c.isDigit = false ∧ c ≠ '.' ∧ c ≠ 'e' ∧ c ≠ 'E'

theorem Ends.nil : Ends [] := by
  simp [Ends]

theorem digitsAt_cons (c : Char) (cs : List Char) : digitsAt (c :: cs) =
    if c.isDigit then (c :: (digitsAt cs).1, (digitsAt cs).2) else ([], c :: cs) := by
  simp only [digitsAt, List.span_eq_takeWhile_dropWhile, List.takeWhile_cons, List.dropWhile_cons]
  split <;> rfl

variable {cs rest r : List Char}

theorem digitsAt_digits {ds : List Char} (hd : ∀ c ∈ ds, c.isDigit = true)
    (hr : ∀ c ∈ rest.head?, c.isDigit = false) : digitsAt (ds ++ rest) = (ds, rest) := by
  induction ds with
  | nil =>
    cases rest with
    | nil => rfl
    | cons c rest => rw [List.nil_append, digitsAt_cons, if_neg (by simp [hr c rfl])]
  | cons d ds ih =>
    obtain ⟨hfirst, hd⟩ := List.forall_mem_cons.mp hd
    rw [List.cons_append, digitsAt_cons, if_pos hfirst, ih hd]

theorem digitsAt_all {ds : List Char} (hd : ∀ c ∈ ds, c.isDigit = true) :
    digitsAt ds = (ds, []) := by
  have hread : digitsAt (ds ++ []) = (ds, []) := digitsAt_digits hd (by simp)
  rwa [List.append_nil] at hread

theorem digitsAt_of_ends (hr : Ends rest) : digitsAt rest = ([], rest) := by
  have hread : digitsAt ([] ++ rest) = ([], rest) :=
    digitsAt_digits (by simp) fun c hc => (hr c hc).1
  rwa [List.nil_append] at hread

theorem digitsAt_append (hr : Ends rest) :
    digitsAt (cs ++ rest) = ((digitsAt cs).1, (digitsAt cs).2 ++ rest) := by
  induction cs with
  | nil => exact digitsAt_of_ends hr
  | cons c cs ih =>
    rw [List.cons_append, digitsAt_cons, digitsAt_cons, ih]
    split <;> rfl

theorem fractionAt_point (cs : List Char) : fractionAt ('.' :: cs) =
    if (digitsAt cs).1 = [] then none else some (digitsAt cs) := by
  rw [fractionAt]
  split
  · rename_i h
    rw [if_pos (by rw [h])]
  · rename_i found hne
    rw [if_neg fun h => hne (digitsAt cs).2 (Prod.ext h rfl)]

theorem fractionAt_of_ne (h : ∀ c ∈ cs.head?, c ≠ '.') : fractionAt cs = some ([], cs) := by
  unfold fractionAt
  split
  · exact absurd rfl (h _ rfl)
  · rfl

theorem fractionAt_append {f : List Char} (h : fractionAt cs = some (f, r)) (hr : Ends rest) :
    fractionAt (cs ++ rest) = some (f, r ++ rest) := by
  match cs with
  | [] =>
    cases h
    exact fractionAt_of_ne fun c hc => (hr c hc).2.1
  | c :: cs =>
    by_cases hc : c = '.'
    · subst hc
      rw [fractionAt_point] at h
      rw [List.cons_append, fractionAt_point, digitsAt_append hr]
      split at h
      · cases h
      · rename_i hne
        rw [if_neg hne]
        obtain ⟨rfl, rfl⟩ := Prod.mk.inj (Option.some.inj h)
        rfl
    · rw [fractionAt_of_ne (by simpa using hc)] at h
      cases h
      exact fractionAt_of_ne (by simpa using hc)

/-- The sign of an exponent and what follows it. -/
def signAt : List Char → Bool × List Char
  | '+' :: rest => (false, rest)
  | '-' :: rest => (true, rest)
  | rest => (false, rest)

theorem signAt_append (hne : cs ≠ []) :
    signAt (cs ++ rest) = ((signAt cs).1, (signAt cs).2 ++ rest) := by
  cases cs with
  | nil => exact absurd rfl hne
  | cons c cs =>
    by_cases hp : c = '+'
    · rw [hp]
      rfl
    · by_cases hm : c = '-'
      · rw [hm]
        rfl
      · simp [signAt, hp, hm]

theorem exponentAt_mark {c : Char} (hc : c = 'e' ∨ c = 'E') (cs : List Char) :
    exponentAt (c :: cs) =
      if (digitsAt (signAt cs).2).1 = [] then none
      else some ((signAt cs).1, digitsAt (signAt cs).2) := by
  unfold exponentAt
  simp only [if_pos hc]
  split
  · rename_i h
    exact (if_pos (congrArg Prod.fst h)).symm
  · rename_i found hne
    exact (if_neg fun h => hne _ (Prod.ext h rfl)).symm

theorem exponentAt_of_ne (h : ∀ c ∈ cs.head?, ¬ (c = 'e' ∨ c = 'E')) :
    exponentAt cs = some (false, [], cs) := by
  cases cs with
  | nil => rfl
  | cons c cs =>
    unfold exponentAt
    exact if_neg (h c rfl)

theorem exponentAt_append {negative : Bool} {e : List Char}
    (h : exponentAt cs = some (negative, e, r)) (hr : Ends rest) :
    exponentAt (cs ++ rest) = some (negative, e, r ++ rest) := by
  match cs with
  | [] =>
    cases h
    exact exponentAt_of_ne fun c hc => not_or.mpr (hr c hc).2.2
  | c :: cs =>
    by_cases hc : c = 'e' ∨ c = 'E'
    · have hne : cs ≠ [] := by
        rintro rfl
        rw [exponentAt_mark hc] at h
        cases h
      rw [exponentAt_mark hc] at h
      rw [List.cons_append, exponentAt_mark hc, signAt_append hne, digitsAt_append hr]
      split at h
      · cases h
      · rename_i hdigits
        rw [if_neg hdigits]
        obtain ⟨rfl, hfound⟩ := Prod.mk.inj (Option.some.inj h)
        rw [hfound]
    · rw [exponentAt_of_ne (by simpa using hc)] at h
      cases h
      exact exponentAt_of_ne (by simpa using hc)

namespace Literal

/-- The literal behind the sign. -/
def unsignedAt? (negative : Bool) (cs : List Char) : Option (Literal × List Char) := do
  let (whole, cs) := digitsAt cs
  if whole.isEmpty || (whole.head? == some '0' && whole.length != 1) then none
  else
    let (fraction, cs) ← fractionAt cs
    let (negativeExponent, exponent, cs) ← exponentAt cs
    return ({ negative, whole, fraction, negativeExponent, exponent }, cs)

theorem at?_minus (cs : List Char) : at? ('-' :: cs) = unsignedAt? true cs := rfl

theorem at?_of_ne (h : ∀ c ∈ cs.head?, c ≠ '-') : at? cs = unsignedAt? false cs := by
  unfold at?
  split
  rename_i hs
  split at hs
  · exact absurd rfl (h _ rfl)
  · cases hs
    rfl

variable {l : Literal}

theorem unsignedAt?_append {negative : Bool} (h : unsignedAt? negative cs = some (l, r))
    (hr : Ends rest) : unsignedAt? negative (cs ++ rest) = some (l, r ++ rest) := by
  unfold unsignedAt? at h ⊢
  rw [digitsAt_append hr]
  dsimp only at h ⊢
  split at h
  · cases h
  · rename_i hwhole
    rw [if_neg hwhole]
    obtain ⟨⟨fraction, cs₁⟩, hfraction, h⟩ := Option.bind_eq_some_iff.mp h
    obtain ⟨⟨negative, exponent, cs₂⟩, hexponent, h⟩ := Option.bind_eq_some_iff.mp h
    cases h
    simp [fractionAt_append hfraction hr, exponentAt_append hexponent hr]

theorem at?_append (h : at? cs = some (l, r)) (hr : Ends rest) :
    at? (cs ++ rest) = some (l, r ++ rest) := by
  match cs with
  | [] => cases h
  | c :: cs =>
    by_cases hc : c = '-'
    · subst hc
      exact unsignedAt?_append h hr
    · rw [at?_of_ne (by simpa using hc)] at h
      rw [at?_of_ne (by simpa using hc)]
      exact unsignedAt?_append h hr

/-- A literal begins with a minus or a digit. -/
theorem head_of_at? (h : at? cs = some (l, r)) :
    ∃ c tail, cs = c :: tail ∧ (c = '-' ∨ c.isDigit = true) := by
  match cs with
  | [] => cases h
  | c :: cs =>
    refine ⟨c, cs, rfl, ?_⟩
    by_contra hc
    obtain ⟨hm, hd⟩ := not_or.mp hc
    rw [at?_of_ne (by simpa using hm), unsignedAt?, digitsAt_cons, if_neg hd] at h
    cases h

end Literal

theorem ofDigits_toDigits (m : Nat) : ofDigits (Nat.toDigits 10 m) = m := by
  rw [ofDigits, ← Nat.ofDigitChars_eq_foldl, Nat.ofDigitChars_ten_toDigits]

namespace Literal

open Decimal (IsWhole IsFraction IsExponent IsNumeral)

theorem head_exponent {exponent : List Char} (h : IsExponent exponent) :
    ∀ c ∈ exponent.head?, c = 'e' := by
  cases h <;> simp

theorem head_fraction {fraction exponent : List Char} (hfraction : IsFraction fraction)
    (hexponent : IsExponent exponent) :
    ∀ c ∈ (fraction ++ exponent).head?, c = '.' ∨ c = 'e' := by
  cases hfraction with
  | absent => exact fun c hc => .inr (head_exponent hexponent c hc)
  | digits => simp

theorem fractionAt_fraction {fraction exponent : List Char} (hfraction : IsFraction fraction)
    (hexponent : IsExponent exponent) :
    ∃ ds, fractionAt (fraction ++ exponent) = some (ds, exponent) := by
  have hhead := head_exponent hexponent
  cases hfraction with
  | absent =>
    refine ⟨[], fractionAt_of_ne fun c hc => ?_⟩
    rw [hhead c hc]
    decide
  | @digits ds hdigit hne =>
    have hend : ∀ c ∈ exponent.head?, c.isDigit = false := by
      intro c hc
      rw [hhead c hc]
      decide
    refine ⟨ds, ?_⟩
    rw [List.cons_append, fractionAt_point, digitsAt_digits hdigit hend, if_neg hne]

theorem exponentAt_exponent {exponent : List Char} (h : IsExponent exponent) :
    ∃ negative ds, exponentAt exponent = some (negative, ds, []) := by
  cases h with
  | absent => exact ⟨false, [], rfl⟩
  | @digits sign hsign ds hdigit hne =>
    have hsigned : (signAt (sign :: ds)).2 = ds := by
      rcases hsign with rfl | rfl <;> rfl
    exact ⟨_, ds, by rw [exponentAt_mark (.inl rfl), hsigned, digitsAt_all hdigit, if_neg hne]⟩

theorem unsignedAt?_whole (negative : Bool) {whole : List Char} (hwhole : IsWhole whole)
    (hr : ∀ c ∈ rest.head?, c.isDigit = false) :
    unsignedAt? negative (whole ++ rest) = (do
      let (fraction, cs) ← fractionAt rest
      let (negativeExponent, exponent, cs) ← exponentAt cs
      return (⟨negative, whole, fraction, negativeExponent, exponent⟩, cs)) := by
  have hempty : whole.isEmpty = false := by simp [hwhole.ne_nil]
  have hzero : (whole.head? == some '0' && whole.length != 1) = false := by
    by_cases h : whole.head? = some '0'
    · simp [hwhole.zero h]
    · simp [h]
  rw [unsignedAt?, digitsAt_digits hwhole.isDigit hr]
  simp only [hempty, hzero, Bool.or_self, Bool.false_eq_true, if_false]

theorem exists_unsignedAt? (negative : Bool) {body : List Char} (h : IsNumeral body) :
    ∃ l, unsignedAt? negative body = some (l, []) := by
  obtain ⟨hwhole, hfraction, hexponent⟩ := h
  obtain ⟨fraction, hf⟩ := fractionAt_fraction hfraction hexponent
  obtain ⟨negativeExponent, exponent, he⟩ := exponentAt_exponent hexponent
  rw [unsignedAt?_whole negative hwhole]
  · exact ⟨_, by simp only [hf, he, Option.bind_eq_bind, Option.bind_some]; rfl⟩
  · intro c hc
    rcases head_fraction hfraction hexponent c hc with rfl | rfl <;> decide

theorem exists_at?_signed {d : Decimal} {body : List Char} (h : IsNumeral body) :
    ∃ l, at? (d.signed body).toList = some (l, []) := by
  rw [Decimal.signed, String.toList_ofList]
  split
  · exact exists_unsignedAt? true h
  · obtain ⟨l, hl⟩ := exists_unsignedAt? false h
    rw [at?_of_ne]
    · exact ⟨l, hl⟩
    · -- A text that begins with a sign has no digits to begin with.
      rintro c hc rfl
      obtain ⟨cs, rfl⟩ := List.head?_eq_some_iff.mp hc
      rw [unsignedAt?, digitsAt_cons, if_neg (by decide)] at hl
      cases hl

theorem at?_int (n : Int) : at? (Number.int n).text.toList =
    some (⟨decide (n < 0), Nat.toDigits 10 n.natAbs, [], false, []⟩, []) := by
  have hread (negative : Bool) (m : Nat) : unsignedAt? negative (Nat.toDigits 10 m) =
      some (⟨negative, Nat.toDigits 10 m, [], false, []⟩, []) := by
    rw [← List.append_nil (Nat.toDigits 10 m),
      unsignedAt?_whole negative (Decimal.isWhole_toDigits m) (by simp), List.append_nil]
    rfl
  cases n with
  | ofNat m =>
    have htext : (Number.int (Int.ofNat m)).text.toList = Nat.toDigits 10 m := by
      change (Int.repr (Int.ofNat m)).toList = _
      rw [Int.repr, Nat.toList_repr]
    have hsign : ∀ c ∈ (Nat.toDigits 10 m).head?, c ≠ '-' := by
      rintro c hc rfl
      have hdigit := (Decimal.isWhole_toDigits m).isDigit _ (List.mem_of_mem_head? hc)
      cases hdigit
    rw [htext, at?_of_ne hsign, hread]
    simp
  | negSucc m =>
    have htext : (Number.int (Int.negSucc m)).text.toList = '-' :: Nat.toDigits 10 (m + 1) := by
      change (Int.repr (Int.negSucc m)).toList = _
      simp [Int.repr, Nat.toList_repr]
    rw [htext, at?_minus, hread]
    simp

end Literal

/-- The text of every number is a literal. -/
theorem exists_at?_text (n : Number) : ∃ l, Literal.at? n.text.toList = some (l, []) := by
  cases n with
  | int n => exact ⟨_, Literal.at?_int n⟩
  | float x =>
    change ∃ l, Literal.at? (floatText x).toList = some (l, [])
    simp only [floatText]
    split
    · obtain ⟨body, hbody, hnumeral⟩ :=
        Decimal.exists_positional (d := .ofFloat .toEven x) fun h =>
          Int.le_of_eq (Decimal.exponent_ofBits h)
      rw [hbody]
      exact Literal.exists_at?_signed hnumeral
    · obtain ⟨body, hbody, hnumeral⟩ := (Decimal.ofFloat .toEven x).exists_scientific
      rw [hbody]
      exact Literal.exists_at?_signed hnumeral

/-- What comes back when the text of the number is read. -/
def reread? (n : Number) : Option Number :=
  (Literal.at? n.text.toList).bind fun (l, _) => l.number?

theorem numberAt_text_append (n : Number) (hr : Ends rest) :
    Outline.numberAt (n.text.toList ++ rest) = (.number n.reread?, rest) := by
  obtain ⟨l, hl⟩ := n.exists_at?_text
  rw [Outline.numberAt, Literal.at?_append hl hr, reread?, hl]
  rfl

/-- The text of the number is a literal that stands for it. -/
def ReadsBack (n : Number) : Prop :=
  Outline.numberAt n.text.toList = (.number (some n), [])

theorem readsBack_iff {n : Number} : n.ReadsBack ↔ n.reread? = some n := by
  have hread := n.numberAt_text_append .nil
  rw [List.append_nil] at hread
  rw [ReadsBack, hread]
  simp

theorem reread?_of_text {x y : Float} {l : Literal} (text : String)
    (htext : (Number.float x).text = text) (hl : Literal.at? text.toList = some (l, []))
    (hpoint : l.fraction ≠ []) (hfloat : l.float? = some y) :
    (Number.float x).reread? = some (.float y) := by
  have hnumber : l.number? = some (.float y) := by
    rw [Literal.number?, if_neg (by simp [hpoint]), hfloat]
    rfl
  rw [reread?, htext, hl]
  exact hnumber

theorem number?_toDigits (negative : Bool) {m : Nat} (hm : m ≤ maxWord) :
    Literal.number? ⟨negative, Nat.toDigits 10 m, [], false, []⟩ =
      if ¬ negative then some (.int m)
      else if 0 < m ∧ m ≤ 1 <<< 63 then some (.int (-m))
      else some (.float (-(UInt64.ofNat m).toFloat)) := by
  unfold Literal.number?
  rw [ofDigits_toDigits, if_pos ⟨rfl, rfl, hm⟩]

theorem readsBack_int {n : Int} (hlow : -(1 <<< 63) ≤ n) (hhigh : n ≤ maxWord) :
    (Number.int n).ReadsBack := by
  have hwide : 1 <<< 63 ≤ maxWord := by decide
  rw [readsBack_iff, reread?, Literal.at?_int]
  change Literal.number? _ = _
  rw [number?_toDigits _ (by omega)]
  by_cases hn : n < 0
  · rw [if_neg (by simpa using hn), if_pos (by omega), Int.ofNat_natAbs_of_nonpos (Int.le_of_lt hn),
      Int.neg_neg]
  · rw [if_pos (by simpa using hn), Int.natAbs_of_nonneg (by omega)]

/-- An integer that does not fit is read as a float. -/
theorem le_maxWord_of_reread? {n m : Int} (h : (Number.int n).reread? = some (.int m)) :
    n ≤ maxWord := by
  rw [reread?, Literal.at?_int] at h
  change Literal.number? _ = _ at h
  by_contra hn
  unfold Literal.number? at h
  rw [ofDigits_toDigits, if_neg fun hfits => hn (by omega)] at h
  obtain ⟨x, _, hx⟩ := Option.map_eq_some_iff.mp h
  cases hx

end Number

end ObjectQuery.Json
