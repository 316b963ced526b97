import Mathlib.Data.List.TakeDrop
import Mathlib.Tactic.SplitIfs
import ObjectQuery.Decimal.Notation

/-! What the two notations of a decimal have in common: digits with no needless zero in front, then
a fraction or none, then an exponent or none. -/

namespace ObjectQuery.Decimal

section

variable {b : Binary} {tie : Tie}

theorem stripZeros_pos (fuel : Nat) {digits : Nat} (h : 0 < digits) (e : Int) :
    0 < (stripZeros fuel digits e).1 := by
  induction fuel generalizing digits e with
  | zero => exact h
  | succ fuel ih =>
    rw [stripZeros]
    split
    · exact ih (by omega) (e + 1)
    · exact h

theorem eq_below_or_above {below above multiple : Nat}
    {belowFits aboveFits nearer farther even : Prop} [Decidable belowFits] [Decidable aboveFits]
    [Decidable nearer] [Decidable farther] [Decidable even]
    (h : (if belowFits ∧ aboveFits then
        if nearer then some below
        else if farther then some above
        else if even then some below
        else some above
      else if belowFits then some below
      else if aboveFits then some above
      else none) = some multiple) : belowFits ∧ below = multiple ∨ above = multiple := by
  split_ifs at h with hboth hnearer hfarther heven hbelow habove <;> cases h
  · exact .inl ⟨hboth.1, rfl⟩
  · exact .inr rfl
  · exact .inl ⟨hboth.1, rfl⟩
  · exact .inr rfl
  · exact .inl ⟨hbelow, rfl⟩
  · exact .inr rfl

/-- A multiple that rounds to a positive number is positive. -/
theorem onGrid?_pos (hb : 0 < b.mantissa) {e : Int} {multiple : Nat}
    (h : b.onGrid? tie e = some multiple) : 0 < multiple := by
  have hscale : 0 < Nat.pow 2 b.exponent.toNat * Nat.pow 10 (-e).toNat :=
    Nat.mul_pos (Nat.pow_pos (by decide)) (Nat.pow_pos (by decide))
  have hlow : 0 < (4 * b.mantissa - if b.finerBelow then 1 else 2) *
      (Nat.pow 2 b.exponent.toNat * Nat.pow 10 (-e).toNat) := by
    refine Nat.mul_pos ?_ hscale
    split <;> omega
  rcases eq_below_or_above h with ⟨hfits, rfl⟩ | rfl
  · -- The lower neighbour does not lie below the lower bound.
    refine Nat.pos_of_ne_zero fun hzero => ?_
    rw [hzero, Nat.zero_mul] at hfits
    omega
  · exact Nat.succ_pos _

theorem ofHit_pos (hb : 0 < b.mantissa) {hit? : Option (Nat × Int)}
    (h : ∀ hit ∈ hit?, 0 < hit.1) : 0 < (b.ofHit hit?).1 := by
  cases hit? with
  | none => exact hb
  | some hit =>
    obtain ⟨digits, e⟩ := hit
    rw [Binary.ofHit]
    exact stripZeros_pos 18 (h (digits, e) rfl) e

theorem shortest_pos (hb : 0 < b.mantissa) (tie : Tie) : 0 < (b.shortest tie).1 := by
  rw [Binary.shortest]
  refine ofHit_pos hb fun hit hhit => ?_
  obtain ⟨k, _, hk⟩ := List.exists_of_findSome?_eq_some hhit
  obtain ⟨multiple, hmultiple, rfl⟩ := Option.map_eq_some_iff.mp hk
  exact onGrid?_pos hb hmultiple

theorem mantissa_ofBits_pos {bits : Nat} (hpos : 0 < bits) (hbits : bits < 1 <<< 63) :
    0 < (Binary.ofBits bits).mantissa := by
  have hfield : bits >>> 52 = bits / 4503599627370496 := Nat.shiftRight_eq_div_pow bits 52
  have hfraction : bits % (1 <<< 52) = bits % 4503599627370496 := rfl
  simp only [Binary.ofBits, hfield, hfraction]
  split <;> dsimp only <;> omega

theorem digits_ne_zero {negative : Bool} {found : Nat × Int} (h : 0 < found.1) :
    (Decimal.mk negative found.1 found.2).digits ≠ 0 :=
  Nat.ne_of_gt h

/-- Only a zero has no digit but zero, and it is written without an exponent. -/
theorem exponent_ofBits {bits : Nat} (h : (ofBits tie bits).digits = 0) :
    (ofBits tie bits).exponent = 0 := by
  by_cases hzero : bits % (1 <<< 63) = 0
  · have hbits : ofBits tie bits = ⟨1 <<< 63 ≤ bits, 0, 0⟩ := if_pos hzero
    rw [hbits]
  · have hmagnitude : bits % (1 <<< 63) < 1 <<< 63 := Nat.mod_lt _ (by decide)
    have hdigits := shortest_pos (mantissa_ofBits_pos (Nat.pos_of_ne_zero hzero) hmagnitude) tie
    have hbits : ofBits tie bits = ⟨1 <<< 63 ≤ bits,
        ((Binary.ofBits (bits % (1 <<< 63))).shortest tie).1,
        ((Binary.ofBits (bits % (1 <<< 63))).shortest tie).2⟩ := if_neg hzero
    rw [hbits] at h
    exact absurd h (digits_ne_zero hdigits)

end

section

variable {d : Decimal}

theorem head?_toDigits_ne_zero {m : Nat} (hm : 0 < m) :
    (Nat.toDigits 10 m).head? ≠ some '0' := by
  have hdigit : ∀ d < 10, 0 < d → d.digitChar ≠ '0' := by decide
  induction m using Nat.base_induction 10 (by omega) with
  | single d hd => simpa [Nat.toDigits_of_lt_base hd] using hdigit d hd hm
  | digit m k hk h ih =>
    rw [← Nat.toDigits_append_toDigits (by omega) h hk]
    simpa [List.head?_eq_some_head Nat.toDigits_ne_nil] using ih h

theorem isDigit_text {c : Char} (h : c ∈ d.text) : c.isDigit = true :=
  Nat.isDigit_of_mem_toDigits (by decide) (by decide) h

theorem text_ne_nil : d.text ≠ [] :=
  Nat.toDigits_ne_nil

theorem isDigit_zeros {n : Nat} {c : Char} (h : c ∈ List.replicate n '0') : c.isDigit = true := by
  rw [List.eq_of_mem_replicate h]
  decide

/-- Digits that may stand in front of a point: a zero is followed by no other digit. -/
structure IsWhole (ds : List Char) : Prop where
  ne_nil : ds ≠ []
  isDigit : ∀ c ∈ ds, c.isDigit = true
  zero : ds.head? = some '0' → ds.length = 1

theorem isWhole_singleton {c : Char} (h : c.isDigit = true) : IsWhole [c] :=
  ⟨by simp, by simpa using h, fun _ => rfl⟩

theorem isWhole_toDigits (m : Nat) : IsWhole (Nat.toDigits 10 m) where
  ne_nil := Nat.toDigits_ne_nil
  isDigit _ := Nat.isDigit_of_mem_toDigits (by decide) (by decide)
  zero h := by
    cases m with
    | zero => rfl
    | succ m => exact absurd h (head?_toDigits_ne_zero m.succ_pos)

/-- A point and digits behind it, or neither. -/
inductive IsFraction : List Char → Prop where
  | absent : IsFraction []
  | digits {ds : List Char} (hdigit : ∀ c ∈ ds, c.isDigit = true) (hne : ds ≠ []) :
    IsFraction ('.' :: ds)

/-- The mark of an exponent, its sign and its digits, or none of them. -/
inductive IsExponent : List Char → Prop where
  | absent : IsExponent []
  | digits {sign : Char} (hsign : sign = '-' ∨ sign = '+') {ds : List Char}
    (hdigit : ∀ c ∈ ds, c.isDigit = true) (hne : ds ≠ []) : IsExponent ('e' :: sign :: ds)

/-- A number without its sign. -/
inductive IsNumeral : List Char → Prop where
  | mk {whole fraction exponent : List Char} (hwhole : IsWhole whole)
    (hfraction : IsFraction fraction) (hexponent : IsExponent exponent) :
    IsNumeral (whole ++ (fraction ++ exponent))

/-- The digits of the number with zeros in front of them, so that there is one more than stand
behind the point. -/
def padded (d : Decimal) : List Char :=
  let whole := d.text ++ List.replicate d.exponent.toNat '0'
  List.replicate ((-d.exponent).toNat + 1 - whole.length) '0' ++ whole

theorem isDigit_padded {c : Char} (h : c ∈ d.padded) : c.isDigit = true := by
  rcases List.mem_append.mp h with h | h
  · exact isDigit_zeros h
  · exact (List.mem_append.mp h).elim isDigit_text isDigit_zeros

theorem lt_length_padded : (-d.exponent).toNat < d.padded.length := by
  simp only [padded, List.length_append, List.length_replicate]
  omega

/-- Only as many zeros are put in front as the point needs. -/
theorem length_padded (hd : d.digits = 0 → d.exponent ≤ 0) (h : d.padded.head? = some '0') :
    d.padded.length = (-d.exponent).toNat + 1 := by
  by_cases hlong : (d.text ++ List.replicate d.exponent.toNat '0').length ≤
      (-d.exponent).toNat + 1
  · simp only [padded, List.length_append, List.length_replicate] at hlong ⊢
    omega
  · have hpadded : d.padded = d.text ++ List.replicate d.exponent.toNat '0' := by
      rw [padded, Nat.sub_eq_zero_of_le (by omega)]
      rfl
    have hhead : d.text.head? = some '0' := by
      rw [List.head?_eq_some_head text_ne_nil]
      rwa [hpadded, List.head?_append, List.head?_eq_some_head text_ne_nil] at h
    have hzero : d.digits = 0 := by
      by_contra hne
      exact head?_toDigits_ne_zero (Nat.pos_of_ne_zero hne) hhead
    have htext : d.text = ['0'] := by
      rw [text, hzero]
      rfl
    have hexponent := hd hzero
    rw [htext, Int.toNat_of_nonpos hexponent] at hlong
    simp at hlong

/-- No needless zero stands in front, and there is a digit behind the point. -/
theorem exists_positional (hd : d.digits = 0 → d.exponent ≤ 0) :
    ∃ body, d.positional 1 = d.signed body ∧ IsNumeral body := by
  let front := d.padded.take (d.padded.length - (-d.exponent).toNat)
  let behind := d.padded.drop (d.padded.length - (-d.exponent).toNat)
  let fraction := behind ++ List.replicate (1 - behind.length) '0'
  have hlength := d.lt_length_padded
  have hfront : front.length = d.padded.length - (-d.exponent).toNat := by
    rw [List.length_take]
    omega
  have hwhole : IsWhole front := by
    refine ⟨List.ne_nil_of_length_pos (by omega), ?_, ?_⟩
    · exact fun c hc => isDigit_padded (List.mem_of_mem_take hc)
    · intro hzero
      rw [List.head?_take, if_neg (by omega)] at hzero
      rw [hfront, length_padded hd hzero]
      omega
  have hne : fraction ≠ [] := by
    intro h
    have hnil := congrArg List.length h
    simp only [fraction, List.length_append, List.length_replicate, List.length_nil] at hnil
    omega
  have hdigits : ∀ c ∈ fraction, c.isDigit = true := by
    intro c hc
    rcases List.mem_append.mp hc with hc | hc
    · exact isDigit_padded (List.mem_of_mem_drop hc)
    · exact isDigit_zeros hc
  have hpositional : d.positional 1 =
      d.signed (if fraction.isEmpty then front else front ++ '.' :: fraction) := rfl
  refine ⟨front ++ ('.' :: fraction ++ []), ?_, .mk hwhole (.digits hdigits hne) .absent⟩
  rw [hpositional, if_neg (by simpa using hne), List.append_nil]

theorem exists_scientific (d : Decimal) :
    ∃ body, d.scientific = d.signed body ∧ IsNumeral body := by
  have hexponent : IsExponent ('e' :: (if d.leading < 0 then '-' else '+') ::
      Nat.toDigits 10 d.leading.natAbs) := by
    refine .digits ?_ (isWhole_toDigits _).isDigit Nat.toDigits_ne_nil
    split
    · exact .inl rfl
    · exact .inr rfl
  have hdigits : ∀ c ∈ d.text, c.isDigit = true := fun c hc => isDigit_text hc
  unfold scientific
  cases htext : d.text with
  | nil => exact absurd htext text_ne_nil
  | cons first tail =>
    rw [htext] at hdigits
    obtain ⟨hfirst, htail⟩ := List.forall_mem_cons.mp hdigits
    cases tail with
    | nil => exact ⟨_, rfl, .mk (isWhole_singleton hfirst) .absent hexponent⟩
    | cons second rest =>
      exact ⟨_, rfl, .mk (isWhole_singleton hfirst) (.digits htail (by simp)) hexponent⟩

end

end ObjectQuery.Decimal
