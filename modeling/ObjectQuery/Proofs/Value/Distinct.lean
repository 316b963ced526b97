import ObjectQuery.Value

/-! Equal values. Floats are equal as the numbers they stand for are: both zeros are one, and what
is not a number equals nothing, itself included. So equality is symmetric and transitive but not
reflexive, which is enough for the members of a list without repetitions to be those that come up
for the first time. -/

namespace ObjectQuery

open Float.Model (UnpackedFloat)

inductive SameNumber : UnpackedFloat → UnpackedFloat → Prop where
  | infinity (s : UnpackedFloat.Sign) : SameNumber (.infinity s) (.infinity s)
  | zero (s t : UnpackedFloat.Sign) : SameNumber (.zero s) (.zero t)
  | finite (s : UnpackedFloat.Sign) (m : Nat) (e : Int) (hm : 0 < m) :
      SameNumber (.finite s m e hm) (.finite s m e hm)

theorem SameNumber.symm {x y : UnpackedFloat} (h : SameNumber x y) : SameNumber y x := by
  cases h with
  | infinity s => exact .infinity s
  | zero s t => exact .zero t s
  | finite s m e hm => exact .finite s m e hm

theorem SameNumber.trans {x y z : UnpackedFloat} (h : SameNumber x y) (h' : SameNumber y z) :
    SameNumber x z := by
  cases h with
  | infinity s => exact h'
  | zero s t =>
    cases h'
    exact .zero ..
  | finite s m e hm => exact h'

theorem sameNumber_iff {x y : UnpackedFloat} : x.beq y = true ↔ SameNumber x y := by
  have hbeq : x.beq y = true ↔ x.compare y = some .eq := beq_iff_eq
  rw [hbeq]
  constructor
  · intro h
    cases x <;> cases y
    case infinity.infinity s t => cases s <;> cases t <;> first | exact .infinity _ | cases h
    case zero.zero s t => exact .zero s t
    case finite.finite s m e hm t n f hn =>
      obtain ⟨rfl, hsame⟩ : s = t ∧ (compare e f).then (compare m n) = .eq := by
        cases s <;> cases t
        case positive.positive => exact ⟨rfl, Option.some.inj h⟩
        case negative.negative => exact ⟨rfl, Ordering.swap_eq_eq.mp (Option.some.inj h)⟩
        all_goals cases h
      obtain ⟨he, hm⟩ := Ordering.then_eq_eq.mp hsame
      obtain rfl := Std.compare_eq_iff_eq.mp he
      obtain rfl := Std.compare_eq_iff_eq.mp hm
      exact .finite ..
    -- Where the kinds differ it is the sign of one that decides.
    case infinity.zero s _ | infinity.finite s _ _ _ _ | finite.zero s _ _ _ _
        | zero.infinity _ s | finite.infinity _ _ _ _ s | zero.finite _ s _ _ _ =>
      cases s <;> cases h
    all_goals cases h
  · intro h
    cases h with
    | infinity s => cases s <;> rfl
    | zero s t => rfl
    | finite s m e hm =>
      have hsame : (compare e e).then (compare m m) = .eq := by
        rw [Std.compare_self, Std.compare_self, Ordering.then_eq]
      cases s with
      | positive => exact congrArg some hsame
      | negative => exact congrArg (fun o => some o.swap) hsame

instance floatPartialEquivBEq : PartialEquivBEq Float where
  symm h := sameNumber_iff.mpr (sameNumber_iff.mp h).symm
  trans h h' := sameNumber_iff.mpr ((sameNumber_iff.mp h).trans (sameNumber_iff.mp h'))

namespace Value

inductive Same : Value → Value → Prop where
  | null : Same .null .null
  | bool (b : Bool) : Same (.bool b) (.bool b)
  | int (n : Int64) : Same (.int n) (.int n)
  | float {x y : Float} (h : x == y) : Same (.float x) (.float y)
  | string (s : String) : Same (.string s) (.string s)

theorem same_iff {x y : Value} : x == y ↔ x.Same y := by
  constructor
  · intro h
    cases x <;> cases y
    case null.null => exact .null
    case bool.bool a b =>
      obtain rfl : a = b := eq_of_beq h
      exact .bool a
    case int.int a b =>
      obtain rfl : a = b := eq_of_beq h
      exact .int a
    case float.float => exact .float h
    case string.string a b =>
      obtain rfl : a = b := eq_of_beq h
      exact .string a
    all_goals cases h
  · intro h
    cases h with
    | null => rfl
    | bool b => exact beq_self_eq_true b
    | int n => exact beq_self_eq_true n
    | float h => exact h
    | string s => exact beq_self_eq_true s

instance partialEquivBEq : PartialEquivBEq Value where
  symm h := by
    rw [same_iff] at h ⊢
    cases h with
    | float h => exact .float (BEq.symm h)
    | _ => constructor
  trans h h' := by
    rw [same_iff] at h h' ⊢
    cases h with
    | float h =>
      cases h' with
      | float h' => exact .float (BEq.trans h h')
    | _ => exact h'

end Value

/-- The values that equal none before them, neither in the list nor among the earlier ones. -/
def newValues (earlier : List Value) : List Value → List Value
  | [] => []
  | v :: rest =>
    if earlier.any (· == v) then newValues (earlier ++ [v]) rest
    else v :: newValues (earlier ++ [v]) rest

section

variable {earlier values : List Value} {v w : Value}

theorem any_beq_append_of_known (hv : earlier.any (· == v) = true) :
    (earlier ++ [v]).any (· == w) = earlier.any (· == w) := by
  rw [List.any_append, List.any_cons, List.any_nil, Bool.or_false]
  cases hvw : v == w with
  | false => exact Bool.or_false _
  | true =>
    obtain ⟨u, hu, huv⟩ := List.any_eq_true.mp hv
    rw [Bool.or_true, eq_comm, List.any_eq_true]
    exact ⟨u, hu, BEq.trans huv hvw⟩

/-- Where nothing is known before, the new values are the list without repetitions. -/
theorem eraseDups_filter_new (earlier values : List Value) :
    (values.filter fun v => !earlier.any (· == v)).eraseDups = newValues earlier values := by
  induction values generalizing earlier with
  | nil => rfl
  | cons v rest ih =>
    rw [newValues, ← ih]
    by_cases hv : earlier.any (· == v) = true
    · rw [if_pos hv, List.filter_cons_of_neg (by simp [hv])]
      simp only [any_beq_append_of_known hv]
    · rw [if_neg hv, List.filter_cons_of_pos (by simp [hv]), List.eraseDups_cons,
        List.filter_filter]
      congr 3
      funext w
      rw [List.any_append, List.any_cons, List.any_nil, Bool.or_false, Bool.not_or, Bool.and_comm,
        BEq.comm]

theorem eraseDups_eq_newValues (values : List Value) :
    values.eraseDups = newValues [] values := by
  have hall : values.filter (fun v => !([] : List Value).any (· == v)) = values :=
    List.filter_eq_self.mpr fun _ _ => rfl
  rw [← eraseDups_filter_new, hall]

theorem newValues_eq_nil_iff : newValues [] values = [] ↔ values = [] := by
  cases values <;> simp [newValues]

end

end ObjectQuery
