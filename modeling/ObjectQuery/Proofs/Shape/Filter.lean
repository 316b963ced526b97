import Mathlib.Data.List.Basic
import ObjectQuery.Proofs.Filter.Run
import ObjectQuery.Restriction.Gap

/-! The shape of a filter is what is left of it without its values. Filters of one shape compile to
one condition, or fail with one error, and bind arguments of the same kinds to the same names. -/

namespace ObjectQuery

namespace Bindings

/-- The names with the kinds of their arguments. -/
def kinds (b : Bindings) : List (String × Bool) :=
  b.entries.map fun entry => (entry.1, entry.2.isList)

theorem names_eq_map_kinds (b : Bindings) : b.names = b.kinds.map Prod.fst := by
  rw [kinds, List.map_map]
  rfl

theorem lookup_kinds (b : Bindings) (name : String) :
    b.kinds.lookup name = (b.find? name).map Argument.isList := by
  rw [kinds, find?]
  induction b.entries with
  | nil => rfl
  | cons entry rest ih =>
    rw [List.map_cons, List.lookup_cons, List.lookup_cons]
    split
    · rfl
    · exact ih

theorem freshIndex_eq_of_kinds {b c : Bindings} (h : b.kinds = c.kinds) (base : String) :
    b.freshIndex base = c.freshIndex base := by
  rw [freshIndex, freshIndex, names_eq_map_kinds, names_eq_map_kinds, h]

variable {b c : Bindings}

theorem bind_name_eq (h : b.kinds = c.kinds) (base : String) (a d : Argument) :
    (b.bind base a).1 = (c.bind base d).1 := by
  rw [bind, bind, freshIndex_eq_of_kinds h]

theorem kinds_bind (b : Bindings) (base : String) (a : Argument) :
    (b.bind base a).2.kinds = b.kinds ++ [((b.bind base a).1, a.isList)] := by
  simp only [bind, kinds, List.map_append, List.map_cons, List.map_nil]

theorem kinds_bind_eq (h : b.kinds = c.kinds) (base : String) {a d : Argument}
    (ha : a.isList = d.isList) : (b.bind base a).2.kinds = (c.bind base d).2.kinds := by
  rw [kinds_bind, kinds_bind, h, bind_name_eq h base a d, ha]

end Bindings

/-- Two runs that fail alike, or give the same result and bindings of the same kinds. -/
inductive Agree {ε α : Type} : Except ε (α × Bindings) → Except ε (α × Bindings) → Prop where
  | error (e : ε) : Agree (.error e) (.error e)
  | ok (x : α) {b c : Bindings} (h : b.kinds = c.kinds) : Agree (.ok (x, b)) (.ok (x, c))

theorem Agree.bind {ε α β : Type} {x y : Except ε (α × Bindings)}
    {f g : α × Bindings → Except ε (β × Bindings)} (h : Agree x y)
    (hf : ∀ a b c, Bindings.kinds b = Bindings.kinds c → Agree (f (a, b)) (g (a, c))) :
    Agree (x >>= f) (y >>= g) := by
  cases h with
  | error e => exact .error e
  | ok a hk => exact hf a _ _ hk

theorem Agree.bound {ε α : Type} {b c : Bindings} (h : b.kinds = c.kinds) (base : String)
    (a d : Argument) (ha : a.isList = d.isList) (f : String → α) :
    Agree (.ok (f (b.bind base a).1, (b.bind base a).2) : Except ε (α × Bindings))
      (.ok (f (c.bind base d).1, (c.bind base d).2)) := by
  rw [Bindings.bind_name_eq h base a d]
  exact .ok _ (Bindings.kinds_bind_eq h base ha)

theorem Agree.mapError {ε ε' α : Type} {x y : Except ε (α × Bindings)} (h : Agree x y)
    (f : ε → ε') : Agree (x.mapError f) (y.mapError f) := by
  cases h with
  | error e => exact .error (f e)
  | ok a hk => exact .ok a hk

/-- The values of a leaf agree as far as its operator looks at them: whether there are any, whether
there are two, or whether there is one and whether it is null. -/
def Operator.SameArity : Operator → List Value → List Value → Prop
  | .in, vs, ws | .notIn, vs, ws => vs = [] ↔ ws = []
  | .between, vs, ws => vs.length = 2 ↔ ws.length = 2
  | _, vs, ws => (vs.length = 1 ↔ ws.length = 1) ∧
      ∀ v w, vs = [v] → ws = [w] → v.isNull = w.isNull

namespace Restriction

mutual

/-- Filters that differ in the values of their leaves alone. -/
inductive SameShape : Restriction → Restriction → Prop where
  | simple (path : String) {operator : Operator} {vs ws : List Value}
      (h : operator.SameArity vs ws) :
      SameShape (.simple path operator vs) (.simple path operator ws)
  | and {rs ts : List (Option Restriction)} (h : SameShapes rs ts) :
      SameShape (.and rs) (.and ts)
  | or {rs ts : List (Option Restriction)} (h : SameShapes rs ts) :
      SameShape (.or rs) (.or ts)
  | not {r t : Restriction} (h : SameShape r t) : SameShape (.not r) (.not t)
  | arbitrary (text : String) : SameShape (.arbitrary text) (.arbitrary text)

inductive SameShapes : List (Option Restriction) → List (Option Restriction) → Prop where
  | nil : SameShapes [] []
  | gap {rs ts : List (Option Restriction)} (h : SameShapes rs ts) :
      SameShapes (none :: rs) (none :: ts)
  | child {r t : Restriction} {rs ts : List (Option Restriction)} (h : SameShape r t)
      (h' : SameShapes rs ts) : SameShapes (some r :: rs) (some t :: ts)

end

mutual

theorem SameShape.paths_eq : ∀ {r t : Restriction}, SameShape r t → r.paths = t.paths
  | _, _, .simple path _ => by rw [paths, paths]
  | _, _, .and h => by rw [paths, paths, h.childPaths_eq]
  | _, _, .or h => by rw [paths, paths, h.childPaths_eq]
  | _, _, .not h => by rw [paths, paths, h.paths_eq]
  | _, _, .arbitrary _ => rfl

theorem SameShapes.childPaths_eq : ∀ {rs ts : List (Option Restriction)},
    SameShapes rs ts → childPaths rs = childPaths ts
  | _, _, .nil => rfl
  | _, _, .gap h => by rw [childPaths, childPaths, h.childPaths_eq]
  | _, _, .child h h' => by rw [childPaths, childPaths, h.paths_eq, h'.childPaths_eq]

end

mutual

theorem SameShape.gaps_eq : ∀ {r t : Restriction}, SameShape r t → r.gaps = t.gaps
  | _, _, .simple _ _ => by rw [gaps, gaps]
  | _, _, .and h => by rw [gaps, gaps, h.childGaps_eq]
  | _, _, .or h => by rw [gaps, gaps, h.childGaps_eq]
  | _, _, .not h => by rw [gaps, gaps, h.gaps_eq]
  | _, _, .arbitrary _ => rfl

theorem SameShapes.childGaps_eq : ∀ {rs ts : List (Option Restriction)}, SameShapes rs ts →
    ∀ (step : Nat → Step) (index : Nat), childGaps step index rs = childGaps step index ts
  | _, _, .nil, _, _ => rfl
  | _, _, .gap h, _, _ => by rw [childGaps, childGaps, h.childGaps_eq]
  | _, _, .child h h', _, _ => by rw [childGaps, childGaps, h.gaps_eq, h'.childGaps_eq]

end

end Restriction

theorem Operator.pattern?_isSome_eq (operator : Operator) (s t : String) :
    (operator.pattern? s).isSome = (operator.pattern? t).isSome := by
  cases operator <;> rfl

section

variable (target : Expr) (base : String) {operator : Operator} {vs ws : List Value} {b c : Bindings}

theorem scalarCondition_agree (operator : Operator) {v w : Value} (hv : v.isNull = w.isNull)
    (hb : b.kinds = c.kinds) (fault : ValueFault) :
    Agree ((scalarCondition target base operator v b).elim (.error fault) .ok)
      ((scalarCondition target base operator w c).elim (.error fault) .ok) := by
  unfold scalarCondition
  by_cases hn : v.isNull = true
  · rw [if_pos hn, if_pos (hv ▸ hn)]
    cases operator
    case equals => exact .ok _ hb
    case notEquals => exact .ok _ hb
    all_goals exact .error fault
  · rw [if_neg hn, if_neg (hv ▸ hn)]
    have hp := operator.pattern?_isSome_eq v.patternText w.patternText
    cases operator.comparison? with
    | some op =>
      exact .bound hb base (.scalar v) (.scalar w) rfl fun name =>
        Expr.compare op target (.param name)
    | none =>
      generalize operator.pattern? v.patternText = o, operator.pattern? w.patternText = o' at hp
      match o, o', hp with
      | none, none, _ => exact .error fault
      | some pattern, some pattern', _ =>
        exact .bound hb base (.scalar (.string pattern)) (.scalar (.string pattern')) rfl
          fun name => Expr.like target (.param name)

theorem listCondition_agree (ho : operator = .in ∨ operator = .notIn) (hv : vs = [] ↔ ws = [])
    (hb : b.kinds = c.kinds) :
    Agree (valueCondition target base operator vs b)
      (valueCondition target base operator ws c) := by
  unfold valueCondition
  rw [if_pos ho, if_pos ho]
  by_cases hvs : vs = []
  · rw [hv.mp hvs, hvs]
    exact .error _
  · have hws : ws ≠ [] := mt hv.mpr hvs
    rw [if_neg (by simpa using hvs), if_neg (by simpa using hws)]
    exact .bound hb base (.list vs) (.list ws) rfl fun name =>
      Expr.in (operator = .notIn) target name

theorem rangeCondition_agree (hv : vs.length = 2 ↔ ws.length = 2) (hb : b.kinds = c.kinds) :
    Agree (valueCondition target base .between vs b)
      (valueCondition target base .between ws c) := by
  have hin : ¬ (Operator.between = .in ∨ Operator.between = .notIn) := by decide
  unfold valueCondition
  rw [if_neg hin, if_neg hin, if_pos rfl, if_pos rfl]
  by_cases hl : vs.length = 2
  · obtain ⟨low, high, rfl⟩ := List.length_eq_two.mp hl
    obtain ⟨low', high', rfl⟩ := List.length_eq_two.mp (hv.mp hl)
    have hk : (b.bind base (.scalar low)).2.kinds = (c.bind base (.scalar low')).2.kinds :=
      Bindings.kinds_bind_eq hb base rfl
    dsimp only
    rw [Bindings.bind_name_eq hb base (.scalar low) (.scalar low')]
    exact .bound hk base (.scalar high) (.scalar high') rfl fun name =>
      Expr.between target (.param (c.bind base (.scalar low')).1) (.param name)
  · have hl' : ws.length ≠ 2 := mt hv.mpr hl
    split
    · exact absurd rfl hl
    · split
      · exact absurd rfl hl'
      · exact .error _

theorem singleCondition_agree (hin : ¬ (operator = .in ∨ operator = .notIn))
    (hbetween : operator ≠ .between) (hv : vs.length = 1 ↔ ws.length = 1)
    (hn : ∀ v w, vs = [v] → ws = [w] → v.isNull = w.isNull) (hb : b.kinds = c.kinds) :
    Agree (valueCondition target base operator vs b)
      (valueCondition target base operator ws c) := by
  unfold valueCondition
  rw [if_neg hin, if_neg hin, if_neg hbetween, if_neg hbetween]
  by_cases hl : vs.length = 1
  · obtain ⟨v, rfl⟩ := List.length_eq_one_iff.mp hl
    obtain ⟨w, rfl⟩ := List.length_eq_one_iff.mp (hv.mp hl)
    have h := scalarCondition_agree target base operator (hn v w rfl rfl) hb .comparedWithNull
    dsimp only
    cases hs : scalarCondition target base operator v b <;>
      cases hs' : scalarCondition target base operator w c <;>
      simpa only [hs, hs', Option.elim] using h
  · have hl' : ws.length ≠ 1 := mt hv.mpr hl
    split
    · exact absurd rfl hl
    · split
      · exact absurd rfl hl'
      · exact .error _

theorem valueCondition_agree (hv : operator.SameArity vs ws) (hb : b.kinds = c.kinds) :
    Agree (valueCondition target base operator vs b)
      (valueCondition target base operator ws c) := by
  by_cases hin : operator = .in ∨ operator = .notIn
  · have he : vs = [] ↔ ws = [] := by rcases hin with rfl | rfl <;> exact hv
    exact listCondition_agree target base hin he hb
  · by_cases hbetween : operator = .between
    · subst hbetween
      exact rangeCondition_agree target base hv hb
    · have hone : (vs.length = 1 ↔ ws.length = 1) ∧
          ∀ v w, vs = [v] → ws = [w] → v.isNull = w.isNull := by
        cases operator <;> first | exact hv | simp at hin hbetween
      exact singleCondition_agree target base hin hbetween hone.1 hone.2 hb

end

theorem simpleCondition_agree {resolver : Resolver} {path : String} {operator : Operator}
    {vs ws : List Value} {b c : Bindings} (hv : operator.SameArity vs ws)
    (hb : b.kinds = c.kinds) :
    Agree (simpleCondition resolver path operator vs b)
      (simpleCondition resolver path operator ws c) := by
  rw [simpleCondition_eq, simpleCondition_eq]
  exact (valueCondition_agree _ _ hv hb).mapError _

mutual

theorem filterCondition_agree (resolver : Resolver) : ∀ {r t : Restriction} {b c : Bindings},
    r.SameShape t → b.kinds = c.kinds →
      Agree (filterCondition resolver r b) (filterCondition resolver t c)
  | _, _, b, c, .simple path hv, hb => by
    rw [filterCondition_simple, filterCondition_simple]
    exact (simpleCondition_agree hv hb).bind fun e _ _ hk => .ok (some e) hk
  | _, _, b, c, .and h, hb => by
    rw [filterCondition_and, filterCondition_and]
    exact (operandConditions_agree resolver h hb).bind fun es _ _ hk => .ok (combine .and es) hk
  | _, _, b, c, .or h, hb => by
    rw [filterCondition_or, filterCondition_or]
    exact (operandConditions_agree resolver h hb).bind fun es _ _ hk => .ok (combine .or es) hk
  | _, _, b, c, .not h, hb => by
    rw [filterCondition_not, filterCondition_not]
    exact (filterCondition_agree resolver h hb).bind fun _ _ _ hk => .ok _ hk
  | _, _, b, c, .arbitrary text, hb => by
    rw [filterCondition, filterCondition]
    exact .ok _ hb

theorem operandConditions_agree (resolver : Resolver) :
    ∀ {rs ts : List (Option Restriction)} {b c : Bindings}, Restriction.SameShapes rs ts →
      b.kinds = c.kinds →
      Agree (operandConditions resolver rs b) (operandConditions resolver ts c)
  | _, _, b, c, .nil, hb => .ok [] hb
  | _, _, b, c, .gap h, hb => by
    rw [operandConditions, operandConditions]
    exact operandConditions_agree resolver h hb
  | _, _, b, c, .child h h', hb => by
    rw [operandConditions_child, operandConditions_child]
    exact (filterCondition_agree resolver h hb).bind fun operand _ _ hk =>
      (operandConditions_agree resolver h' hk).bind fun operands _ _ hk' =>
        .ok (operand.toList ++ operands) hk'

end

end ObjectQuery
