import ObjectQuery.Clause.Filter

/-! What compiling a filter does when it succeeds: the condition of each simple restriction with
the arguments it binds, and the induction over the tree that every law of conditions goes by. -/

namespace ObjectQuery

section

variable (resolver : Resolver) (b : Bindings)

theorem simpleCondition_eq (path : String) (operator : Operator) (values : List Value) :
    simpleCondition resolver path operator values b =
      (valueCondition (resolver.resolve path).expr
        (parameterBase (resolver.resolve path).qualified) operator values b).mapError
        (.invalidRestriction path operator) := by
  simp only [simpleCondition]
  split
  · rename_i hr
    rw [hr]
    rfl
  · rename_i hr
    rw [hr]
    rfl

theorem filterCondition_simple (path : String) (operator : Operator) (values : List Value) :
    filterCondition resolver (.simple path operator values) b = do
      let (e, b) ← simpleCondition resolver path operator values b
      return (some e, b) := by
  rw [filterCondition]
  cases simpleCondition resolver path operator values b <;> rfl

theorem filterCondition_and (children : List (Option Restriction)) :
    filterCondition resolver (.and children) b = do
      let (operands, b) ← operandConditions resolver children b
      return (combine .and operands, b) := by
  rw [filterCondition]
  cases operandConditions resolver children b <;> rfl

theorem filterCondition_or (children : List (Option Restriction)) :
    filterCondition resolver (.or children) b = do
      let (operands, b) ← operandConditions resolver children b
      return (combine .or operands, b) := by
  rw [filterCondition]
  cases operandConditions resolver children b <;> rfl

theorem filterCondition_not (child : Restriction) :
    filterCondition resolver (.not child) b = do
      let (inner, b) ← filterCondition resolver child b
      return (inner.map fun e => .not e.parenthesized, b) := by
  rw [filterCondition]
  cases filterCondition resolver child b <;> rfl

theorem operandConditions_child (child : Restriction) (rest : List (Option Restriction)) :
    operandConditions resolver (some child :: rest) b = do
      let (operand, b) ← filterCondition resolver child b
      let (operands, b) ← operandConditions resolver rest b
      return (operand.toList ++ operands, b) := by
  rw [operandConditions]
  cases filterCondition resolver child b with
  | error e => rfl
  | ok r =>
    obtain ⟨operand, b₁⟩ := r
    change _ = do
      let (operands, b) ← operandConditions resolver rest b₁
      return (operand.toList ++ operands, b)
    cases h : operandConditions resolver rest b₁ with
    | error e => simp only [h]; rfl
    | ok r => simp only [h]; rfl

end

/-- The conditions on an attribute, each with the operator and the values it comes from and with
the bindings behind it. -/
inductive ValueCondition (target : Expr) (base : String) (b : Bindings) :
    Operator → List Value → Expr → Bindings → Prop where
  | isIn {values : List Value} (hv : values ≠ []) :
      ValueCondition target base b .in values
        (.in false target (b.bind base (.list values)).1) (b.bind base (.list values)).2
  | notIn {values : List Value} (hv : values ≠ []) :
      ValueCondition target base b .notIn values
        (.in true target (b.bind base (.list values)).1) (b.bind base (.list values)).2
  | between (low high : Value) :
      ValueCondition target base b .between [low, high]
        (.between target (.param (b.bind base (.scalar low)).1)
          (.param ((b.bind base (.scalar low)).2.bind base (.scalar high)).1))
        ((b.bind base (.scalar low)).2.bind base (.scalar high)).2
  | isNull :
      ValueCondition target base b .equals [.null] (.isNull false target) b
  | isNotNull :
      ValueCondition target base b .notEquals [.null] (.isNull true target) b
  | compare {operator : Operator} {op : Comparison} {v : Value} (hv : v.isNull = false)
      (ho : operator.comparison? = some op) :
      ValueCondition target base b operator [v]
        (.compare op target (.param (b.bind base (.scalar v)).1)) (b.bind base (.scalar v)).2
  | like {operator : Operator} {v : Value} {pattern : String} (hv : v.isNull = false)
      (ho : operator.pattern? v.patternText = some pattern) :
      ValueCondition target base b operator [v]
        (.like target (.param (b.bind base (.scalar (.string pattern))).1))
        (b.bind base (.scalar (.string pattern))).2

theorem Value.eq_null_of_isNull {v : Value} (h : v.isNull = true) : v = .null := by
  cases v <;> simp_all [Value.isNull]

theorem ValueCondition.of_scalarCondition {target e : Expr} {base : String} {operator : Operator}
    {v : Value} {b b' : Bindings}
    (h : scalarCondition target base operator v b = some (e, b')) :
    ValueCondition target base b operator [v] e b' := by
  unfold scalarCondition at h
  split at h
  · rename_i hv
    obtain rfl := Value.eq_null_of_isNull hv
    split at h
    · cases h; exact .isNull
    · cases h; exact .isNotNull
    · cases h
  · rename_i hv
    have hv : v.isNull = false := by simpa using hv
    split at h
    · rename_i ho
      cases h; exact .compare hv ho
    · rename_i ho
      cases h; exact .like hv ho
    · cases h

theorem ValueCondition.of_valueCondition {target e : Expr} {base : String} {operator : Operator}
    {values : List Value} {b b' : Bindings}
    (h : valueCondition target base operator values b = .ok (e, b')) :
    ValueCondition target base b operator values e b' := by
  unfold valueCondition at h
  split at h
  · rename_i ho
    split at h
    · cases h
    · rename_i hv
      have hv : values ≠ [] := by simpa using hv
      cases h
      rcases ho with rfl | rfl
      · exact .isIn hv
      · exact .notIn hv
  · split at h
    · rename_i ho
      subst ho
      split at h
      · cases h; exact .between _ _
      · cases h
    · split at h
      · split at h
        · rename_i hs
          cases h; exact .of_scalarCondition hs
        · cases h
      · cases h

theorem ValueCondition.of_simpleCondition {resolver : Resolver} {path : String}
    {operator : Operator} {values : List Value} {b b' : Bindings} {e : Expr}
    (h : simpleCondition resolver path operator values b = .ok (e, b')) :
    ValueCondition (resolver.resolve path).expr
      (parameterBase (resolver.resolve path).qualified) b operator values e b' := by
  simp only [simpleCondition] at h
  split at h
  · rename_i hr
    cases h; exact .of_valueCondition hr
  · cases h

/-- A law of the conditions of restrictions and of operands: it holds of the leaves, and every
node keeps it. -/
structure FilterLaw (resolver : Resolver)
    (P : Restriction → Bindings → Option Expr → Bindings → Prop)
    (Q : List (Option Restriction) → Bindings → List Expr → Bindings → Prop) : Prop where
  simple : ∀ {path operator values b e b'},
    ValueCondition (resolver.resolve path).expr
      (parameterBase (resolver.resolve path).qualified) b operator values e b' →
    P (.simple path operator values) b (some e) b'
  and : ∀ {children b operands b'}, Q children b operands b' →
    P (.and children) b (combine .and operands) b'
  or : ∀ {children b operands b'}, Q children b operands b' →
    P (.or children) b (combine .or operands) b'
  not : ∀ {child b inner b'}, P child b inner b' →
    P (.not child) b (inner.map fun e => .not e.parenthesized) b'
  arbitrary : ∀ {text b}, P (.arbitrary text) b (some (.paren (.raw text))) b
  nil : ∀ {b}, Q [] b [] b
  gap : ∀ {rest b operands b'}, Q rest b operands b' → Q (none :: rest) b operands b'
  child : ∀ {child rest b operand b₁ operands b₂},
    filterCondition resolver child b = .ok (operand, b₁) →
    operandConditions resolver rest b₁ = .ok (operands, b₂) →
    P child b operand b₁ → Q rest b₁ operands b₂ →
    Q (some child :: rest) b (operand.toList ++ operands) b₂

namespace FilterLaw

variable {resolver : Resolver}
  {P : Restriction → Bindings → Option Expr → Bindings → Prop}
  {Q : List (Option Restriction) → Bindings → List Expr → Bindings → Prop}

mutual

theorem filter (law : FilterLaw resolver P Q) : ∀ {r : Restriction} {b b' : Bindings}
    {o : Option Expr}, filterCondition resolver r b = .ok (o, b') → P r b o b'
  | .simple path operator values, b, b', o, h => by
    rw [filterCondition] at h
    split at h
    · rename_i hs
      cases h; exact law.simple (.of_simpleCondition hs)
    · cases h
  | .and children, b, b', o, h => by
    rw [filterCondition] at h
    split at h
    · rename_i hs
      cases h; exact law.and (law.operands hs)
    · cases h
  | .or children, b, b', o, h => by
    rw [filterCondition] at h
    split at h
    · rename_i hs
      cases h; exact law.or (law.operands hs)
    · cases h
  | .not child, b, b', o, h => by
    rw [filterCondition] at h
    split at h
    · rename_i hs
      cases h; exact law.not (law.filter hs)
    · cases h
  | .arbitrary text, b, b', o, h => by
    rw [filterCondition] at h
    cases h; exact law.arbitrary

theorem operands (law : FilterLaw resolver P Q) : ∀ {children : List (Option Restriction)}
    {b b' : Bindings} {es : List Expr},
    operandConditions resolver children b = .ok (es, b') → Q children b es b'
  | [], b, b', es, h => by
    rw [operandConditions] at h
    cases h; exact law.nil
  | none :: rest, b, b', es, h => by
    rw [operandConditions] at h
    exact law.gap (law.operands h)
  | some child :: rest, b, b', es, h => by
    rw [operandConditions] at h
    split at h
    · cases h
    · rename_i hs
      split at h
      · cases h
      · rename_i hrest
        cases h; exact law.child hs hrest (law.filter hs) (law.operands hrest)

end

end FilterLaw

end ObjectQuery
