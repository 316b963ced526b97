import ObjectQuery.Proofs.Grammar.Reader

/-! Conditions as they are written. `NOT` binds tighter than `AND`, and `AND` tighter than `OR`; the
first `AND` behind a `BETWEEN` belongs to it. -/

namespace ObjectQuery.Grammar

open Token (separated spaced listSeparator)

/-- From the tightest to the loosest. -/
inductive Level where
  | operand
  | relation
  | negation
  | conjunction
  | disjunction

/-- The expressions that stand at a level without parentheses around them. -/
inductive Phrase : Level → Expr → Prop
  | column (owner field : String) : Phrase .operand (.column owner field)
  | star : Phrase .operand .star
  | int (n : Int) : Phrase .operand (.int n)
  | str (s : String) : Phrase .operand (.str s)
  | param (name : String) : Phrase .operand (.param name)
  | raw (text : String) : Phrase .operand (.raw text)
  | call (name : String) (distinct : Bool) {args : List Expr} (hne : args ≠ [])
      (h : ∀ e ∈ args, Phrase .disjunction e) : Phrase .operand (.call name distinct args)
  | paren {e : Expr} (h : Phrase .disjunction e) : Phrase .operand (.paren e)
  | ofOperand {e : Expr} (h : Phrase .operand e) : Phrase .relation e
  | compare (op : Comparison) {left right : Expr} (hl : Phrase .operand left)
      (hr : Phrase .operand right) : Phrase .relation (.compare op left right)
  | like {e pattern : Expr} (h : Phrase .operand e) (hp : Phrase .operand pattern) :
      Phrase .relation (.like e pattern)
  | in (negated : Bool) {e : Expr} (h : Phrase .operand e) (name : String) :
      Phrase .relation (.in negated e name)
  | between {e low high : Expr} (h : Phrase .operand e) (hl : Phrase .operand low)
      (hh : Phrase .operand high) : Phrase .relation (.between e low high)
  | isNull (negated : Bool) {e : Expr} (h : Phrase .operand e) :
      Phrase .relation (.isNull negated e)
  | ofRelation {e : Expr} (h : Phrase .relation e) : Phrase .negation e
  | not {e : Expr} (h : Phrase .negation e) : Phrase .negation (.not e)
  | ofNegation {e : Expr} (h : Phrase .negation e) : Phrase .conjunction e
  | and {operands : List Expr} (hl : 2 ≤ operands.length)
      (h : ∀ e ∈ operands, Phrase .negation e) : Phrase .conjunction (.and operands)
  | ofConjunction {e : Expr} (h : Phrase .conjunction e) : Phrase .disjunction e
  | or {operands : List Expr} (hl : 2 ≤ operands.length)
      (h : ∀ e ∈ operands, Phrase .conjunction e) : Phrase .disjunction (.or operands)

theorem Phrase.of_operand {e : Expr} (h : Phrase .operand e) : Phrase .disjunction e :=
  .ofConjunction (.ofNegation (.ofRelation (.ofOperand h)))

/-- One operand stands alone, several are connected. -/
def join (connective : List Expr → Expr) : List Expr → Expr
  | [e] => e
  | operands => connective operands

theorem join_of_two_le (connective : List Expr → Expr) {operands : List Expr}
    (h : 2 ≤ operands.length) : join connective operands = connective operands := by
  match operands with
  | [] | [_] => simp at h
  | _ :: _ :: _ => rfl

theorem tokens_join {connective : List Expr → Expr} {separator : List Token}
    (h : ∀ es, (connective es).tokens = separated separator (Expr.phrases es))
    (operands : List Expr) :
    (join connective operands).tokens = separated separator (operands.map Expr.tokens) := by
  rw [← Expr.phrases_eq_map]
  match operands with
  | [] => exact h []
  | [e] => exact (separated_singleton separator e.tokens).symm
  | first :: second :: rest => exact h _

theorem exists_join_iff {P : Expr → Prop} {connective : List Expr → Expr} {e : Expr} :
    (∃ operands, (operands ≠ [] ∧ ∀ o ∈ operands, P o) ∧ e = join connective operands) ↔
      P e ∨ ∃ operands, 2 ≤ operands.length ∧ (∀ o ∈ operands, P o) ∧ e = connective operands := by
  constructor
  · rintro ⟨operands, ⟨hne, h⟩, rfl⟩
    match operands with
    | [e] => exact .inl (h e (by simp))
    | first :: second :: rest => exact .inr ⟨first :: second :: rest, by simp, h, rfl⟩
  · rintro (h | ⟨operands, hl, h, rfl⟩)
    · exact ⟨[e], by simpa using h, rfl⟩
    · exact ⟨operands, ⟨List.ne_nil_of_length_pos (by omega), h⟩, (join_of_two_le _ hl).symm⟩

theorem phrase_conjunction_iff {e : Expr} : Phrase .conjunction e ↔
    ∃ operands, (operands ≠ [] ∧ ∀ o ∈ operands, Phrase .negation o) ∧
      e = join .and operands := by
  rw [exists_join_iff]
  constructor
  · intro h
    cases h with
    | ofNegation h => exact .inl h
    | and hl h => exact .inr ⟨_, hl, h, rfl⟩
  · rintro (h | ⟨operands, hl, h, rfl⟩)
    · exact .ofNegation h
    · exact .and hl h

theorem phrase_disjunction_iff {e : Expr} : Phrase .disjunction e ↔
    ∃ operands, (operands ≠ [] ∧ ∀ o ∈ operands, Phrase .conjunction o) ∧
      e = join .or operands := by
  rw [exists_join_iff]
  constructor
  · intro h
    cases h with
    | ofConjunction h => exact .inl h
    | or hl h => exact .inr ⟨_, hl, h, rfl⟩
  · rintro (h | ⟨operands, hl, h, rfl⟩)
    · exact .ofConjunction h
    · exact .or hl h

theorem head?_separated_cons (separator phrase : List Token) (rest : List (List Token))
    {t : Token} (h : phrase.head? = some t) :
    (separated separator (phrase :: rest)).head? = some t := by
  cases rest with
  | nil => rw [separated_singleton, h]
  | cons next rest => simp [separated_cons_cons, h]

/-- The first token of a phrase tells it from a `DISTINCT`, and that of a relation from a `NOT`. -/
theorem Phrase.head?_tokens {l : Level} {e : Expr} (h : Phrase l e) :
    ∃ t, e.tokens.head? = some t ∧ t ≠ .distinct ∧ (l = .operand ∨ l = .relation → t ≠ .not) := by
  induction h with
  | column | star | int | str | param | raw | call | paren =>
    exact ⟨_, rfl, nofun, fun _ => nofun⟩
  | not => exact ⟨_, rfl, nofun, nofun⟩
  | ofOperand _ ih | compare _ _ _ ih | like _ _ ih | «in» _ _ _ ih | between _ _ _ ih
  | isNull _ _ ih =>
    obtain ⟨t, ht, hd, hn⟩ := ih
    exact ⟨t, by simp [Expr.tokens, ht], hd, fun _ => hn (.inl rfl)⟩
  | ofRelation _ ih | ofNegation _ ih | ofConjunction _ ih =>
    obtain ⟨t, ht, hd, _⟩ := ih
    exact ⟨t, ht, hd, nofun⟩
  | @and operands hl _ ih | @or operands hl _ ih =>
    obtain ⟨e, rest, rfl⟩ := List.exists_cons_of_length_pos (Nat.lt_of_lt_of_le Nat.two_pos hl)
    obtain ⟨t, ht, hd, _⟩ := ih e (by simp)
    exact ⟨t, head?_separated_cons _ _ _ ht, hd, nofun⟩

/-- Reads on to a closing parenthesis. -/
def closed {α : Type} (f : α → Expr) (p : Reader α) : Reader Expr :=
  fun ts =>
    match p ts with
    | some (a, .rparen :: ts) => some (f a, ts)
    | _ => none

def operand (inner : Reader Expr) : Reader Expr
  | .ident owner :: .dot :: .ident field :: ts => some (.column owner field, ts)
  | .star :: ts => some (.star, ts)
  | .int n :: ts => some (.int n, ts)
  | .str s :: ts => some (.str s, ts)
  | .param name :: ts => some (.param name, ts)
  | .raw text :: ts => some (.raw text, ts)
  | .func name :: .lparen :: .distinct :: .space :: ts =>
    closed (.call name true) (list listSeparator inner) ts
  | .func name :: .lparen :: ts => closed (.call name false) (list listSeparator inner) ts
  | .lparen :: ts => closed .paren inner ts
  | _ => none

def comparison? (t : Token) : Option Comparison :=
  [.eq, .ne, .lt, .gt, .lte, .gte].find? fun op : Comparison => op.token = t

/-- The bounds of a range. The first `AND` stands between them. -/
def range (operand : Reader Expr) (e : Expr) : Reader Expr :=
  fun ts =>
    match operand ts with
    | some (low, .space :: .and :: .space :: ts) => operand.map (.between e low) ts
    | _ => none

/-- What an operand is compared with, if anything. -/
def relationTail (operand : Reader Expr) (e : Expr) : Reader Expr
  | .space :: .isNull :: ts => some (.isNull false e, ts)
  | .space :: .isNotNull :: ts => some (.isNull true e, ts)
  | .space :: .in :: .space :: .lparen :: .param name :: .rparen :: ts =>
    some (.in false e name, ts)
  | .space :: .not :: .space :: .in :: .space :: .lparen :: .param name :: .rparen :: ts =>
    some (.in true e name, ts)
  | .space :: .like :: .space :: ts => operand.map (.like e) ts
  | .space :: .between :: .space :: ts => range operand e ts
  | .space :: t :: .space :: ts =>
    match comparison? t with
    | some op => operand.map (.compare op e) ts
    | none => some (e, .space :: t :: .space :: ts)
  | ts => some (e, ts)

def relation (operand : Reader Expr) : Reader Expr :=
  fun ts => (operand ts).bind fun r => relationTail operand r.1 r.2

def negation (p : Reader Expr) : Reader Expr
  | .not :: .space :: ts => (negation p ts).map fun r => (.not r.1, r.2)
  | ts => p ts

def conjunction (p : Reader Expr) : Reader Expr :=
  (list (spaced .and) p).map (join .and)

def disjunction (p : Reader Expr) : Reader Expr :=
  (list (spaced .or) p).map (join .or)

/-- Reads conditions that are less than `n` parentheses deep. -/
def condition : Nat → Reader Expr
  | 0 => fun _ => none
  | n + 1 => disjunction (conjunction (negation (relation (operand (condition n)))))

/-- The tokens that carry an operand on, each with a blank in front. -/
def relational : List Token :=
  [.eq, .ne, .lt, .gt, .lte, .gte, .like, .in, .not, .between, .isNull, .isNotNull]

def EndsRelation (ts : List Token) : Prop :=
  ∀ t us, ts = .space :: t :: us → t ∉ relational

def EndsConjunction (ts : List Token) : Prop :=
  EndsRelation ts ∧ ¬ spaced .and <+: ts

def EndsCondition (ts : List Token) : Prop :=
  EndsConjunction ts ∧ ¬ spaced .or <+: ts

theorem endsRelation_of_not_relational {t : Token} {ts : List Token} (h : t ∉ relational) :
    EndsRelation (.space :: t :: ts) := by
  rintro u us hu
  cases hu
  exact h

/-- No condition goes on behind a token that is not a blank. -/
theorem endsCondition_cons {t : Token} {ts : List Token} (h : t ≠ .space) :
    EndsCondition (t :: ts) := by
  refine ⟨⟨?_, ?_⟩, ?_⟩
  · rintro u us hu
    exact absurd (List.cons.inj hu).1 h
  · rintro ⟨us, hu⟩
    exact h (List.cons.inj hu).1.symm
  · rintro ⟨us, hu⟩
    exact h (List.cons.inj hu).1.symm

section

variable {n : Nat} {inner : Reader Expr}

theorem closed_complete {α : Type} {p : Reader α} {write : α → List Token} {Kind : α → Prop}
    {Ends : List Token → Prop} (h : Exact n p write Kind Ends) (f : α → Expr) {a : α}
    {rest : List Token} (ha : Kind a) (hn : (write a).length < n) (he : Ends (.rparen :: rest)) :
    closed f p (write a ++ .rparen :: rest) = some (f a, rest) := by
  rw [closed, h.complete ha hn he]

theorem closed_sound {α : Type} {p : Reader α} {write : α → List Token} {Kind : α → Prop}
    {Ends : List Token → Prop} (h : Exact n p write Kind Ends) {f : α → Expr} {e : Expr}
    {ts rest : List Token} (hr : closed f p ts = some (e, rest)) :
    ∃ a, Kind a ∧ e = f a ∧ ts = write a ++ .rparen :: rest := by
  unfold closed at hr
  split at hr
  · rename_i a us ha
    cases hr
    obtain ⟨hk, hts⟩ := h.sound ha
    exact ⟨a, hk, rfl, hts⟩
  · cases hr

theorem arguments_exact (h : Exact n inner Expr.tokens (Phrase .disjunction) EndsCondition) :
    Exact n (list listSeparator inner) (fun es => separated listSeparator (es.map Expr.tokens))
      (fun es => es ≠ [] ∧ ∀ e ∈ es, Phrase .disjunction e)
      (fun rest => EndsCondition rest ∧ ¬ listSeparator <+: rest) :=
  h.list (by simp [listSeparator]) fun _ => endsCondition_cons nofun

theorem ends_rparen (ts : List Token) :
    EndsCondition (.rparen :: ts) ∧ ¬ listSeparator <+: .rparen :: ts :=
  ⟨endsCondition_cons nofun, by simp [listSeparator]⟩

theorem tokens_call (name : String) (distinct : Bool) (args : List Expr) :
    (Expr.call name distinct args).tokens =
      .func name :: .lparen :: ((if distinct then [.distinct, .space] else []) ++
        (separated listSeparator (args.map Expr.tokens) ++ [.rparen])) := by
  rw [Expr.tokens, Expr.phrases_eq_map]
  simp only [List.cons_append, List.nil_append, List.append_assoc]

theorem operand_call (name : String) {ts : List Token} (h : ts.head? ≠ some .distinct) :
    operand inner (.func name :: .lparen :: ts) =
      closed (.call name false) (list listSeparator inner) ts := by
  cases ts with
  | nil => rfl
  | cons t ts =>
    have ht : t ≠ .distinct := by simpa using h
    cases t with
    | distinct => exact absurd rfl ht
    | _ => rfl

theorem operand_complete (h : Exact n inner Expr.tokens (Phrase .disjunction) EndsCondition)
    {e : Expr} (he : Phrase .operand e) (hn : e.tokens.length < n + 1) (rest : List Token) :
    operand inner (e.tokens ++ rest) = some (e, rest) := by
  cases he with
  | column | star | int | str | param | raw => rfl
  | paren he =>
    rw [Expr.tokens, List.append_assoc, List.append_assoc]
    rw [Expr.tokens, List.length_append, List.length_append] at hn
    exact closed_complete h .paren he (by simp at hn; omega) (ends_rparen rest).1
  | @call name distinct args hne hargs =>
    rw [tokens_call] at hn ⊢
    have hlength : (separated listSeparator (args.map Expr.tokens)).length < n := by
      simp only [List.length_cons, List.length_append] at hn
      omega
    have hclosed := fun f => closed_complete (arguments_exact h) f ⟨hne, hargs⟩ hlength
      (ends_rparen rest)
    cases distinct with
    | true =>
      simp only [List.cons_append, List.append_assoc, if_true, List.nil_append, operand]
      exact hclosed _
    | false =>
      -- No argument begins with a `DISTINCT`, which would be taken off in front of them all.
      obtain ⟨e, es, rfl⟩ := List.exists_cons_of_ne_nil hne
      obtain ⟨t, ht, hd, _⟩ := (hargs e List.mem_cons_self).head?_tokens
      have hhead := head?_separated_cons listSeparator e.tokens (es.map Expr.tokens) ht
      simp only [List.cons_append, List.append_assoc, Bool.false_eq_true, if_false, List.nil_append]
      rw [operand_call]
      · exact hclosed _
      · rw [List.map_cons, List.head?_append, hhead]
        simpa using hd

theorem operand_sound (h : Exact n inner Expr.tokens (Phrase .disjunction) EndsCondition)
    {e : Expr} {ts rest : List Token} (hr : operand inner ts = some (e, rest)) :
    Phrase .operand e ∧ ts = e.tokens ++ rest := by
  unfold operand at hr
  split at hr
  · cases hr; exact ⟨.column _ _, rfl⟩
  · cases hr; exact ⟨.star, rfl⟩
  · cases hr; exact ⟨.int _, rfl⟩
  · cases hr; exact ⟨.str _, rfl⟩
  · cases hr; exact ⟨.param _, rfl⟩
  · cases hr; exact ⟨.raw _, rfl⟩
  · obtain ⟨args, ⟨hne, hargs⟩, rfl, rfl⟩ := closed_sound (arguments_exact h) hr
    exact ⟨.call _ true hne hargs, by simp [tokens_call]⟩
  · obtain ⟨args, ⟨hne, hargs⟩, rfl, rfl⟩ := closed_sound (arguments_exact h) hr
    exact ⟨.call _ false hne hargs, by simp [tokens_call]⟩
  · obtain ⟨e, he, rfl, rfl⟩ := closed_sound h hr
    exact ⟨.paren he, by simp [Expr.tokens]⟩
  · cases hr

theorem operand_exact (h : Exact n inner Expr.tokens (Phrase .disjunction) EndsCondition) :
    Exact (n + 1) (operand inner) Expr.tokens (Phrase .operand) (fun _ => True) :=
  ⟨fun he hn _ => operand_complete h he hn _, operand_sound h⟩

theorem eq_token_of_comparison? {t : Token} {op : Comparison} (h : comparison? t = some op) :
    t = op.token := by
  have ht := List.find?_some h
  exact (of_decide_eq_true ht).symm

theorem token_mem_relational (op : Comparison) : op.token ∈ relational := by
  cases op <;> decide

theorem relationTail_of_ends (p : Reader Expr) (e : Expr) {ts : List Token} (h : EndsRelation ts) :
    relationTail p e ts = some (e, ts) := by
  have hcompare {t : Token} {us : List Token} {op : Comparison} (hts : ts = .space :: t :: us)
      (hop : comparison? t = some op) : False := by
    obtain rfl := eq_token_of_comparison? hop
    exact h _ us hts (token_mem_relational op)
  unfold relationTail
  split
  -- Nothing is read, or a relational token is ahead.
  all_goals first
    | rfl
    | exact absurd (by decide) (h _ _ rfl)
    | split
      · rename_i hop
        exact (hcompare rfl hop).elim
      · rfl

section

variable {p : Reader Expr}

theorem relationTail_compare (op : Comparison) (e : Expr) (ts : List Token) :
    relationTail p e (.space :: op.token :: .space :: ts) = p.map (.compare op e) ts := by
  cases op <;> rfl

theorem map_complete (h : Exact n p Expr.tokens (Phrase .operand) fun _ => True) (f : Expr → Expr)
    {e : Expr} (he : Phrase .operand e) (hn : e.tokens.length < n) (rest : List Token) :
    p.map f (e.tokens ++ rest) = some (f e, rest) := by
  rw [Reader.map, h.complete he hn trivial]
  rfl

theorem relation_complete (h : Exact n p Expr.tokens (Phrase .operand) fun _ => True) {e : Expr}
    (he : Phrase .relation e) (hn : e.tokens.length < n) {rest : List Token}
    (hrest : EndsRelation rest) : relation p (e.tokens ++ rest) = some (e, rest) := by
  have hleft {e : Expr} (he : Phrase .operand e) (hn : e.tokens.length < n) (ts : List Token) :
      relation p (e.tokens ++ ts) = relationTail p e ts := by
    rw [relation, h.complete he hn trivial]
    rfl
  cases he with
  | ofOperand he => rw [hleft he hn, relationTail_of_ends p e hrest]
  | @compare op left right hl hr =>
    simp only [Expr.tokens, List.length_append] at hn
    simp only [Expr.tokens, List.append_assoc]
    rw [hleft hl (by omega)]
    exact (relationTail_compare op left _).trans (map_complete h _ hr (by omega) rest)
  | @like e pattern he hp =>
    simp only [Expr.tokens, List.length_append] at hn
    simp only [Expr.tokens, List.append_assoc]
    rw [hleft he (by omega)]
    exact map_complete h _ hp (by omega) rest
  | @«in» negated e he name =>
    simp only [Expr.tokens, List.length_append] at hn
    simp only [Expr.tokens, List.append_assoc]
    rw [hleft he (by omega)]
    cases negated <;> rfl
  | @between e low high he hl hh =>
    simp only [Expr.tokens, List.length_append] at hn
    simp only [Expr.tokens, List.append_assoc]
    rw [hleft he (by omega)]
    change range p e (low.tokens ++ _) = _
    rw [range, h.complete hl (by omega) trivial]
    exact map_complete h _ hh (by omega) rest
  | @isNull negated e he =>
    simp only [Expr.tokens, List.length_append] at hn
    simp only [Expr.tokens, List.append_assoc]
    rw [hleft he (by omega)]
    cases negated <;> rfl

theorem map_sound (h : Exact n p Expr.tokens (Phrase .operand) fun _ => True) {f : Expr → Expr}
    {e : Expr} {ts rest : List Token} (hr : p.map f ts = some (e, rest)) :
    ∃ o, Phrase .operand o ∧ e = f o ∧ ts = o.tokens ++ rest := by
  obtain ⟨⟨o, us⟩, ho, hr⟩ := Option.map_eq_some_iff.mp hr
  cases hr
  obtain ⟨hk, hts⟩ := h.sound ho
  exact ⟨o, hk, rfl, hts⟩

theorem relationTail_sound (h : Exact n p Expr.tokens (Phrase .operand) fun _ => True)
    {left e : Expr} (hl : Phrase .operand left) {ts rest : List Token}
    (hr : relationTail p left ts = some (e, rest)) :
    Phrase .relation e ∧ left.tokens ++ ts = e.tokens ++ rest := by
  unfold relationTail at hr
  split at hr
  · cases hr; exact ⟨.isNull false hl, by simp [Expr.tokens]⟩
  · cases hr; exact ⟨.isNull true hl, by simp [Expr.tokens]⟩
  · cases hr; exact ⟨.in false hl _, by simp [Expr.tokens]⟩
  · cases hr; exact ⟨.in true hl _, by simp [Expr.tokens]⟩
  · obtain ⟨pattern, hp, rfl, rfl⟩ := map_sound h hr
    exact ⟨.like hl hp, by simp [Expr.tokens, spaced]⟩
  · unfold range at hr
    split at hr
    · rename_i low us hread
      obtain ⟨hlow, rfl⟩ := h.sound hread
      obtain ⟨high, hhigh, rfl, rfl⟩ := map_sound h hr
      exact ⟨.between hl hlow hhigh, by simp [Expr.tokens, spaced]⟩
    · cases hr
  · split at hr
    · rename_i op hop
      obtain rfl := eq_token_of_comparison? hop
      obtain ⟨right, hright, rfl, rfl⟩ := map_sound h hr
      exact ⟨.compare op hl hright, by simp [Expr.tokens, spaced]⟩
    · cases hr; exact ⟨.ofOperand hl, rfl⟩
  · cases hr; exact ⟨.ofOperand hl, rfl⟩

theorem relation_exact (h : Exact n p Expr.tokens (Phrase .operand) fun _ => True) :
    Exact n (relation p) Expr.tokens (Phrase .relation) EndsRelation := by
  refine ⟨fun he hn hrest => relation_complete h he hn hrest, ?_⟩
  intro ts e rest hr
  obtain ⟨⟨left, us⟩, hleft, hr⟩ := Option.bind_eq_some_iff.mp hr
  obtain ⟨hl, hts⟩ := h.sound hleft
  rw [hts]
  exact relationTail_sound h hl hr

theorem negation_of_head {ts : List Token} (h : ts.head? ≠ some .not) : negation p ts = p ts := by
  cases ts with
  | nil => rfl
  | cons t ts =>
    have ht : t ≠ .not := by simpa using h
    unfold negation
    split
    · rename_i heq
      exact absurd (List.cons.inj heq).1 ht
    · rfl

theorem negation_complete (h : Exact n p Expr.tokens (Phrase .relation) EndsRelation) :
    ∀ {e : Expr} {rest : List Token}, Phrase .negation e → e.tokens.length < n →
      EndsRelation rest → negation p (e.tokens ++ rest) = some (e, rest)
  | _, rest, @Phrase.not e he, hn, hrest => by
    have hinner := negation_complete h he (by simp [Expr.tokens] at hn; omega) hrest
    change (negation p (e.tokens ++ rest)).map _ = _
    rw [hinner]
    rfl
  | e, rest, .ofRelation he, hn, hrest => by
    obtain ⟨t, ht, _, hnot⟩ := he.head?_tokens
    rw [negation_of_head (by simpa [ht] using hnot (.inr rfl)), h.complete he hn hrest]

theorem negation_exact (h : Exact n p Expr.tokens (Phrase .relation) EndsRelation) :
    Exact n (negation p) Expr.tokens (Phrase .negation) EndsRelation := by
  refine ⟨negation_complete h, ?_⟩
  intro ts
  fun_induction negation p ts with
  | case1 ts ih =>
    intro e rest hr
    obtain ⟨⟨o, us⟩, ho, hr⟩ := Option.map_eq_some_iff.mp hr
    cases hr
    obtain ⟨hk, rfl⟩ := ih ho
    exact ⟨.not hk, rfl⟩
  | case2 ts _ =>
    intro e rest hr
    obtain ⟨hk, hts⟩ := h.sound hr
    exact ⟨.ofRelation hk, hts⟩

theorem conjunction_exact (h : Exact n p Expr.tokens (Phrase .negation) EndsRelation) :
    Exact n (conjunction p) Expr.tokens (Phrase .conjunction) EndsConjunction :=
  ((h.list (by simp [spaced]) fun _ => endsRelation_of_not_relational (by decide)).map
    (tokens_join fun _ => rfl)).of_kind_iff phrase_conjunction_iff

theorem disjunction_exact (h : Exact n p Expr.tokens (Phrase .conjunction) EndsConjunction) :
    Exact n (disjunction p) Expr.tokens (Phrase .disjunction) EndsCondition := by
  have hends (ts : List Token) : EndsConjunction (spaced .or ++ ts) :=
    ⟨endsRelation_of_not_relational (by decide), by simp [spaced]⟩
  exact ((h.list (by simp [spaced]) hends).map
    (tokens_join fun _ => rfl)).of_kind_iff phrase_disjunction_iff

end

theorem condition_exact (n : Nat) :
    Exact n (condition n) Expr.tokens (Phrase .disjunction) EndsCondition := by
  -- A phrase in parentheses is shorter than the operand it makes, so each level takes one off `n`.
  induction n with
  | zero => exact ⟨fun _ hn => absurd hn (Nat.not_lt_zero _), nofun⟩
  | succ n ih =>
    exact disjunction_exact (conjunction_exact (negation_exact (relation_exact (operand_exact ih))))

end

end ObjectQuery.Grammar
