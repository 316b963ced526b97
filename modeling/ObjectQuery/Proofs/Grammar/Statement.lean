import ObjectQuery.Proofs.Grammar.Condition

/-! Statements as they are written. Each clause behind `FROM` is told from the next by its keyword,
and none is in another's place. -/

namespace ObjectQuery

open Token (separated spaced listSeparator)
open Grammar (Reader Exact Phrase)

namespace Expr

def conjuncts : Expr → List Expr
  | .and operands => operands
  | e => [e]

theorem separated_conjuncts (e : Expr) :
    separated (spaced .and) (e.conjuncts.map tokens) = e.tokens := by
  cases e with
  | and operands => rw [conjuncts, tokens, phrases_eq_map]
  | _ => exact separated_singleton _ _

theorem conjuncts_ne_nil {e : Expr} (h : Phrase .disjunction e) : e.conjuncts ≠ [] := by
  cases e with
  | and operands =>
    rintro rfl
    obtain ⟨t, ht, _⟩ := h.head?_tokens
    simp [tokens, phrases, separated] at ht
  | _ => exact List.cons_ne_nil _ _

end Expr

namespace Statement

/-- The statements that can be written and read. Conditions and keys alone may be left out. -/
structure Grammatical (s : Statement) : Prop where
  selected : s.select ≠ []
  select : ∀ e ∈ s.select, Phrase .disjunction e
  conditions : s.conditions = [] ∨ ∃ e, Phrase .disjunction e ∧ s.conditions = e.conjuncts
  groupBy : ∀ e ∈ s.groupBy, Phrase .disjunction e

end Statement

namespace Grammar

theorem endsCondition_nil : EndsCondition [] :=
  ⟨⟨nofun, by simp [spaced]⟩, by simp [spaced]⟩

/-- Nothing is left, or a clause with one of the keywords. -/
def Later (keywords ts : List Token) : Prop :=
  ts = [] ∨ ∃ t us, t ∈ keywords ∧ ts = .space :: t :: us

section

variable {keywords ts : List Token} {keyword : Token}

theorem Later.clause (h : Later keywords ts) (separator : List Token)
    (phrases : List (List Token)) :
    Later (keyword :: keywords) (Statement.clause keyword separator phrases ++ ts) := by
  unfold Statement.clause
  split
  · rcases h with rfl | ⟨t, us, ht, rfl⟩
    · exact .inl rfl
    · exact .inr ⟨t, us, List.mem_cons_of_mem _ ht, rfl⟩
  · exact .inr ⟨keyword, _, List.mem_cons_self, rfl⟩

theorem Later.not_prefix (h : Later keywords ts) (hk : keyword ∉ keywords) (us : List Token) :
    ¬ .space :: keyword :: us <+: ts := by
  rintro ⟨vs, rfl⟩
  rcases h with h | ⟨t, us', ht, h⟩
  · cases h
  · cases h
    exact hk ht

theorem Later.endsCondition (h : Later keywords ts) (hr : ∀ t ∈ keywords, t ∉ relational)
    (ha : .and ∉ keywords) (ho : .or ∉ keywords) : EndsCondition ts := by
  refine ⟨⟨?_, h.not_prefix ha _⟩, h.not_prefix ho _⟩
  rintro t us rfl
  rcases h with h | ⟨t', us', ht, h⟩
  · cases h
  · cases h
    exact hr t ht

theorem Later.not_listSeparator (h : Later keywords ts) : ¬ listSeparator <+: ts := by
  rintro ⟨us, rfl⟩
  rcases h with h | ⟨t, us', _, h⟩
  · cases h
  · cases h

end

def items (n : Nat) : Reader (List Expr) :=
  list listSeparator (condition n)

def root : Reader (String × String)
  | .space :: .from :: .space :: .ident entity :: .space :: .as :: .space :: .ident name :: ts =>
    some ((entity, name), ts)
  | _ => none

def joins : Reader (List Join)
  | .space :: .leftOuterJoin :: .space :: .ident parent :: .dot :: .ident relation :: .space ::
      .as :: .space :: .ident child :: ts =>
    (joins ts).map fun r => (⟨parent, relation, child⟩ :: r.1, r.2)
  | ts => some ([], ts)

def conditions (n : Nat) : Reader (List Expr) :=
  optional .where ((condition n).map Expr.conjuncts)

def groupKeys (n : Nat) : Reader (List Expr) :=
  optional .groupBy (items n)

def orderKey : Reader OrderKey
  | .int (.ofNat ordinal) :: .space :: .asc :: ts => some (⟨ordinal, some .asc⟩, ts)
  | .int (.ofNat ordinal) :: .space :: .desc :: ts => some (⟨ordinal, some .desc⟩, ts)
  | .int (.ofNat ordinal) :: ts => some (⟨ordinal, none⟩, ts)
  | _ => none

def orderKeys : Reader (List OrderKey) :=
  optional .orderBy (list listSeparator orderKey)

/-- Reads statements whose conditions are less than `n` parentheses deep. -/
def statement (n : Nat) : Reader Statement :=
  ((items n).behind [.select, .space] |>.seq <| root.seq <| joins.seq <| (conditions n).seq <|
    (groupKeys n).seq orderKeys).map
    fun (select, (entity, root), joins, conditions, groupBy, orderBy) =>
      ⟨select, entity, root, joins, conditions, groupBy, orderBy⟩

section

variable (n : Nat)

theorem items_exact {keywords : List Token} (hr : ∀ t ∈ keywords, t ∉ relational)
    (ha : .and ∉ keywords) (ho : .or ∉ keywords) :
    Exact n (items n) (fun es => separated listSeparator (es.map Expr.tokens))
      (fun es => es ≠ [] ∧ ∀ e ∈ es, Phrase .disjunction e) (Later keywords) :=
  (arguments_exact (condition_exact n)).of_ends fun h =>
    ⟨h.endsCondition hr ha ho, h.not_listSeparator⟩

theorem root_exact :
    Exact n root (fun r => spaced .from ++ [.ident r.1] ++ spaced .as ++ [.ident r.2])
      (fun _ => True) (fun _ => True) := by
  constructor
  · intro r rest _ _ _
    rfl
  · intro ts r rest hr
    unfold root at hr
    split at hr
    · cases hr
      exact ⟨trivial, rfl⟩
    · cases hr

theorem joins_complete (js : List Join) {rest : List Token}
    (hrest : ¬ [.space, .leftOuterJoin] <+: rest) :
    joins (js.flatMap (fun j => .space :: j.tokens) ++ rest) = some (js, rest) := by
  induction js with
  | nil =>
    rw [List.flatMap_nil, List.nil_append]
    unfold joins
    split
    · exact absurd ⟨_, rfl⟩ hrest
    · rfl
  | cons j js ih =>
    have hread : joins ((j :: js).flatMap (fun j => .space :: j.tokens) ++ rest) =
        (joins (js.flatMap (fun j => .space :: j.tokens) ++ rest)).map
          fun r => (j :: r.1, r.2) := rfl
    rw [hread, ih]
    rfl

theorem joins_exact :
    Exact n joins (fun js => js.flatMap fun j => .space :: j.tokens) (fun _ => True)
      (fun rest => ¬ [.space, .leftOuterJoin] <+: rest) := by
  refine ⟨fun _ _ hrest => joins_complete _ hrest, ?_⟩
  intro ts
  fun_induction joins ts with
  | case1 parent relation child ts ih =>
    intro js rest hr
    obtain ⟨⟨js', us⟩, hjs, hr⟩ := Option.map_eq_some_iff.mp hr
    cases hr
    obtain ⟨_, rfl⟩ := ih hjs
    exact ⟨trivial, rfl⟩
  | case2 ts _ =>
    intro js rest hr
    cases hr
    exact ⟨trivial, rfl⟩

theorem conditions_exact :
    Exact n (conditions n)
      (fun es => Statement.clause .where (spaced .and) (es.map Expr.tokens))
      (fun es => es = [] ∨ ∃ e, Phrase .disjunction e ∧ es = e.conjuncts)
      (Later [.groupBy, .orderBy]) := by
  have hread : Exact n ((condition n).map Expr.conjuncts)
      (fun es => separated (spaced .and) (es.map Expr.tokens))
      (fun es => ∃ e, Phrase .disjunction e ∧ es = e.conjuncts) EndsCondition :=
    (condition_exact n).map Expr.separated_conjuncts
  refine (hread.optional ?_).of_ends fun h =>
    ⟨h.endsCondition (by decide) (by decide) (by decide), h.not_prefix (by decide) _⟩
  rintro es ⟨e, he, rfl⟩
  exact Expr.conjuncts_ne_nil he

theorem forall_mem_iff_eq_nil_or {α : Type} {P : α → Prop} {as : List α} :
    (∀ a ∈ as, P a) ↔ as = [] ∨ as ≠ [] ∧ ∀ a ∈ as, P a := by
  cases as with
  | nil => simp
  | cons a as => simp

theorem groupKeys_exact :
    Exact n (groupKeys n)
      (fun es => Statement.clause .groupBy listSeparator (es.map Expr.tokens))
      (fun es => ∀ e ∈ es, Phrase .disjunction e) (Later [.orderBy]) :=
  (((items_exact n (by decide) (by decide) (by decide)).optional And.left).of_ends fun h =>
    ⟨h, h.not_prefix (by decide) _⟩).of_kind_iff forall_mem_iff_eq_nil_or

def EndsOrderKey (ts : List Token) : Prop :=
  ¬ [.space, .asc] <+: ts ∧ ¬ [.space, .desc] <+: ts

theorem orderKey_exact :
    Exact n orderKey OrderKey.tokens (fun _ => True) EndsOrderKey := by
  constructor
  · rintro ⟨ordinal, direction⟩ rest _ _ ⟨ha, hd⟩
    cases direction with
    | some direction => cases direction <;> rfl
    | none =>
      change orderKey (.int (.ofNat ordinal) :: rest) = _
      unfold orderKey
      split
      · rename_i heq
        cases heq
        exact absurd ⟨_, rfl⟩ ha
      · rename_i heq
        cases heq
        exact absurd ⟨_, rfl⟩ hd
      · rename_i heq
        cases heq
        rfl
      · rename_i h
        exact absurd rfl (h _ _)
  · intro ts k rest hr
    unfold orderKey at hr
    split at hr
    · cases hr; exact ⟨trivial, rfl⟩
    · cases hr; exact ⟨trivial, rfl⟩
    · cases hr; exact ⟨trivial, rfl⟩
    · cases hr

theorem orderKeys_exact :
    Exact n orderKeys
      (fun ks => Statement.clause .orderBy listSeparator (ks.map OrderKey.tokens))
      (fun _ => True) (Later []) := by
  have hseparator (rest : List Token) : EndsOrderKey (listSeparator ++ rest) :=
    ⟨by simp [listSeparator], by simp [listSeparator]⟩
  have hlist := (orderKey_exact n).list (List.cons_ne_nil _ _) hseparator
  have hends {rest : List Token} (h : Later [] rest) :
      (EndsOrderKey rest ∧ ¬ listSeparator <+: rest) ∧ ¬ spaced .orderBy <+: rest :=
    ⟨⟨⟨h.not_prefix (by decide) _, h.not_prefix (by decide) _⟩, h.not_listSeparator⟩,
      h.not_prefix (by decide) _⟩
  refine ((hlist.optional And.left).of_ends hends).of_kind_iff fun {ks} => ?_
  rw [← forall_mem_iff_eq_nil_or]
  simp

/-- Statements are read exactly as they are written. -/
theorem statement_exact :
    Exact n (statement n) Statement.tokens Statement.Grammatical (Later []) := by
  -- From the back to the front: what follows a clause is a later clause, or nothing.
  have hkeys := (groupKeys_exact n).seq (orderKeys_exact n) fun _ h => h.clause _ _
  have hconditions := (conditions_exact n).seq hkeys fun _ h => by
    rw [List.append_assoc]
    exact (h.clause _ _).clause _ _
  have hjoins := (joins_exact n).seq hconditions fun _ h => by
    rw [List.append_assoc, List.append_assoc]
    exact Later.not_prefix (((h.clause _ _).clause _ _).clause _ _) (by decide) _
  have hroot := (root_exact n).seq hjoins fun _ _ => trivial
  have hitems := ((items_exact n (by decide) (by decide) (by decide)).behind [.select, .space]).seq
    hroot fun _ _ => (.inr ⟨.from, _, by simp, rfl⟩ : Later [.from] _)
  refine (hitems.map ?_).of_kind_iff ?_
  · rintro ⟨select, ⟨entity, root⟩, joins, conditions, groupBy, orderBy⟩
    simp only [Statement.tokens, Statement.sourceTokens, Statement.rootTokens,
      Expr.phrases_eq_map, List.append_assoc, List.cons_append, List.nil_append]
  · rintro ⟨select, entity, root, joins, conditions, groupBy, orderBy⟩
    constructor
    · intro h
      exact ⟨(select, (entity, root), joins, conditions, groupBy, orderBy),
        ⟨⟨h.selected, h.select⟩, trivial, trivial, h.conditions, h.groupBy, trivial⟩, rfl⟩
    · rintro ⟨_, ⟨⟨hne, hselect⟩, _, _, hconditions, hgroup, _⟩, h⟩
      cases h
      exact ⟨hne, hselect, hconditions, hgroup⟩

end

end Grammar

/-- The condition that the tokens are written for. -/
def Expr.ofTokens? (ts : List Token) : Option Expr :=
  (Grammar.condition (ts.length + 1)).all? ts

theorem Expr.ofTokens?_eq_some_iff {ts : List Token} {e : Expr} :
    ofTokens? ts = some e ↔ Phrase .disjunction e ∧ e.tokens = ts :=
  (Grammar.condition_exact _).all?_eq_some_iff Grammar.endsCondition_nil

namespace Statement

/-- The statement that the tokens are written for. -/
def ofTokens? (ts : List Token) : Option Statement :=
  (Grammar.statement (ts.length + 1)).all? ts

theorem ofTokens?_eq_some_iff {ts : List Token} {s : Statement} :
    ofTokens? ts = some s ↔ s.Grammatical ∧ s.tokens = ts :=
  (Grammar.statement_exact _).all?_eq_some_iff (.inl rfl)

end Statement

end ObjectQuery
