import ObjectQuery.Proofs.Compiler.Parts
import ObjectQuery.Proofs.Filter.Run
import ObjectQuery.Proofs.Grammar.Statement
import ObjectQuery.Proofs.Meaning.Condition

/-! The tokens of a compiled statement say which statement it is. None of its conditions is a bare
conjunction or disjunction, so that they do not run into each other. -/

namespace ObjectQuery

open Token (separated spaced listSeparator)
open Grammar (Phrase join)

theorem ResolvedPath.phrase_expr (p : ResolvedPath) : Phrase .operand p.expr := by
  unfold expr
  split
  · exact .star
  · exact .column _ _

theorem Expr.phrase_function (name : String) {args : List Expr} (hne : args ≠ [])
    (h : ∀ e ∈ args, Phrase .operand e) : Phrase .operand (function name args) :=
  .call name false hne fun e he => (h e he).of_operand

theorem Expr.phrase_localized {code value : Expr} (hc : Phrase .operand code)
    (hv : Phrase .operand value) (width : Nat) : Phrase .operand (localized code value width) := by
  have hcoalesce : Phrase .operand (function "coalesce" [code, .str ""]) :=
    phrase_function _ (by simp) (by simpa using ⟨hc, .str _⟩)
  have hfilled (filler : String) :
      Phrase .operand (function "concat" [function "coalesce" [code, .str ""], .str filler]) :=
    phrase_function _ (by simp) (by simpa using ⟨hcoalesce, .str _⟩)
  have hkey : Phrase .operand (localeKey code width) :=
    phrase_function _ (by simp) (by simpa using ⟨hfilled _, .int _, .int _⟩)
  have hrow : Phrase .operand (function "concat" [localeKey code width, value]) :=
    phrase_function _ (by simp) (by simpa using ⟨hkey, hv⟩)
  have hgreatest :
      Phrase .operand (function "max" [function "concat" [localeKey code width, value]]) :=
    phrase_function _ (by simp) (by simpa using hrow)
  exact phrase_function _ (by simp) (by simpa using ⟨hgreatest, .int _⟩)

theorem Column.phrase_item (names : Conventions) (resolver : Resolver) (c : Column) :
    Phrase .operand (c.item names resolver) := by
  have hexpr := (resolver.resolve c.path).phrase_expr
  have hcall (name : String) (distinct : Bool) :
      Phrase .operand (.call name distinct [(resolver.resolve c.path).expr]) :=
    .call name distinct (by simp) (by simpa using hexpr.of_operand)
  cases haggregate : c.aggregate with
  | none => simpa only [item, haggregate] using hexpr
  | some aggregate =>
    simp only [item, haggregate]
    cases aggregate
    case locale => exact Expr.phrase_localized (.column _ _) hexpr _
    all_goals exact hcall _ _

namespace Query

variable {names : Conventions} {resolver : Resolver} {q : Query}

theorem phrase_of_mem_items {e : Expr} (h : e ∈ q.items names resolver) : Phrase .operand e := by
  rcases mem_items h with rfl | ⟨c, _, rfl⟩
  · unfold idItem
    split
    · exact Expr.phrase_function _ (by simp) (by simpa using .column _ _)
    · exact .column _ _
  · exact c.phrase_item names resolver

theorem phrase_of_mem_groupKeys {e : Expr} (h : e ∈ q.groupKeys names resolver) :
    Phrase .operand e := by
  rcases mem_groupKeys h with rfl | ⟨c, _, rfl⟩
  · exact .column _ _
  · exact .column _ _

theorem items_ne_nil (h : q.columns ≠ [] ∨ q.includeId = true) : q.items names resolver ≠ [] := by
  rcases h with h | h
  · simp [items, h]
  · simp [items, h]

end Query

theorem ValueCondition.phrase {target e : Expr} {base : String} {operator : Operator}
    {values : List Value} {b b' : Bindings} (h : ValueCondition target base b operator values e b')
    (ht : Phrase .operand target) : Phrase .relation e := by
  cases h with
  | isIn | notIn => exact .in _ ht _
  | between => exact .between ht (.param _) (.param _)
  | isNull | isNotNull => exact .isNull _ ht
  | compare => exact .compare _ ht (.param _)
  | like => exact .like ht (.param _)

theorem phrase_combine {connective : List Expr → Expr} {es : List Expr}
    (hc : 2 ≤ es.length → Phrase .disjunction (connective es))
    (hes : ∀ e ∈ es, Phrase .negation e) : ∀ e ∈ combine connective es, Phrase .negation e := by
  match es with
  | [] => simp [combine]
  | [e] => simpa [combine] using hes
  | first :: second :: rest =>
    have hparen := Phrase.ofOperand (.paren (hc (by simp)))
    simpa [combine] using Phrase.ofRelation hparen

/-- A composite stands in parentheses, and so does what is negated. -/
theorem grammarLaw (resolver : Resolver) :
    FilterLaw resolver (fun _ _ o _ => ∀ e ∈ o, Phrase .negation e)
      (fun _ _ es _ => ∀ e ∈ es, Phrase .negation e) where
  simple {path _ _ _ _ _} h := by
    rintro _ ⟨⟩
    exact .ofRelation (h.phrase (resolver.resolve path).phrase_expr)
  and h := phrase_combine (fun hl => .ofConjunction (.and hl h)) h
  or h := phrase_combine (fun hl => .or hl fun e he => .ofNegation (h e he)) h
  not {_ _ inner _} h := by
    intro e he
    obtain ⟨o, ho, rfl⟩ := Option.map_eq_some_iff.mp he
    have hneg := h o ho
    cases o with
    | paren o => exact .not hneg
    | _ => exact .not (.ofRelation (.ofOperand (.paren (.ofConjunction (.ofNegation hneg)))))
  arbitrary {_ _} := by
    rintro _ ⟨⟩
    exact .ofRelation (.ofOperand (.paren (Phrase.raw _).of_operand))
  nil := by simp
  gap h := h
  child _ _ h h' := by
    intro e he
    rcases List.mem_append.mp he with he | he
    · exact h e (Option.mem_toList.mp he)
    · exact h' e he

theorem phrase_localeCondition (names : Conventions) (codes : List String) (owner : String)
    (b : Bindings) : Phrase .operand (localeCondition names codes owner b).1 := by
  have hnull : Phrase .relation (.isNull false (.column owner names.localeField)) :=
    .isNull false (.column _ _)
  unfold localeCondition
  split
  · exact .paren (.ofConjunction (.ofNegation (.ofRelation hnull)))
  · have hin (name : String) :
        Phrase .relation (.in false (.column owner names.localeField) name) :=
      .in false (.column _ _) name
    refine .paren (.or (by simp) ?_)
    simpa using ⟨.ofNegation (.ofRelation (hin _)), .ofNegation (.ofRelation hnull)⟩

theorem phrase_of_mem_localeConditions {names : Conventions} {codes owners : List String}
    {b : Bindings} {e : Expr} (h : e ∈ (localeConditions names codes owners b).1) :
    Phrase .operand e := by
  induction owners generalizing b with
  | nil => simp [localeConditions] at h
  | cons owner rest ih =>
    rcases List.mem_cons.mp h with rfl | h
    · exact phrase_localeCondition names codes owner b
    · exact ih h

namespace Expr

theorem conjuncts_of_negation {e : Expr} (h : Phrase .negation e) : e.conjuncts = [e] := by
  cases e with
  | and operands => nomatch h
  | _ => rfl

theorem conjuncts_join {es : List Expr} (h : ∀ e ∈ es, Phrase .negation e) :
    (join .and es).conjuncts = es := by
  match es with
  | [] | _ :: _ :: _ => rfl
  | [e] => exact conjuncts_of_negation (h e (by simp))

theorem truth?_join (store : Store) (v : Valuation) (root : String) (b : Bindings)
    (es : List Expr) :
    (join .and es).truth? store v root b = (truths? store v root b es).map .all := by
  match es with
  | [] | _ :: _ :: _ => rfl
  | [e] =>
    change e.truth? store v root b = _
    cases he : e.truth? store v root b with
    | none => simp [truths?, he]
    | some t => simp [truths?, he, Truth.all_singleton]

end Expr

namespace Statement

/-- What stands behind `WHERE`. -/
def predicateTokens (s : Statement) : List Token :=
  separated (spaced .and) (Expr.phrases s.conditions)

theorem tokens_eq_predicate {s : Statement} (h : s.conditions ≠ []) : ∃ before after,
    s.tokens = before ++ spaced .where ++ s.predicateTokens ++ after := by
  have hclause : clause .where (spaced .and) (Expr.phrases s.conditions) =
      spaced .where ++ s.predicateTokens := by
    rw [clause, if_neg (by simpa [Expr.phrases_eq_map] using h), predicateTokens]
  exact ⟨[.select, .space] ++ separated listSeparator (Expr.phrases s.select) ++ spaced .from ++
      (s.rootTokens ++ s.joins.flatMap fun j => .space :: j.tokens),
    clause .groupBy listSeparator (Expr.phrases s.groupBy) ++
      clause .orderBy listSeparator (s.orderBy.map OrderKey.tokens),
    by simp only [tokens, sourceTokens, hclause, List.append_assoc]⟩

end Statement

namespace Compiler

/-- The statements of a query, for its rows and for counting them. -/
def Yields (c : Compiler) (q : Query) (s : Compiled) : Prop :=
  c.compile q = .ok s ∨ c.compileCount q = .ok s

variable {names : Conventions} {resolver : Resolver} {q : Query} {s : Compiled}

theorem phrase_of_mem_conditions {es : List Expr} {b : Bindings}
    (h : (resolving names resolver).conditions q = .ok (es, b)) :
    ∀ e ∈ es, Phrase .negation e := by
  obtain ⟨filter, b₁, hf, rfl, _⟩ := conditions_parts h
  intro e he
  rcases List.mem_append.mp he with he | he
  · exact (grammarLaw resolver).filter hf e (Option.mem_toList.mp he)
  · exact .ofRelation (.ofOperand (phrase_of_mem_localeConditions he))

theorem phrase_conditions (h : (resolving names resolver).HasSource q s)
    (hne : s.statement.conditions ≠ []) :
    Phrase .disjunction (join .and s.statement.conditions) :=
  .ofConjunction (Grammar.phrase_conjunction_iff.mpr
    ⟨_, ⟨hne, phrase_of_mem_conditions h.conditions⟩, rfl⟩)

theorem grammatical_of_source (h : (resolving names resolver).HasSource q s)
    (hne : s.statement.select ≠ []) (hselect : ∀ e ∈ s.statement.select, Phrase .operand e)
    (hgroup : ∀ e ∈ s.statement.groupBy, Phrase .operand e) : s.statement.Grammatical := by
  refine ⟨hne, fun e he => (hselect e he).of_operand, ?_, fun e he => (hgroup e he).of_operand⟩
  by_cases hc : s.statement.conditions = []
  · exact .inl hc
  · exact .inr ⟨_, phrase_conditions h hc,
      (Expr.conjuncts_join (phrase_of_mem_conditions h.conditions)).symm⟩

theorem Yields.hasSource (h : (resolving names resolver).Yields q s) :
    (resolving names resolver).HasSource q s :=
  h.elim (fun h => (compile_parts h).1) fun h => (compileCount_parts h).1

theorem Yields.grammatical (h : (resolving names resolver).Yields q s) :
    s.statement.Grammatical := by
  have hsource := h.hasSource
  rcases h with h | h
  · obtain ⟨_, hselect, hgroup⟩ := compile_parts h
    have hcheck := (check_eq_ok_iff.mp (compile_rows h).1).2.2
    refine grammatical_of_source hsource ?_ ?_ ?_
    · rw [hselect]
      exact Query.items_ne_nil hcheck
    · rw [hselect]
      exact fun e he => Query.phrase_of_mem_items he
    · rw [hgroup]
      exact fun e he => Query.phrase_of_mem_groupKeys he
  · obtain ⟨_, hselect, hgroup⟩ := compileCount_parts h
    have hitem : Phrase .operand (resolving names resolver).countItem :=
      .call _ _ (by simp) (by simpa [idExpr] using (Phrase.column _ _).of_operand)
    refine grammatical_of_source hsource ?_ ?_ ?_
    · simp [hselect]
    · simpa [hselect] using hitem
    · simp [hgroup]

/-- One reader takes the tokens of statements apart: it finds exactly the grammatical statement that
is written with them. A compiled statement is grammatical, so that no other has its tokens, and what
is read behind `WHERE` is the conjunction of its conditions. -/
theorem ofTokens?_compiled (h : (resolving names resolver).Yields q s) :
    (∀ (ts : List Token) (t : Statement),
      Statement.ofTokens? ts = some t ↔ t.Grammatical ∧ t.tokens = ts) ∧
    Statement.ofTokens? s.statement.tokens = some s.statement ∧
    (∀ (names' : Conventions) (resolver' : Resolver) (q' : Query) (t : Compiled),
      (resolving names' resolver').Yields q' t → t.statement.tokens = s.statement.tokens →
        t.statement = s.statement) ∧
    (s.statement.conditions ≠ [] →
      (∃ before after, s.statement.tokens =
        before ++ spaced .where ++ s.statement.predicateTokens ++ after) ∧
      Expr.ofTokens? s.statement.predicateTokens = some (join .and s.statement.conditions) ∧
      ∀ (store : Store) (v : Valuation) (root : String) (b : Bindings),
        (join .and s.statement.conditions).truth? store v root b =
          (Expr.truths? store v root b s.statement.conditions).map .all) := by
  have hread {names : Conventions} {resolver : Resolver} {q : Query} {s : Compiled}
      (h : (resolving names resolver).Yields q s) :
      Statement.ofTokens? s.statement.tokens = some s.statement :=
    Statement.ofTokens?_eq_some_iff.mpr ⟨h.grammatical, rfl⟩
  refine ⟨fun ts t => Statement.ofTokens?_eq_some_iff, hread h, ?_, ?_⟩
  · intro names' resolver' q' t ht htokens
    have ht := hread ht
    rw [htokens, hread h] at ht
    exact (Option.some.inj ht).symm
  · intro hne
    have htokens : (join .and s.statement.conditions).tokens = s.statement.predicateTokens := by
      rw [Grammar.tokens_join fun _ => rfl, Statement.predicateTokens, Expr.phrases_eq_map]
    exact ⟨Statement.tokens_eq_predicate hne,
      Expr.ofTokens?_eq_some_iff.mpr ⟨phrase_conditions h.hasSource hne, htokens⟩,
      fun store v root b => Expr.truth?_join store v root b _⟩

/-- A range beside a conjunction in a disjunction that is negated, a text with connectives of its
own, and a locale condition. -/
def archiveQuery : Query :=
  { Query.ofEntity "Order" with
    columns := [⟨"status", none⟩, ⟨"total", some .sum⟩, ⟨"lines.localeData.title", some .locale⟩]
    filter := some (.and [
      some (.not (.or [some (.simple "total" .between [.int 1, .int 2]),
        some (.and [some (.simple "status" .notIn [.string "open"]),
          some (.simple "customer.name" .contains [.string "x"])])])),
      some (.arbitrary "a OR b")])
    sort := [some ⟨1, false⟩]
    locale := ⟨"de", "", ""⟩ }

theorem ofTokens?_archive : ∃ s count : Compiled,
    standard.compile archiveQuery = .ok s ∧ standard.compileCount archiveQuery = .ok count ∧
    s.statement.conditions.length = 2 ∧ s.statement.groupBy ≠ [] ∧ s.statement.orderBy ≠ [] ∧
    Statement.ofTokens? s.statement.tokens = some s.statement ∧
    Statement.ofTokens? count.statement.tokens = some count.statement ∧
    Expr.ofTokens? s.statement.predicateTokens = some (.and s.statement.conditions) := by
  obtain ⟨s, hs, hl, hg, ho⟩ : ∃ s : Compiled, standard.compile archiveQuery = .ok s ∧
      s.statement.conditions.length = 2 ∧ s.statement.groupBy ≠ [] ∧ s.statement.orderBy ≠ [] :=
    ⟨_, rfl, rfl, nofun, nofun⟩
  obtain ⟨count, hcount⟩ : ∃ count : Compiled, standard.compileCount archiveQuery = .ok count :=
    ⟨_, rfl⟩
  have hrows := ofTokens?_compiled (.inl hs)
  have hne : s.statement.conditions ≠ [] := List.ne_nil_of_length_pos (by omega)
  have hpredicate := (hrows.2.2.2 hne).2.1
  rw [Grammar.join_of_two_le .and hl.ge] at hpredicate
  exact ⟨s, count, hs, hcount, hl, hg, ho, hrows.2.1, (ofTokens?_compiled (.inr hcount)).2.1,
    hpredicate⟩

end Compiler

end ObjectQuery
