import ObjectQuery.Proofs.Settings.Identifier
import ObjectQuery.Proofs.Statement.Parted

/-! Placeholders in the text of a statement. A colon and the identifier characters behind it make
one; no expression writes anything behind a parameter that could be taken for a part of its name. -/

namespace ObjectQuery

open Token (separated spaced listSeparator)

/-- What stands behind each colon, up to the first character that is no part of an identifier. -/
def placeholdersIn : List Char → List String
  | [] => []
  | c :: rest =>
    if c = ':' then String.ofList (rest.takeWhile isIdentifierPart) :: placeholdersIn rest
    else placeholdersIn rest

namespace Token

def params : Token → List String
  | .param name => [name]
  | _ => []

/-- A parameter is called by an identifier, and nothing else has a colon in its text. -/
def isClean : Token → Bool
  | .param name => isIdentifier name
  | t => !t.text.toList.contains ':'

theorem colon_not_mem_text {t : Token} (hp : t.params = []) (h : t.isClean = true) :
    ':' ∉ t.text.toList := by
  cases t with
  | param name => cases hp
  | _ => simpa [isClean] using h

theorem isFinal_of_params {t : Token} (h : t.params ≠ []) : t.isFinal = true := by
  cases t with
  | param name => rfl
  | _ => exact absurd rfl h

end Token

/-- A parameter is the last token or has a break behind it. -/
def Apart : List Token → Prop
  | [] => True
  | t :: rest => (t.params ≠ [] → ∀ next ∈ rest.head?, next.isBreak = true) ∧ Apart rest

theorem Apart.of_parted {ts : List Token} (h : Parted ts) : Apart ts := by
  induction ts with
  | nil => trivial
  | cons t rest ih =>
    obtain ⟨hnext, hrest⟩ := List.isChain_cons.mp h
    refine ⟨?_, ih hrest⟩
    intro hp next hn
    exact hnext next hn (Token.isFinal_of_params hp)

namespace Expr

theorem params_comparison (op : Comparison) : op.token.params = [] := by
  cases op <;> rfl

theorem flatMap_params_separated {separator : List Token} (phrases : List (List Token))
    (hs : separator.flatMap Token.params = []) :
    (Token.separated separator phrases).flatMap Token.params =
      phrases.flatMap (·.flatMap Token.params) := by
  induction phrases with
  | nil => rfl
  | cons ts rest ih =>
    cases rest with
    | nil => rw [separated_singleton, List.flatMap_cons, List.flatMap_nil, List.append_nil]
    | cons us rest =>
      rw [separated_cons_cons, List.flatMap_append, List.flatMap_append, hs, ih, List.append_nil]
      rfl

theorem flatMap_params_spaced {t : Token} (ht : t.params = []) :
    (spaced t).flatMap Token.params = [] := by
  have hspace : Token.space.params = [] := rfl
  simp [spaced, hspace, ht]

mutual

theorem params_tokens : ∀ e : Expr, e.tokens.flatMap Token.params = e.placeholders
  | .column _ _ | .star | .int _ | .str _ | .raw _ | .param _ => rfl
  | .call name distinct args => by
    have hargs : (Token.separated listSeparator (phrases args)).flatMap Token.params =
        placeholdersOf args := by
      rw [flatMap_params_separated _ rfl, params_phrases args]
    cases distinct <;> simp [tokens, placeholders, Token.params, hargs]
  | .compare op left right => by
    have hop := flatMap_params_spaced (params_comparison op)
    simp [tokens, placeholders, hop, params_tokens left, params_tokens right]
  | .like e pattern => by
    have hlike := flatMap_params_spaced (t := .like) rfl
    simp [tokens, placeholders, hlike, params_tokens e, params_tokens pattern]
  | .in negated e name => by
    cases negated <;> simp [tokens, placeholders, Token.params, params_tokens e]
  | .between e low high => by
    have hbetween := flatMap_params_spaced (t := .between) rfl
    have hand := flatMap_params_spaced (t := .and) rfl
    simp [tokens, placeholders, hbetween, hand, params_tokens e, params_tokens low,
      params_tokens high]
  | .isNull negated e => by
    cases negated <;> simp [tokens, placeholders, Token.params, params_tokens e]
  | .and operands => by
    rw [tokens, placeholders, flatMap_params_separated _ (flatMap_params_spaced rfl),
      params_phrases operands]
  | .or operands => by
    rw [tokens, placeholders, flatMap_params_separated _ (flatMap_params_spaced rfl),
      params_phrases operands]
  | .not e => by simp [tokens, placeholders, Token.params, params_tokens e]
  | .paren e => by simp [tokens, placeholders, Token.params, params_tokens e]

theorem params_phrases : ∀ es : List Expr,
    (phrases es).flatMap (·.flatMap Token.params) = placeholdersOf es
  | [] => rfl
  | e :: rest => by
    rw [phrases, List.flatMap_cons, params_tokens e, params_phrases rest, placeholdersOf]

end

end Expr

theorem OrderKey.params_tokens (k : OrderKey) : k.tokens.flatMap Token.params = [] := by
  obtain ⟨ordinal, direction⟩ := k
  cases direction with
  | none => rfl
  | some direction => cases direction <;> rfl

namespace Statement

theorem apart_tokens (s : Statement) : Apart s.tokens :=
  .of_parted s.parted_tokens

theorem params_clause {keyword : Token} {separator : List Token} (phrases : List (List Token))
    (hk : keyword.params = []) (hs : separator.flatMap Token.params = []) :
    (clause keyword separator phrases).flatMap Token.params =
      phrases.flatMap (·.flatMap Token.params) := by
  unfold clause
  split
  · rename_i hp
    simp [List.isEmpty_iff.mp hp]
  · rw [List.flatMap_append, Expr.flatMap_params_spaced hk, Expr.flatMap_params_separated _ hs,
      List.nil_append]

theorem params_tokens (s : Statement) : s.tokens.flatMap Token.params = s.placeholders := by
  have hitems : (separated listSeparator (Expr.phrases s.select)).flatMap Token.params =
      Expr.placeholdersOf s.select := by
    rw [Expr.flatMap_params_separated _ rfl, Expr.params_phrases]
  have hroot : s.rootTokens.flatMap Token.params = [] := rfl
  have hfrom := Expr.flatMap_params_spaced (t := .from) rfl
  have hjoins : (s.joins.flatMap fun j => .space :: j.tokens).flatMap Token.params = [] := by
    have hjoin (j : Join) : (Token.space :: j.tokens).flatMap Token.params = [] := rfl
    simp only [List.flatMap_assoc, hjoin, List.flatMap_eq_nil_iff, implies_true]
  have hwhere : (clause .where (spaced .and) (Expr.phrases s.conditions)).flatMap Token.params =
      Expr.placeholdersOf s.conditions := by
    rw [params_clause _ rfl (Expr.flatMap_params_spaced rfl), Expr.params_phrases]
  have hgroup : (clause .groupBy listSeparator (Expr.phrases s.groupBy)).flatMap Token.params =
      Expr.placeholdersOf s.groupBy := by
    rw [params_clause _ rfl rfl, Expr.params_phrases]
  have horder : (clause .orderBy listSeparator (s.orderBy.map OrderKey.tokens)).flatMap
      Token.params = [] := by
    rw [params_clause _ rfl rfl, List.flatMap_map]
    simp only [OrderKey.params_tokens, List.flatMap_eq_nil_iff, implies_true]
  simp [tokens, sourceTokens, Token.params, hitems, hfrom, hroot, hjoins, hwhere, hgroup, horder,
    placeholders]

end Statement

theorem takeWhile_identifierPart {name rest : List Char} (hn : name.all isIdentifierPart = true)
    (hr : ∀ c ∈ rest.head?, isIdentifierPart c = false) :
    (name ++ rest).takeWhile isIdentifierPart = name := by
  have hstop : rest.takeWhile isIdentifierPart = [] := by
    cases rest with
    | nil => rfl
    | cons c rest => simp [hr c rfl]
  rw [List.takeWhile_append_of_pos (by simpa using hn), hstop, List.append_nil]

theorem placeholdersIn_append {before : List Char} (after : List Char) (h : ':' ∉ before) :
    placeholdersIn (before ++ after) = placeholdersIn after := by
  induction before with
  | nil => rfl
  | cons c before ih =>
    have hc : c ≠ ':' := fun hc => h (hc ▸ List.mem_cons_self)
    rw [List.cons_append, placeholdersIn, if_neg hc, ih fun hm => h (List.mem_cons_of_mem _ hm)]

def Clean (ts : List Token) : Prop :=
  ∀ t ∈ ts, t.isClean = true

instance (ts : List Token) : Decidable (Clean ts) :=
  inferInstanceAs (Decidable (∀ t ∈ ts, t.isClean = true))

/-- What is scanned in the text of tokens are the names of their parameters. -/
theorem placeholdersIn_render {ts : List Token} (ha : Apart ts) (hc : Clean ts) :
    placeholdersIn (render ts).toList = ts.flatMap Token.params := by
  induction ts with
  | nil => rfl
  | cons t rest ih =>
    have ih := ih ha.2 fun u hu => hc u (List.mem_cons_of_mem _ hu)
    have hclean := hc t List.mem_cons_self
    rw [toList_render_cons, List.flatMap_cons]
    cases t with
    | param name =>
      have hname : isIdentifier name = true := hclean
      have hall := all_part_of_isIdentifier hname
      have hcolon := not_mem_of_isIdentifier (c := ':') hname (by decide)
      -- The run behind the colon is the name alone, since a break follows it.
      have hbreak : ∀ c ∈ (render rest).toList.head?, isIdentifierPart c = false := by
        have hparams : (Token.param name).params ≠ [] := List.cons_ne_nil _ _
        intro c hc
        have hmem := head?_render (ha.1 hparams) c hc
        simp only [List.mem_cons, List.not_mem_nil, or_false] at hmem
        rcases hmem with rfl | rfl | rfl <;> decide
      have htext : (Token.param name).text.toList = ':' :: name.toList := by
        simp [Token.text]
      rw [htext, List.cons_append, placeholdersIn, if_pos rfl,
        takeWhile_identifierPart hall hbreak, placeholdersIn_append _ hcolon, ih]
      simp [Token.params]
    | _ =>
      rw [placeholdersIn_append _ (Token.colon_not_mem_text rfl hclean), ih]
      rfl

end ObjectQuery
