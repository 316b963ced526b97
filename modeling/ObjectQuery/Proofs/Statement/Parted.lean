import Mathlib.Data.List.Chain
import ObjectQuery.Proofs.Statement.Text

/-! Breaks in the tokens of a statement. Wherever an operand ends, a blank, a comma or a closing
parenthesis follows it, so its text does not run into the text behind it. -/

namespace ObjectQuery

open Token (separated spaced listSeparator)

namespace Token

def isBreak : Token → Bool
  | .space | .comma | .rparen => true
  | _ => false

/-- A token that only stands where an operand or a condition ends. Names are left out: the first
one of a column is followed by a point. -/
def isFinal : Token → Bool
  | .star | .int _ | .str _ | .param _ | .raw _ | .isNull | .isNotNull | .rparen => true
  | _ => false

theorem text_of_isBreak {t : Token} (h : t.isBreak = true) :
    ∃ c ∈ [' ', ',', ')'], t.text.toList = [c] := by
  cases t with
  | space => exact ⟨' ', by decide, rfl⟩
  | comma => exact ⟨',', by decide, rfl⟩
  | rparen => exact ⟨')', by decide, rfl⟩
  | _ => cases h

end Token

/-- A final token is the last one or has a break behind it. -/
def Parted (ts : List Token) : Prop :=
  ts.IsChain fun t next => t.isFinal = true → next.isBreak = true

/-- Tokens that may stand behind an operand. -/
structure Trailing (ts : List Token) : Prop where
  parted : Parted ts
  breaks : ∀ next ∈ ts.head?, next.isBreak = true

section

variable {t : Token} {ts us separator : List Token} {phrases : List (List Token)}

theorem head?_render (h : ∀ next ∈ ts.head?, next.isBreak = true) :
    ∀ c ∈ (render ts).toList.head?, c ∈ [' ', ',', ')'] := by
  cases ts with
  | nil => simp [render]
  | cons next rest =>
    obtain ⟨c, hc, htext⟩ := Token.text_of_isBreak (h next rfl)
    rw [toList_render_cons, htext]
    rintro _ ⟨⟩
    exact hc

namespace Parted

theorem nil : Parted [] :=
  List.isChain_nil

theorem singleton (t : Token) : Parted [t] :=
  List.isChain_singleton t

theorem cons (ht : t.isFinal = false) (h : Parted ts) : Parted (t :: ts) := by
  refine List.isChain_cons.mpr ⟨?_, h⟩
  intro next _ hfinal
  rw [ht] at hfinal
  cases hfinal

theorem append (ht : Parted ts) (hu : Trailing us) : Parted (ts ++ us) :=
  List.isChain_append.mpr ⟨ht, hu.parted, fun _ _ next hn _ => hu.breaks next hn⟩

theorem trailing (h : Parted (ts ++ t :: us)) (ht : t.isFinal = true) : Trailing us := by
  have hrest : Parted (t :: us) := List.IsChain.right_of_append h
  obtain ⟨hnext, hus⟩ := List.isChain_cons.mp hrest
  exact ⟨hus, fun next hn => hnext next hn ht⟩

end Parted

namespace Trailing

theorem nil : Trailing [] :=
  ⟨.nil, by simp⟩

theorem cons (hb : t.isBreak = true) (ht : t.isFinal = false) (h : Parted ts) :
    Trailing (t :: ts) := by
  refine ⟨h.cons ht, ?_⟩
  rintro next ⟨⟩
  exact hb

theorem rparen : Trailing [.rparen] := by
  refine ⟨.singleton _, ?_⟩
  rintro next ⟨⟩
  rfl

theorem spaced_append (ht : t.isFinal = false) (h : Parted ts) : Trailing (spaced t ++ ts) :=
  .cons rfl rfl (.cons ht (.cons rfl h))

theorem append (ht : Trailing ts) (hu : Trailing us) : Trailing (ts ++ us) := by
  refine ⟨ht.parted.append hu, ?_⟩
  cases ts with
  | nil => exact hu.breaks
  | cons t ts => exact ht.breaks

end Trailing

namespace Parted

theorem separated (hs : ∀ {ts}, Parted ts → Trailing (separator ++ ts))
    (h : ∀ ts ∈ phrases, Parted ts) : Parted (Token.separated separator phrases) := by
  induction phrases with
  | nil => exact .nil
  | cons ts rest ih =>
    have hts := h ts List.mem_cons_self
    have ih := ih fun us hu => h us (List.mem_cons_of_mem _ hu)
    cases rest with
    | nil => rwa [separated_singleton]
    | cons us rest =>
      rw [separated_cons_cons, List.append_assoc]
      exact hts.append (hs ih)

theorem list (h : ∀ ts ∈ phrases, Parted ts) : Parted (Token.separated listSeparator phrases) :=
  .separated (fun hts => .cons rfl rfl (.cons rfl hts)) h

theorem connected (ht : t.isFinal = false) (h : ∀ ts ∈ phrases, Parted ts) :
    Parted (Token.separated (spaced t) phrases) :=
  .separated (.spaced_append ht) h

end Parted

theorem Trailing.clause (ht : t.isFinal = false) (h : Parted (separated separator phrases)) :
    Trailing (Statement.clause t separator phrases) := by
  unfold Statement.clause
  split
  · exact .nil
  · exact .spaced_append ht h

end

namespace Expr

theorem isFinal_comparison (op : Comparison) : op.token.isFinal = false := by
  cases op <;> rfl

mutual

theorem parted_tokens : ∀ e : Expr, Parted e.tokens
  | .star | .int _ | .str _ | .param _ | .raw _ => .singleton _
  | .column _ field => .cons rfl (.cons rfl (.singleton (.ident field)))
  | .call name distinct args => by
    have hargs : Parted (Token.separated listSeparator (phrases args) ++ [.rparen]) :=
      (Parted.list (parted_phrases args)).append .rparen
    cases distinct with
    | false => exact .cons rfl (.cons rfl hargs)
    | true => exact .cons rfl (.cons rfl (.cons rfl (.cons rfl hargs)))
  | .compare op left right => by
    rw [tokens, List.append_assoc]
    exact (parted_tokens left).append
      (.spaced_append (isFinal_comparison op) (parted_tokens right))
  | .like e pattern => by
    rw [tokens, List.append_assoc]
    exact (parted_tokens e).append (.spaced_append rfl (parted_tokens pattern))
  | .in negated e name => by
    have hlist : Parted [.in, .space, .lparen, .param name, .rparen] := by
      have hname : Parted [.param name, .rparen] := (Parted.singleton _).append .rparen
      exact .cons rfl (.cons rfl (.cons rfl hname))
    rw [tokens, List.append_assoc, List.append_assoc]
    refine (parted_tokens e).append (.cons rfl rfl ?_)
    cases negated with
    | false => exact hlist
    | true => exact .cons rfl (.cons rfl hlist)
  | .between e low high => by
    have hbounds : Parted (low.tokens ++ (spaced .and ++ high.tokens)) :=
      (parted_tokens low).append (.spaced_append rfl (parted_tokens high))
    simp only [tokens, List.append_assoc]
    exact (parted_tokens e).append (.spaced_append rfl hbounds)
  | .isNull _ e => (parted_tokens e).append (.cons rfl rfl (.singleton _))
  | .and operands | .or operands => .connected rfl (parted_phrases operands)
  | .not e => .cons rfl (.cons rfl (parted_tokens e))
  | .paren e => .cons rfl ((parted_tokens e).append .rparen)

theorem parted_phrases : ∀ (es : List Expr), ∀ ts ∈ phrases es, Parted ts
  | [], _, h => by simp [phrases] at h
  | e :: rest, ts, h => by
    rcases List.mem_cons.mp h with rfl | h
    · exact parted_tokens e
    · exact parted_phrases rest ts h

end

end Expr

theorem Join.parted_tokens (j : Join) : Parted j.tokens :=
  .cons rfl (.cons rfl (.cons rfl (.cons rfl (.cons rfl
    (Trailing.spaced_append rfl (.singleton (.ident j.child))).parted))))

theorem Join.trailing_flatMap (js : List Join) :
    Trailing (js.flatMap fun j => .space :: j.tokens) := by
  induction js with
  | nil => exact .nil
  | cons j js ih =>
    have hj : Trailing (.space :: j.tokens) := .cons rfl rfl j.parted_tokens
    exact hj.append ih

theorem OrderKey.parted_tokens (k : OrderKey) : Parted k.tokens := by
  obtain ⟨ordinal, direction⟩ := k
  cases direction with
  | none => exact .singleton _
  | some direction =>
    exact (Parted.singleton _).append (.cons rfl rfl (.singleton direction.token))

theorem Statement.parted_tokens (s : Statement) : Parted s.tokens := by
  have hkeys : ∀ ts ∈ s.orderBy.map OrderKey.tokens, Parted ts := by
    intro ts hts
    obtain ⟨k, _, rfl⟩ := List.mem_map.mp hts
    exact k.parted_tokens
  have horder : Trailing (clause .orderBy listSeparator (s.orderBy.map OrderKey.tokens)) :=
    .clause rfl (.list hkeys)
  have hgroup : Trailing (clause .groupBy listSeparator (Expr.phrases s.groupBy)) :=
    .clause rfl (.list (Expr.parted_phrases s.groupBy))
  have hwhere : Trailing (clause .where (spaced .and) (Expr.phrases s.conditions)) :=
    .clause rfl (.connected rfl (Expr.parted_phrases s.conditions))
  have hroot : Parted s.rootTokens :=
    .cons rfl (Trailing.spaced_append rfl (.singleton (.ident s.root))).parted
  have hsource : Parted s.sourceTokens := by
    rw [sourceTokens, List.append_assoc]
    exact hroot.append ((Join.trailing_flatMap s.joins).append hwhere)
  have hitems : Parted (separated listSeparator (Expr.phrases s.select)) :=
    .list (Expr.parted_phrases s.select)
  have htail : Parted (s.sourceTokens ++ (clause .groupBy listSeparator (Expr.phrases s.groupBy) ++
      clause .orderBy listSeparator (s.orderBy.map OrderKey.tokens))) :=
    hsource.append (hgroup.append horder)
  have hselect := hitems.append (.spaced_append (t := .from) rfl htail)
  simp only [tokens, List.append_assoc] at hselect ⊢
  exact .cons rfl (.cons rfl hselect)

end ObjectQuery
