import ObjectQuery.Clause.Filter
import ObjectQuery.Proofs.Statement.Placeholders

/-! Clean expressions: they have no colon but those in front of their parameters. -/

namespace ObjectQuery

open Token (separated spaced listSeparator)

theorem Token.isClean_of_not_mem {t : Token} (hp : t.params = []) (h : ':' ∉ t.text.toList) :
    t.isClean = true := by
  cases t with
  | param name => cases hp
  | _ => simpa [isClean] using h

theorem Token.isClean_int (n : Int) : (Token.int n).isClean = true := by
  have hdigits (m : Nat) : ':' ∉ (Nat.repr m).toList := by
    rw [Nat.toList_repr]
    intro hm
    exact absurd (Nat.isDigit_of_mem_toDigits (by omega) (by omega) hm) (by decide)
  apply isClean_of_not_mem rfl
  change ':' ∉ (Int.repr (Int64.ofInt n).toInt).toList
  cases (Int64.ofInt n).toInt with
  | ofNat m => exact hdigits m
  | negSucc m => simpa [Int.repr] using hdigits (m + 1)

namespace Clean

variable {ts us : List Token}

theorem append (ht : Clean ts) (hu : Clean us) : Clean (ts ++ us) :=
  List.forall_mem_append.mpr ⟨ht, hu⟩

theorem separated {separator : List Token} {phrases : List (List Token)} (hs : Clean separator)
    (h : ∀ ts ∈ phrases, Clean ts) : Clean (separated separator phrases) := by
  induction phrases with
  | nil => simp [Clean, Token.separated]
  | cons ts rest ih =>
    have ih := ih fun us hu => h us (List.mem_cons_of_mem _ hu)
    have hts := h ts List.mem_cons_self
    cases rest with
    | nil => rwa [separated_singleton]
    | cons us rest =>
      rw [separated_cons_cons]
      exact (hts.append hs).append ih

theorem flatMap {α : Type} {f : α → List Token} {xs : List α} (h : ∀ x ∈ xs, Clean (f x)) :
    Clean (xs.flatMap f) := by
  intro t ht
  obtain ⟨x, hx, ht⟩ := List.mem_flatMap.mp ht
  exact h x hx t ht

theorem clause {keyword : Token} {separator : List Token} {phrases : List (List Token)}
    (hk : Clean (spaced keyword)) (hs : Clean separator) (h : ∀ ts ∈ phrases, Clean ts) :
    Clean (Statement.clause keyword separator phrases) := by
  unfold Statement.clause
  split
  · simp [Clean]
  · exact hk.append (.separated hs h)

theorem ident {name : String} (h : ':' ∉ name.toList) : Clean [.ident name] := by
  simpa [Clean] using Token.isClean_of_not_mem (t := .ident name) rfl h

theorem param {name : String} (h : isIdentifier name = true) : Clean [.param name] := by
  intro t ht
  obtain rfl := List.mem_singleton.mp ht
  exact h

end Clean

namespace Expr

def IsClean (e : Expr) : Prop :=
  Clean e.tokens

variable {e left right low high : Expr} {es : List Expr} {name : String}

theorem clean_phrases (h : ∀ e ∈ es, e.IsClean) : ∀ ts ∈ phrases es, Clean ts := by
  rw [phrases_eq_map]
  intro ts hts
  obtain ⟨e, he, rfl⟩ := List.mem_map.mp hts
  exact h e he

theorem isClean_column {owner field : String} (ho : ':' ∉ owner.toList) (hf : ':' ∉ field.toList) :
    (column owner field).IsClean := by
  have hdot : Clean [.dot] := by decide
  exact (Clean.ident ho).append (hdot.append (.ident hf))

theorem isClean_int (n : Int) : (int n).IsClean := by
  simpa [IsClean, tokens, Clean] using Token.isClean_int n

theorem isClean_blanks (n : Nat) : (str (String.ofList (List.replicate n ' '))).IsClean := by
  have hquoted : ':' ∉ Token.quoted (List.replicate n ' ') := by simp [Token.quoted]
  have htext : ':' ∉ (Token.str (String.ofList (List.replicate n ' '))).text.toList := by
    simpa [Token.text] using hquoted
  simpa [IsClean, tokens, Clean] using Token.isClean_of_not_mem rfl htext

theorem isClean_call (distinct : Bool) (hn : Clean [.func name]) (h : ∀ e ∈ es, e.IsClean) :
    (call name distinct es).IsClean := by
  have hopen : Clean [.lparen] := by decide
  have hdistinct : Clean (if distinct then [Token.distinct, .space] else []) := by
    cases distinct <;> decide
  have hargs : Clean (Token.separated listSeparator (phrases es)) :=
    .separated (by decide) (clean_phrases h)
  exact (((hn.append hopen).append hdistinct).append hargs).append (by decide)

theorem isClean_compare (op : Comparison) (hl : left.IsClean) (hr : right.IsClean) :
    (compare op left right).IsClean :=
  (Clean.append hl (by cases op <;> decide)).append hr

theorem isClean_like (hl : left.IsClean) (hr : right.IsClean) : (like left right).IsClean :=
  (Clean.append hl (by decide)).append hr

theorem isClean_param (h : isIdentifier name = true) : (param name).IsClean :=
  .param h

theorem isClean_in (negated : Bool) (h : e.IsClean) (hn : isIdentifier name = true) :
    (Expr.in negated e name).IsClean := by
  have hnot : Clean (if negated then [Token.not, .space] else []) := by
    cases negated <;> decide
  have hopen : Clean [.in, .space, .lparen] := by decide
  have hclose : Clean [.rparen] := by decide
  exact ((Clean.append h (by decide)).append hnot).append
    (hopen.append ((Clean.param hn).append hclose))

theorem isClean_between (h : e.IsClean) (hl : low.IsClean) (hh : high.IsClean) :
    (between e low high).IsClean :=
  (((Clean.append h (by decide)).append hl).append (by decide)).append hh

theorem isClean_isNull (negated : Bool) (h : e.IsClean) : (isNull negated e).IsClean :=
  Clean.append h (by cases negated <;> decide)

theorem isClean_paren (h : e.IsClean) : (paren e).IsClean := by
  have hopen : Clean [.lparen] := by decide
  exact (hopen.append h).append (by decide)

theorem isClean_parenthesized (h : e.IsClean) : e.parenthesized.IsClean := by
  cases e with
  | paren e => exact h
  | _ => exact isClean_paren h

theorem isClean_not (h : e.IsClean) : (not e).IsClean := by
  have hnot : Clean [.not, .space] := by decide
  exact hnot.append h

theorem isClean_and (h : ∀ e ∈ es, e.IsClean) : (and es).IsClean :=
  .separated (by decide) (clean_phrases h)

theorem isClean_or (h : ∀ e ∈ es, e.IsClean) : (or es).IsClean :=
  .separated (by decide) (clean_phrases h)

theorem isClean_combine {connective : List Expr → Expr}
    (hc : (∀ e ∈ es, e.IsClean) → (connective es).IsClean) (h : ∀ e ∈ es, e.IsClean) :
    ∀ e ∈ combine connective es, e.IsClean := by
  match es with
  | [] => simp [combine]
  | [e] => simpa [combine] using h
  | e :: g :: rest => simpa [combine] using isClean_paren (hc h)

end Expr

end ObjectQuery
