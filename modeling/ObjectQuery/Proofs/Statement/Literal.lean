import ObjectQuery.Proofs.Statement.Parted

/-! String literals in the text of a statement. A literal is read back from its text, whatever
quotes its value has, and the reader stops at its closing quote. In expressions and statements a
literal is never followed by a quote, so this holds wherever it stands. -/

namespace ObjectQuery

/-- The value of a literal whose opening quote is read already, and what is behind the literal. Two
quotes stand for one, and a single quote closes the literal. -/
def bodyAt? : List Char → Option (List Char × List Char)
  | [] => none
  | '\'' :: '\'' :: rest => (bodyAt? rest).map fun r => ('\'' :: r.1, r.2)
  | '\'' :: rest => some ([], rest)
  | c :: rest => (bodyAt? rest).map fun r => (c :: r.1, r.2)

/-- The value of the literal that a text begins with, and the text behind the literal. -/
def literalAt? (text : String) : Option (String × String) :=
  match text.toList with
  | '\'' :: rest => (bodyAt? rest).map fun r => (String.ofList r.1, String.ofList r.2)
  | _ => none

/-- What is written between the quotes of a literal. -/
def doubled (cs : List Char) : List Char :=
  cs.flatMap fun c => if c = '\'' then ['\'', '\''] else [c]

theorem doubled_quote (cs : List Char) : doubled ('\'' :: cs) = '\'' :: '\'' :: doubled cs :=
  rfl

theorem doubled_cons {c : Char} (h : c ≠ '\'') (cs : List Char) :
    doubled (c :: cs) = c :: doubled cs := by
  rw [doubled, List.flatMap_cons, if_neg h]
  rfl

theorem bodyAt?_close {rest : List Char} (h : rest.head? ≠ some '\'') :
    bodyAt? ('\'' :: rest) = some ([], rest) := by
  cases rest with
  | nil => rfl
  | cons c rest =>
    have hc : c ≠ '\'' := fun hc => h (congrArg some hc)
    simp [bodyAt?, hc]

theorem bodyAt?_cons {c : Char} (h : c ≠ '\'') (rest : List Char) :
    bodyAt? (c :: rest) = (bodyAt? rest).map fun r => (c :: r.1, r.2) := by
  simp [bodyAt?, h]

theorem bodyAt?_doubled {rest : List Char} (h : rest.head? ≠ some '\'') (value : List Char) :
    bodyAt? (doubled value ++ '\'' :: rest) = some (value, rest) := by
  induction value with
  -- Only the closing quote is left, and what follows shows that it is no half of a doubled one.
  | nil => exact bodyAt?_close h
  | cons c value ih =>
    by_cases hc : c = '\''
    · subst hc
      rw [doubled_quote, List.cons_append, List.cons_append, bodyAt?, ih]
      rfl
    · rw [doubled_cons hc, List.cons_append, bodyAt?_cons hc, ih]
      rfl

theorem eq_doubled_of_bodyAt? {cs value rest : List Char} (h : bodyAt? cs = some (value, rest)) :
    cs = doubled value ++ '\'' :: rest ∧ rest.head? ≠ some '\'' := by
  fun_induction bodyAt? cs generalizing value with
  | case1 => cases h
  | case2 tail ih =>
    obtain ⟨⟨value', _⟩, hbody, hr⟩ := Option.map_eq_some_iff.mp h
    cases hr
    obtain ⟨htail, hrest⟩ := ih hbody
    exact ⟨congrArg (['\'', '\''] ++ ·) htail, hrest⟩
  | case3 tail hsingle =>
    cases h
    refine ⟨rfl, fun hhead => ?_⟩
    obtain ⟨tail', rfl⟩ := List.head?_eq_some_iff.mp hhead
    exact hsingle tail' rfl
  | case4 c tail _ hc ih =>
    obtain ⟨⟨value', _⟩, hbody, hr⟩ := Option.map_eq_some_iff.mp h
    cases hr
    obtain ⟨htail, hrest⟩ := ih hbody
    rw [doubled_cons hc]
    exact ⟨congrArg (c :: ·) htail, hrest⟩

theorem toList_text_str_append (s rest : String) :
    ((Token.str s).text ++ rest).toList = '\'' :: (doubled s.toList ++ '\'' :: rest.toList) := by
  simp [Token.text, Token.quoted, doubled]

theorem literalAt?_eq_some_iff {text s rest : String} : literalAt? text = some (s, rest) ↔
    text = (Token.str s).text ++ rest ∧ rest.toList.head? ≠ some '\'' := by
  constructor
  · intro h
    unfold literalAt? at h
    split at h
    · rename_i cs htext
      obtain ⟨⟨value, tail⟩, hbody, hr⟩ := Option.map_eq_some_iff.mp h
      cases hr
      obtain ⟨rfl, hrest⟩ := eq_doubled_of_bodyAt? hbody
      refine ⟨?_, by simpa using hrest⟩
      rw [← String.toList_inj, htext, toList_text_str_append, String.toList_ofList,
        String.toList_ofList]
    · cases h
  · rintro ⟨rfl, hrest⟩
    rw [literalAt?, toList_text_str_append]
    simp [bodyAt?_doubled hrest]

/-- With texts behind them that begin with no quote, different literals look different. -/
theorem text_str_append_inj {s s' rest rest' : String} (h : rest.toList.head? ≠ some '\'')
    (h' : rest'.toList.head? ≠ some '\'')
    (heq : (Token.str s).text ++ rest = (Token.str s').text ++ rest') : s = s' ∧ rest = rest' := by
  have hs : literalAt? ((Token.str s).text ++ rest) = some (s, rest) :=
    literalAt?_eq_some_iff.mpr ⟨rfl, h⟩
  have hs' := literalAt?_eq_some_iff.mpr ⟨heq, h'⟩
  exact Prod.mk.inj (Option.some.inj (hs.symm.trans hs'))

/-- Wherever a literal stands among the tokens, a reader that begins at its opening quote ends
behind its closing one. Any text may follow the tokens that does not begin with a quote. -/
def Enclosed (ts : List Token) : Prop :=
  ∀ (before after : List Token) (s rest : String), ts = before ++ .str s :: after →
    rest.toList.head? ≠ some '\'' →
      render ts ++ rest = render before ++ ((Token.str s).text ++ (render after ++ rest)) ∧
        literalAt? ((Token.str s).text ++ (render after ++ rest)) = some (s, render after ++ rest)

theorem Parted.enclosed {ts : List Token} (h : Parted ts) : Enclosed ts := by
  rintro before after s rest rfl hrest
  constructor
  · rw [render_append, ← String.toList_inj]
    simp [toList_render_cons]
  · refine literalAt?_eq_some_iff.mpr ⟨rfl, ?_⟩
    have hbreaks := head?_render (h.trailing rfl).breaks
    rw [String.toList_append]
    cases hafter : (render after).toList with
    | nil => exact hrest
    | cons c cs =>
      have hc := hbreaks c (by simp [hafter])
      rintro ⟨⟩
      revert hc
      decide

/-- Without a break between them two literals are read as one. -/
example : literalAt? (render [.str "a", .str "b"]) = some ("a'b", "") := by decide

/-- No value gets out of the quotes of its literal: a literal and nothing else is read where it was
written, other literals look different, and no literal takes in what follows it. -/
theorem literals_enclosed :
    (∀ text s rest : String, literalAt? text = some (s, rest) ↔
      text = (Token.str s).text ++ rest ∧ rest.toList.head? ≠ some '\'') ∧
    Function.Injective (fun s => (Token.str s).text) ∧
    (∀ e : Expr, Enclosed e.tokens) ∧ ∀ s : Statement, Enclosed s.tokens := by
  refine ⟨fun text s rest => literalAt?_eq_some_iff, ?_, fun e => e.parted_tokens.enclosed,
    fun s => s.parted_tokens.enclosed⟩
  intro s s' h
  have hempty : "".toList.head? ≠ some '\'' := by decide
  exact (text_str_append_inj hempty hempty (congrArg (· ++ "") h)).1

theorem literals_enclosed_concat :
    literalAt? "'O''Brien', '''') = '' AND a = 'b'" =
      some ("O'Brien", ", '''') = '' AND a = 'b'") ∧
    (Token.str "'").text ≠ (Token.str "''").text := by
  obtain ⟨_, hinj, henclosed, _⟩ := literals_enclosed
  constructor
  · have hfirst := henclosed
      (.compare .eq (.call "concat" false [.str "O'Brien", .str "'"]) (.str ""))
      [.func "concat", .lparen]
      [.comma, .space, .str "'", .rparen, .space, .eq, .space, .str ""]
      "O'Brien" " AND a = 'b'" rfl (by decide)
    exact hfirst.2
  · exact hinj.ne (by decide)

end ObjectQuery
