import ObjectQuery.Statement.Basic

/-! The text of a statement, clause by clause: the select list, the source behind `FROM`, and the
grouping and order behind that. -/

namespace ObjectQuery

open Token (separated spaced listSeparator)

theorem render_append (ts us : List Token) : render (ts ++ us) = render ts ++ render us := by
  rw [render, List.map_append, String.join_append]
  rfl

theorem toList_render_cons (t : Token) (ts : List Token) :
    (render (t :: ts)).toList = t.text.toList ++ (render ts).toList := by
  rw [render, List.map_cons, String.join_cons, String.toList_append]
  rfl

theorem separated_singleton (separator phrase : List Token) :
    separated separator [phrase] = phrase :=
  List.intercalate_singleton

theorem separated_cons_cons (separator phrase next : List Token) (rest : List (List Token)) :
    separated separator (phrase :: next :: rest) =
      phrase ++ separator ++ separated separator (next :: rest) :=
  List.intercalate_cons_cons

theorem render_separated (separator : List Token) (phrases : List (List Token)) :
    render (separated separator phrases) =
      (render separator).intercalate (phrases.map render) := by
  induction phrases with
  | nil => rfl
  | cons phrase rest ih =>
    cases rest with
    | nil => simp [separated]
    | cons next rest =>
      rw [separated_cons_cons, render_append, render_append, ih]
      simp only [List.map_cons, String.intercalate_cons_cons]

theorem render_spaced (token : Token) : render (spaced token) = " " ++ token.text ++ " " := by
  have hspace : Token.space.text = " " := rfl
  simp only [render, spaced, List.map_cons, List.map_nil, String.join_cons, String.join_nil, hspace,
    String.append_empty, String.append_assoc]

theorem Expr.phrases_eq_map (es : List Expr) : Expr.phrases es = es.map Expr.tokens := by
  induction es with
  | nil => rfl
  | cons e rest ih => rw [Expr.phrases, ih, List.map_cons]

namespace Statement

theorem render_clause (keyword : Token) (separator : List Token) (phrases : List (List Token)) :
    render (clause keyword separator phrases) =
      if phrases.isEmpty then ""
      else " " ++ keyword.text ++ " " ++ (render separator).intercalate (phrases.map render) := by
  unfold clause
  split
  · rfl
  · rw [render_append, render_separated, render_spaced]

def itemsText (s : Statement) : String :=
  ", ".intercalate (s.select.map Expr.text)

def sourceText (s : Statement) : String :=
  render s.sourceTokens

/-- The text of the grouping and the order, each with the keyword in front of it. -/
def tailText (s : Statement) : String :=
  render (clause .groupBy listSeparator (Expr.phrases s.groupBy)) ++
    render (clause .orderBy listSeparator (s.orderBy.map OrderKey.tokens))

theorem text_eq (s : Statement) :
    s.text = "SELECT " ++ s.itemsText ++ " FROM " ++ s.sourceText ++ s.tailText := by
  have hitems : render (separated listSeparator (Expr.phrases s.select)) = s.itemsText := by
    rw [render_separated, Expr.phrases_eq_map, List.map_map]
    rfl
  have hselect : render [.select, .space] = "SELECT " := by decide
  have hfrom : render (spaced .from) = " FROM " := by decide
  simp only [text, tokens, render_append, hitems, hselect, hfrom, sourceText, tailText,
    String.append_assoc]

theorem tailText_eq_or (s : Statement) :
    s.tailText = "" ∨ (∃ rest, s.tailText = " GROUP BY " ++ rest) ∨
      ∃ rest, s.tailText = " ORDER BY " ++ rest := by
  have hgroup : " " ++ Token.groupBy.text ++ " " = " GROUP BY " := by decide
  have horder : " " ++ Token.orderBy.text ++ " " = " ORDER BY " := by decide
  rw [tailText, render_clause, render_clause, hgroup, horder]
  split
  · split
    · exact .inl rfl
    · exact .inr (.inr ⟨_, String.empty_append⟩)
  · rw [String.append_assoc]
    exact .inr (.inl ⟨_, rfl⟩)

theorem tailText_eq_empty {s : Statement} (hg : s.groupBy = []) (ho : s.orderBy = []) :
    s.tailText = "" := by
  rw [tailText, hg, ho]
  rfl

end Statement

end ObjectQuery
