import ObjectQuery.Proofs.Compiler.Parts
import ObjectQuery.Proofs.Statement.Text

/-! Counting. The statement that counts the entities of a query reads the same rows as the one that
fetches them: its source, conditions and arguments are the same, whichever way it is derived. -/

namespace ObjectQuery

namespace Statement

/-- Everything between `FROM` and the grouping is the same. -/
structure SameSource (s t : Statement) : Prop where
  entity : s.entity = t.entity
  root : s.root = t.root
  joins : s.joins = t.joins
  conditions : s.conditions = t.conditions

theorem sameSource_projecting (s : Statement) (item : Expr) : (s.projecting item).SameSource s :=
  ⟨rfl, rfl, rfl, rfl⟩

theorem SameSource.sourceText_eq {s t : Statement} (h : s.SameSource t) :
    s.sourceText = t.sourceText := by
  simp only [sourceText, sourceTokens, rootTokens, h.entity, h.root, h.joins, h.conditions]

theorem text_projecting (s : Statement) (item : Expr) :
    (s.projecting item).text = "SELECT " ++ item.text ++ " FROM " ++ s.sourceText := by
  have hitems : (s.projecting item).itemsText = item.text := String.intercalate_singleton
  have htail : (s.projecting item).tailText = "" := tailText_eq_empty rfl rfl
  rw [text_eq, hitems, htail, (s.sameSource_projecting item).sourceText_eq, String.append_empty]

end Statement

namespace Compiler

theorem text_countItem (c : Compiler) :
    c.countItem.text = "COUNT(DISTINCT " ++ c.resolver.root ++ "." ++ c.names.idField ++ ")" := by
  have hopen : render [.func "count", .lparen, .distinct, .space] = "COUNT(DISTINCT " := by decide
  have htokens : c.countItem.tokens = [.func "count", .lparen, .distinct, .space] ++
      [.ident c.resolver.root, .dot, .ident c.names.idField, .rparen] := rfl
  rw [Expr.text, htokens, render_append, hopen]
  simp [render, Token.text, String.append_assoc]

/-- Where the rows can be fetched they can be counted. -/
theorem compileCount_of_compile {c : Compiler} {q : Query} {s : Compiled}
    (h : c.compile q = .ok s) :
    ∃ remarks, c.compileCount q =
      .ok ⟨s.statement.projecting c.countItem, s.parameters, remarks⟩ := by
  rw [compile_eq] at h
  obtain ⟨_, hcheck, h⟩ := bind_eq_ok h
  obtain ⟨⟨conditions, b⟩, hc, h⟩ := bind_eq_ok h
  cases h
  have he : q.hasEntity = true := (check_eq_ok_iff.mp hcheck).1
  have hcount : countCheck q = .ok () := by
    rw [countCheck, hcheck, he]
    split <;> rfl
  have hc' : c.countConditions q = .ok (conditions, b) := by
    unfold countConditions
    split
    · exact hc
    · exact joined_of_rowConditions hc
  rw [compileCount_eq, hcount, hc']
  exact ⟨_, rfl⟩

theorem compileCount_of_compile_error {c : Compiler} {q : Query} {e : CompileError}
    (hid : q.includeId = true) (h : c.compile q = .error e) : c.compileCount q = .error e := by
  rw [compileCount, if_pos hid, h]
  rfl

/-- The two statements agree in all but the select list, the grouping and the order, and in the
arguments. Where the id is included, what cannot be fetched cannot be counted either. -/
theorem compileCount_agrees (c : Compiler) (q : Query) :
    (∀ s, c.compile q = .ok s → ∃ count, c.compileCount q = .ok count ∧
      count.statement.SameSource s.statement ∧ count.parameters = s.parameters ∧
      count.statement.select = [.call "count" true [.column c.resolver.root c.names.idField]] ∧
      count.statement.groupBy = [] ∧ count.statement.orderBy = [] ∧
      ∃ source tail,
        count.text = "SELECT COUNT(DISTINCT " ++ c.resolver.root ++ "." ++ c.names.idField ++
          ") FROM " ++ source ∧
        s.text = "SELECT " ++ ", ".intercalate (s.statement.select.map Expr.text) ++ " FROM " ++
          source ++ tail ∧
        (tail = "" ∨ (∃ rest, tail = " GROUP BY " ++ rest) ∨
          ∃ rest, tail = " ORDER BY " ++ rest)) ∧
    (q.includeId = true → ∀ e, c.compile q = .error e → c.compileCount q = .error e) := by
  constructor
  · intro s h
    obtain ⟨remarks, hcount⟩ := compileCount_of_compile h
    have htext : (s.statement.projecting c.countItem).text = "SELECT COUNT(DISTINCT " ++
        c.resolver.root ++ "." ++ c.names.idField ++ ") FROM " ++ s.statement.sourceText := by
      have hopen : "SELECT COUNT(DISTINCT " = "SELECT " ++ "COUNT(DISTINCT " := by decide
      have hclose : ") FROM " = ")" ++ " FROM " := by decide
      rw [Statement.text_projecting, text_countItem, hopen, hclose]
      simp only [String.append_assoc]
    exact ⟨_, hcount, s.statement.sameSource_projecting c.countItem, rfl, rfl, rfl, rfl,
      s.statement.sourceText, s.statement.tailText, htext, s.statement.text_eq,
      s.statement.tailText_eq_or⟩
  · intro hid e h
    exact compileCount_of_compile_error hid h

/-- Grouped and sorted rows without an id, with arguments of a filter and of a locale. -/
def groupedQuery : Query where
  entity := "Order"
  columns := [⟨"customer.name", none⟩, ⟨"lines.quantity", some .sum⟩,
    ⟨"lines.localeData.title", some .locale⟩]
  filter := some (.not (.isIn "customer.code" [.string "A", .string "B"]))
  sort := [some ⟨1, false⟩]
  locale := ⟨"en", "US", ""⟩
  includeId := false
  distinctId := false
  totalCount := false

theorem compileCount_agrees_grouped :
    (∃ s count : Compiled, standard.compile groupedQuery = .ok s ∧
      s.parameters.names = ["customercode", "lineslocaleDatalocale"] ∧
      standard.compileCount groupedQuery = .ok count ∧
      count.statement.SameSource s.statement ∧ count.parameters = s.parameters) ∧
    standard.compileCount { groupedQuery with includeId := true, sort := [none] } =
      .error (.nullSortDescriptor 0) := by
  constructor
  · obtain ⟨s, hs, hn⟩ : ∃ s : Compiled, standard.compile groupedQuery = .ok s ∧
        s.parameters.names = ["customercode", "lineslocaleDatalocale"] := ⟨_, rfl, rfl⟩
    obtain ⟨count, hc, hsource, hparameters, _⟩ := (compileCount_agrees _ _).1 s hs
    exact ⟨s, count, hs, hn, hc, hsource, hparameters⟩
  · exact (compileCount_agrees _ _).2 rfl _ rfl

end Compiler
end ObjectQuery
