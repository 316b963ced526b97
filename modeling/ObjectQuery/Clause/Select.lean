import ObjectQuery.Convention
import ObjectQuery.Path
import ObjectQuery.Query.Basic
import ObjectQuery.Statement.Expr

/-! The select list: the id, if it is included, and one item for every column. -/

namespace ObjectQuery

/-- A star that follows no relation stands for the whole row. -/
def ResolvedPath.expr (p : ResolvedPath) : Expr :=
  if p.field = "*" ∧ !p.isRelated then .star else .column p.owner p.field

namespace Expr

def function (name : String) (args : List Expr) : Expr :=
  .call name false args

/-- The locale code of a row cut or filled up with blanks to `width` characters, so that codes
compare in front of the value. -/
def localeKey (code : Expr) (width : Nat) : Expr :=
  let filler := String.ofList (List.replicate width ' ')
  function "substring"
    [function "concat" [function "coalesce" [code, .str ""], .str filler], .int 1, .int width]

/-- The value of the row with the greatest locale code. -/
def localized (code value : Expr) (width : Nat) : Expr :=
  function "substring"
    [function "max" [function "concat" [localeKey code width, value]], .int (width + 1)]

end Expr

open ObjectQuery.Expr (function)

def idExpr (names : Conventions) (resolver : Resolver) : Expr :=
  .column resolver.root names.idField

def Column.item (names : Conventions) (resolver : Resolver) (c : Column) : Expr :=
  let p := resolver.resolve c.path
  match c.aggregate with
  | none => p.expr
  | some .max => function "max" [p.expr]
  | some .min => function "min" [p.expr]
  | some .avg => function "avg" [p.expr]
  | some .sum => function "sum" [p.expr]
  | some .count => function "count" [p.expr]
  | some .countDistinct => .call "count" true [p.expr]
  | some .groupConcat => function "group_concat" [p.expr]
  | some .groupConcatDistinct => function "group_concat_distinct" [p.expr]
  | some .locale => .localized (.column p.owner names.localeField) p.expr names.localeWidth

def Query.idItem (names : Conventions) (resolver : Resolver) (q : Query) : Expr :=
  if q.distinctId then function "distinct" [idExpr names resolver] else idExpr names resolver

def Query.items (names : Conventions) (resolver : Resolver) (q : Query) : List Expr :=
  (if q.includeId then [q.idItem names resolver] else []) ++
    q.columns.map (Column.item names resolver)

/-- How many characters a text can hold. -/
def maxTextLength : Nat := 0x7FFFFFFFFFFFFFFF

/-- The select list, unless the code of a locale is filled up with more blanks than there can be. -/
def Query.select (names : Conventions) (resolver : Resolver) (q : Query) :
    Except CompileError (List Expr) :=
  if q.columns.any (·.aggregate = some .locale) ∧ maxTextLength < names.localeWidth then
    .error .endlessPrefix
  else .ok (q.items names resolver)

end ObjectQuery
