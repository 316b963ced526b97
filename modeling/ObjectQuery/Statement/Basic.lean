import ObjectQuery.Statement.Expr

/-! Statements, clause by clause. -/

namespace ObjectQuery

/-- Follows a relation from an alias bound before and binds the entity it arrives at to another. -/
structure Join where
  parent : String
  relation : String
  child : String
  deriving Repr, DecidableEq, Inhabited

inductive Direction where
  | asc
  | desc
  deriving Repr, DecidableEq

namespace Direction

def ofAscending (ascending : Bool) : Direction :=
  if ascending then .asc else .desc

def token : Direction → Token
  | .asc => .asc
  | .desc => .desc

end Direction

/-- A place in the select list, counted from one. -/
structure OrderKey where
  ordinal : Nat
  direction : Option Direction
  deriving Repr, DecidableEq

/-- The conditions hold together. -/
structure Statement where
  select : List Expr
  entity : String
  root : String
  joins : List Join
  conditions : List Expr
  groupBy : List Expr
  orderBy : List OrderKey
  deriving Repr, BEq

open Token (separated spaced listSeparator)

def Join.tokens (j : Join) : List Token :=
  [.leftOuterJoin, .space, .ident j.parent, .dot, .ident j.relation] ++ spaced .as ++
    [.ident j.child]

def OrderKey.tokens (k : OrderKey) : List Token :=
  .int k.ordinal :: k.direction.elim [] fun direction => [.space, direction.token]

namespace Statement

/-- Sources and conditions are kept; grouping and order have no part in a single projection. -/
def projecting (s : Statement) (item : Expr) : Statement :=
  { s with select := [item], groupBy := [], orderBy := [] }

def rootTokens (s : Statement) : List Token :=
  .ident s.entity :: spaced .as ++ [.ident s.root]

/-- A clause that is left out when it has no phrase. -/
def clause (keyword : Token) (separator : List Token) (phrases : List (List Token)) :
    List Token :=
  if phrases.isEmpty then [] else spaced keyword ++ separated separator phrases

/-- What stands between `FROM` and the grouping. -/
def sourceTokens (s : Statement) : List Token :=
  s.rootTokens ++ s.joins.flatMap (fun j => .space :: j.tokens) ++
    clause .where (spaced .and) (Expr.phrases s.conditions)

def tokens (s : Statement) : List Token :=
  [.select, .space] ++ separated listSeparator (Expr.phrases s.select) ++ spaced .from ++
    s.sourceTokens ++ clause .groupBy listSeparator (Expr.phrases s.groupBy) ++
      clause .orderBy listSeparator (s.orderBy.map OrderKey.tokens)

def text (s : Statement) : String :=
  render s.tokens

/-- The names of the parameters of the whole statement, from left to right. -/
def placeholders (s : Statement) : List String :=
  Expr.placeholdersOf s.select ++ Expr.placeholdersOf s.conditions ++
    Expr.placeholdersOf s.groupBy

end Statement

end ObjectQuery
