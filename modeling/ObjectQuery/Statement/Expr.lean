import ObjectQuery.Statement.Token

/-! Expressions of select items, conditions and group keys. -/

namespace ObjectQuery

inductive Comparison where
  | eq
  | ne
  | lt
  | gt
  | lte
  | gte
  deriving Repr, DecidableEq

def Comparison.token : Comparison → Token
  | .eq => .eq
  | .ne => .ne
  | .lt => .lt
  | .gt => .gt
  | .lte => .lte
  | .gte => .gte

/-- An `in` holds the name of its list parameter. Conjunctions and disjunctions are written
without parentheses; where they are needed the expression has a `paren`. -/
inductive Expr where
  | column (owner field : String)
  | star
  | int (n : Int)
  | str (s : String)
  | param (name : String)
  | call (name : String) (distinct : Bool) (args : List Expr)
  | compare (op : Comparison) (left right : Expr)
  | like (e pattern : Expr)
  | in (negated : Bool) (e : Expr) (name : String)
  | between (e low high : Expr)
  | isNull (negated : Bool) (e : Expr)
  | and (operands : List Expr)
  | or (operands : List Expr)
  | not (e : Expr)
  | paren (e : Expr)
  | raw (text : String)
  deriving Repr, BEq, Inhabited

namespace Expr

open Token (separated spaced listSeparator)

mutual

def tokens : Expr → List Token
  | .column owner field => [.ident owner, .dot, .ident field]
  | .star => [.star]
  | .int n => [.int n]
  | .str s => [.str s]
  | .param name => [.param name]
  | .call name distinct args =>
    [.func name, .lparen] ++ (if distinct then [.distinct, .space] else []) ++
      separated listSeparator (phrases args) ++ [.rparen]
  | .compare op left right => left.tokens ++ spaced op.token ++ right.tokens
  | .like e pattern => e.tokens ++ spaced .like ++ pattern.tokens
  | .in negated e name =>
    e.tokens ++ [.space] ++ (if negated then [.not, .space] else []) ++
      [.in, .space, .lparen, .param name, .rparen]
  | .between e low high =>
    e.tokens ++ spaced .between ++ low.tokens ++ spaced .and ++ high.tokens
  | .isNull negated e => e.tokens ++ [.space, if negated then .isNotNull else .isNull]
  | .and operands => separated (spaced .and) (phrases operands)
  | .or operands => separated (spaced .or) (phrases operands)
  | .not e => [.not, .space] ++ e.tokens
  | .paren e => [.lparen] ++ e.tokens ++ [.rparen]
  | .raw text => [.raw text]

def phrases : List Expr → List (List Token)
  | [] => []
  | e :: rest => e.tokens :: phrases rest

end

def text (e : Expr) : String :=
  render e.tokens

/-- In parentheses, unless the expression already is. -/
def parenthesized : Expr → Expr
  | .paren e => .paren e
  | e => .paren e

mutual

/-- The names of the parameters, from left to right. -/
def placeholders : Expr → List String
  | .param name => [name]
  | .call _ _ args => placeholdersOf args
  | .compare _ left right => left.placeholders ++ right.placeholders
  | .like e pattern => e.placeholders ++ pattern.placeholders
  | .in _ e name => e.placeholders ++ [name]
  | .between e low high => e.placeholders ++ low.placeholders ++ high.placeholders
  | .isNull _ e => e.placeholders
  | .and operands => placeholdersOf operands
  | .or operands => placeholdersOf operands
  | .not e => e.placeholders
  | .paren e => e.placeholders
  | _ => []

def placeholdersOf : List Expr → List String
  | [] => []
  | e :: rest => e.placeholders ++ placeholdersOf rest

end

end Expr

end ObjectQuery
