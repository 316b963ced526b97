import ObjectQuery.Text.Case

/-! The tokens of a statement. Text is made of nothing else, and no blank is added between them. -/

namespace ObjectQuery

inductive Token where
  | select
  | from
  | where
  | and
  | or
  | not
  | as
  | leftOuterJoin
  | groupBy
  | orderBy
  | asc
  | desc
  | in
  | between
  | like
  | isNull
  | isNotNull
  | distinct
  | comma
  | dot
  | star
  | lparen
  | rparen
  | eq
  | ne
  | lt
  | gt
  | lte
  | gte
  | space
  /-- The name of an entity, a relation, an alias or an attribute. -/
  | ident (name : String)
  | param (name : String)
  | int (n : Int)
  | str (s : String)
  | func (name : String)
  /-- Predicate text taken over from an arbitrary restriction. -/
  | raw (text : String)
  deriving Repr, DecidableEq

namespace Token

/-- A string literal: a quote inside it is written twice. -/
def quoted (cs : List Char) : List Char :=
  '\'' :: cs.flatMap (fun c => if c = '\'' then ['\'', '\''] else [c]) ++ ['\'']

/-- An integer literal is a 64-bit word in two's complement. -/
def intText (n : Int) : String :=
  toString (Int64.ofInt n).toInt

def text : Token → String
  | .select => "SELECT"
  | .from => "FROM"
  | .where => "WHERE"
  | .and => "AND"
  | .or => "OR"
  | .not => "NOT"
  | .as => "AS"
  | .leftOuterJoin => "LEFT OUTER JOIN"
  | .groupBy => "GROUP BY"
  | .orderBy => "ORDER BY"
  | .asc => "ASC"
  | .desc => "DESC"
  | .in => "IN"
  | .between => "BETWEEN"
  | .like => "LIKE"
  | .isNull => "IS NULL"
  | .isNotNull => "IS NOT NULL"
  | .distinct => "DISTINCT"
  | .comma => ","
  | .dot => "."
  | .star => "*"
  | .lparen => "("
  | .rparen => ")"
  | .eq => "="
  | .ne => "<>"
  | .lt => "<"
  | .gt => ">"
  | .lte => "<="
  | .gte => ">="
  | .space => " "
  | .ident name => name
  | .param name => ":" ++ name
  | .int n => intText n
  | .str s => String.ofList (quoted s.toList)
  | .func name => Text.uppercase name
  | .raw text => text

/-- The tokens of several phrases with a separator between them. -/
def separated (separator : List Token) (phrases : List (List Token)) : List Token :=
  List.intercalate separator phrases

/-- The separator of a list: a comma and a blank. -/
def listSeparator : List Token :=
  [.comma, .space]

/-- A phrase with a blank on both sides. -/
def spaced (token : Token) : List Token :=
  [.space, token, .space]

end Token

/-- The text of tokens in a row. -/
def render (tokens : List Token) : String :=
  String.join (tokens.map Token.text)

end ObjectQuery
