import ObjectQuery.Error
import ObjectQuery.Text.Blank
import ObjectQuery.Text.Case

/-! Aggregates of a projected column. -/

namespace ObjectQuery

/-- `locale` combines no rows: it picks the value of the best-matching localized row. -/
inductive Aggregate where
  | max
  | min
  | avg
  | sum
  | count
  | countDistinct
  | groupConcat
  | groupConcatDistinct
  | locale
  deriving Repr, DecidableEq

namespace Aggregate

def name : Aggregate → String
  | .max => "MAX"
  | .min => "MIN"
  | .avg => "AVG"
  | .sum => "SUM"
  | .count => "COUNT"
  | .countDistinct => "COUNT_DISTINCT"
  | .groupConcat => "GROUP_CONCAT"
  | .groupConcatDistinct => "GROUP_CONCAT_DISTINCT"
  | .locale => "LOCALE"

/-- Whether rows are combined. -/
def isGrouping (a : Aggregate) : Bool :=
  a ≠ .locale

def all : List Aggregate :=
  [.max, .min, .avg, .sum, .count, .countDistinct, .groupConcat, .groupConcatDistinct, .locale]

/-- Other names for an aggregate. -/
def synonyms : List (String × Aggregate) :=
  [("MAXIMUM", .max), ("MINIMUM", .min), ("AVERAGE", .avg)]

/-- Upper and lower case and white space around the name make no difference. -/
def parse (text : String) : Except CompileError Aggregate :=
  let key := Text.uppercase (Text.trim text)
  match (all.map fun a => (a.name, a)).lookup key, synonyms.lookup key with
  | some a, _ => .ok a
  | none, some a => .ok a
  | none, none => .error (.unsupportedAggregate text)

end Aggregate

end ObjectQuery
