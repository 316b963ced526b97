import ObjectQuery.Clause.Select
import ObjectQuery.Parameter

/-! The condition that a filter tree compiles to. Values are bound to parameters named after the
attribute they are compared with. -/

namespace ObjectQuery

namespace Operator

def comparison? : Operator → Option Comparison
  | .equals => some .eq
  | .notEquals => some .ne
  | .greaterThan => some .gt
  | .greaterThanOrEqual => some .gte
  | .lessThan => some .lt
  | .lessThanOrEqual => some .lte
  | _ => none

/-- The `LIKE` pattern of a text, for the operators that match one. -/
def pattern? (text : String) : Operator → Option String
  | .like => some text
  | .startsWith => some (text ++ "%")
  | .contains => some ("%" ++ text ++ "%")
  | _ => none

end Operator

/-- The text a value is matched as: a string is taken without quotes. -/
def Value.patternText : Value → String
  | .string s => s
  | v => v.text

/-- A comparison with one value; `none` where the operator does not compare with null. -/
def scalarCondition (target : Expr) (base : String) (operator : Operator) (v : Value)
    (b : Bindings) : Option (Expr × Bindings) :=
  if v.isNull then
    match operator with
    | .equals => some (.isNull false target, b)
    | .notEquals => some (.isNull true target, b)
    | _ => none
  else
    match operator.comparison?, operator.pattern? v.patternText with
    | some op, _ =>
      let (name, b) := b.bind base (.scalar v)
      some (.compare op target (.param name), b)
    | none, some pattern =>
      let (name, b) := b.bind base (.scalar (.string pattern))
      some (.like target (.param name), b)
    | none, none => none

/-- The condition of a simple restriction on an attribute that is already qualified. -/
def valueCondition (target : Expr) (base : String) (operator : Operator) (values : List Value)
    (b : Bindings) : Except ValueFault (Expr × Bindings) :=
  if operator = .in ∨ operator = .notIn then
    if values.isEmpty then .error .noValue
    else
      let (name, b) := b.bind base (.list values)
      .ok (.in (operator = .notIn) target name, b)
  else if operator = .between then
    match values with
    | [low, high] =>
      let (lowName, b) := b.bind base (.scalar low)
      let (highName, b) := b.bind base (.scalar high)
      .ok (.between target (.param lowName) (.param highName), b)
    | _ => .error .notTwo
  else
    match values with
    | [v] =>
      match scalarCondition target base operator v b with
      | some result => .ok result
      | none => .error .comparedWithNull
    | _ => .error .notOne

def simpleCondition (resolver : Resolver) (path : String) (operator : Operator)
    (values : List Value) (b : Bindings) : Except CompileError (Expr × Bindings) :=
  let p := resolver.resolve path
  match valueCondition p.expr (parameterBase p.qualified) operator values b with
  | .ok result => .ok result
  | .error fault => .error (.invalidRestriction path operator fault)

/-- Nothing for no operand, the operand itself for one, and parentheses around several. -/
def combine (connective : List Expr → Expr) : List Expr → Option Expr
  | [] => none
  | [e] => some e
  | operands => some (.paren (connective operands))

mutual

/-- The condition of a restriction, or `none` if it has neither values nor text in it. -/
def filterCondition (resolver : Resolver) :
    Restriction → Bindings → Except CompileError (Option Expr × Bindings)
  | .simple path operator values, b =>
    match simpleCondition resolver path operator values b with
    | .ok (e, b) => .ok (some e, b)
    | .error e => .error e
  | .and children, b =>
    match operandConditions resolver children b with
    | .ok (operands, b) => .ok (combine .and operands, b)
    | .error e => .error e
  | .or children, b =>
    match operandConditions resolver children b with
    | .ok (operands, b) => .ok (combine .or operands, b)
    | .error e => .error e
  | .not child, b =>
    match filterCondition resolver child b with
    | .ok (inner, b) => .ok (inner.map fun e => .not e.parenthesized, b)
    | .error e => .error e
  | .arbitrary text, b => .ok (some (.paren (.raw text)), b)

/-- The conditions of the children that have one, from left to right. -/
def operandConditions (resolver : Resolver) :
    List (Option Restriction) → Bindings → Except CompileError (List Expr × Bindings)
  | [], b => .ok ([], b)
  | none :: rest, b => operandConditions resolver rest b
  | some child :: rest, b =>
    match filterCondition resolver child b with
    | .error e => .error e
    | .ok (operand, b) =>
      match operandConditions resolver rest b with
      | .error e => .error e
      | .ok (operands, b) => .ok (operand.toList ++ operands, b)

end

/-- A way to compile the filter of a query. It extends the bindings it is given. -/
def FilterCompiler : Type :=
  Resolver → Query → Restriction → Bindings → Except CompileError (Option Expr × Bindings)

def FilterCompiler.standard : FilterCompiler :=
  fun resolver _ restriction b => filterCondition resolver restriction b

end ObjectQuery
