import ObjectQuery.Value

/-! Named parameters of one statement. -/

namespace ObjectQuery

/-- Arguments in the order they were bound, under names of their own. -/
structure Bindings where
  entries : List (String × Argument)
  deriving Repr, BEq, Inhabited

namespace Bindings

def empty : Bindings := ⟨[]⟩

def names (b : Bindings) : List String :=
  b.entries.map Prod.fst

def find? (b : Bindings) (name : String) : Option Argument :=
  b.entries.lookup name

/-- The greatest number that is ever put behind a base, where the count of candidates ends. -/
def maxSuffix : Nat := 0x7FFFFFFF

/-- The names tried for a base: the base itself, then the base with `_1`, `_2`, … behind it, up to
`maxSuffix`. -/
def candidate (base : String) : Nat → String
  | 0 => base
  | n + 1 => base ++ "_" ++ toString (n + 1)

/-- The first candidate that is not bound. As many candidates as there are names may be taken, so
one more is enough, and the count does not end before it unless there are more than `maxSuffix`
names. -/
def freshIndex (b : Bindings) (base : String) : Nat :=
  let names := b.names
  ((List.range (names.length + 1)).find? fun n => !names.contains (candidate base n)).getD
    names.length

def bind (b : Bindings) (base : String) (a : Argument) : String × Bindings :=
  let name := candidate base (b.freshIndex base)
  (name, ⟨b.entries ++ [(name, a)]⟩)

theorem names_bind (b : Bindings) (base : String) (a : Argument) :
    (b.bind base a).2.names = b.names ++ [(b.bind base a).1] := by
  simp [bind, names]

/-- The entries by name, in the order of code points. -/
def sorted (b : Bindings) : List (String × Argument) :=
  b.entries.mergeSort fun x y => x.1 ≤ y.1

end Bindings

/-- The base of a parameter's name: a qualified attribute without its dots. -/
def parameterBase (qualified : String) : String :=
  String.ofList (qualified.toList.filter (· ≠ '.'))

end ObjectQuery
