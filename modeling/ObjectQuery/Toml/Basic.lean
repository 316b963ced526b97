/-! TOML documents, and how headers and keys build their tables. -/

namespace ObjectQuery

/-- A float beyond the range of a double has no value. -/
inductive Toml where
  | string (s : String)
  | integer (n : Int)
  | float (x : Option Float)
  | boolean (b : Bool)
  | datetime
  | array (items : List Toml)
  | table (entries : List (String × Toml))
  deriving Repr, Inhabited

namespace Toml

/-- What made a table. Only one that is implied by the header of a table inside it may still get a
header of its own, and only one made by dotted keys may be extended by dotted keys. -/
inductive Origin where
  | implied
  | header
  | dotted
  deriving Repr, DecidableEq

/-- A document under construction. `tables` are the elements that `[[…]]` headers have opened. -/
inductive Node where
  | leaf (value : Toml)
  | table (origin : Origin) (entries : List (String × Node))
  | tables (elements : List (List (String × Node)))
  deriving Inhabited

abbrev Entries : Type := List (String × Node)

namespace Entries

/-- Replaces the entry of the key, or adds it at the end. -/
def set (key : String) (node : Node) : Entries → Entries
  | [] => [(key, node)]
  | (k, n) :: rest => if k = key then (k, node) :: rest else (k, n) :: set key node rest

/-- Changes the table at the end of a path of header keys. Tables on the way are made where there
are none, and of an array of tables the last one is meant. -/
def within (change : Entries → Option Entries) : List String → Entries → Option Entries
  | [], entries => change entries
  | key :: path, entries =>
    match entries.lookup key with
    | none => do return entries.set key (.table .implied (← within change path []))
    | some (.table origin inner) => do
      return entries.set key (.table origin (← within change path inner))
    | some (.tables elements) => do
      let last ← elements.getLast?
      return entries.set key (.tables (elements.dropLast ++ [← within change path last]))
    | some (.leaf _) => none

/-- Sets a value in the table at the end of a path of dotted keys. A table with a header is not
entered, and the last one must have been made by dotted keys. -/
def put (key : String) (value : Toml) : List String → Entries → Option Entries
  | [], entries =>
    if (entries.lookup key).isSome then none else some (entries ++ [(key, .leaf value)])
  | step :: path, entries =>
    match entries.lookup step with
    | none => do return entries.set step (.table .dotted (← put key value path []))
    | some (.table origin inner) =>
      if origin = .header ∨ (path.isEmpty ∧ origin ≠ .dotted) then none
      else do return entries.set step (.table origin (← put key value path inner))
    | some (.tables elements) =>
      if path.isEmpty then none
      else do
        let last ← elements.getLast?
        return entries.set step (.tables (elements.dropLast ++ [← put key value path last]))
    | some (.leaf _) => none

/-- Opens the table of a header. -/
def openTable (path : List String) (key : String) : Entries → Option Entries :=
  within (fun entries =>
    match entries.lookup key with
    | none => some (entries.set key (.table .header []))
    | some (.table .implied inner) => some (entries.set key (.table .header inner))
    | some _ => none) path

/-- Opens a further element of an array of tables. -/
def openElement (path : List String) (key : String) : Entries → Option Entries :=
  within (fun entries =>
    match entries.lookup key with
    | none => some (entries.set key (.tables [[]]))
    | some (.tables elements) => some (entries.set key (.tables (elements ++ [[]])))
    | some _ => none) path

end Entries

mutual

def Node.value : Node → Toml
  | .leaf value => value
  | .table _ entries => .table (entryValues entries)
  | .tables elements => .array (elementValues elements)

def entryValues : List (String × Node) → List (String × Toml)
  | [] => []
  | (key, node) :: rest => (key, node.value) :: entryValues rest

def elementValues : List (List (String × Node)) → List Toml
  | [] => []
  | entries :: rest => .table (entryValues entries) :: elementValues rest

end

end Toml

end ObjectQuery
