import ObjectQuery.Compiler
import ObjectQuery.Document.Value

/-! A compiled statement in JSON: its text, its arguments by name and its remarks. -/

namespace ObjectQuery

def Bindings.toJson (b : Bindings) : Json :=
  .object (b.sorted.map fun (name, a) => (name, a.toJson))

def Compiled.toJson (c : Compiled) : Json :=
  .object [("text", .string c.text), ("parameters", c.parameters.toJson),
    ("diagnostics", .array (c.diagnostics.map (.string ·.message)))]

end ObjectQuery
