import ObjectQuery.Text.Split

/-! Attribute paths. A path leads over relations, each taken from the entity the one before it
arrives at, to an attribute, its field; the entity at the end of every hop is bound to an alias. -/

namespace ObjectQuery

structure ResolvedPath where
  isRelated : Bool
  hops : Nat
  /-- Relations in the order they are followed. -/
  segments : List String
  /-- The alias of the entity that has the field. -/
  owner : String
  field : String
  deriving Repr, DecidableEq, Inhabited

namespace ResolvedPath

def qualified (p : ResolvedPath) : String :=
  p.owner ++ "." ++ p.field

/-- The alias of the entity behind the first `n` relations. There is one for no more hops than there
are relations. -/
def aliasAfter (p : ResolvedPath) (n : Nat) : String :=
  String.join (p.segments.take n)

end ResolvedPath

/-- Names the root entity and says what a path means. -/
structure Resolver where
  root : String
  resolve : String → ResolvedPath

namespace Resolver

/-- Every part of a dotted path but the last is a relation, and an alias is made of the relations
that lead to it. A path without dots is an attribute of the root. -/
def dotted (root : String) : Resolver where
  root := root
  resolve path :=
    let parts := (Text.split '.' path.toList).map String.ofList
    let segments := parts.dropLast
    { isRelated := !segments.isEmpty
      hops := segments.length
      segments := segments
      owner := if segments.isEmpty then root else String.join segments
      field := parts.getLastD "" }

end Resolver

end ObjectQuery
