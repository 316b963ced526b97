import ObjectQuery.Path
import ObjectQuery.Query.Basic
import ObjectQuery.Statement.Basic

/-! The joins that bind an alias for every relation a query follows. -/

namespace ObjectQuery

/-- Distinct aliases in the order they were bound. -/
structure AliasSet where
  toList : List String
  nodup : toList.Nodup

namespace AliasSet

def of (root : String) : AliasSet := ⟨[root], by simp⟩

def contains (s : AliasSet) (name : String) : Bool :=
  s.toList.contains name

def insert (s : AliasSet) (name : String) : AliasSet :=
  if h : name ∈ s.toList then s
  else
    ⟨s.toList ++ [name], by
      rw [List.nodup_append]
      exact ⟨s.nodup, by simp, fun a ha b hb => by simp_all; rintro rfl; exact h ha⟩⟩

theorem toList_insert (s : AliasSet) (name : String) :
    (s.insert name).toList = if name ∈ s.toList then s.toList else s.toList ++ [name] := by
  unfold insert
  split <;> rfl

end AliasSet

/-- One join for each relation of the path, leading away from the root, if there is one for every
hop. -/
def ResolvedPath.joins (root : String) (p : ResolvedPath) : List Join :=
  if p.isRelated then
    (List.range p.hops).map fun n =>
      ⟨if n = 0 then root else p.aliasAfter n, p.segments.getD n "", p.aliasAfter (n + 1)⟩
  else []

structure Joins where
  aliases : AliasSet
  joins : List Join

namespace Joins

/-- An alias that is bound already takes no second join. -/
def add (s : Joins) (j : Join) : Joins :=
  if s.aliases.contains j.child then s else ⟨s.aliases.insert j.child, s.joins ++ [j]⟩

def ofPaths (resolver : Resolver) (paths : List String) : Joins :=
  (paths.flatMap fun path => (resolver.resolve path).joins resolver.root).foldl add
    ⟨.of resolver.root, []⟩

end Joins

def Query.joins (q : Query) (resolver : Resolver) : Joins :=
  .ofPaths resolver q.paths

/-- Behind the last relation of a path no hop can be followed. -/
def ResolvedPath.breakOff? (p : ResolvedPath) : Option CompileError :=
  if p.isRelated ∧ p.segments.length < p.hops then some (.missingRelation p.segments.length)
  else none

/-- The joins of a query, unless one of its paths breaks off. -/
def Query.follow (q : Query) (resolver : Resolver) : Except CompileError Joins :=
  match q.paths.findSome? fun path => (resolver.resolve path).breakOff? with
  | some e => .error e
  | none => .ok (q.joins resolver)

end ObjectQuery
