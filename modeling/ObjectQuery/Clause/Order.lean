import ObjectQuery.Query.Basic
import ObjectQuery.Statement.Basic

/-! Order keys. The id takes the first place of the select list where it is included, and the
columns follow. -/

namespace ObjectQuery

/-- The ordinal of the first column. -/
def firstOrdinal (includeId : Bool) : Nat :=
  if includeId then 2 else 1

def SortDescriptor.key (includeId : Bool) (s : SortDescriptor) : OrderKey :=
  ⟨s.column + firstOrdinal includeId, some (.ofAscending s.ascending)⟩

def implicitKey (ordinal : Nat) : OrderKey :=
  ⟨ordinal, none⟩

/-- Without a sort, or behind a single one, the columns follow in their own order and break ties.
Several sorts stand alone. The id is always the last key. -/
def orderKeys (sort : List SortDescriptor) (columns : Nat) (includeId : Bool) : List OrderKey :=
  let ordinals := (List.range columns).map (· + firstOrdinal includeId)
  let keys :=
    match sort with
    | [] => ordinals.map implicitKey
    | [primary] =>
      let key := primary.key includeId
      key :: (ordinals.filter (· ≠ key.ordinal)).map implicitKey
    | several => several.map (SortDescriptor.key includeId)
  keys ++ if includeId then [implicitKey 1] else []

end ObjectQuery
