/-! Names that a store uses in every entity. -/

namespace ObjectQuery

structure Conventions where
  rootAlias : String
  /-- The attribute that identifies an entity. -/
  idField : String
  /-- The relation that leads to localized rows. -/
  localeMarker : String
  /-- The attribute of a localized row that holds its locale code. -/
  localeField : String
  /-- How many characters of a locale code take part when localized rows are ranked. -/
  localeWidth : Nat
  deriving Repr, DecidableEq, Inhabited

def Conventions.standard : Conventions where
  rootAlias := "obj"
  idField := "id"
  localeMarker := "localeData"
  localeField := "locale"
  localeWidth := 10

end ObjectQuery
