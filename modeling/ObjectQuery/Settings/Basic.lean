import ObjectQuery.Convention

/-! Settings of a compiler and of the service that runs its statements. -/

namespace ObjectQuery

structure Settings where
  names : Conventions
  /-- Queries that match more rows than this are given up. -/
  maxMatches : Option Nat
  deriving Repr, DecidableEq, Inhabited

inductive SettingsFault where
  | notIdentifier (key value : String)
  | noWidth
  deriving Repr, DecidableEq

def SettingsFault.message : SettingsFault → String
  | .notIdentifier key value => key ++ " must be an identifier, got '" ++ value ++ "'"
  | .noWidth => "locale.prefix_width must be greater than zero"

inductive SettingsError where
  | fileNotFound (path : String)
  | unreadable
  | malformed
  | invalid (fault : SettingsFault)
  deriving Repr, DecidableEq

def SettingsError.message : SettingsError → String
  | .fileNotFound path => "Config file not found: " ++ path
  | .unreadable => "Failed to read config file"
  | .malformed => "Failed to parse config file"
  | .invalid fault => "Invalid configuration: " ++ fault.message

def isIdentifierStart (c : Char) : Bool :=
  c.isAlpha || c = '_'

def isIdentifierPart (c : Char) : Bool :=
  c.isAlphanum || c = '_'

/-- A letter or an underscore, then letters, digits and underscores, all of them ASCII. -/
def isIdentifier (s : String) : Bool :=
  match s.toList with
  | [] => false
  | c :: rest => isIdentifierStart c && rest.all isIdentifierPart

namespace Settings

def standard : Settings := ⟨.standard, none⟩

/-- The names that have to be identifiers, with their keys. -/
def identifiers (s : Settings) : List (String × String) :=
  [("compiler.root_alias", s.names.rootAlias), ("compiler.id_attribute", s.names.idField),
    ("locale.marker_segment", s.names.localeMarker), ("locale.column", s.names.localeField)]

def fault? (s : Settings) : Option SettingsFault :=
  match s.identifiers.find? fun (_, value) => !isIdentifier value with
  | some (key, value) => some (.notIdentifier key value)
  | none => if s.names.localeWidth = 0 then some .noWidth else none

def validate (s : Settings) : Except SettingsError Unit :=
  match s.fault? with
  | some fault => .error (.invalid fault)
  | none => .ok ()

end Settings

end ObjectQuery
