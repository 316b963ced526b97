import ObjectQuery.Settings.Basic
import ObjectQuery.Toml.Reader

/-! Settings in TOML. A setting that is missing keeps its standard value, and keys that are not
known are passed over. -/

namespace ObjectQuery.Settings

open Toml

def maxWord : Int := 0xFFFFFFFFFFFFFFFF

mutual

/-- Whether a value that is passed over can be represented at all. -/
def isRepresentable : Toml → Bool
  | .integer n => (if n < 0 then n.natAbs ≤ 1 <<< 127 else n.natAbs < 1 <<< 128)
  | .float x => x.isSome
  | .array items => areRepresentable items
  | .table entries => haveRepresentable entries
  | _ => true

def areRepresentable : List Toml → Bool
  | [] => true
  | item :: rest => isRepresentable item && areRepresentable rest

def haveRepresentable : List (String × Toml) → Bool
  | [] => true
  | (_, value) :: rest => isRepresentable value && haveRepresentable rest

end

/-- One setting of a section: its key and how its value changes the settings. -/
structure Field where
  key : String
  store : Toml → Settings → Option Settings

def stringField (key : String) (store : String → Settings → Settings) : Field where
  key := key
  store
    | .string s, settings => some (store s settings)
    | _, _ => none

/-- A number that fits an unsigned 64-bit word. -/
def numberField (key : String) (store : Nat → Settings → Settings) : Field where
  key := key
  store
    | .integer n, settings =>
      if 0 ≤ n ∧ n ≤ maxWord then some (store n.toNat settings) else none
    | _, _ => none

def storeEntries (fields : List Field) :
    List (String × Toml) → Settings → Option Settings
  | [], settings => some settings
  | (key, value) :: rest, settings =>
    match fields.find? (·.key = key) with
    | some field => do storeEntries fields rest (← field.store value settings)
    | none => if isRepresentable value then storeEntries fields rest settings else none

/-- Values without keys are those of the fields in order. -/
def storeItems : List Field → List Toml → Settings → Option Settings
  | field :: fields, value :: rest, settings => do
    storeItems fields rest (← field.store value settings)
  | _, _, settings => some settings

/-- A section is a table; an array gives its values in order, and a date gives none. -/
def section? (fields : List Field) (value : Toml) (settings : Settings) : Option Settings :=
  match value with
  | .table entries => storeEntries fields entries settings
  | .array items => storeItems fields items settings
  | .datetime => some settings
  | _ => none

def compilerFields : List Field :=
  [stringField "root_alias" fun v s => { s with names := { s.names with rootAlias := v } },
    stringField "id_attribute" fun v s => { s with names := { s.names with idField := v } }]

def localeFields : List Field :=
  [stringField "marker_segment" fun v s => { s with names := { s.names with localeMarker := v } },
    stringField "column" fun v s => { s with names := { s.names with localeField := v } },
    numberField "prefix_width" fun v s => { s with names := { s.names with localeWidth := v } }]

def executionFields : List Field :=
  [numberField "max_matches" fun v s => { s with maxMatches := some v }]

def sections : List Field :=
  [⟨"compiler", section? compilerFields⟩, ⟨"locale", section? localeFields⟩,
    ⟨"execution", section? executionFields⟩]

/-- The settings that a text gives, which are valid. -/
def ofText (text : String) : Except SettingsError Settings :=
  match (Toml.ofText? text).bind fun entries => storeEntries sections entries .standard with
  | none => .error .malformed
  | some settings =>
    match settings.validate with
    | .ok () => .ok settings
    | .error e => .error e

end ObjectQuery.Settings
