import ObjectQuery.FileTree
import ObjectQuery.Settings.Document

/-! Where settings are looked for. -/

namespace ObjectQuery

/-- What a program finds around it: the files of its working directory, the value of the variable
that names a settings file, and the settings file of the user. -/
structure Surroundings where
  read : FileReader
  settingsVariable : Option String
  userFile : Except FileFault String

namespace Settings

/-- The variable that names a settings file. -/
def variableName : String := "PATHQL_CONFIG"

/-- The settings file of a working directory. -/
def localFile : String := "pathql.toml"

/-- The settings file of a user, below the directory of their configuration. -/
def userPath : String := "pathql/config.toml"

def ofContent (content : Except FileFault String) : Except SettingsError Settings :=
  match content with
  | .ok text => ofText text
  | .error _ => .error .unreadable

def ofFile (read : FileReader) (path : String) : Except SettingsError Settings :=
  if read.has path then ofContent (read path) else .error (.fileNotFound path)

/-- The settings of the given file, or else of the one that the variable names, both of which must
exist; or else of the first that exists of the working directory's and the user's. -/
def load (s : Surroundings) (path? : Option String) : Except SettingsError Settings :=
  match path?.or s.settingsVariable with
  | some path => ofFile s.read path
  | none =>
    if s.read.has localFile then ofFile s.read localFile
    else
      match s.userFile with
      | .error .notFound | .error .notDirectory => .ok .standard
      | content => ofContent content

end Settings

end ObjectQuery
