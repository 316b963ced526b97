import ObjectQuery.Text.Split

/-! Files as a program sees them by their paths, and a tree of them in memory. -/

namespace ObjectQuery

/-- Why a path gives no text. -/
inductive FileFault where
  | notFound
  | notDirectory
  | isDirectory
  | denied
  | notText
  deriving Repr, DecidableEq

namespace FileFault

def message : FileFault → String
  | .notFound => "No such file or directory (os error 2)"
  | .notDirectory => "Not a directory (os error 20)"
  | .isDirectory => "Is a directory (os error 21)"
  | .denied => "Permission denied (os error 13)"
  | .notText => "stream did not contain valid UTF-8"

/-- Whether there is nothing at the path, not even something that cannot be read. -/
def isAbsence : FileFault → Bool
  | .notFound | .notDirectory => true
  | .isDirectory | .denied | .notText => false

end FileFault

/-- What reading the file at a path gives. -/
abbrev FileReader : Type := String → Except FileFault String

def FileReader.has (read : FileReader) (path : String) : Bool :=
  match read path with
  | .ok _ => true
  | .error fault => !fault.isAbsence

/-- The text of a file's bytes. -/
def textOfBytes (bytes : ByteArray) : Except FileFault String :=
  match String.fromUTF8? bytes with
  | some text => .ok text
  | none => .error .notText

/-- Every file with its path from the working directory, and the directories that are given for
themselves; those on the way to one or the other are there too. -/
structure FileTree where
  files : List (List String × Except FileFault String)
  directories : List (List String)

namespace FileTree

def steps (path : String) : List String :=
  (Text.split '/' path.toList).map String.ofList

def isDirectory (t : FileTree) (place : List String) : Bool :=
  place.isEmpty || t.directories.any place.isPrefixOf ||
    t.files.any fun (path, _) => path != place && place.isPrefixOf path

/-- Follows the steps from a place; `.` and an empty step stay in a directory, `..` leaves it. -/
def follow (t : FileTree) (place : List String) : List String → Except FileFault (List String)
  | [] => .ok place
  | step :: rest =>
    if !t.isDirectory place then
      .error (if (t.files.lookup place).isSome then .notDirectory else .notFound)
    else if step = "" ∨ step = "." then t.follow place rest
    else if step = ".." then t.follow place.dropLast rest
    else t.follow (place ++ [step]) rest

def read (t : FileTree) (path : String) : Except FileFault String :=
  if path.isEmpty then .error .notFound
  else
    match t.follow [] (steps path) with
    | .error fault => .error fault
    | .ok place =>
      if t.isDirectory place then .error .isDirectory
      else (t.files.lookup place).getD (.error .notFound)

end FileTree

end ObjectQuery
