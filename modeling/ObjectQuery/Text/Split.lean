/-! Splitting a text at a character. -/

namespace ObjectQuery.Text

/-- The parts between separators; a text without separator is one part. -/
def split (separator : Char) : List Char → List (List Char)
  | [] => [[]]
  | c :: rest =>
    if c = separator then [] :: split separator rest
    else
      match split separator rest with
      | part :: parts => (c :: part) :: parts
      | [] => [[c]]

end ObjectQuery.Text
