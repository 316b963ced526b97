import ObjectQuery.Text.Blank
import ObjectQuery.Text.Case

/-! Locales, their tags and the codes they fall back to. -/

namespace ObjectQuery

/-- The locale with an empty language is the root; it has no code of its own. -/
structure Locale where
  language : String
  country : String
  variant : String
  deriving Repr, DecidableEq, Inhabited

namespace Locale

def root : Locale := ⟨"", "", ""⟩

def make (language country : String) : Locale :=
  ⟨Text.lowercase language, Text.uppercase country, ""⟩

def isSeparator (c : Char) : Bool :=
  c = '_' || c = '-'

/-- The text before the first separator and the text behind it. -/
def splitPart (cs : List Char) : List Char × List Char :=
  (cs.takeWhile (!isSeparator ·), (cs.dropWhile (!isSeparator ·)).drop 1)

/-- Reads tags such as `en`, `en_US`, `en-US` and `en_US_POSIX`; the variant is taken as it is. -/
def parse (tag : String) : Locale :=
  let (language, rest) := splitPart (Text.trim tag).toList
  let (country, variant) := splitPart rest
  { language := Text.lowercase (String.ofList language)
    country := Text.uppercase (String.ofList country)
    variant := String.ofList variant }

def isRoot (l : Locale) : Bool :=
  l.language.isEmpty

/-- An absent country leaves its place empty when a variant follows. -/
def tag (l : Locale) : String :=
  l.language ++ (if l.country.isEmpty && l.variant.isEmpty then "" else "_" ++ l.country) ++
    (if l.variant.isEmpty then "" else "_" ++ l.variant)

/-- Locale codes from the most to the least specific; the root has none. -/
def fallback (l : Locale) : List String :=
  if l.isRoot then []
  else
    (if l.variant.isEmpty then [] else [l.tag]) ++
      (if l.country.isEmpty then [] else [l.language ++ "_" ++ l.country]) ++ [l.language]

end Locale

end ObjectQuery
