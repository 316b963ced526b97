import ObjectQuery.Text.CaseTable

/-! Full case mapping: one character may become several, and a capital sigma is lowered by the
letters around it. -/

namespace ObjectQuery.Text

def mapped (runs : List CaseRun) (expansions : List (Nat × List Nat)) (c : Char) :
    List Char :=
  match expansions.lookup c.toNat with
  | some codes => codes.map Char.ofNat
  | none =>
    match runs.find? (·.covers c.toNat) with
    | some run => [Char.ofNat (run.apply c.toNat)]
    | none => [c]

def lowerChar (c : Char) : List Char :=
  mapped lowerRuns lowerExpansions c

def upperChar (c : Char) : List Char :=
  mapped upperRuns upperExpansions c

private def within (ranges : List (Nat × Nat)) (c : Char) : Bool :=
  ranges.any fun (first, last) => first ≤ c.toNat && c.toNat ≤ last

def isCaseIgnorable (c : Char) : Bool :=
  within caseIgnorableRanges c

def isCased (c : Char) : Bool :=
  within casedRanges c

/-- Whether the first character that is not case-ignorable is a cased one. -/
def meetsCased (cs : List Char) : Bool :=
  match cs.dropWhile isCaseIgnorable with
  | c :: _ => isCased c
  | [] => false

/-- Lowers the rest of a word whose earlier characters, nearest first, are `before`. A capital
sigma takes its final form after a cased character and before none. -/
def lowerAfter (before : List Char) : List Char → List Char
  | [] => []
  | c :: rest =>
    let lowered :=
      if c = 'Σ' then [if meetsCased before && !meetsCased rest then 'ς' else 'σ']
      else lowerChar c
    lowered ++ lowerAfter (c :: before) rest

def lowercase (s : String) : String :=
  String.ofList (lowerAfter [] s.toList)

def uppercase (s : String) : String :=
  String.ofList (s.toList.flatMap upperChar)

end ObjectQuery.Text
