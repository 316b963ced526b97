import Mathlib.Data.String.Basic
import ObjectQuery.Proofs.Meaning.Condition

/-! What an item of a select list comes to over the rows of a group. Texts are ordered by code
points, and their characters are counted from one. -/

namespace ObjectQuery

inductive Datum where
  | null
  | number (n : Int)
  | text (s : String)
  deriving Repr, DecidableEq

namespace Datum

/-- Truth values and fractions have no part in the functions here. -/
def ofValue? : Value → Option Datum
  | .null => some .null
  | .int n => some (.number n.toInt)
  | .string s => some (.text s)
  | _ => none

def text? : Datum → Option String
  | .text s => some s
  | _ => none

def coalesce (args : List Datum) : Datum :=
  (args.find? (· ≠ .null)).getD .null

def concat? (args : List Datum) : Option Datum :=
  if .null ∈ args then some .null else (args.mapM text?).map fun texts => .text (String.join texts)

def substringFrom (s : String) (start : Int) : String :=
  String.ofList (s.toList.drop (start - 1).toNat)

/-- Places in front of the first character count towards the length. -/
def substring (s : String) (start length : Int) : String :=
  String.ofList ((s.toList.take (start + length - 1).toNat).drop (start - 1).toNat)

theorem substringFrom_append (s t : String) (n : Nat) (h : s.length = n) :
    substringFrom (s ++ t) (n + 1) = t := by
  have hdrop : ((n : Int) + 1 - 1).toNat = s.toList.length := by
    rw [String.length_toList]
    omega
  rw [substringFrom, hdrop, String.toList_append, List.drop_left, String.ofList_toList]

theorem substring_one (s : String) (n : Nat) :
    substring s 1 n = String.ofList (s.toList.take n) := by
  have htake : ((1 : Int) + n - 1).toNat = n := by omega
  rw [substring, htake]
  rfl

/-- Nulls are passed over; where nothing else is, there is no greatest text. -/
def greatest? (values : List Datum) : Option Datum :=
  ((values.filter (· ≠ .null)).mapM text?).map fun texts => texts.max?.elim .null .text

theorem mapM_eq_some_map {α β : Type} {f : α → Option β} {g : α → β} (h : ∀ x, f x = some (g x))
    (xs : List α) : xs.mapM f = some (xs.map g) := by
  have hf : f = fun x => pure (g x) := funext h
  rw [hf, List.mapM_pure]
  rfl

theorem greatest?_texts (texts : List String) :
    greatest? (texts.map .text) = some (texts.max?.elim .null .text) := by
  have hfilter : (texts.map text).filter (· ≠ null) = texts.map text := by
    rw [List.filter_eq_self]
    intro x hx
    obtain ⟨s, _, rfl⟩ := List.mem_map.mp hx
    simp
  have htexts : (texts.map text).mapM text? = some texts := by
    rw [List.mapM_map]
    exact (mapM_eq_some_map (fun _ => rfl) texts).trans (congrArg some (List.map_id texts))
  rw [greatest?, hfilter, htexts]
  rfl

def call? : String → List Datum → Option Datum
  | "coalesce", args => some (coalesce args)
  | "concat", args => concat? args
  | "substring", [.text s, .number start] => some (.text (substringFrom s start))
  | "substring", [.text s, .number start, .number length] =>
    if length < 0 then none else some (.text (substring s start length))
  | "substring", .null :: _ => some .null
  | _, _ => none

theorem call?_substring (s : String) (start : Int) (n : Nat) :
    call? "substring" [.text s, .number start, .number n] = some (.text (substring s start n)) := by
  have hn : ¬ (n : Int) < 0 := by omega
  rw [call?, if_neg hn]

theorem call?_concat (s t : String) :
    call? "concat" [.text s, .text t] = some (.text (s ++ t)) := by
  simp [call?, concat?, text?]

end Datum

namespace Expr

mutual

def onRow? (v : Valuation) : Expr → Option Datum
  | .column owner field => Datum.ofValue? (v.valueOf owner field)
  | .int n => some (.number n)
  | .str s => some (.text s)
  | .call name false args => do Datum.call? name (← onRowAll? v args)
  | _ => none

def onRowAll? (v : Valuation) : List Expr → Option (List Datum)
  | [] => some []
  | e :: rest => do return (← e.onRow? v) :: (← onRowAll? v rest)

end

mutual

/-- Outside an aggregate an attribute has no value of its own. -/
def overRows? (rows : List Valuation) : Expr → Option Datum
  | .int n => some (.number n)
  | .str s => some (.text s)
  | .call name false args =>
    match name, args with
    | "max", [e] => do Datum.greatest? (← rows.mapM e.onRow?)
    | name, args => do Datum.call? name (← overRowsAll? rows args)
  | _ => none

def overRowsAll? (rows : List Valuation) : List Expr → Option (List Datum)
  | [] => some []
  | e :: rest => do return (← e.overRows? rows) :: (← overRowsAll? rows rest)

end

variable {rows : List Valuation} {e : Expr} {s : String}

theorem overRows?_max {texts : List String} (h : rows.mapM e.onRow? = some (texts.map .text))
    (hs : texts.max? = some s) : (function "max" [e]).overRows? rows = some (.text s) := by
  have hgreatest := Datum.greatest?_texts texts
  rw [hs] at hgreatest
  simpa [function, overRows?, h] using hgreatest

theorem overRows?_substring (h : e.overRows? rows = some (.text s)) (start : Int) :
    (function "substring" [e, .int start]).overRows? rows =
      some (.text (Datum.substringFrom s start)) := by
  simp [function, overRows?, overRowsAll?, h, Datum.call?]

end Expr

end ObjectQuery
