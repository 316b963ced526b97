import ObjectQuery.Json.Printer
import ObjectQuery.Proofs.Json.Number
import ObjectQuery.Proofs.Json.Numbers

/-! Printed documents are read back: the outline of their text is their own, as far as their numbers
are read back. -/

namespace ObjectQuery.Json

theorem unit?_digitChar {n : Nat} (h : n < 0x20) :
    unit? '0' '0' (Nat.digitChar (n / 16)) (Nat.digitChar (n % 16)) = some n := by
  have hall : ∀ n < 0x20,
      unit? '0' '0' (Nat.digitChar (n / 16)) (Nat.digitChar (n % 16)) = some n := by decide
  exact hall n h

theorem stringAt?_plain {c : Char} (hq : c ≠ '"') (hb : c ≠ '\\') (hc : ¬ c.toNat < 0x20)
    (rest : List Char) : stringAt? (c :: rest) =
      (stringAt? rest).map fun (content, rest) => (content.map (c :: ·), rest) := by
  simp [stringAt?, hb, hc]

/-- The characters that have an escape of their own. -/
def shortEscaped : List Char :=
  ['"', '\\', '\x08', '\x0c', '\n', '\r', '\t']

theorem stringAt?_escapeChar (c : Char) (rest : List Char) :
    stringAt? (escapeChar c ++ rest) =
      (stringAt? rest).map fun (content, rest) => (content.map (c :: ·), rest) := by
  by_cases hshort : c ∈ shortEscaped
  · simp only [shortEscaped, List.mem_cons, List.not_mem_nil, or_false] at hshort
    rcases hshort with rfl | rfl | rfl | rfl | rfl | rfl | rfl <;>
      simp [escapeChar, stringAt?, escaped?]
  · simp only [shortEscaped, List.mem_cons, List.not_mem_nil, or_false, not_or] at hshort
    obtain ⟨hq, hb, hback, hfeed, hline, hreturn, htab⟩ := hshort
    simp only [escapeChar]
    split
    · rename_i hc
      have hhigh : isHighSurrogate c.toNat = false := by
        simp only [isHighSurrogate, Bool.and_eq_false_iff, decide_eq_false_iff_not]
        omega
      have hlow : isLowSurrogate c.toNat = false := by
        simp only [isLowSurrogate, Bool.and_eq_false_iff, decide_eq_false_iff_not]
        omega
      simp [stringAt?, unit?_digitChar hc, hhigh, hlow]
    · rename_i hc
      exact stringAt?_plain hq hb hc rest

theorem stringAt?_escaped (cs rest : List Char) :
    stringAt? (cs.flatMap escapeChar ++ '"' :: rest) = some (some cs, rest) := by
  induction cs with
  | nil => simp [stringAt?]
  | cons c cs ih =>
    rw [List.flatMap_cons, List.append_assoc, stringAt?_escapeChar, ih]
    rfl

theorem toList_quote (s : String) :
    (quote s).toList = '"' :: (s.toList.flatMap escapeChar ++ ['"']) := by
  simp [quote]

mutual

/-- How often the reader calls itself for a document. -/
def steps : Json → Nat
  | .array items => stepsOfItems items + 1
  | .object fields => stepsOfFields fields + 1
  | _ => 1

def stepsOfItems : List Json → Nat
  | [] => 0
  | item :: rest => item.steps + stepsOfItems rest + 1

def stepsOfFields : List (String × Json) → Nat
  | [] => 0
  | (_, value) :: rest => value.steps + stepsOfFields rest + 1

end

theorem steps_pos (j : Json) : 0 < j.steps := by
  cases j <;> simp [steps]

/-- What stands between the brackets of an array. -/
def itemsText (items : List Json) : List Char :=
  (",".intercalate (compactItems items)).toList

/-- What stands between the braces of an object. -/
def fieldsText (fields : List (String × Json)) : List Char :=
  (",".intercalate (compactFields fields)).toList

theorem toList_compact_array (items : List Json) :
    (Json.array items).compact.toList = '[' :: (itemsText items ++ [']']) := by
  simp [compact, itemsText]

theorem toList_compact_object (fields : List (String × Json)) :
    (Json.object fields).compact.toList = '\x7b' :: (fieldsText fields ++ ['\x7d']) := by
  simp [compact, fieldsText]

theorem itemsText_singleton (item : Json) : itemsText [item] = item.compact.toList := by
  simp [itemsText, compactItems]

theorem itemsText_cons_cons (item next : Json) (rest : List Json) :
    itemsText (item :: next :: rest) = item.compact.toList ++ ',' :: itemsText (next :: rest) := by
  simp [itemsText, compactItems, String.intercalate_cons_cons]

theorem fieldsText_singleton (name : String) (value : Json) :
    fieldsText [(name, value)] = (quote name).toList ++ ':' :: value.compact.toList := by
  simp [fieldsText, compactFields]

theorem fieldsText_cons_cons (name : String) (value : Json) (next : String × Json)
    (rest : List (String × Json)) :
    fieldsText ((name, value) :: next :: rest) =
      (quote name).toList ++ ':' :: (value.compact.toList ++ ',' :: fieldsText (next :: rest)) := by
  simp [fieldsText, compactFields, String.intercalate_cons_cons]

theorem skipSpace_cons {c : Char} (h : isSpace c = false) (cs : List Char) :
    skipSpace (c :: cs) = c :: cs :=
  List.dropWhile_cons_of_neg (by simp [h])

/-- Whether an element may begin with the character. -/
def isFirst (c : Char) : Bool :=
  !isSpace c && c ≠ ']'

theorem skipSpace_of_isFirst {c : Char} (h : isFirst c = true) (cs : List Char) :
    skipSpace (c :: cs) = c :: cs := by
  have hspace : isSpace c = false := by
    cases hc : isSpace c with
    | false => rfl
    | true => simp [isFirst, hc] at h
  exact skipSpace_cons hspace cs

/-- The characters that a number begins with. -/
def IsSignOrDigit (c : Char) : Prop :=
  c = '-' ∨ c.isDigit = true

theorem IsSignOrDigit.ne {c d : Char} (h : IsSignOrDigit c) (hm : d ≠ '-')
    (hd : d.isDigit = false) : c ≠ d := by
  rintro rfl
  rcases h with h | h
  · exact hm h
  · simp [hd] at h

theorem IsSignOrDigit.isFirst {c : Char} (h : IsSignOrDigit c) : isFirst c = true := by
  have hblank := h.ne (d := ' ') (by decide) (by decide)
  have hline := h.ne (d := '\n') (by decide) (by decide)
  have htab := h.ne (d := '\t') (by decide) (by decide)
  have hreturn := h.ne (d := '\r') (by decide) (by decide)
  have hclose := h.ne (d := ']') (by decide) (by decide)
  simp [Json.isFirst, isSpace, hblank, hline, htab, hreturn, hclose]

theorem exists_head_number (n : Number) :
    ∃ c cs, n.text.toList = c :: cs ∧ IsSignOrDigit c := by
  obtain ⟨l, hl⟩ := n.exists_at?_text
  exact Number.Literal.head_of_at? hl

theorem head_compact (j : Json) : ∃ c cs, j.compact.toList = c :: cs ∧ isFirst c = true := by
  cases j with
  | null => exact ⟨'n', _, rfl, by decide⟩
  | bool b =>
    cases b with
    | false => exact ⟨'f', _, rfl, by decide⟩
    | true => exact ⟨'t', _, rfl, by decide⟩
  | number n =>
    obtain ⟨c, cs, hcs, hc⟩ := exists_head_number n
    exact ⟨c, cs, hcs, hc.isFirst⟩
  | string s => exact ⟨_, _, toList_quote s, by decide⟩
  | array items => exact ⟨_, _, toList_compact_array items, by decide⟩
  | object fields => exact ⟨_, _, toList_compact_object fields, by decide⟩

theorem head_itemsText (item : Json) (items : List Json) :
    ∃ c cs, itemsText (item :: items) = c :: cs ∧ isFirst c = true := by
  obtain ⟨c, cs, hcs, hc⟩ := item.head_compact
  cases items with
  | nil => exact ⟨c, cs, by rw [itemsText_singleton, hcs], hc⟩
  | cons next items =>
    exact ⟨c, cs ++ ',' :: itemsText (next :: items), by rw [itemsText_cons_cons, hcs]; rfl, hc⟩

theorem head_fieldsText (field : String × Json) (fields : List (String × Json)) :
    ∃ cs, fieldsText (field :: fields) = '"' :: cs := by
  obtain ⟨name, value⟩ := field
  cases fields with
  | nil => exact ⟨_, by rw [fieldsText_singleton, toList_quote]; rfl⟩
  | cons next fields => exact ⟨_, by rw [fieldsText_cons_cons, toList_quote]; rfl⟩

namespace Outline

theorem valueAt_quote (fuel : Nat) (s : String) (rest : List Char) :
    valueAt (fuel + 1) ((quote s).toList ++ rest) = (.string (some s), rest) := by
  have hread := stringAt?_escaped s.toList rest
  simp [toList_quote, valueAt, skipSpace_cons (c := '"') (by decide), hread]

theorem valueAt_number (fuel : Nat) {c : Char} (hc : IsSignOrDigit c) (cs : List Char) :
    valueAt (fuel + 1) (c :: cs) = numberAt (c :: cs) := by
  have hnull := hc.ne (d := 'n') (by decide) (by decide)
  have htrue := hc.ne (d := 't') (by decide) (by decide)
  have hfalse := hc.ne (d := 'f') (by decide) (by decide)
  have hquote := hc.ne (d := '"') (by decide) (by decide)
  have harray := hc.ne (d := '[') (by decide) (by decide)
  have hobject := hc.ne (d := '\x7b') (by decide) (by decide)
  have hnumber : c = '-' ∨ c.isDigit = true := hc
  simp [valueAt, skipSpace_of_isFirst hc.isFirst, hnull, htrue, hfalse, hnumber]

theorem valueAt_array (fuel : Nat) {c : Char} (hc : isFirst c = true) {cs rest : List Char}
    {items : List Outline} (h : itemsAt fuel (c :: cs) = (items, true, rest)) :
    valueAt (fuel + 1) ('[' :: c :: cs) = (.array items true, rest) := by
  have hclose : c ≠ ']' := by
    rintro rfl
    cases hc
  simp [valueAt, skipSpace_of_isFirst (c := '[') (by decide), skipSpace_of_isFirst hc, hclose, h]

theorem valueAt_object (fuel : Nat) {cs rest : List Char}
    {entries : List (Outline × Outline)} (h : entriesAt fuel ('"' :: cs) = (entries, true, rest)) :
    valueAt (fuel + 1) ('\x7b' :: '"' :: cs) = (.object entries true, rest) := by
  simp [valueAt, skipSpace_cons (c := '\x7b') (by decide), skipSpace_cons (c := '"') (by decide), h]

section

variable {fuel : Nat} {cs ds rest : List Char} {item value : Outline} {name : Option String}

theorem itemsAt_last (h : valueAt fuel cs = (item, ']' :: rest)) :
    itemsAt (fuel + 1) cs = ([item], true, rest) := by
  simp [itemsAt, h, skipSpace_cons (c := ']') (by decide)]

theorem itemsAt_comma {c : Char} {items : List Outline} (hc : isFirst c = true)
    (h : valueAt fuel cs = (item, ',' :: c :: ds))
    (hrest : itemsAt fuel (c :: ds) = (items, true, rest)) :
    itemsAt (fuel + 1) cs = (item :: items, true, rest) := by
  have hclose : c ≠ ']' := by
    rintro rfl
    cases hc
  simp [itemsAt, h, skipSpace_cons (c := ',') (by decide), skipSpace_of_isFirst hc, hclose, hrest]

theorem entriesAt_last (hname : valueAt fuel cs = (.string name, ':' :: ds))
    (h : valueAt fuel ds = (value, '\x7d' :: rest)) :
    entriesAt (fuel + 1) cs = ([(.string name, value)], true, rest) := by
  simp [entriesAt, hname, h, skipSpace_cons (c := ':') (by decide),
    skipSpace_cons (c := '\x7d') (by decide)]

theorem entriesAt_comma {es : List Char} {entries : List (Outline × Outline)}
    (hname : valueAt fuel cs = (.string name, ':' :: ds))
    (h : valueAt fuel ds = (value, ',' :: '"' :: es))
    (hrest : entriesAt fuel ('"' :: es) = (entries, true, rest)) :
    entriesAt (fuel + 1) cs = ((.string name, value) :: entries, true, rest) := by
  simp [entriesAt, hname, h, skipSpace_cons (c := ':') (by decide),
    skipSpace_cons (c := ',') (by decide), skipSpace_cons (c := '"') (by decide), hrest]

end

theorem ends_cons {c : Char} (h : c = ',' ∨ c = ']' ∨ c = '\x7d') (rest : List Char) :
    Number.Ends (c :: rest) := by
  rintro _ ⟨⟩
  rcases h with rfl | rfl | rfl <;> decide

open Number (reread?)

mutual

theorem valueAt_compact : ∀ (j : Json) {fuel : Nat} {rest : List Char},
    j.steps ≤ fuel → Number.Ends rest →
      valueAt fuel (j.compact.toList ++ rest) = (reading reread? j, rest)
  | j, 0, rest, hf, _ => absurd j.steps_pos (by omega)
  | .null, fuel + 1, rest, _, _ => by
    change valueAt (fuel + 1) ('n' :: 'u' :: 'l' :: 'l' :: rest) = _
    rw [valueAt, skipSpace_cons (by decide)]
    rfl
  | .bool true, fuel + 1, rest, _, _ => by
    change valueAt (fuel + 1) ('t' :: 'r' :: 'u' :: 'e' :: rest) = _
    rw [valueAt, skipSpace_cons (by decide)]
    rfl
  | .bool false, fuel + 1, rest, _, _ => by
    change valueAt (fuel + 1) ('f' :: 'a' :: 'l' :: 's' :: 'e' :: rest) = _
    rw [valueAt, skipSpace_cons (by decide)]
    rfl
  | .number n, fuel + 1, rest, _, hr => by
    have hnumber := n.numberAt_text_append hr
    obtain ⟨c, cs, hcs, hc⟩ := exists_head_number n
    change valueAt (fuel + 1) (n.text.toList ++ rest) = _
    rw [hcs, List.cons_append] at hnumber ⊢
    rw [valueAt_number fuel hc]
    exact hnumber
  | .string s, fuel + 1, rest, _, _ => valueAt_quote fuel s rest
  | .array [], fuel + 1, rest, _, _ => by
    change valueAt (fuel + 1) ('[' :: ']' :: rest) = _
    rw [valueAt, skipSpace_cons (by decide)]
    simp only [skipSpace_cons (c := ']') (by decide)]
    rfl
  | .array (item :: items), fuel + 1, rest, hf, _ => by
    have hitems : itemsAt fuel (itemsText (item :: items) ++ ']' :: rest) =
        (readingItems reread? (item :: items), true, rest) :=
      itemsAt_itemsText (item :: items) (by simp) (Nat.le_of_succ_le_succ hf)
    obtain ⟨c, cs, hcs, hc⟩ := head_itemsText item items
    rw [hcs, List.cons_append] at hitems
    rw [toList_compact_array, hcs, reading]
    simpa using valueAt_array fuel hc hitems
  | .object [], fuel + 1, rest, _, _ => by
    change valueAt (fuel + 1) ('\x7b' :: '\x7d' :: rest) = _
    rw [valueAt, skipSpace_cons (by decide)]
    simp only [skipSpace_cons (c := '\x7d') (by decide)]
    rfl
  | .object (field :: fields), fuel + 1, rest, hf, _ => by
    have hentries : entriesAt fuel (fieldsText (field :: fields) ++ '\x7d' :: rest) =
        (readingFields reread? (field :: fields), true, rest) :=
      entriesAt_fieldsText (field :: fields) (by simp) (Nat.le_of_succ_le_succ hf)
    obtain ⟨cs, hcs⟩ := head_fieldsText field fields
    rw [hcs, List.cons_append] at hentries
    rw [toList_compact_object, hcs, reading]
    simpa using valueAt_object fuel hentries

theorem itemsAt_itemsText : ∀ (items : List Json) {fuel : Nat} {rest : List Char}, items ≠ [] →
    stepsOfItems items ≤ fuel →
      itemsAt fuel (itemsText items ++ ']' :: rest) = (readingItems reread? items, true, rest)
  | [], _, _, hne, _ => absurd rfl hne
  | _ :: _, 0, _, _, hf => by simp [stepsOfItems] at hf
  | [item], fuel + 1, rest, _, hf => by
    rw [itemsText_singleton]
    exact itemsAt_last (valueAt_compact item (by simpa [stepsOfItems] using hf)
      (ends_cons (by simp) rest))
  | item :: next :: items, fuel + 1, rest, _, hf => by
    obtain ⟨c, cs, hcs, hc⟩ := head_itemsText next items
    rw [stepsOfItems] at hf
    have hvalue : valueAt fuel
        (item.compact.toList ++ ',' :: (itemsText (next :: items) ++ ']' :: rest)) =
          (reading reread? item, ',' :: (itemsText (next :: items) ++ ']' :: rest)) :=
      valueAt_compact item (by omega) (ends_cons (by simp) _)
    have hitems : itemsAt fuel (itemsText (next :: items) ++ ']' :: rest) =
        (readingItems reread? (next :: items), true, rest) :=
      itemsAt_itemsText (next :: items) (by simp) (by omega)
    rw [hcs] at hvalue hitems
    rw [itemsText_cons_cons, List.append_assoc, List.cons_append, hcs]
    exact itemsAt_comma hc hvalue hitems

theorem entriesAt_fieldsText : ∀ (fields : List (String × Json)) {fuel : Nat} {rest : List Char},
    fields ≠ [] → stepsOfFields fields ≤ fuel →
      entriesAt fuel (fieldsText fields ++ '\x7d' :: rest) =
        (readingFields reread? fields, true, rest)
  | [], _, _, hne, _ => absurd rfl hne
  | _ :: _, 0, _, _, hf => by simp [stepsOfFields] at hf
  | [(name, value)], fuel + 1, rest, _, hf => by
    have hsteps : value.steps ≤ fuel := by simpa [stepsOfFields] using hf
    -- One call reads the name; there is one, since the value needs one as well.
    have hpos := value.steps_pos
    obtain ⟨fuel, rfl⟩ : ∃ n, fuel = n + 1 := ⟨fuel - 1, by omega⟩
    have hread := valueAt_compact value hsteps (ends_cons (c := '\x7d') (by simp) rest)
    have hname := valueAt_quote fuel name (':' :: (value.compact.toList ++ '\x7d' :: rest))
    rw [fieldsText_singleton, List.append_assoc, List.cons_append]
    exact entriesAt_last hname hread
  | (name, value) :: next :: fields, fuel + 1, rest, _, hf => by
    obtain ⟨cs, hcs⟩ := head_fieldsText next fields
    rw [stepsOfFields] at hf
    have hsteps : value.steps ≤ fuel := by omega
    have hpos := value.steps_pos
    obtain ⟨fuel, rfl⟩ : ∃ n, fuel = n + 1 := ⟨fuel - 1, by omega⟩
    have hread : valueAt (fuel + 1)
        (value.compact.toList ++ ',' :: (fieldsText (next :: fields) ++ '\x7d' :: rest)) =
          (reading reread? value, ',' :: (fieldsText (next :: fields) ++ '\x7d' :: rest)) :=
      valueAt_compact value hsteps (ends_cons (by simp) _)
    have hname := valueAt_quote fuel name
      (':' :: (value.compact.toList ++ ',' :: (fieldsText (next :: fields) ++ '\x7d' :: rest)))
    have hfields : entriesAt (fuel + 1) (fieldsText (next :: fields) ++ '\x7d' :: rest) =
        (readingFields reread? (next :: fields), true, rest) :=
      entriesAt_fieldsText (next :: fields) (by simp) (by omega)
    rw [hcs] at hread hname hfields
    rw [fieldsText_cons_cons, hcs]
    simp only [List.append_assoc, List.cons_append] at hname ⊢
    exact entriesAt_comma hname hread hfields

end

end Outline

theorem one_le_length_compact (j : Json) : 1 ≤ j.compact.toList.length := by
  obtain ⟨c, cs, hcs, _⟩ := j.head_compact
  simp [hcs]

mutual

/-- The text of a document is long enough for the calls that read it. -/
theorem steps_le : ∀ j : Json, j.steps ≤ 2 * j.compact.toList.length
  | .null | .bool _ | .number _ | .string _ =>
    Nat.le_trans (one_le_length_compact _) (Nat.le_mul_of_pos_left _ (by decide))
  | .array items => by
    have hitems := stepsOfItems_le items
    rw [steps, toList_compact_array, List.length_cons, List.length_append]
    omega
  | .object fields => by
    have hfields := stepsOfFields_le fields
    rw [steps, toList_compact_object, List.length_cons, List.length_append]
    omega

theorem stepsOfItems_le : ∀ items : List Json,
    stepsOfItems items ≤ 2 * (itemsText items).length + 1
  | [] => by simp [stepsOfItems]
  | [item] => by
    have hitem := steps_le item
    rw [itemsText_singleton, stepsOfItems, stepsOfItems]
    omega
  | item :: next :: items => by
    have hitem := steps_le item
    have hitems := stepsOfItems_le (next :: items)
    rw [itemsText_cons_cons, stepsOfItems, List.length_append, List.length_cons]
    omega

theorem stepsOfFields_le : ∀ fields : List (String × Json),
    stepsOfFields fields ≤ 2 * (fieldsText fields).length + 1
  | [] => by simp [stepsOfFields]
  | [(name, value)] => by
    have hvalue := steps_le value
    rw [fieldsText_singleton, stepsOfFields, stepsOfFields, List.length_append, List.length_cons]
    omega
  | (name, value) :: next :: fields => by
    have hvalue := steps_le value
    have hfields := stepsOfFields_le (next :: fields)
    rw [fieldsText_cons_cons, stepsOfFields, List.length_append, List.length_cons,
      List.length_append, List.length_cons]
    omega

end

namespace Outline

open Number (reread?)

/-- Nothing of a document is lost in its text but what its numbers lose. -/
theorem ofText_compact_reading (j : Json) : ofText j.compact = (reading reread? j, true) := by
  have hsteps : j.steps ≤ 2 * j.compact.length + 2 := by
    have hlength := steps_le j
    rw [String.length_toList] at hlength
    omega
  have hread : valueAt (2 * j.compact.length + 2) (j.compact.toList ++ []) =
      (reading reread? j, []) :=
    valueAt_compact j hsteps .nil
  rw [List.append_nil] at hread
  rw [ofText, hread]
  rfl

theorem ofText_compact {j : Json} (h : ∀ n ∈ j.numbers, n.ReadsBack) :
    ofText j.compact = (ofJson j, true) := by
  have hread : ∀ n ∈ j.numbers, reread? n = some (id n) :=
    fun n hn => Number.readsBack_iff.mp (h n hn)
  rw [ofText_compact_reading, reading_eq_ofJson j hread, mapNumbers_eq_self j (by simp)]

end Outline

end ObjectQuery.Json
