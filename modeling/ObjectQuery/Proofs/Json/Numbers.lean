import ObjectQuery.Json.Outline

/-! The numbers of a document. They are the one part of it that may come back as others when its
text is read. -/

namespace ObjectQuery.Json

mutual

/-- The numbers anywhere in a document. -/
def numbers : Json → List Number
  | .number n => [n]
  | .array items => numbersOfItems items
  | .object fields => numbersOfFields fields
  | _ => []

def numbersOfItems : List Json → List Number
  | [] => []
  | item :: rest => item.numbers ++ numbersOfItems rest

def numbersOfFields : List (String × Json) → List Number
  | [] => []
  | (_, value) :: rest => value.numbers ++ numbersOfFields rest

end

mutual

/-- The document with its numbers replaced. -/
def mapNumbers (f : Number → Number) : Json → Json
  | .null => .null
  | .bool b => .bool b
  | .number n => .number (f n)
  | .string s => .string s
  | .array items => .array (mapItems f items)
  | .object fields => .object (mapFields f fields)

def mapItems (f : Number → Number) : List Json → List Json
  | [] => []
  | item :: rest => item.mapNumbers f :: mapItems f rest

def mapFields (f : Number → Number) : List (String × Json) → List (String × Json)
  | [] => []
  | (name, value) :: rest => (name, value.mapNumbers f) :: mapFields f rest

end

theorem numbersOfItems_eq_flatMap (items : List Json) :
    numbersOfItems items = items.flatMap numbers := by
  induction items with
  | nil => rfl
  | cons item rest ih => rw [numbersOfItems, List.flatMap_cons, ih]

section

variable {f : Number → Number}

theorem mapItems_eq_map (items : List Json) : mapItems f items = items.map (mapNumbers f) := by
  induction items with
  | nil => rfl
  | cons item rest ih => rw [mapItems, List.map_cons, ih]

theorem forall_mem_mapFields {fields : List (String × Json)} {P : String → Prop}
    (h : ∀ field ∈ fields, P field.1) : ∀ field ∈ mapFields f fields, P field.1 := by
  induction fields with
  | nil => exact h
  | cons field rest ih =>
    obtain ⟨hfirst, hrest⟩ := List.forall_mem_cons.mp h
    exact List.forall_mem_cons.mpr ⟨hfirst, ih hrest⟩

mutual

theorem depth_mapNumbers : ∀ j : Json, (j.mapNumbers f).depth = j.depth
  | .null | .bool _ | .number _ | .string _ => rfl
  | .array items => congrArg (· + 1) (depthItems_mapItems items)
  | .object fields => congrArg (· + 1) (depthFields_mapFields fields)

theorem depthItems_mapItems : ∀ items : List Json, depthItems (mapItems f items) = depthItems items
  | [] => rfl
  | item :: rest => by
    rw [mapItems, depthItems, depthItems, depth_mapNumbers item, depthItems_mapItems rest]

theorem depthFields_mapFields : ∀ fields : List (String × Json),
    depthFields (mapFields f fields) = depthFields fields
  | [] => rfl
  | (_, value) :: rest => by
    rw [mapFields, depthFields, depthFields, depth_mapNumbers value, depthFields_mapFields rest]

end

mutual

theorem mapNumbers_eq_self : ∀ j : Json, (∀ n ∈ j.numbers, f n = n) → j.mapNumbers f = j
  | .null, _ | .bool _, _ | .string _, _ => rfl
  | .number n, h => congrArg Json.number (h n List.mem_cons_self)
  | .array items, h => congrArg Json.array (mapItems_eq_self items h)
  | .object fields, h => congrArg Json.object (mapFields_eq_self fields h)

theorem mapItems_eq_self : ∀ items : List Json,
    (∀ n ∈ numbersOfItems items, f n = n) → mapItems f items = items
  | [], _ => rfl
  | item :: rest, h => by
    obtain ⟨hitem, hrest⟩ := List.forall_mem_append.mp h
    rw [mapItems, mapNumbers_eq_self item hitem, mapItems_eq_self rest hrest]

theorem mapFields_eq_self : ∀ fields : List (String × Json),
    (∀ n ∈ numbersOfFields fields, f n = n) → mapFields f fields = fields
  | [], _ => rfl
  | (name, value) :: rest, h => by
    obtain ⟨hvalue, hrest⟩ := List.forall_mem_append.mp h
    rw [mapFields, mapNumbers_eq_self value hvalue, mapFields_eq_self rest hrest]

end

end

namespace Outline

mutual

/-- The outline of a complete text whose numbers are what `read?` makes of them. -/
def reading (read? : Number → Option Number) : Json → Outline
  | .null => .null
  | .bool b => .bool b
  | .number n => .number (read? n)
  | .string s => .string (some s)
  | .array items => .array (readingItems read? items) true
  | .object fields => .object (readingFields read? fields) true

def readingItems (read? : Number → Option Number) : List Json → List Outline
  | [] => []
  | item :: rest => reading read? item :: readingItems read? rest

def readingFields (read? : Number → Option Number) :
    List (String × Json) → List (Outline × Outline)
  | [] => []
  | (name, value) :: rest =>
    (.string (some name), reading read? value) :: readingFields read? rest

end

section

variable {read? : Number → Option Number} {f : Number → Number}

theorem readingItems_eq_map (items : List Json) :
    readingItems read? items = items.map (reading read?) := by
  induction items with
  | nil => rfl
  | cons item rest ih => rw [readingItems, List.map_cons, ih]

mutual

theorem reading_eq_ofJson : ∀ j : Json, (∀ n ∈ j.numbers, read? n = some (f n)) →
    reading read? j = ofJson (j.mapNumbers f)
  | .null, _ | .bool _, _ | .string _, _ => rfl
  | .number n, h => congrArg Outline.number (h n List.mem_cons_self)
  | .array items, h => congrArg (Outline.array · true) (readingItems_eq_ofItems items h)
  | .object fields, h => congrArg (Outline.object · true) (readingFields_eq_ofFields fields h)

theorem readingItems_eq_ofItems : ∀ items : List Json,
    (∀ n ∈ numbersOfItems items, read? n = some (f n)) →
      readingItems read? items = ofItems (mapItems f items)
  | [], _ => rfl
  | item :: rest, h => by
    obtain ⟨hitem, hrest⟩ := List.forall_mem_append.mp h
    rw [readingItems, mapItems, ofItems, reading_eq_ofJson item hitem,
      readingItems_eq_ofItems rest hrest]

theorem readingFields_eq_ofFields : ∀ fields : List (String × Json),
    (∀ n ∈ numbersOfFields fields, read? n = some (f n)) →
      readingFields read? fields = ofFields (mapFields f fields)
  | [], _ => rfl
  | (name, value) :: rest, h => by
    obtain ⟨hvalue, hrest⟩ := List.forall_mem_append.mp h
    rw [readingFields, mapFields, ofFields, reading_eq_ofJson value hvalue,
      readingFields_eq_ofFields rest hrest]

end

theorem reading_some (j : Json) : reading some j = ofJson j := by
  rw [reading_eq_ofJson (f := id) j (by simp), mapNumbers_eq_self j (by simp)]

end

end Outline

end ObjectQuery.Json
