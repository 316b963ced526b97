import ObjectQuery.Proofs.Document.Reads
import ObjectQuery.Proofs.Json.Numbers

/-! Filter trees in JSON. A restriction is read back with its placeholders where they were, and
every value keeps its kind. Only its numbers may be others, when others stand in the document. -/

namespace ObjectQuery

open Json (mapFields mapItems_eq_map)

namespace Value

def isFinite : Value → Bool
  | .float x => x.isFinite
  | _ => true

variable {f : Json.Number → Json.Number}

/-- What is read for the value where `f` has replaced the numbers of the document. -/
def renumbered (f : Json.Number → Json.Number) (v : Value) : Value :=
  (ofJson (v.toJson.mapNumbers f)).toOption.getD .null

theorem ofJson_mapNumbers (v : Value) : ofJson (v.toJson.mapNumbers f) = .ok (v.renumbered f) := by
  have hnumber (n : Json.Number) : ∃ w, ofJson (.number n) = .ok w := by
    cases n <;> exact ⟨_, rfl⟩
  have hread : ∃ w, ofJson (v.toJson.mapNumbers f) = .ok w := by
    cases v with
    | int n => exact hnumber _
    | float x =>
      rw [toJson]
      split
      · exact hnumber _
      · exact ⟨.null, rfl⟩
    | _ => exact ⟨_, rfl⟩
  obtain ⟨w, hw⟩ := hread
  rw [renumbered, hw]
  rfl

theorem mapM_ofJson (values : List Value) :
    ((values.map toJson).map (Json.mapNumbers f)).mapM ofJson =
      .ok (values.map (renumbered f)) := by
  induction values with
  | nil => rfl
  | cons v rest ih =>
    rw [List.map_cons, List.map_cons, List.mapM_cons, ofJson_mapNumbers, ih]
    rfl

theorem renumbered_id {v : Value} (h : v.isFinite = true) : v.renumbered id = v := by
  cases v with
  | int n =>
    have hrange : Int64.minValue.toInt ≤ n.toInt ∧ n.toInt ≤ Int64.maxValue.toInt :=
      ⟨n.minValue_le_toInt, n.toInt_le⟩
    change (if _ then Value.int (Int64.ofInt n.toInt) else _) = _
    rw [if_pos hrange, Int64.ofInt_toInt]
  | float x =>
    have hx : x.isFinite = true := h
    rw [renumbered, toJson, if_pos hx]
    rfl
  | _ => rfl

end Value

theorem Operator.ofJson_toJson (operator : Operator) : ofJson operator.toJson = .ok operator := by
  cases operator <;> rfl

namespace Restriction

open Document.RecordDecoder (once required)

theorem Kind.ofName_name (kind : Kind) : Kind.ofName kind.name = .ok kind := by
  cases kind <;> rfl

mutual

/-- The values of the simple restrictions, from left to right. -/
def values : Restriction → List Value
  | .simple _ _ values => values
  | .and children => childValues children
  | .or children => childValues children
  | .not child => child.values
  | .arbitrary _ => []

def childValues : List (Option Restriction) → List Value
  | [] => []
  | none :: rest => childValues rest
  | some child :: rest => child.values ++ childValues rest

end

mutual

/-- The tree with its values replaced. -/
def mapValues (g : Value → Value) : Restriction → Restriction
  | .simple path operator values => .simple path operator (values.map g)
  | .and children => .and (mapChildren g children)
  | .or children => .or (mapChildren g children)
  | .not child => .not (child.mapValues g)
  | .arbitrary text => .arbitrary text

def mapChildren (g : Value → Value) : List (Option Restriction) → List (Option Restriction)
  | [] => []
  | none :: rest => none :: mapChildren g rest
  | some child :: rest => some (child.mapValues g) :: mapChildren g rest

end

section

variable {g : Value → Value}

mutual

theorem mapValues_eq_self : ∀ r : Restriction, (∀ v ∈ r.values, g v = v) → r.mapValues g = r
  | .simple path operator values, h => by
    have hvalues : values.map g = values.map id := List.map_congr_left h
    rw [mapValues, hvalues, List.map_id]
  | .and children, h => congrArg Restriction.and (mapChildren_eq_self children h)
  | .or children, h => congrArg Restriction.or (mapChildren_eq_self children h)
  | .not child, h => congrArg Restriction.not (mapValues_eq_self child h)
  | .arbitrary _, _ => rfl

theorem mapChildren_eq_self : ∀ children : List (Option Restriction),
    (∀ v ∈ childValues children, g v = v) → mapChildren g children = children
  | [], _ => rfl
  | none :: rest, h => congrArg (none :: ·) (mapChildren_eq_self rest h)
  | some child :: rest, h => by
    obtain ⟨hchild, hrest⟩ := List.forall_mem_append.mp h
    rw [mapChildren, mapValues_eq_self child hchild, mapChildren_eq_self rest hrest]

end

end

variable {f : Json.Number → Json.Number}

/-- A restriction is written as an object that begins with its kind and names none again. -/
theorem exists_tagged (r : Restriction) : ∃ (kind : Kind) (fields : List (String × Json)),
    r.toJson = .object (("type", .string kind.name) :: fields) ∧
      ∀ field ∈ fields, field.1 ≠ "type" := by
  cases r with
  | simple path operator values => exact ⟨.simple, _, rfl, by simp⟩
  | and children => exact ⟨.and, _, rfl, by simp⟩
  | or children => exact ⟨.or, _, rfl, by simp⟩
  | not child => exact ⟨.not, _, rfl, by simp⟩
  | arbitrary text => exact ⟨.arbitrary, _, rfl, by simp⟩

theorem exists_tagged_mapNumbers (r : Restriction) :
    ∃ (kind : Kind) (fields : List (String × Json)),
      r.toJson.mapNumbers f = .object (("type", .string kind.name) :: fields) ∧
        ∀ field ∈ fields, field.1 ≠ "type" := by
  obtain ⟨kind, fields, hobject, huntagged⟩ := r.exists_tagged
  exact ⟨kind, mapFields f fields, by rw [hobject]; rfl,
    Json.forall_mem_mapFields (P := (· ≠ "type")) huntagged⟩

theorem kindOf_untagged (kind : Kind) {fields : List (String × Json)}
    (h : ∀ field ∈ fields, field.1 ≠ "type") : kindOf (some kind) fields = .ok kind := by
  induction fields with
  | nil => rfl
  | cons field rest ih =>
    rw [kindOf, if_neg (h field List.mem_cons_self)]
    exact ih fun other ho => h other (List.mem_cons_of_mem _ ho)

theorem ofJson_tagged {kind : Kind} {fields : List (String × Json)}
    (h : ∀ field ∈ fields, field.1 ≠ "type") :
    ofJson (.object (("type", .string kind.name) :: fields)) = ofFields kind {} fields := by
  have hkind : kindOf none (("type", .string kind.name) :: fields) = .ok kind := by
    have hname : Kind.ofJson (.string kind.name) = .ok kind := kind.ofName_name
    rw [kindOf, if_pos rfl, hname]
    exact kindOf_untagged kind h
  have htag : ¬ kind.fields.contains "type" = true := by cases kind <;> decide
  rw [ofJson, hkind]
  change ofFields kind {} (("type", .string kind.name) :: fields) = _
  rw [ofFields, if_neg htag]

/-- The only field of a kind besides its type. -/
theorem ofJson_single (kind : Kind) (parts : Parts) {name : String} {value : Json}
    (hname : kind.fields.contains name = true)
    (hadd : ({} : Parts).add name value (fun _ => ofJson value) (fun _ => childrenOf value) =
      .ok parts) :
    ofJson (.object [("type", .string kind.name), (name, value)]) =
      parts.finish .missingField kind := by
  have htag : name ≠ "type" := by
    rintro rfl
    cases kind <;> cases hname
  rw [ofJson_tagged (by simpa using htag), ofFields, if_pos hname, hadd]
  change ofFields kind parts [] = _
  rw [ofFields]

mutual

theorem ofJson_mapNumbers : ∀ r : Restriction,
    ofJson (r.toJson.mapNumbers f) = .ok (r.mapValues (Value.renumbered f))
  | .simple path operator values => by
    have hoperator := operator.ofJson_toJson
    have hvalues : valuesOf (.array (Json.mapItems f (values.map Value.toJson))) =
        .ok (values.map (Value.renumbered f)) := by
      rw [mapItems_eq_map]
      exact Value.mapM_ofJson values
    have hfields : ofFields .simple {} [("attribute_path", .string path),
        ("operator", operator.toJson),
        ("values", .array (Json.mapItems f (values.map Value.toJson)))] =
          .ok (.simple path operator (values.map (Value.renumbered f))) := by
      simp [ofFields, Kind.fields, Parts.add, once, stringOf, hoperator, hvalues, Parts.finish,
        required, Except.map, bind, Except.bind, pure, Except.pure]
    exact (ofJson_tagged (by simp)).trans hfields
  | .and children => by
    have hchildren : childrenOf ((Json.array (childrenToJson children)).mapNumbers f) =
        .ok (mapChildren (Value.renumbered f) children) :=
      childList_mapItems children
    exact (ofJson_single .and { children := some (mapChildren (Value.renumbered f) children) } rfl
      (by simp only [Parts.add, hchildren]; rfl)).trans rfl
  | .or children => by
    have hchildren : childrenOf ((Json.array (childrenToJson children)).mapNumbers f) =
        .ok (mapChildren (Value.renumbered f) children) :=
      childList_mapItems children
    exact (ofJson_single .or { children := some (mapChildren (Value.renumbered f) children) } rfl
      (by simp only [Parts.add, hchildren]; rfl)).trans rfl
  | .not child => by
    have hchild := ofJson_mapNumbers child
    exact (ofJson_single .not { child := some (child.mapValues (Value.renumbered f)) } rfl
      (by simp only [Parts.add, hchild]; rfl)).trans rfl
  | .arbitrary text => (ofJson_single .arbitrary { text := some text } rfl rfl).trans rfl

theorem childList_mapItems : ∀ children : List (Option Restriction),
    childList (Json.mapItems f (childrenToJson children)) =
      .ok (mapChildren (Value.renumbered f) children)
  | [] => rfl
  | none :: rest => by
    have hrest := childList_mapItems rest
    rw [childrenToJson, Json.mapItems, Json.mapNumbers, childList, hrest]
    rfl
  | some child :: rest => by
    have hchild := ofJson_mapNumbers child
    have hrest := childList_mapItems rest
    obtain ⟨kind, fields, hobject, _⟩ := child.exists_tagged_mapNumbers (f := f)
    rw [hobject] at hchild
    simp only [childrenToJson, Json.mapItems, hobject, childList, hchild, hrest]
    rfl

end

end Restriction

namespace Document

open Json (Outline)

theorem taggedFields_untagged (kind : Restriction.Kind) {depth : Nat}
    {fields : List (String × Json)} (h : ∀ field ∈ fields, field.1 ≠ "type")
    (hdepth : Json.depthFields fields ≤ depth) :
    taggedFields depth true (some kind) (Outline.ofFields fields) = .ok fields := by
  induction fields with
  | nil => rfl
  | cons field rest ih =>
    obtain ⟨name, value⟩ := field
    obtain ⟨hvalue, hrest⟩ := Nat.max_le.mp hdepth
    have hname : name ≠ "type" := h (name, value) List.mem_cons_self
    have ih := ih (fun other ho => h other (List.mem_cons_of_mem _ ho)) hrest
    rw [Outline.ofFields, taggedFields]
    simp only [pure_bind, if_neg hname, json_ofJson value hvalue, ih]
    rfl

theorem reads_restriction (f : Json.Number → Json.Number) (r : Restriction) :
    Reads restriction (r.toJson.mapNumbers f) (r.mapValues (Value.renumbered f)) := by
  intro depth hdepth
  have hread := r.ofJson_mapNumbers (f := f)
  obtain ⟨kind, fields, hobject, huntagged⟩ := r.exists_tagged_mapNumbers (f := f)
  rw [hobject] at hdepth hread ⊢
  cases depth with
  | zero => simp [Json.depth] at hdepth
  | succ depth =>
    have hfields : Json.depthFields fields ≤ depth := by
      simpa [Json.depth, Json.depthFields] using hdepth
    have htagged : taggedFields depth true none
        (Outline.ofFields (("type", .string kind.name) :: fields)) =
          .ok (("type", .string kind.name) :: fields) := by
      have hrest := taggedFields_untagged kind huntagged hfields
      have hname : string depth (.ofJson (.string kind.name)) = .ok kind.name := rfl
      rw [Outline.ofFields, taggedFields]
      simp [hname, kind.ofName_name, hrest, bind, Except.bind, pure, Except.pure]
    rw [Outline.ofJson, restriction, enter]
    simp only [htagged]
    exact hread

end Document

end ObjectQuery
