import ObjectQuery.Proofs.Compiler.Parts
import ObjectQuery.Proofs.Filter.Run
import ObjectQuery.Proofs.Parameter.Fresh
import ObjectQuery.Proofs.Statement.Gather

/-! Placeholders and arguments. An argument is bound where its placeholder is written, so the
placeholders of a statement are the names of its parameters, each once and each with an argument
of its own kind. -/

namespace ObjectQuery

/-- A place for an argument: for one value, or for the list of an `in`. -/
inductive Slot where
  | one (name : String)
  | many (name : String)
  deriving Repr, DecidableEq

namespace Slot

def name : Slot → String
  | .one name => name
  | .many name => name

def Takes : Slot → Argument → Prop
  | .one _, .scalar _ => True
  | .many _, .list values => values ≠ []
  | _, _ => False

end Slot

namespace Expr

def slot : Expr → List Slot
  | .param name => [.one name]
  | .in _ _ name => [.many name]
  | _ => []

mutual

theorem map_name_slots : ∀ e : Expr, (e.gather slot).map Slot.name = e.placeholders
  | .column _ _ | .star | .int _ | .str _ | .raw _ | .param _ => rfl
  | .call _ _ args => by
    simp only [gather, slot, placeholders, List.append_nil, map_name_slotsOf args]
  | .compare _ left right => by
    simp only [gather, slot, placeholders, List.append_nil, List.map_append,
      map_name_slots left, map_name_slots right]
  | .like e pattern => by
    simp only [gather, slot, placeholders, List.append_nil, List.map_append, map_name_slots e,
      map_name_slots pattern]
  | .in _ e name => by
    simp only [gather, slot, placeholders, List.map_append, map_name_slots e, List.map_cons,
      List.map_nil, Slot.name]
  | .between e low high => by
    simp only [gather, slot, placeholders, List.append_nil, List.map_append, map_name_slots e,
      map_name_slots low, map_name_slots high]
  | .isNull _ e => by
    simp only [gather, slot, placeholders, List.append_nil, map_name_slots e]
  | .and operands => by
    simp only [gather, slot, placeholders, List.append_nil, map_name_slotsOf operands]
  | .or operands => by
    simp only [gather, slot, placeholders, List.append_nil, map_name_slotsOf operands]
  | .not e => by
    simp only [gather, slot, placeholders, List.append_nil, map_name_slots e]
  | .paren e => by
    simp only [gather, slot, placeholders, List.append_nil, map_name_slots e]

theorem map_name_slotsOf : ∀ es : List Expr,
    (gatherOf slot es).map Slot.name = placeholdersOf es
  | [] => rfl
  | e :: rest => by
    simp only [gatherOf, placeholdersOf, List.map_append, map_name_slots e, map_name_slotsOf rest]

end

end Expr

open ObjectQuery.Expr (gatherOf slot)

theorem ResolvedPath.slots_expr (p : ResolvedPath) : p.expr.gather slot = [] := by
  unfold ResolvedPath.expr
  split <;> rfl

namespace Bindings

/-- Arguments are bound one behind the other, one for each slot and under its name. -/
inductive Grows (b : Bindings) : List Slot → Bindings → Prop where
  | refl : Grows b [] b
  | bind {slots : List Slot} {b' : Bindings} (h : Grows b slots b') (base : String)
      {slot : Slot} {a : Argument} (hn : slot.name = (b'.bind base a).1) (ht : slot.Takes a) :
      Grows b (slots ++ [slot]) (b'.bind base a).2

namespace Grows

variable {b b₁ b₂ : Bindings} {slots more : List Slot}

theorem trans (h : b.Grows slots b₁) (h' : b₁.Grows more b₂) : b.Grows (slots ++ more) b₂ := by
  induction h' with
  | refl => simpa using h
  | bind _ base hn ht ih =>
    rw [← List.append_assoc]
    exact ih.bind base hn ht

theorem one (b : Bindings) (base : String) (v : Value) :
    b.Grows [.one (b.bind base (.scalar v)).1] (b.bind base (.scalar v)).2 :=
  Grows.refl.bind base rfl trivial

theorem many (b : Bindings) (base : String) {values : List Value} (hv : values ≠ []) :
    b.Grows [.many (b.bind base (.list values)).1] (b.bind base (.list values)).2 :=
  Grows.refl.bind base rfl hv

theorem isPrefix (h : b.Grows slots b₁) : b.entries <+: b₁.entries := by
  induction h with
  | refl => exact List.prefix_refl _
  | bind _ base _ _ ih => exact ih.trans (List.prefix_append _ _)

theorem names_eq (h : b.Grows slots b₁) : b₁.names = b.names ++ slots.map Slot.name := by
  induction h with
  | refl => simp
  | bind _ base hn _ ih => simp [names_bind, ih, hn]

theorem nodup_names (h : b.Grows slots b₁) (hb : b.names.Nodup) : b₁.names.Nodup := by
  induction h with
  | refl => exact hb
  | bind _ base _ _ ih => exact nodup_names_bind ih base _

theorem exists_argument (h : b.Grows slots b₁) {slot : Slot} (hs : slot ∈ slots) :
    ∃ a, b₁.find? slot.name = some a ∧ slot.Takes a := by
  induction h with
  | refl => simp at hs
  | @bind slots b' _ base last a hn ht ih =>
    rcases List.mem_append.mp hs with hs | hs
    · obtain ⟨a', ha, ht'⟩ := ih hs
      exact ⟨a', find?_of_isPrefix (List.prefix_append _ _) ha, ht'⟩
    · obtain rfl := List.mem_singleton.mp hs
      exact ⟨a, hn ▸ find?_bind_self b' base a, ht⟩

end Grows

end Bindings

theorem ValueCondition.grows {target e : Expr} {base : String} {operator : Operator}
    {values : List Value} {b b' : Bindings}
    (h : ValueCondition target base b operator values e b') (ht : target.gather slot = []) :
    b.Grows (e.gather slot) b' := by
  cases h with
  | isIn hv | notIn hv =>
    rw [Expr.gather, ht]
    exact .many b base hv
  | between low high =>
    rw [Expr.gather, ht]
    exact (Bindings.Grows.one b base low).trans (.one _ base high)
  | isNull | isNotNull =>
    rw [Expr.gather, ht]
    exact .refl
  | compare | like =>
    rw [Expr.gather, ht]
    exact .one b base _

theorem growthLaw (resolver : Resolver) :
    FilterLaw resolver (fun _ b o b' => b.Grows (gatherOf slot o.toList) b')
      (fun _ b es b' => b.Grows (gatherOf slot es) b') where
  simple h := by
    simpa only [Option.toList_some, gatherOf, List.append_nil] using
      h.grows (ResolvedPath.slots_expr _)
  and h := by
    rw [Expr.gatherOf_combine (fun _ => rfl) fun _ => List.append_nil _]
    exact h
  or h := by
    rw [Expr.gatherOf_combine (fun _ => rfl) fun _ => List.append_nil _]
    exact h
  not {_ _ inner _} h := by
    cases inner with
    | none => exact h
    | some e =>
      simpa only [Option.map_some, Option.toList_some, gatherOf, Expr.gather, slot,
        Expr.gather_parenthesized (f := slot) fun _ => rfl, List.append_nil] using h
  arbitrary := .refl
  nil := .refl
  gap h := h
  child _ _ h h' := by
    rw [Expr.gatherOf_append]
    exact h.trans h'

theorem localeCondition_grows (names : Conventions) (codes : List String) (owner : String)
    (b : Bindings) :
    b.Grows ((localeCondition names codes owner b).1.gather slot)
      (localeCondition names codes owner b).2 := by
  by_cases hc : codes = []
  · subst hc
    exact .refl
  · have hv : codes.map Value.string ≠ [] := by simpa using hc
    have hi : codes.isEmpty = false := by simpa using hc
    simpa [localeCondition, hi, Expr.gather, gatherOf, slot] using Bindings.Grows.many b _ hv

theorem localeConditions_grows (names : Conventions) (codes : List String) (owners : List String)
    (b : Bindings) :
    b.Grows (gatherOf slot (localeConditions names codes owners b).1)
      (localeConditions names codes owners b).2 := by
  induction owners generalizing b with
  | nil => exact .refl
  | cons owner rest ih => exact (localeCondition_grows names codes owner b).trans (ih _)

theorem Column.slots_item (names : Conventions) (resolver : Resolver) (c : Column) :
    (c.item names resolver).gather slot = [] := by
  have hp := (resolver.resolve c.path).slots_expr
  unfold Column.item
  split <;> simp [Expr.function, Expr.localized, Expr.localeKey, Expr.gather, gatherOf, slot, hp]

namespace Query

variable (names : Conventions) (resolver : Resolver) (q : Query)

theorem slots_items : gatherOf slot (q.items names resolver) = [] := by
  apply Expr.gatherOf_eq_nil
  intro e he
  rcases mem_items he with rfl | ⟨c, _, rfl⟩
  · unfold idItem
    split <;> rfl
  · exact c.slots_item names resolver

theorem slots_groupKeys : gatherOf slot (q.groupKeys names resolver) = [] := by
  apply Expr.gatherOf_eq_nil
  intro e he
  rcases mem_groupKeys he with rfl | ⟨c, _, rfl⟩
  · rfl
  · rfl

end Query

def Statement.slots (s : Statement) : List Slot :=
  s.gather slot

theorem Statement.map_name_slots (s : Statement) : s.slots.map Slot.name = s.placeholders := by
  simp only [slots, gather, placeholders, List.map_append, Expr.map_name_slotsOf]

namespace Compiler

variable {names : Conventions} {resolver : Resolver} {q : Query}

theorem conditions_grows {es : List Expr} {b : Bindings}
    (h : (resolving names resolver).conditions q = .ok (es, b)) :
    Bindings.empty.Grows (gatherOf slot es) b := by
  obtain ⟨filter, b₁, hf, rfl, rfl⟩ := conditions_parts h
  rw [Expr.gatherOf_append]
  exact ((growthLaw resolver).filter hf).trans (localeConditions_grows _ _ _ b₁)

theorem statement_grows {s : Compiled}
    (h : (resolving names resolver).compile q = .ok s ∨
      (resolving names resolver).compileCount q = .ok s) :
    Bindings.empty.Grows s.statement.slots s.parameters := by
  rcases h with h | h
  · obtain ⟨hs, hselect, hgroup⟩ := compile_parts h
    rw [Statement.slots, Statement.gather, hselect, hgroup, q.slots_items, q.slots_groupKeys]
    simpa using conditions_grows hs.conditions
  · obtain ⟨hs, hselect, hgroup⟩ := compileCount_parts h
    rw [Statement.slots, Statement.gather, hselect, hgroup]
    simpa [gatherOf, Expr.gather, slot, countItem, idExpr] using conditions_grows hs.conditions

/-- Every placeholder of a statement stands in it once and has an argument of its own kind, and no
argument is without a placeholder. -/
theorem placeholders_match_parameters {s : Compiled}
    (h : (resolving names resolver).compile q = .ok s ∨
      (resolving names resolver).compileCount q = .ok s) :
    s.statement.placeholders.Nodup ∧ s.parameters.names.Nodup ∧
      (∀ name, name ∈ s.statement.placeholders ↔ (s.parameters.find? name).isSome) ∧
      (∀ name, .many name ∈ s.statement.slots →
        ∃ v values, s.parameters.find? name = some (.list (v :: values))) ∧
      ∀ name, .one name ∈ s.statement.slots →
        ∃ v, s.parameters.find? name = some (.scalar v) := by
  have hg := statement_grows h
  have hp : s.parameters.names = s.statement.placeholders := by
    rw [hg.names_eq, s.statement.map_name_slots]
    rfl
  have hnd : s.parameters.names.Nodup := hg.nodup_names List.nodup_nil
  refine ⟨hp ▸ hnd, hnd, ?_, ?_, ?_⟩
  · intro name
    rw [← hp, Bindings.mem_names_iff_find?]
  · intro name hn
    obtain ⟨a, ha, ht⟩ := hg.exists_argument hn
    match a, ht with
    | .list (v :: values), _ => exact ⟨v, values, ha⟩
    | .list [], ht => exact absurd rfl ht
  · intro name hn
    obtain ⟨a, ha, ht⟩ := hg.exists_argument hn
    match a, ht with
    | .scalar v, _ => exact ⟨v, ha⟩

/-- The attribute `total_1` and a filter on the locale compete for the names of other arguments. -/
def competingQuery : Query :=
  { Query.ofEntity "Order" with
    filter := some (.allOf [.simple "total_1" .greaterThan [.int 1],
      .not (.simple "total" .between [.int 2, .int 3]), .isIn "localeData.locale" [.string "en"],
      .eq "localeData.name" (.string "x")])
    locale := ⟨"en", "US", ""⟩ }

theorem placeholders_match_parameters_competing : ∃ s : Compiled,
    (resolving .standard (.dotted "obj")).compile competingQuery = .ok s ∧
      s.statement.placeholders = ["objtotal_1", "objtotal", "objtotal_2", "localeDatalocale",
        "localeDataname", "localeDatalocale_1"] ∧
      s.statement.placeholders.Nodup := by
  obtain ⟨s, hs, hp⟩ : ∃ s : Compiled,
      (resolving .standard (.dotted "obj")).compile competingQuery = .ok s ∧
        s.statement.placeholders = ["objtotal_1", "objtotal", "objtotal_2", "localeDatalocale",
          "localeDataname", "localeDatalocale_1"] := ⟨_, rfl, rfl⟩
  exact ⟨s, hs, hp, (placeholders_match_parameters (.inl hs)).1⟩

end Compiler

end ObjectQuery
