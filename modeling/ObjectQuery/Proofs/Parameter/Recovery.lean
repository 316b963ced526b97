import ObjectQuery.Proofs.Alias.Navigation
import ObjectQuery.Proofs.Grammar.Compiled
import ObjectQuery.Proofs.Parameter.Slots
import ObjectQuery.Proofs.Statement.Clean

/-! The parameters of a statement can be recovered from its text. Where the settings are valid and a
query uses identifiers, no text but that of a parameter has a colon. -/

namespace ObjectQuery

open Token (separated spaced listSeparator)

namespace Restriction

mutual

/-- The texts of the arbitrary restrictions, from left to right. -/
def texts : Restriction → List String
  | .simple _ _ _ => []
  | .and children => childTexts children
  | .or children => childTexts children
  | .not child => child.texts
  | .arbitrary text => [text]

def childTexts : List (Option Restriction) → List String
  | [] => []
  | none :: rest => childTexts rest
  | some child :: rest => child.texts ++ childTexts rest

end

end Restriction

/-- The query calls everything by identifiers, but for stars that stand for whole rows, and it has
no predicate text of its own. -/
structure Query.IsNamed (q : Query) : Prop where
  entity : isIdentifier q.entity = true
  columns : ∀ c ∈ q.columns, c.path = "*" ∨ IdentifierPath c.path
  filter : ∀ path ∈ q.filter.elim [] Restriction.paths, IdentifierPath path
  texts : q.filter.elim [] Restriction.texts = []

structure Conventions.AreNamed (names : Conventions) : Prop where
  rootAlias : isIdentifier names.rootAlias = true
  idField : isIdentifier names.idField = true
  localeField : isIdentifier names.localeField = true

theorem Settings.areNamed {s : Settings} (h : s.validate = .ok ()) : s.names.AreNamed := by
  have hfault : s.fault? = none := by
    unfold validate at h
    split at h
    · cases h
    · assumption
  have hfound : (s.identifiers.find? fun entry => !isIdentifier entry.2) = none := by
    unfold fault? at hfault
    split at hfault
    · cases hfault
    · rename_i hnone
      exact hnone
  have hall := List.find?_eq_none.mp hfound
  have hname {key value : String} (hmem : (key, value) ∈ s.identifiers) :
      isIdentifier value = true := by
    simpa using hall _ hmem
  have hroot : ("compiler.root_alias", s.names.rootAlias) ∈ s.identifiers := by simp [identifiers]
  have hid : ("compiler.id_attribute", s.names.idField) ∈ s.identifiers := by simp [identifiers]
  have hlocale : ("locale.column", s.names.localeField) ∈ s.identifiers := by simp [identifiers]
  exact ⟨hname hroot, hname hid, hname hlocale⟩

theorem colon_not_mem {name : String} (h : isIdentifier name = true) : ':' ∉ name.toList :=
  not_mem_of_isIdentifier h (by decide)

/-- A resolved path whose owner and relations are identifiers. Its field may be a star. -/
structure ResolvedPath.IsNamed (p : ResolvedPath) : Prop where
  owner : isIdentifier p.owner = true
  field : ':' ∉ p.field.toList
  segments : ∀ s ∈ p.segments, isIdentifier s = true

namespace ResolvedPath

variable {p : ResolvedPath} {root path : String}

theorem IsNamed.of_path (hroot : isIdentifier root = true) (h : IdentifierPath path) :
    ((Resolver.dotted root).resolve path).IsNamed where
  owner := h.isIdentifier_owner hroot
  field := colon_not_mem h.isIdentifier_field
  segments := h.isIdentifier_of_mem_segments

theorem IsNamed.star (hroot : isIdentifier root = true) :
    ((Resolver.dotted root).resolve "*").IsNamed where
  owner := hroot
  field := by
    change ':' ∉ (((Text.split '.' "*".toList).map String.ofList).getLastD "").toList
    decide
  segments := by
    change ∀ s ∈ ((Text.split '.' "*".toList).map String.ofList).dropLast, isIdentifier s = true
    decide

theorem IsNamed.isClean_expr (h : p.IsNamed) : p.expr.IsClean := by
  unfold expr
  split
  · exact (by decide : Clean [Token.star])
  · exact Expr.isClean_column (colon_not_mem h.owner) h.field

end ResolvedPath

theorem ValueCondition.isClean {target e : Expr} {base : String} {operator : Operator}
    {values : List Value} {b b' : Bindings} (h : ValueCondition target base b operator values e b')
    (ht : target.IsClean) (hb : isIdentifier base = true) : e.IsClean := by
  have hname (b : Bindings) (a : Argument) := isIdentifier_bind hb b a
  cases h with
  | isIn | notIn => exact Expr.isClean_in _ ht (hname _ _)
  | between =>
    exact Expr.isClean_between ht (Expr.isClean_param (hname _ _)) (Expr.isClean_param (hname _ _))
  | isNull | isNotNull => exact Expr.isClean_isNull _ ht
  | compare => exact Expr.isClean_compare _ ht (Expr.isClean_param (hname _ _))
  | like => exact Expr.isClean_like ht (Expr.isClean_param (hname _ _))

theorem cleanLaw {root : String} (hroot : isIdentifier root = true) :
    FilterLaw (.dotted root)
      (fun r _ o _ => r.texts = [] → (∀ path ∈ r.paths, IdentifierPath path) →
        ∀ e ∈ o, e.IsClean)
      (fun children _ es _ => Restriction.childTexts children = [] →
        (∀ path ∈ Restriction.childPaths children, IdentifierPath path) →
        ∀ e ∈ es, e.IsClean) where
  simple {path _ _ _ _ _} h := by
    rintro - hpaths _ ⟨⟩
    have hpath := hpaths path (by simp [Restriction.paths])
    exact h.isClean (ResolvedPath.IsNamed.of_path hroot hpath).isClean_expr
      (isIdentifier_parameterBase (hpath.isIdentifier_owner hroot) hpath.isIdentifier_field)
  and h ht hp := Expr.isClean_combine Expr.isClean_and (h ht hp)
  or h ht hp := Expr.isClean_combine Expr.isClean_or (h ht hp)
  not h ht hp := by
    intro e he
    obtain ⟨o, ho, rfl⟩ := Option.map_eq_some_iff.mp he
    exact Expr.isClean_not (Expr.isClean_parenthesized (h ht hp o ho))
  arbitrary ht := by simp [Restriction.texts] at ht
  nil := by simp
  gap h := h
  child _ _ h h' ht hp := by
    obtain ⟨ht, ht'⟩ := List.append_eq_nil_iff.mp ht
    obtain ⟨hp, hp'⟩ := List.forall_mem_append.mp hp
    intro e he
    rcases List.mem_append.mp he with he | he
    · exact h ht hp e (Option.mem_toList.mp he)
    · exact h' ht' hp' e he

section

variable {names : Conventions} {q : Query}

theorem isClean_localeCondition (hnames : names.AreNamed) (codes : List String) {owner : String}
    (ho : isIdentifier owner = true) (b : Bindings) :
    (localeCondition names codes owner b).1.IsClean := by
  have hcode : (Expr.column owner names.localeField).IsClean :=
    Expr.isClean_column (colon_not_mem ho) (colon_not_mem hnames.localeField)
  have hnull := Expr.isClean_isNull false hcode
  unfold localeCondition
  split
  · exact Expr.isClean_paren hnull
  · have hbase := isIdentifier_parameterBase ho hnames.localeField
    have hin := Expr.isClean_in false hcode
      (isIdentifier_bind hbase b (.list (codes.map .string)))
    exact Expr.isClean_paren (Expr.isClean_or (by simpa using ⟨hin, hnull⟩))

theorem isClean_of_mem_localeConditions (hnames : names.AreNamed) {codes owners : List String}
    (ho : ∀ owner ∈ owners, isIdentifier owner = true) {b : Bindings} {e : Expr}
    (h : e ∈ (localeConditions names codes owners b).1) : e.IsClean := by
  induction owners generalizing b with
  | nil => simp [localeConditions] at h
  | cons owner rest ih =>
    rcases List.mem_cons.mp h with rfl | h
    · exact isClean_localeCondition hnames codes (ho owner List.mem_cons_self) b
    · exact ih (fun other hother => ho other (List.mem_cons_of_mem _ hother)) h

theorem Expr.isClean_function {name : String} {args : List Expr} (hn : Clean [.func name])
    (h : ∀ e ∈ args, e.IsClean) : (function name args).IsClean :=
  isClean_call false hn h

theorem Expr.isClean_localized {code value : Expr} (hc : code.IsClean) (hv : value.IsClean)
    (width : Nat) : (localized code value width).IsClean := by
  have hempty : (str "").IsClean := isClean_blanks 0
  have hcoalesce : (function "coalesce" [code, str ""]).IsClean :=
    isClean_function (by decide +kernel) (by simpa using ⟨hc, hempty⟩)
  have hfilled : (function "concat" [function "coalesce" [code, str ""],
      str (String.ofList (List.replicate width ' '))]).IsClean :=
    isClean_function (by decide +kernel) (by simpa using ⟨hcoalesce, isClean_blanks width⟩)
  have hkey : (localeKey code width).IsClean :=
    isClean_function (by decide +kernel)
      (by simpa using ⟨hfilled, isClean_int 1, isClean_int width⟩)
  have hrow : (function "concat" [localeKey code width, value]).IsClean :=
    isClean_function (by decide +kernel) (by simpa using ⟨hkey, hv⟩)
  have hgreatest : (function "max" [function "concat" [localeKey code width, value]]).IsClean :=
    isClean_function (by decide +kernel) (by simpa using hrow)
  exact isClean_function (by decide +kernel)
    (by simpa using ⟨hgreatest, isClean_int (width + 1)⟩)

theorem Column.isClean_item (hnames : names.AreNamed) {resolver : Resolver} {c : Column}
    (h : (resolver.resolve c.path).IsNamed) : (c.item names resolver).IsClean := by
  have hexpr := h.isClean_expr
  have hcall {name : String} {distinct : Bool} (hn : Clean [.func name]) :
      (Expr.call name distinct [(resolver.resolve c.path).expr]).IsClean :=
    Expr.isClean_call distinct hn (by simpa using hexpr)
  have hcode : (Expr.column (resolver.resolve c.path).owner names.localeField).IsClean :=
    Expr.isClean_column (colon_not_mem h.owner) (colon_not_mem hnames.localeField)
  cases haggregate : c.aggregate with
  | none => simpa only [item, haggregate] using hexpr
  | some aggregate =>
    simp only [item, haggregate]
    cases aggregate
    case locale => exact Expr.isClean_localized hcode hexpr _
    all_goals exact hcall (by decide +kernel)

end

theorem isIdentifier_aliasOf {root : String} {relations : List String}
    (hroot : isIdentifier root = true) (h : ∀ name ∈ relations, isIdentifier name = true) :
    isIdentifier (aliasOf root relations) = true := by
  unfold aliasOf
  split
  · exact hroot
  · rename_i hne
    exact isIdentifier_join (by simpa using hne) h

theorem Clean.join {j : Join} (hp : ':' ∉ j.parent.toList) (hr : ':' ∉ j.relation.toList)
    (hc : ':' ∉ j.child.toList) : Clean j.tokens := by
  have hjoin : Clean [.leftOuterJoin, .space] := by decide
  have hdot : Clean [.dot] := by decide
  have has : Clean (spaced .as) := by decide
  exact ((hjoin.append ((Clean.ident hp).append (hdot.append (.ident hr)))).append has).append
    (.ident hc)

theorem OrderKey.clean_tokens (k : OrderKey) : Clean k.tokens := by
  have hordinal : Clean [.int k.ordinal] := Expr.isClean_int k.ordinal
  have hdirection : Clean (k.direction.elim [] fun direction => [.space, direction.token]) := by
    cases k.direction with
    | none => decide
    | some direction => cases direction <;> decide
  exact hordinal.append hdirection

namespace Query

variable {names : Conventions} {root : String} {q : Query}

theorem IsNamed.of_column (hq : q.IsNamed) (hroot : isIdentifier root = true) {c : Column}
    (hc : c ∈ q.columns) : ((Resolver.dotted root).resolve c.path).IsNamed := by
  rcases hq.columns c hc with hpath | hpath
  · rw [hpath]
    exact .star hroot
  · exact .of_path hroot hpath

theorem IsNamed.of_mem_paths (hq : q.IsNamed) (hroot : isIdentifier root = true) {path : String}
    (h : path ∈ q.paths) : ((Resolver.dotted root).resolve path).IsNamed := by
  rcases List.mem_append.mp h with h | h
  · obtain ⟨c, hc, rfl⟩ := List.mem_map.mp h
    exact hq.of_column hroot hc
  · exact .of_path hroot (hq.filter path h)

theorem IsNamed.clean_joins (hq : q.IsNamed) (hroot : isIdentifier root = true) :
    ∀ j ∈ (q.joins (.dotted root)).joins, Clean j.tokens := by
  intro j hj
  obtain ⟨u, relation, hu, rfl⟩ := eq_follow_of_mem_joins hj
  obtain ⟨path, hpath, hleads⟩ := mem_relationPrefixes.mp hu
  have hchild : ∀ name ∈ u ++ [relation], isIdentifier name = true := fun name hn =>
    (hq.of_mem_paths hroot hpath).segments name (hleads.subset hn)
  have hparent : ∀ name ∈ u, isIdentifier name = true := fun name hn =>
    hchild name (List.mem_append_left _ hn)
  have hrelation := hchild relation (by simp)
  exact .join (colon_not_mem (isIdentifier_aliasOf hroot hparent)) (colon_not_mem hrelation)
    (colon_not_mem (isIdentifier_aliasOf hroot hchild))

theorem isClean_idExpr (hnames : names.AreNamed) :
    (idExpr names (.dotted names.rootAlias)).IsClean :=
  Expr.isClean_column (colon_not_mem hnames.rootAlias) (colon_not_mem hnames.idField)

theorem IsNamed.isClean_of_mem_items (hq : q.IsNamed) (hnames : names.AreNamed) {e : Expr}
    (h : e ∈ q.items names (.dotted names.rootAlias)) : e.IsClean := by
  rcases mem_items h with rfl | ⟨c, hc, rfl⟩
  · unfold idItem
    split
    · exact Expr.isClean_function (by decide +kernel) (by simpa using isClean_idExpr hnames)
    · exact isClean_idExpr hnames
  · exact c.isClean_item hnames (hq.of_column hnames.rootAlias hc)

theorem IsNamed.isClean_of_mem_groupKeys (hq : q.IsNamed) (hnames : names.AreNamed) {e : Expr}
    (h : e ∈ q.groupKeys names (.dotted names.rootAlias)) : e.IsClean := by
  rcases mem_groupKeys h with rfl | ⟨c, hc, rfl⟩
  · exact isClean_idExpr hnames
  · have hp := hq.of_column hnames.rootAlias hc
    exact Expr.isClean_column (colon_not_mem hp.owner) hp.field

theorem IsNamed.isIdentifier_localizedAlias (hq : q.IsNamed) (hnames : names.AreNamed) :
    ∀ owner ∈ q.localizedAliases names (.dotted names.rootAlias), isIdentifier owner = true := by
  intro owner ho
  obtain ⟨path, hpath, rfl⟩ := List.mem_map.mp (q.localizedAliases_subset names _ ho)
  exact (hq.of_mem_paths hnames.rootAlias hpath).owner

end Query

theorem Statement.clean_tokens {s : Statement} (hselect : ∀ e ∈ s.select, e.IsClean)
    (hentity : ':' ∉ s.entity.toList) (hroot : ':' ∉ s.root.toList)
    (hjoins : ∀ j ∈ s.joins, Clean j.tokens) (hconditions : ∀ e ∈ s.conditions, e.IsClean)
    (hgroup : ∀ e ∈ s.groupBy, e.IsClean) : Clean s.tokens := by
  have hitems : Clean (separated listSeparator (Expr.phrases s.select)) :=
    .separated (by decide) (Expr.clean_phrases hselect)
  have has : Clean (spaced .as) := by decide
  have hroots : Clean s.rootTokens := (Clean.ident hentity).append (has.append (.ident hroot))
  have hspace : Clean [.space] := by decide
  have hfollowed : Clean (s.joins.flatMap fun j => .space :: j.tokens) :=
    .flatMap fun j hj => hspace.append (hjoins j hj)
  have hwhere : Clean (clause .where (spaced .and) (Expr.phrases s.conditions)) :=
    .clause (by decide) (by decide) (Expr.clean_phrases hconditions)
  have hkeys : Clean (clause .groupBy listSeparator (Expr.phrases s.groupBy)) :=
    .clause (by decide) (by decide) (Expr.clean_phrases hgroup)
  have horder : Clean (clause .orderBy listSeparator (s.orderBy.map OrderKey.tokens)) := by
    refine .clause (by decide) (by decide) ?_
    intro ts hts
    obtain ⟨k, _, rfl⟩ := List.mem_map.mp hts
    exact k.clean_tokens
  have hsource : Clean s.sourceTokens := (hroots.append hfollowed).append hwhere
  have hstart : Clean ([.select, .space] ++ separated listSeparator (Expr.phrases s.select)) :=
    Clean.append (by decide) hitems
  have hfrom : Clean (spaced .from) := by decide
  exact (((hstart.append hfrom).append hsource).append hkeys).append horder

namespace Compiler

variable {names : Conventions} {q : Query} {s : Compiled}

theorem isClean_of_mem_conditions (hnames : names.AreNamed) (hq : q.IsNamed) {es : List Expr}
    {b : Bindings} (h : (ofConventions names).conditions q = .ok (es, b)) :
    ∀ e ∈ es, e.IsClean := by
  obtain ⟨filter, b₁, hf, rfl, _⟩ := conditions_parts h
  have htexts : (q.filter.getD (.and [])).texts = [] := by
    have htexts := hq.texts
    cases hfilter : q.filter with
    | none => rfl
    | some r => simpa [hfilter] using htexts
  have hpaths : ∀ path ∈ (q.filter.getD (.and [])).paths, IdentifierPath path := by
    have hpaths := hq.filter
    cases hfilter : q.filter with
    | none => simp [Restriction.paths, Restriction.childPaths]
    | some r => simpa [hfilter] using hpaths
  intro e he
  rcases List.mem_append.mp he with he | he
  · exact (cleanLaw hnames.rootAlias).filter hf htexts hpaths e (Option.mem_toList.mp he)
  · exact isClean_of_mem_localeConditions hnames (hq.isIdentifier_localizedAlias hnames) he

theorem clean_of_yields (hnames : names.AreNamed) (hq : q.IsNamed)
    (h : (ofConventions names).Yields q s) : Clean s.statement.tokens := by
  have hsource : (ofConventions names).HasSource q s := Yields.hasSource h
  have hentity : ':' ∉ s.statement.entity.toList := by
    rw [hsource.entity]
    exact colon_not_mem hq.entity
  have hroot : ':' ∉ s.statement.root.toList := by
    rw [hsource.root]
    exact colon_not_mem hnames.rootAlias
  have hjoins : ∀ j ∈ s.statement.joins, Clean j.tokens := by
    rw [hsource.joins]
    exact hq.clean_joins hnames.rootAlias
  have hconditions := isClean_of_mem_conditions hnames hq hsource.conditions
  rcases h with h | h
  · obtain ⟨_, hselect, hgroup⟩ := compile_parts h
    refine Statement.clean_tokens ?_ hentity hroot hjoins hconditions ?_
    · rw [hselect]
      exact fun e he => hq.isClean_of_mem_items hnames he
    · rw [hgroup]
      exact fun e he => hq.isClean_of_mem_groupKeys hnames he
  · obtain ⟨_, hselect, hgroup⟩ := compileCount_parts h
    have hid : (idExpr names (.dotted names.rootAlias)).IsClean := Query.isClean_idExpr hnames
    have hcount : (ofConventions names).countItem.IsClean :=
      Expr.isClean_call true (by decide +kernel) (List.forall_mem_singleton.mpr hid)
    refine Statement.clean_tokens ?_ hentity hroot hjoins hconditions ?_
    · simpa [hselect] using hcount
    · simp [hgroup]

theorem isIdentifier_of_clean {ts : List Token} (h : Clean ts) :
    ∀ name ∈ ts.flatMap Token.params, isIdentifier name = true := by
  intro name hn
  obtain ⟨t, ht, hn⟩ := List.mem_flatMap.mp hn
  cases t with
  | param other =>
    obtain rfl := List.mem_singleton.mp hn
    exact h _ ht
  | _ => cases hn

/-- What a scan of the text finds behind its colons are the names of the parameters, in the order
they were bound. Each of them is an identifier and is found once. -/
theorem placeholdersIn_text {settings : Settings} (hs : settings.validate = .ok ())
    (hq : q.IsNamed) (h : (ofConventions settings.names).Yields q s) :
    placeholdersIn s.text.toList = s.parameters.names ∧
    (placeholdersIn s.text.toList).Nodup ∧
    (∀ name, name ∈ placeholdersIn s.text.toList ↔ (s.parameters.find? name).isSome) ∧
    ∀ name, (s.parameters.find? name).isSome → isIdentifier name = true := by
  have hclean := clean_of_yields (Settings.areNamed hs) hq h
  have hscan : placeholdersIn s.text.toList = s.statement.placeholders := by
    rw [← Statement.params_tokens]
    exact placeholdersIn_render s.statement.apart_tokens hclean
  have hgrows := statement_grows h
  have hnames : s.parameters.names = s.statement.placeholders := by
    rw [hgrows.names_eq, ← Statement.map_name_slots]
    rfl
  have hnodup := hgrows.nodup_names .nil
  rw [hscan, ← hnames]
  refine ⟨rfl, hnodup, s.parameters.mem_names_iff_find?, ?_⟩
  intro name hn
  have hmem := (s.parameters.mem_names_iff_find? name).mpr hn
  rw [hnames, ← Statement.params_tokens] at hmem
  exact isIdentifier_of_clean hclean name hmem

/-- A row of everything, a localized title, and attributes whose parameters have names that begin
with each other's. -/
def nestedNamesQuery : Query :=
  { Query.ofEntity "Order" with
    columns := [⟨"*", none⟩, ⟨"lines.localeData.title", some .locale⟩]
    filter := some (.and [some (.simple "total_1" .greaterThan [.int 1]), none,
      some (.not (.or [some (.simple "total" .between [.int 2, .int 3]),
        some (.isIn "lines.total" [.int 4])]))])
    sort := [some ⟨1, false⟩]
    locale := ⟨"de", "AT", ""⟩ }

theorem isNamed_nestedNames : nestedNamesQuery.IsNamed where
  entity := by decide
  columns := by decide +kernel
  filter := by decide +kernel
  texts := by decide

theorem placeholdersIn_text_nestedNames : ∃ s count : Compiled,
    standard.compile nestedNamesQuery = .ok s ∧ standard.compileCount nestedNamesQuery = .ok count ∧
    Settings.standard.validate = .ok () ∧ nestedNamesQuery.IsNamed ∧
    s.parameters.names =
      ["objtotal_1", "objtotal", "objtotal_2", "linestotal", "lineslocaleDatalocale"] ∧
    placeholdersIn s.text.toList = s.parameters.names ∧
    placeholdersIn count.text.toList = count.parameters.names := by
  obtain ⟨s, hs, hn⟩ : ∃ s : Compiled, standard.compile nestedNamesQuery = .ok s ∧
      s.parameters.names =
        ["objtotal_1", "objtotal", "objtotal_2", "linestotal", "lineslocaleDatalocale"] :=
    ⟨_, rfl, by decide +kernel⟩
  obtain ⟨count, hcount⟩ : ∃ count : Compiled, standard.compileCount nestedNamesQuery = .ok count :=
    ⟨_, rfl⟩
  have hvalid : Settings.standard.validate = .ok () := by decide
  exact ⟨s, count, hs, hcount, hvalid, isNamed_nestedNames, hn,
    (placeholdersIn_text hvalid isNamed_nestedNames (.inl hs)).1,
    (placeholdersIn_text hvalid isNamed_nestedNames (.inr hcount)).1⟩

end Compiler

end ObjectQuery
