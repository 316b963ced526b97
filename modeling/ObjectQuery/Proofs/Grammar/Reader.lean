import Mathlib.Data.List.Infix
import ObjectQuery.Proofs.Statement.Text

/-! Readers of tokens. A reader takes a phrase off the front of the tokens, and it is exact where it
takes all phrases that are written for values of a kind, and no other. -/

namespace ObjectQuery.Grammar

open Token (separated spaced listSeparator)

abbrev Reader (α : Type) : Type :=
  List Token → Option (α × List Token)

section

variable {α β : Type}

/-- Exact on phrases of fewer than `n` tokens. A phrase is read back where the tokens behind it end
it, and whatever is read off was written for a value of the kind. -/
structure Exact (n : Nat) (p : Reader α) (write : α → List Token) (Kind : α → Prop)
    (Ends : List Token → Prop) : Prop where
  complete : ∀ {a : α} {rest : List Token}, Kind a → (write a).length < n → Ends rest →
    p (write a ++ rest) = some (a, rest)
  sound : ∀ {ts : List Token} {a : α} {rest : List Token}, p ts = some (a, rest) →
    Kind a ∧ ts = write a ++ rest

theorem isPrefixOf?_eq_none_iff {ts us : List Token} : ts.isPrefixOf? us = none ↔ ¬ ts <+: us := by
  rw [Option.eq_none_iff_forall_ne_some]
  constructor
  · rintro h ⟨rest, hrest⟩
    exact h rest (List.isPrefixOf?_eq_some_iff_append_eq.mpr hrest)
  · intro h rest hrest
    exact h ⟨rest, List.isPrefixOf?_eq_some_iff_append_eq.mp hrest⟩

theorem isPrefixOf?_append (ts us : List Token) : ts.isPrefixOf? (ts ++ us) = some us :=
  List.isPrefixOf?_eq_some_iff_append_eq.mpr rfl

def Reader.map (f : α → β) (p : Reader α) : Reader β :=
  fun ts => (p ts).map fun r => (f r.1, r.2)

variable {n : Nat} {p : Reader α} {write : α → List Token} {Kind : α → Prop}
  {Ends : List Token → Prop}

theorem Exact.of_ends {Ends' : List Token → Prop} (h : Exact n p write Kind Ends)
    (he : ∀ {rest}, Ends' rest → Ends rest) : Exact n p write Kind Ends' :=
  ⟨fun ha hn hrest => h.complete ha hn (he hrest), h.sound⟩

theorem Exact.of_kind_iff {Kind' : α → Prop} (h : Exact n p write Kind Ends)
    (hk : ∀ {a}, Kind' a ↔ Kind a) : Exact n p write Kind' Ends := by
  constructor
  · intro a rest ha
    exact h.complete (hk.mp ha)
  · intro ts a rest hr
    obtain ⟨ha, hts⟩ := h.sound hr
    exact ⟨hk.mpr ha, hts⟩

theorem Exact.map (h : Exact n p write Kind Ends) {f : α → β} {write' : β → List Token}
    (hw : ∀ a, write' (f a) = write a) :
    Exact n (p.map f) write' (fun b => ∃ a, Kind a ∧ b = f a) Ends := by
  constructor
  · rintro _ rest ⟨a, ha, rfl⟩ hn hrest
    rw [hw] at hn ⊢
    rw [Reader.map, h.complete ha hn hrest]
    rfl
  · intro ts b rest hb
    obtain ⟨⟨a, us⟩, ha, hb⟩ := Option.map_eq_some_iff.mp hb
    cases hb
    obtain ⟨hk, hts⟩ := h.sound ha
    exact ⟨⟨a, hk, rfl⟩, hts.trans (by rw [hw])⟩

def Reader.seq (p : Reader α) (q : Reader β) : Reader (α × β) :=
  fun ts => (p ts).bind fun r => (q r.2).map fun s => ((r.1, s.1), s.2)

theorem Exact.seq {q : Reader β} {write' : β → List Token} {Kind' : β → Prop}
    {Ends' : List Token → Prop} (hp : Exact n p write Kind Ends) (hq : Exact n q write' Kind' Ends')
    (he : ∀ {b rest}, Kind' b → Ends' rest → Ends (write' b ++ rest)) :
    Exact n (p.seq q) (fun r => write r.1 ++ write' r.2) (fun r => Kind r.1 ∧ Kind' r.2) Ends' := by
  constructor
  · rintro ⟨a, b⟩ rest ⟨ha, hb⟩ hn hrest
    simp only [List.length_append] at ha hb hn ⊢
    have hfirst := hp.complete ha (by omega) (he hb hrest)
    have hsecond := hq.complete hb (by omega) hrest
    simp only [Reader.seq, List.append_assoc, hfirst, hsecond, Option.bind_some, Option.map_some]
  · rintro ts ⟨a, b⟩ rest hr
    obtain ⟨⟨a', us⟩, ha, hr⟩ := Option.bind_eq_some_iff.mp hr
    obtain ⟨⟨b', vs⟩, hb, hr⟩ := Option.map_eq_some_iff.mp hr
    cases hr
    obtain ⟨hka, rfl⟩ := hp.sound ha
    obtain ⟨hkb, rfl⟩ := hq.sound hb
    exact ⟨⟨hka, hkb⟩, (List.append_assoc ..).symm⟩

def Reader.behind (us : List Token) (p : Reader α) : Reader α :=
  fun ts => (us.isPrefixOf? ts).bind p

theorem Exact.behind (h : Exact n p write Kind Ends) (us : List Token) :
    Exact n (p.behind us) (fun a => us ++ write a) Kind Ends := by
  constructor
  · intro a rest ha hn hrest
    rw [List.length_append] at hn
    rw [Reader.behind, List.append_assoc, isPrefixOf?_append]
    exact h.complete ha (by omega) hrest
  · intro ts a rest hr
    obtain ⟨vs, hvs, hr⟩ := Option.bind_eq_some_iff.mp hr
    obtain ⟨ha, hts⟩ := h.sound hr
    exact ⟨ha, by rw [← List.append_eq_of_isPrefixOf?_eq_some hvs, hts, List.append_assoc]⟩

/-- At most `n` phrases with a separator between them, as long as there is one. -/
def phrases (separator : List Token) (p : Reader α) : Nat → Reader (List α)
  | 0, _ => none
  | n + 1, ts =>
    match p ts with
    | none => none
    | some (a, ts) =>
      match separator.isPrefixOf? ts with
      | none => some ([a], ts)
      | some ts => (phrases separator p n ts).map fun r => (a :: r.1, r.2)

/-- There are no more phrases than tokens, and one. -/
def list (separator : List Token) (p : Reader α) : Reader (List α) :=
  fun ts => phrases separator p (ts.length + 1) ts

theorem length_le_separated {separator phrase : List Token} {phrases : List (List Token)}
    (h : phrase ∈ phrases) : phrase.length ≤ (separated separator phrases).length := by
  induction phrases with
  | nil => simp at h
  | cons first rest ih =>
    cases rest with
    | nil => simp_all [separated_singleton]
    | cons next rest =>
      rw [separated_cons_cons, List.length_append, List.length_append]
      rcases List.mem_cons.mp h with rfl | h
      · omega
      · have hh := ih h
        omega

theorem length_phrases_le {separator : List Token} (hs : separator ≠ [])
    (phrases : List (List Token)) : phrases.length ≤ (separated separator phrases).length + 1 := by
  have hl := List.length_pos_iff.mpr hs
  induction phrases with
  | nil => simp
  | cons first rest ih =>
    cases rest with
    | nil => simp
    | cons next rest =>
      rw [separated_cons_cons, List.length_append, List.length_append, List.length_cons]
      omega

variable {separator : List Token}

theorem phrases_complete (h : Exact n p write Kind Ends)
    (hs : ∀ rest, Ends (separator ++ rest)) {as : List α} {rest : List Token} {m : Nat}
    (hne : as ≠ []) (hm : as.length ≤ m) (hk : ∀ a ∈ as, Kind a)
    (hn : ∀ a ∈ as, (write a).length < n) (he : Ends rest) (hsep : ¬ separator <+: rest) :
    phrases separator p m (separated separator (as.map write) ++ rest) = some (as, rest) := by
  induction as generalizing m with
  | nil => exact absurd rfl hne
  | cons a as ih =>
    obtain ⟨m, rfl⟩ : ∃ k, m = k + 1 := ⟨m - 1, by simp at hm; omega⟩
    have ha := hk a List.mem_cons_self
    have hl := hn a List.mem_cons_self
    -- A separator follows every phrase but the last one.
    cases as with
    | nil =>
      rw [List.map_singleton, separated_singleton, phrases, h.complete ha hl he]
      simp only [isPrefixOf?_eq_none_iff.mpr hsep]
    | cons b as =>
      have hrest := ih (List.cons_ne_nil b as) (by simpa using hm)
        (fun x hx => hk x (List.mem_cons_of_mem _ hx)) fun x hx => hn x (List.mem_cons_of_mem _ hx)
      rw [List.map_cons] at hrest
      rw [List.map_cons, List.map_cons, separated_cons_cons, List.append_assoc, List.append_assoc,
        phrases, h.complete ha hl (hs _)]
      simp only [isPrefixOf?_append, hrest, Option.map_some]

theorem phrases_sound (h : Exact n p write Kind Ends) {as : List α} {ts rest : List Token} {m : Nat}
    (hr : phrases separator p m ts = some (as, rest)) :
    as ≠ [] ∧ (∀ a ∈ as, Kind a) ∧ ts = separated separator (as.map write) ++ rest := by
  induction m generalizing ts as with
  | zero => cases hr
  | succ m ih =>
    rw [phrases] at hr
    split at hr
    · cases hr
    · rename_i a us ha
      obtain ⟨hk, rfl⟩ := h.sound ha
      split at hr
      · cases hr
        simpa [separated_singleton] using hk
      · rename_i vs hv
        obtain ⟨⟨bs, ws⟩, hbs, hr⟩ := Option.map_eq_some_iff.mp hr
        cases hr
        obtain ⟨hne, hks, rfl⟩ := ih hbs
        rw [← List.append_eq_of_isPrefixOf?_eq_some hv]
        cases bs with
        | nil => exact absurd rfl hne
        | cons b bs => simpa [separated_cons_cons, hk] using hks

/-- Several phrases are read like one, where neither another phrase nor a separator can follow. -/
theorem Exact.list (h : Exact n p write Kind Ends) (hsep : separator ≠ [])
    (hs : ∀ rest, Ends (separator ++ rest)) :
    Exact n (list separator p) (fun as => separated separator (as.map write))
      (fun as => as ≠ [] ∧ ∀ a ∈ as, Kind a) (fun rest => Ends rest ∧ ¬ separator <+: rest) := by
  constructor
  · rintro as rest ⟨hne, hk⟩ hn ⟨he, hrest⟩
    have hl := length_phrases_le hsep (as.map write)
    refine phrases_complete h hs hne ?_ hk ?_ he hrest
    · rw [List.length_map] at hl
      rw [List.length_append]
      omega
    · intro a ha
      exact (length_le_separated (List.mem_map_of_mem ha)).trans_lt hn
  · intro ts as rest hr
    obtain ⟨hne, hk, hts⟩ := phrases_sound h hr
    exact ⟨⟨hne, hk⟩, hts⟩

/-- A clause that begins with its keyword, or nothing. -/
def optional (keyword : Token) (p : Reader (List α)) : Reader (List α) :=
  fun ts => if spaced keyword <+: ts then p.behind (spaced keyword) ts else some ([], ts)

theorem Exact.optional {p : Reader (List α)} {phrase : α → List Token} {Kind : List α → Prop}
    {keyword : Token} (h : Exact n p (fun as => separated separator (as.map phrase)) Kind Ends)
    (hk : ∀ {as}, Kind as → as ≠ []) :
    Exact n (optional keyword p) (fun as => Statement.clause keyword separator (as.map phrase))
      (fun as => as = [] ∨ Kind as) (fun rest => Ends rest ∧ ¬ spaced keyword <+: rest) := by
  have hclause {as : List α} (ha : Kind as) : Statement.clause keyword separator (as.map phrase) =
      spaced keyword ++ separated separator (as.map phrase) := by
    rw [Statement.clause, if_neg (by simpa using hk ha)]
  constructor
  · rintro as rest (rfl | ha) hn ⟨he, hrest⟩
    · exact if_neg hrest
    · rw [hclause ha] at hn ⊢
      rw [Grammar.optional, if_pos ⟨_, (List.append_assoc ..).symm⟩]
      exact (h.behind _).complete ha hn he
  · intro ts as rest hr
    unfold Grammar.optional at hr
    split at hr
    · obtain ⟨ha, hts⟩ := (h.behind _).sound hr
      exact ⟨.inr ha, by rw [hts, hclause ha]⟩
    · cases hr
      exact ⟨.inl rfl, rfl⟩

/-- What all of the tokens are written for. -/
def Reader.all? (p : Reader α) (ts : List Token) : Option α :=
  match p ts with
  | some (a, []) => some a
  | _ => none

theorem Exact.all?_eq_some_iff {ts : List Token} {a : α}
    (h : Exact (ts.length + 1) p write Kind Ends) (he : Ends []) :
    p.all? ts = some a ↔ Kind a ∧ write a = ts := by
  unfold Reader.all?
  constructor
  · intro hr
    split at hr
    · rename_i b hb
      cases hr
      obtain ⟨ha, hts⟩ := h.sound hb
      exact ⟨ha, by rw [hts, List.append_nil]⟩
    · cases hr
  · rintro ⟨ha, rfl⟩
    have hr := h.complete ha (Nat.lt_succ_self _) he
    rw [List.append_nil] at hr
    rw [hr]

end

end ObjectQuery.Grammar
