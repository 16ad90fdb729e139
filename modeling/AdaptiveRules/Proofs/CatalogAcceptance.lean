import AdaptiveRules.Catalog
import AdaptiveRules.Proofs.NumberReading
import AdaptiveRules.Proofs.RuleInstallation

/-!
# Which catalogs are accepted

The faults of an entry can be listed on their own, in the order in which they are looked for: the
name, the rule, the confidence, the syntax of the rule.  A catalog is accepted if no entry has a
fault and no two entries share a name and a language, and then every pattern is what its entry
says.  Otherwise the first entry that is refused decides what is reported.
-/

namespace AdaptiveRules

variable {c : Configuration} {engine : QueryEngine} {now : Instant} {e : CatalogEntry}
  {p : Pattern} {fault : PatternFault} {problem : Problem} {entries : List CatalogEntry}
  {patterns : List Pattern} {seen : List (String × String)}

namespace CatalogEntry

/-! ### The faults of an entry -/

/-- What is wrong with the rule: as a query if the engine knows the language, as a regular
expression otherwise. -/
def syntaxFaults (engine : QueryEngine) (e : CatalogEntry) : List PatternFault :=
  if engine.supports e.language then
    (engine.complaint? e.language e.rule).toList.map (PatternFault.invalidQuery e.name)
  else
    match TextRule.compile e.rule with
    | .error error => [.invalidRule e.name error]
    | .ok _ => []

/-- Everything that is wrong with an entry. -/
def faults (engine : QueryEngine) (e : CatalogEntry) : List PatternFault :=
  (if TextLines.isBlank e.name then [.emptyName] else []) ++
    (if TextLines.isBlank e.rule then [.emptyRule e.name] else []) ++
    (if 0 ≤ e.confidence ∧ e.confidence ≤ 1 then []
      else [.invalidConfidence e.name e.confidence]) ++
    e.syntaxFaults engine

/-- The entry says what a pattern needs. -/
structure IsSound (engine : QueryEngine) (e : CatalogEntry) : Prop where
  name : TextLines.isBlank e.name = false
  rule : TextLines.isBlank e.rule = false
  number : e.confidence.isNaN = false
  share : 0 ≤ e.confidence ∧ e.confidence ≤ 1
  query : engine.supports e.language = true → engine.complaint? e.language e.rule = none
  expression : engine.supports e.language = false → ∃ rule, TextRule.compile e.rule = .ok rule

theorem syntaxFaults_eq_nil_iff : e.syntaxFaults engine = [] ↔
    (engine.supports e.language = true → engine.complaint? e.language e.rule = none) ∧
      (engine.supports e.language = false → ∃ rule, TextRule.compile e.rule = .ok rule) := by
  unfold syntaxFaults
  cases engine.supports e.language with
  | true => simp
  | false => cases TextRule.compile e.rule <;> simp

/-- A number between zero and one is a number. -/
theorem isNaN_eq_false {x : Float} (hshare : 0 ≤ x ∧ x ≤ 1) : x.isNaN = false := by
  have hfinite := Decimal.IsShare.isFinite hshare
  unfold Json.isFinite at hfinite
  simpa using (Bool.and_eq_true_iff.mp hfinite).1

theorem faults_eq_nil_iff : e.faults engine = [] ↔ e.IsSound engine := by
  have hparts : e.faults engine = [] ↔
      TextLines.isBlank e.name = false ∧ TextLines.isBlank e.rule = false ∧
        (0 ≤ e.confidence ∧ e.confidence ≤ 1) ∧ e.syntaxFaults engine = [] := by
    simp [faults, and_assoc]
  rw [hparts, syntaxFaults_eq_nil_iff]
  constructor
  · rintro ⟨hname, hrule, hshare, hquery, hexpression⟩
    exact ⟨hname, hrule, isNaN_eq_false hshare, hshare, hquery, hexpression⟩
  · rintro ⟨hname, hrule, _, hshare, hquery, hexpression⟩
    exact ⟨hname, hrule, hshare, hquery, hexpression⟩

theorem exists_head_faults (hfaulty : ¬ e.IsSound engine) :
    ∃ fault, (e.faults engine).head? = some fault := by
  rw [← faults_eq_nil_iff] at hfaulty
  exact ⟨_, List.head?_eq_some_head hfaulty⟩

theorem body_eq_error_iff :
    e.definition.body engine = .error fault ↔ (e.syntaxFaults engine).head? = some fault := by
  unfold PatternDefinition.body syntaxFaults
  cases hsupports : engine.supports e.language with
  | true =>
      rw [if_pos rfl, if_pos (by exact hsupports)]
      cases hcomplaint : engine.complaint? e.language e.rule <;> simp [definition, hcomplaint]
  | false =>
      rw [if_neg Bool.false_ne_true,
        if_neg (by rw [definition, hsupports]; exact Bool.false_ne_true)]
      cases hrule : TextRule.compile e.rule <;> simp [definition, hrule]

theorem isConfident_iff :
    e.definition.isConfident = true ↔ 0 ≤ e.confidence ∧ e.confidence ≤ 1 := by
  rw [PatternDefinition.isConfident, Bool.and_eq_true, decide_eq_true_iff, decide_eq_true_iff]
  rfl

/-- The first of the faults is the one that is found. -/
theorem validate_eq_error_iff :
    e.definition.validate engine = .error fault ↔ (e.faults engine).head? = some fault := by
  unfold PatternDefinition.validate faults
  by_cases hname : TextLines.isBlank e.name = true
  · simp [definition, hname]
  by_cases hrule : TextLines.isBlank e.rule = true
  · simp [definition, hname, hrule]
  show (if TextLines.isBlank e.name = true then _ else if TextLines.isBlank e.rule = true then _
    else if (!e.definition.isConfident) = true then _ else e.definition.body engine) = _ ↔ _
  rw [if_neg hname, if_neg hrule, if_neg hname, if_neg hrule, List.nil_append, List.nil_append]
  by_cases hshare : 0 ≤ e.confidence ∧ e.confidence ≤ 1
  · rw [if_neg (by simp [isConfident_iff.mpr hshare]), if_pos hshare, List.nil_append]
    exact body_eq_error_iff
  · rw [if_pos (by simpa using fun h => hshare (isConfident_iff.mp h)), if_neg hshare]
    simp [definition]

/-! ### The pattern of an entry -/

/-- The pattern is what the entry says. -/
structure Carries (engine : QueryEngine) (e : CatalogEntry) (p : Pattern) : Prop where
  name : p.name = e.name
  language : p.language = e.language
  rule : p.core.body.source = e.rule
  category : p.core.definition.category = e.category
  purpose : p.core.definition.purpose = e.purpose
  confidence : p.core.definition.confidence = e.confidence
  metadata : p.core.definition.metadata = e.metadata
  structural : p.core.body.isStructural = engine.supports e.language

theorem source_of_body {body : RuleBody} (hbody : e.definition.body engine = .ok body) :
    body.source = e.rule ∧ body.isStructural = engine.supports e.language := by
  unfold PatternDefinition.body at hbody
  split at hbody
  · next hsupports =>
      cases hcomplaint : engine.complaint? e.definition.language e.definition.rule with
      | some message =>
          rw [hcomplaint] at hbody
          cases hbody
      | none =>
          rw [hcomplaint] at hbody
          cases hbody
          exact ⟨rfl, hsupports.symm⟩
  · next hsupports =>
      cases hrule : TextRule.compile e.definition.rule with
      | error error =>
          rw [hrule] at hbody
          cases hbody
      | ok rule =>
          rw [hrule] at hbody
          cases hbody
          exact ⟨TextRule.source_of_compile hrule, (Bool.eq_false_iff.mpr hsupports).symm⟩

theorem body_of_validate {body : RuleBody} (hvalid : e.definition.validate engine = .ok body) :
    e.definition.body engine = .ok body := by
  unfold PatternDefinition.validate at hvalid
  split_ifs at hvalid
  exact hvalid

theorem pattern_eq_error_iff :
    Catalog.pattern c engine now e = .error fault ↔ (e.faults engine).head? = some fault := by
  rw [← validate_eq_error_iff]
  unfold Catalog.pattern RulePattern.ofDefinition
  cases hvalid : e.definition.validate engine with
  | error other => exact ⟨fun h => by cases h; rfl, fun h => by cases h; rfl⟩
  | ok body => cases e.mode <;> simp [bind, Except.bind, pure, Except.pure]

/-- The mode decides what stands beside the rule, never what the entry says. -/
theorem carries_of_pattern (hmade : Catalog.pattern c engine now e = .ok p) :
    e.Carries engine p := by
  unfold Catalog.pattern RulePattern.ofDefinition at hmade
  cases hvalid : e.definition.validate engine with
  | error fault =>
      rw [hvalid] at hmade
      cases hmade
  | ok body =>
      obtain ⟨hrule, hstructural⟩ := source_of_body (body_of_validate hvalid)
      rw [hvalid] at hmade
      cases hmode : e.mode <;> simp only [hmode] at hmade <;> cases hmade <;>
        exact ⟨rfl, rfl, hrule, rfl, rfl, rfl, rfl, hstructural⟩

end CatalogEntry

namespace Catalog

/-! ### Entries one after another -/

/-- The entries are accepted after others that were seen. -/
structure Accepts (engine : QueryEngine) (seen : List (String × String))
    (entries : List CatalogEntry) : Prop where
  distinct : (entries.map CatalogEntry.identity).Nodup
  unseen : ∀ e ∈ entries, e.identity ∉ seen
  sound : ∀ e ∈ entries, e.IsSound engine

/-- The first problem with an entry after others that were seen. -/
inductive Refuses (engine : QueryEngine) (seen : List (String × String)) (e : CatalogEntry) :
    Problem → Prop
  | repeated (hseen : e.identity ∈ seen) : Refuses engine seen e (duplicate e)
  | faulty {fault : PatternFault} (hunseen : e.identity ∉ seen)
      (hfault : (e.faults engine).head? = some fault) : Refuses engine seen e (.pattern fault)

theorem eq_error_of_map {α β ε : Type} {x : Except ε α} {f : α → β} {err : ε}
    (hx : x.map f = .error err) : x = .error err := by
  cases x with
  | error other =>
      cases hx
      rfl
  | ok a => cases hx

theorem accepts_nil : Accepts engine seen [] := ⟨List.nodup_nil, nofun, nofun⟩

theorem accepts_cons_iff : Accepts engine seen (e :: entries) ↔
    (e.identity ∉ seen ∧ e.IsSound engine) ∧ Accepts engine (e.identity :: seen) entries := by
  constructor
  · rintro ⟨hdistinct, hunseen, hsound⟩
    rw [List.map_cons, List.nodup_cons] at hdistinct
    refine ⟨⟨hunseen e List.mem_cons_self, hsound e List.mem_cons_self⟩, hdistinct.2, ?_,
      fun d hd => hsound d (List.mem_cons_of_mem _ hd)⟩
    intro d hd hmem
    rcases List.mem_cons.mp hmem with heq | hmem
    · exact hdistinct.1 (heq ▸ List.mem_map_of_mem hd)
    · exact hunseen d (List.mem_cons_of_mem _ hd) hmem
  · rintro ⟨⟨hfirst, hfirstSound⟩, hdistinct, hunseen, hsound⟩
    refine ⟨?_, List.forall_mem_cons.mpr ⟨hfirst, fun d hd hmem =>
      hunseen d hd (List.mem_cons_of_mem _ hmem)⟩, List.forall_mem_cons.mpr ⟨hfirstSound, hsound⟩⟩
    rw [List.map_cons, List.nodup_cons]
    refine ⟨fun hmem => ?_, hdistinct⟩
    obtain ⟨d, hd, heq⟩ := List.mem_map.mp hmem
    exact hunseen d hd (heq ▸ List.mem_cons_self)

theorem patternsFrom_of_refuses (hrefused : Refuses engine seen e problem) :
    patternsFrom c engine now seen (e :: entries) = .error problem := by
  unfold patternsFrom
  cases hrefused with
  | repeated hseen => rw [if_pos (List.contains_iff_mem.mpr hseen)]
  | faulty hunseen hfault =>
      rw [if_neg fun h => hunseen (List.contains_iff_mem.mp h),
        CatalogEntry.pattern_eq_error_iff.mpr hfault]

theorem patternsFrom_of_accepted (c : Configuration) (now : Instant) (entries : List CatalogEntry)
    (hunseen : e.identity ∉ seen) (hsound : e.IsSound engine) :
    ∃ p, e.Carries engine p ∧ patternsFrom c engine now seen (e :: entries) =
      (patternsFrom c engine now (e.identity :: seen) entries).map (p :: ·) := by
  rw [patternsFrom, if_neg fun h => hunseen (List.contains_iff_mem.mp h)]
  cases hmade : pattern c engine now e with
  | error fault =>
      have hfault := CatalogEntry.pattern_eq_error_iff.mp hmade
      rw [CatalogEntry.faults_eq_nil_iff.mpr hsound] at hfault
      cases hfault
  | ok p => exact ⟨p, CatalogEntry.carries_of_pattern hmade, rfl⟩

theorem refused_or_accepted (engine : QueryEngine) (seen : List (String × String))
    (e : CatalogEntry) :
    (∃ problem, Refuses engine seen e problem) ∨ e.identity ∉ seen ∧ e.IsSound engine := by
  by_cases hseen : e.identity ∈ seen
  · exact Or.inl ⟨_, .repeated hseen⟩
  by_cases hsound : e.IsSound engine
  · exact Or.inr ⟨hseen, hsound⟩
  · obtain ⟨fault, hfault⟩ := CatalogEntry.exists_head_faults hsound
    exact Or.inl ⟨_, .faulty hseen hfault⟩

/-- Entries that are made into patterns are accepted, and each is made into what it says. -/
theorem accepts_of_patternsFrom (hmade : patternsFrom c engine now seen entries = .ok patterns) :
    Accepts engine seen entries ∧ List.Forall₂ (CatalogEntry.Carries engine) entries patterns := by
  induction entries generalizing seen patterns with
  | nil =>
      cases hmade
      exact ⟨accepts_nil, .nil⟩
  | cons e rest ih =>
      rcases refused_or_accepted engine seen e with ⟨problem, hrefused⟩ | ⟨hunseen, hsound⟩
      · rw [patternsFrom_of_refuses hrefused] at hmade
        cases hmade
      · obtain ⟨p, hcarries, heq⟩ := patternsFrom_of_accepted c now rest hunseen hsound
        rw [heq] at hmade
        cases hrest : patternsFrom c engine now (e.identity :: seen) rest with
        | error problem =>
            rw [hrest] at hmade
            cases hmade
        | ok others =>
            rw [hrest] at hmade
            cases hmade
            obtain ⟨haccepts, hothers⟩ := ih hrest
            exact ⟨accepts_cons_iff.mpr ⟨⟨hunseen, hsound⟩, haccepts⟩, .cons hcarries hothers⟩

theorem exists_patternsFrom (haccepts : Accepts engine seen entries) :
    ∃ patterns, patternsFrom c engine now seen entries = .ok patterns := by
  induction entries generalizing seen with
  | nil => exact ⟨[], rfl⟩
  | cons e rest ih =>
      obtain ⟨⟨hunseen, hsound⟩, hrest⟩ := accepts_cons_iff.mp haccepts
      obtain ⟨p, _, heq⟩ := patternsFrom_of_accepted c now rest hunseen hsound
      obtain ⟨others, hothers⟩ := ih hrest
      exact ⟨p :: others, by rw [heq, hothers]; rfl⟩

/-- Some entry is refused with the problem after the entries before it were accepted. -/
def Stops (engine : QueryEngine) (seen : List (String × String)) (entries : List CatalogEntry)
    (problem : Problem) : Prop :=
  ∃ before e after, entries = before ++ e :: after ∧ Accepts engine seen before ∧
    Refuses engine ((before.map CatalogEntry.identity).reverse ++ seen) e problem

theorem stops_cons_iff : Stops engine seen (e :: entries) problem ↔
    Refuses engine seen e problem ∨
      (e.identity ∉ seen ∧ e.IsSound engine) ∧
        Stops engine (e.identity :: seen) entries problem := by
  constructor
  · rintro ⟨before, d, after, hsplit, haccepts, hrefused⟩
    cases before with
    | nil =>
        obtain ⟨rfl, _⟩ := List.cons.inj hsplit
        exact Or.inl hrefused
    | cons first before =>
        obtain ⟨rfl, rfl⟩ := List.cons.inj hsplit
        obtain ⟨hfirst, hbefore⟩ := accepts_cons_iff.mp haccepts
        exact Or.inr ⟨hfirst, before, d, after, rfl, hbefore, by simpa using hrefused⟩
  · rintro (hrefused | ⟨hfirst, before, d, after, rfl, hbefore, hrefused⟩)
    · exact ⟨[], e, entries, rfl, accepts_nil, hrefused⟩
    · exact ⟨e :: before, d, after, rfl, accepts_cons_iff.mpr ⟨hfirst, hbefore⟩,
        by simpa using hrefused⟩

/-- The first entry that is refused decides what is reported. -/
theorem patternsFrom_eq_error_iff :
    patternsFrom c engine now seen entries = .error problem ↔
      Stops engine seen entries problem := by
  induction entries generalizing seen with
  | nil =>
      refine ⟨fun h => (by cases h), ?_⟩
      rintro ⟨before, e, after, heq, _⟩
      exact absurd heq.symm (List.append_ne_nil_of_right_ne_nil _ (List.cons_ne_nil _ _))
  | cons e rest ih =>
      rw [stops_cons_iff]
      constructor
      · intro hmade
        rcases refused_or_accepted engine seen e with ⟨other, hother⟩ | hfirst
        · rw [patternsFrom_of_refuses hother] at hmade
          cases hmade
          exact Or.inl hother
        · obtain ⟨p, _, heq⟩ := patternsFrom_of_accepted c now rest hfirst.1 hfirst.2
          rw [heq] at hmade
          exact Or.inr ⟨hfirst, ih.mp (eq_error_of_map hmade)⟩
      · rintro (hrefused | ⟨hfirst, hstops⟩)
        · exact patternsFrom_of_refuses hrefused
        · obtain ⟨p, _, heq⟩ := patternsFrom_of_accepted c now rest hfirst.1 hfirst.2
          rw [heq, ih.mpr hstops]
          rfl

theorem accepts_nil_iff : Accepts engine [] entries ↔
    (entries.map CatalogEntry.identity).Nodup ∧ ∀ e ∈ entries, e.IsSound engine :=
  ⟨fun haccepts => ⟨haccepts.distinct, haccepts.sound⟩,
    fun hentries => ⟨hentries.1, fun _ _ => List.not_mem_nil, hentries.2⟩⟩

theorem Refuses.congr {others : List (String × String)} (hsame : ∀ i, i ∈ seen ↔ i ∈ others)
    (hrefused : Refuses engine seen e problem) : Refuses engine others e problem := by
  cases hrefused with
  | repeated hseen => exact .repeated ((hsame _).mp hseen)
  | faulty hunseen hfault => exact .faulty (fun h => hunseen ((hsame _).mpr h)) hfault

/-- A catalog is made into patterns exactly if its entries are sound and no two share a name and a
language, and each pattern is what its entry says.  Otherwise the first entry that is refused
decides: that it repeats an earlier one is reported before its faults, and of these the first. -/
theorem patterns_or_first_problem (c : Configuration) (engine : QueryEngine) (now : Instant) :
    ((∃ patterns, Catalog.patterns c engine now = .ok patterns) ↔
        (c.patterns.map CatalogEntry.identity).Nodup ∧ ∀ e ∈ c.patterns, e.IsSound engine) ∧
      (∀ patterns, Catalog.patterns c engine now = .ok patterns →
        List.Forall₂ (CatalogEntry.Carries engine) c.patterns patterns) ∧
      ∀ problem, Catalog.patterns c engine now = .error problem ↔
        ∃ before e after, c.patterns = before ++ e :: after ∧
          (before.map CatalogEntry.identity).Nodup ∧ (∀ d ∈ before, d.IsSound engine) ∧
          Refuses engine (before.map CatalogEntry.identity) e problem := by
  refine ⟨⟨?_, fun hentries => exists_patternsFrom (accepts_nil_iff.mpr hentries)⟩,
    fun patterns hmade => (accepts_of_patternsFrom hmade).2, fun problem => ?_⟩
  · rintro ⟨patterns, hmade⟩
    exact accepts_nil_iff.mp (accepts_of_patternsFrom hmade).1
  · rw [Catalog.patterns, patternsFrom_eq_error_iff]
    constructor
    · rintro ⟨before, e, after, hsplit, haccepts, hrefused⟩
      obtain ⟨hdistinct, hsound⟩ := accepts_nil_iff.mp haccepts
      exact ⟨before, e, after, hsplit, hdistinct, hsound, hrefused.congr (by simp)⟩
    · rintro ⟨before, e, after, hsplit, hdistinct, hsound, hrefused⟩
      exact ⟨before, e, after, hsplit, accepts_nil_iff.mpr ⟨hdistinct, hsound⟩,
        hrefused.congr (by simp)⟩

/-- An engine that knows one language and takes every query of it. -/
def knowsRust : QueryEngine :=
  { QueryEngine.none with supports := (· == "rust"), complaint? := fun _ _ => Option.none }

/-- A query, an expression of the same name, and the query's name again with no rule. -/
def repeatedEntries : List CatalogEntry :=
  [{ CatalogEntry.ofRule "getter" "(get" with language := "rust" },
    { CatalogEntry.ofRule "getter" "get_[a-z]+" with language := "python" },
    { CatalogEntry.ofRule "getter" " " with language := "rust" }]

theorem patterns_or_first_problem_repeated :
    Catalog.patterns { Configuration.standard with patterns := repeatedEntries } knowsRust ⟨0, 0⟩ =
      .error (.configuration "padrão duplicado: getter (rust)") := by
  have hshare : (0 : Float) ≤ 0.8 ∧ (0.8 : Float) ≤ 1 := by decide +kernel
  have hnumber := CatalogEntry.isNaN_eq_false hshare
  have hgets : ∃ rule, TextRule.compile "get_[a-z]+" = .ok rule := ⟨_, rfl⟩
  refine ((patterns_or_first_problem _ knowsRust ⟨0, 0⟩).2.2 _).mpr
    ⟨repeatedEntries.take 2, _, [], rfl, by decide, ?_, .repeated (by decide)⟩
  refine List.forall_mem_cons.mpr ⟨?_, List.forall_mem_singleton.mpr ?_⟩
  · exact ⟨by decide, by decide, hnumber, hshare, fun _ => rfl, fun h => absurd h (by decide)⟩
  · exact ⟨by decide, by decide, hnumber, hshare, fun h => absurd h (by decide), fun _ => hgets⟩

end Catalog
end AdaptiveRules
