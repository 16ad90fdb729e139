import AdaptiveRules.Proofs.CatalogPatterns
import AdaptiveRules.Proofs.ReportedImprovements
import AdaptiveRules.RuleWriteBack

/-!
# Entries that are rewritten

Patterns that were made from the entries of a configuration keep their names and languages whatever
they learn.  Names are looked up among the patterns first, and the languages are compared then.  So of
several entries with one name only the first is rewritten, and an entry of another language keeps its
rule.
-/

namespace AdaptiveRules

variable {c : Configuration} {e : CatalogEntry} {p q : Pattern} {entries : List CatalogEntry}
  {live patterns : List Pattern} {names : List String}

/-! ### What patterns keep -/

namespace Pattern

theorem definition_perform (p : Pattern) (op : PatternOperation) :
    (p.perform op).core.definition = p.core.definition := by
  have hready : (p.readied op).definition = p.core.definition :=
    RulePattern.foldl_installed_keeps (fun _ _ _ => rfl) p.core (p.tries op)
  rw [core_perform]
  cases op with
  | search source context time =>
      exact (RulePattern.sameRule_run source context time).definition.trans hready
  | _ => exact hready

theorem isStructural_install (rule : TextRule) (body : RuleBody) :
    (body.install rule).isStructural = body.isStructural := by
  cases body <;> rfl

theorem isStructural_readied (p : Pattern) (op : PatternOperation) :
    (p.readied op).body.isStructural = p.core.body.isStructural := by
  refine List.foldlRecOn (motive := fun q : RulePattern =>
    q.body.isStructural = p.core.body.isStructural) (p.tries op) RulePattern.installed rfl ?_
  intro q hq rule _
  rcases RulePattern.installed_cases q rule with heq | ⟨compiled, heq⟩
  · rwa [heq]
  · rw [heq]
    exact (isStructural_install compiled q.body).trans hq

theorem isStructural_perform (p : Pattern) (op : PatternOperation) :
    (p.perform op).core.body.isStructural = p.core.body.isStructural := by
  have hready := isStructural_readied p op
  rw [core_perform]
  cases op with
  | search source context time =>
      have hsame : RulePattern.SameRule (p.readied (.search source context time)) _ :=
        RulePattern.sameRule_run source context time
      rw [hsame.body]
      exact hready
  | _ => exact hready

end Pattern

namespace CatalogEntry

theorem Owns.perform (howns : e.Owns p) (op : PatternOperation) : e.Owns (p.perform op) where
  identity := by
    have hsame := p.definition_perform op
    refine Eq.trans ?_ howns.identity
    exact congrArg (fun d : PatternDefinition => (d.name, d.language)) hsame
  textual := (p.isStructural_perform op).trans howns.textual

end CatalogEntry

namespace LearningState

variable {s : LearningState}

theorem owns_begin (howns : List.Forall₂ CatalogEntry.Owns entries s.learner.patterns) :
    List.Forall₂ CatalogEntry.Owns entries s.begin.learner.patterns := by
  cases hbegun : s.learner.initialized with
  | true =>
      rw [begin_of_initialized hbegun]
      exact howns
  | false =>
      rw [patterns_begin hbegun, List.forall₂_map_right_iff]
      apply howns.imp
      intro e p hp
      exact (hp.perform (.restore s.loaded)).perform (.offer _)

/-- Whatever is restored and improved, the patterns own the entries they were made from. -/
theorem owns_improve (howns : List.Forall₂ CatalogEntry.Owns entries s.learner.patterns)
    (names : Option (List String)) :
    List.Forall₂ CatalogEntry.Owns entries (s.improve names).2.learner.patterns := by
  rw [(learner_improve s names).1, patterns_improvePatterns, List.forall₂_map_right_iff]
  apply (owns_begin howns).imp
  intro e p hp
  split
  · exact hp.perform _
  · exact hp

end LearningState

/-! ### Writing one pattern back -/

namespace CatalogEntry

/-- The entry with the rule of a pattern, if that has the name and the language of the entry. -/
def rewritten (e : CatalogEntry) (p : Pattern) : CatalogEntry :=
  if e.identity = p.identity then { e with rule := p.textRule } else e

theorem identity_rewritten (e : CatalogEntry) (p : Pattern) :
    (e.rewritten p).identity = e.identity := by
  unfold rewritten
  split <;> rfl

theorem rewritten_rewritten (e : CatalogEntry) (p : Pattern) :
    (e.rewritten p).rewritten p = e.rewritten p := by
  by_cases hown : e.identity = p.identity
  · rw [rewritten, identity_rewritten, if_pos hown, rewritten, if_pos hown]
  · rw [rewritten, identity_rewritten, if_neg hown]

end CatalogEntry

namespace WriteBack

open CatalogEntry

variable {w : WriteBack} {l : Learner}

theorem isStale_iff : isStale p e = true ↔ e.identity = p.identity ∧ e.rule ≠ p.textRule := by
  simp [isStale, CatalogEntry.identity, Pattern.identity]

theorem map_rewritten_of_new (hnew : p.identity ∉ entries.map identity) :
    entries.map (rewritten · p) = entries := by
  apply (List.map_congr_left _).trans (List.map_id entries)
  intro e he
  apply if_neg
  intro hown
  exact hnew (hown ▸ List.mem_map_of_mem he)

/-- As no two entries share name and language, the first stale entry is all there is to replace. -/
theorem getD_replaceRule (hnodup : (entries.map identity).Nodup) (p : Pattern) :
    (replaceRule p entries).getD entries = entries.map (rewritten · p) := by
  induction entries with
  | nil => rfl
  | cons e rest ih =>
      obtain ⟨hnew, hrest⟩ := List.nodup_cons.mp hnodup
      rw [List.map_cons]
      unfold replaceRule
      by_cases hstale : isStale p e = true
      · obtain ⟨hown, _⟩ := isStale_iff.mp hstale
        have hothers : rest.map (rewritten · p) = rest := map_rewritten_of_new (hown ▸ hnew)
        rw [if_pos hstale, hothers, rewritten, if_pos hown]
        rfl
      · have hkept : e.rewritten p = e := by
          unfold rewritten
          split
          · next hown =>
              have hrule : e.rule = p.textRule := by
                by_contra hother
                exact hstale (isStale_iff.mpr ⟨hown, hother⟩)
              rw [← hrule]
          · rfl
        rw [if_neg hstale, hkept, ← ih hrest]
        cases replaceRule p rest <;> rfl

theorem configuration_add (htextual : p.core.body.isStructural = false)
    (hnodup : (w.configuration.patterns.map identity).Nodup) :
    (add w p).configuration =
      { w.configuration with patterns := w.configuration.patterns.map (rewritten · p) } := by
  unfold add
  rw [htextual, ← getD_replaceRule hnodup]
  cases replaceRule p w.configuration.patterns <;> rfl

theorem map_identity_rewritten (entries : List CatalogEntry) (p : Pattern) :
    (entries.map (rewritten · p)).map identity = entries.map identity := by
  rw [List.map_map]
  exact List.map_congr_left fun e _ => identity_rewritten e p

/-- Writing patterns back one after the other rewrites each entry by each of them. -/
theorem configuration_foldl_add (htextual : ∀ p ∈ patterns, p.core.body.isStructural = false)
    (hnodup : (w.configuration.patterns.map identity).Nodup) :
    (patterns.foldl add w).configuration =
      { w.configuration with
        patterns := w.configuration.patterns.map fun e => patterns.foldl rewritten e } := by
  induction patterns generalizing w with
  | nil =>
      simp only [List.foldl_nil]
      rw [List.map_id']
  | cons p rest ih =>
      obtain ⟨hfirst, hrest⟩ := List.forall_mem_cons.mp htextual
      have hadd := configuration_add hfirst hnodup
      have hkept : ((add w p).configuration.patterns.map identity).Nodup := by
        rw [hadd, map_identity_rewritten]
        exact hnodup
      rw [List.foldl_cons, ih hrest hkept, hadd]
      simp only [List.map_map]
      rfl

theorem add_cases (w : WriteBack) (p : Pattern) :
    add w p = w ∨ (add w p).written = w.written + 1 := by
  unfold add
  split
  · exact Or.inl rfl
  · split
    · exact Or.inr rfl
    · exact Or.inl rfl

theorem foldl_add_cases (patterns : List Pattern) (w : WriteBack) :
    patterns.foldl add w = w ∨ w.written < (patterns.foldl add w).written := by
  induction patterns generalizing w with
  | nil => exact Or.inl rfl
  | cons p rest ih =>
      rw [List.foldl_cons]
      rcases add_cases w p with hsame | hmore
      · rw [hsame]
        exact ih w
      · right
        rcases ih (add w p) with hrest | hrest
        · rw [hrest, hmore]
          omega
        · omega

/-- The configuration is as it was if nothing was written into it. -/
theorem configuration_of_unwritten (hnone : (ofNames c l names).written = 0) :
    (ofNames c l names).configuration = c := by
  unfold ofNames at hnone ⊢
  rcases foldl_add_cases (names.filterMap l.pattern?) ⟨c, 0⟩ with hsame | hmore
  · rw [hsame]
  · omega

end WriteBack

/-! ### Writing the patterns of all names back -/

/-- The entry with the rule of the first pattern of its name, if that has its language too. -/
def CatalogEntry.ofFirst (live : List Pattern) (e : CatalogEntry) : CatalogEntry :=
  match live.find? fun p => p.name == e.name with
  | some p => e.rewritten p
  | none => e

namespace WriteBack

open CatalogEntry

variable {l : Learner}

theorem name_of_pattern? {name : String} (hfound : l.pattern? name = some p) : p.name = name := by
  simpa using List.find?_some hfound

theorem rewritten_of_name (hother : e.name ≠ p.name) : e.rewritten p = e := by
  apply if_neg
  intro hown
  exact hother (congrArg Prod.fst hown)

/-- The names come one after the other; an entry changes when its own name comes, and once. -/
theorem foldl_rewritten (l : Learner) (names : List String) (e : CatalogEntry) :
    (names.filterMap l.pattern?).foldl rewritten e =
      if e.name ∈ names then e.ofFirst l.patterns else e := by
  induction names generalizing e with
  | nil => rfl
  | cons name rest ih =>
      rw [List.filterMap_cons]
      cases hfound : l.pattern? name with
      | none =>
          simp only [ih]
          by_cases hname : e.name = name
          · have hnone : e.ofFirst l.patterns = e := by
              unfold ofFirst
              rw [hname, show (l.patterns.find? fun p => p.name == name) = none from hfound]
            rw [hnone, ite_self, ite_self]
          · simp [hname]
      | some p =>
          have hp := name_of_pattern? hfound
          simp only [List.foldl_cons, ih]
          by_cases hname : e.name = name
          · have hfirst : e.ofFirst l.patterns = e.rewritten p := by
              unfold ofFirst
              rw [hname, show (l.patterns.find? fun p => p.name == name) = some p from hfound]
            have hkept : (e.rewritten p).name = e.name := congrArg Prod.fst (identity_rewritten e p)
            have hagain : (e.rewritten p).ofFirst l.patterns = e.rewritten p := by
              unfold ofFirst
              rw [hkept, hname, show (l.patterns.find? fun p => p.name == name) = some p from hfound]
              exact rewritten_rewritten e p
            rw [hagain, hfirst, ite_self, if_pos (hname ▸ List.mem_cons_self)]
          · have hsame : e.rewritten p = e := rewritten_of_name fun heq => hname (heq.trans hp)
            simp [hsame, hname]

theorem configuration_ofNames (htextual : ∀ p ∈ l.patterns, p.core.body.isStructural = false)
    (hnodup : (c.patterns.map identity).Nodup) (names : List String) :
    (ofNames c l names).configuration =
      { c with patterns :=
        c.patterns.map fun e => if e.name ∈ names then e.ofFirst l.patterns else e } := by
  have hfound : ∀ p ∈ names.filterMap l.pattern?, p.core.body.isStructural = false := by
    intro p hp
    obtain ⟨name, _, hfound⟩ := List.mem_filterMap.mp hp
    exact htextual p (List.mem_of_find?_eq_some hfound)
  unfold ofNames
  rw [configuration_foldl_add hfound hnodup]
  simp only [foldl_rewritten]

end WriteBack

/-! ### What is written and what was meant to be -/

/-- The entry is among those to improve; all are if no names are given. -/
def CatalogEntry.isMeant (names : List String) (e : CatalogEntry) : Bool :=
  names.isEmpty || names.contains e.name

namespace Configuration

open CatalogEntry

/-- Every entry that is meant has the rule of the first pattern of its name, if that has its language
too. -/
def withFirst (c : Configuration) (names : List String) (live : List Pattern) : Configuration :=
  { c with patterns := c.patterns.map fun e => if e.isMeant names then e.ofFirst live else e }

/-- Every entry that is meant has the rule of its own pattern. -/
def inStep (c : Configuration) (names : List String) (live : List Pattern) : Configuration :=
  let rule (e : CatalogEntry) (p : Pattern) : String := if e.isMeant names then p.textRule else e.rule
  { c with patterns := List.zipWith (fun e p => { e with rule := rule e p }) c.patterns live }

/-- What the entry gets is the rule of its own pattern if that is the first of the name, or if there
is nothing to change. -/
theorem ofFirst_iff (howns : List.Forall₂ Owns entries live)
    (hnodup : (entries.map identity).Nodup) (hpair : (e, p) ∈ entries.zip live) :
    e.ofFirst live = { e with rule := p.textRule } ↔
      (live.find? (fun q => q.name == e.name) ≠ some p → p.textRule = e.rule) := by
  have hown : e.Owns p := (List.forall₂_iff_zip.mp howns).2 hpair
  have hlive : p ∈ live := (List.of_mem_zip hpair).2
  have hunique : (live.map Pattern.identity).Nodup := by
    rw [map_identity_of_owns howns]
    exact hnodup
  unfold ofFirst
  cases hfind : live.find? fun q => q.name == e.name with
  | none =>
      have habsent := List.find?_eq_none.mp hfind p hlive
      simp [hown.name] at habsent
  | some q =>
      simp only
      by_cases hsame : q = p
      · rw [hsame, rewritten, if_pos hown.identity.symm]
        simp
      · have hother : e.identity ≠ q.identity := by
          intro heq
          have hidentity : q.identity = p.identity := heq.symm.trans hown.identity.symm
          have hmem := List.mem_of_find?_eq_some hfind
          exact hsame (List.inj_on_of_nodup_map hunique hmem hlive hidentity)
        rw [rewritten, if_neg hother]
        constructor
        · intro heq _
          exact (congrArg CatalogEntry.rule heq).symm
        · intro hrule
          rw [hrule fun heq => hsame (Option.some.inj heq)]

theorem withFirst_eq_inStep_iff (howns : List.Forall₂ Owns c.patterns live)
    (hnodup : (c.patterns.map identity).Nodup) (names : List String) :
    c.withFirst names live = c.inStep names live ↔
      ∀ e p, (e, p) ∈ c.patterns.zip live → e.isMeant names = true →
        live.find? (fun q => q.name == e.name) ≠ some p → p.textRule = e.rule := by
  have hfirst : c.patterns.map (fun e => if e.isMeant names then e.ofFirst live else e) =
      (c.patterns.zip live).map fun x => if x.1.isMeant names then x.1.ofFirst live else x.1 := by
    conv_lhs => rw [← List.map_fst_zip howns.length_eq.le]
    rw [List.map_map]
    rfl
  unfold withFirst inStep
  rw [Configuration.mk.injEq]
  simp only [true_and]
  rw [hfirst, ← List.map_uncurry_zip_eq_zipWith, List.map_inj_left]
  constructor
  · intro hall e p hpair hmeant
    have hsame := hall (e, p) hpair
    simp only [Function.uncurry, hmeant, if_true] at hsame
    exact (ofFirst_iff howns hnodup hpair).mp hsame
  · rintro hall ⟨e, p⟩ hpair
    simp only [Function.uncurry]
    by_cases hmeant : e.isMeant names = true
    · rw [if_pos hmeant, if_pos hmeant]
      exact (ofFirst_iff howns hnodup hpair).mpr (hall e p hpair hmeant)
    · rw [if_neg hmeant, if_neg hmeant]

end Configuration
end AdaptiveRules
