import AdaptiveRules.Proofs.InformedPatterns
import AdaptiveRules.Proofs.SearchesBeside
import AdaptiveRules.Proofs.VariationJoin

/-!
# Insights that agree but for a name

All that is known of a pattern is kept under its name, and nothing else depends on the pattern.  So
where the same is known but for one name, the lessons of a project, taking over variations and logging
improvements lead to insights where again the same is known but for that name, whatever was found,
listed or improved under it.
-/

namespace AdaptiveRules

open Pattern

namespace Insights

/-- How often the pattern was found in the project. -/
def countOf (known : Insights) (project pattern : String) : Option Nat :=
  (known.projects.get? project).bind fun p => p.patternCounts.get? pattern

/-- The same is known for all names but one. -/
structure AgreeBut (name : String) (known others : Insights) : Prop where
  trained : ∀ project, known.isTrained project = others.isTrained project
  variations : ∀ other, other ≠ name → known.variationsOf other = others.variationsOf other
  improvements : ∀ other, other ≠ name → known.improvementsOf other = others.improvementsOf other
  counts : ∀ project other, other ≠ name → known.countOf project other = others.countOf project other

variable {name other pattern : String} {a b c : Insights}

theorem AgreeBut.refl (a : Insights) : a.AgreeBut name a :=
  ⟨fun _ => rfl, fun _ _ => rfl, fun _ _ => rfl, fun _ _ _ => rfl⟩

theorem AgreeBut.symm (hab : a.AgreeBut name b) : b.AgreeBut name a :=
  ⟨fun project => (hab.trained project).symm, fun other hother => (hab.variations other hother).symm,
    fun other hother => (hab.improvements other hother).symm,
    fun project other hother => (hab.counts project other hother).symm⟩

theorem AgreeBut.trans (hab : a.AgreeBut name b) (hbc : b.AgreeBut name c) : a.AgreeBut name c :=
  ⟨fun project => (hab.trained project).trans (hbc.trained project),
    fun other hother => (hab.variations other hother).trans (hbc.variations other hother),
    fun other hother => (hab.improvements other hother).trans (hbc.improvements other hother),
    fun project other hother => (hab.counts project other hother).trans
      (hbc.counts project other hother)⟩

/-- When it was saved and what the metrics say is not about names. -/
theorem AgreeBut.congr (hab : a.AgreeBut name b) (metrics metrics' : LearningMetrics)
    (saved saved' : Option Instant) :
    { a with metrics, saved }.AgreeBut name { b with metrics := metrics', saved := saved' } :=
  ⟨hab.trained, hab.variations, hab.improvements, hab.counts⟩

end Insights

open Insights LearningState

/-! ### What is taken over and learned -/

section Additions

variable {name other : String} {known others : Insights} {listed listed' : List (String × List String)}

theorem Insights.AgreeBut.addAll (hagree : known.AgreeBut name others) (hlisted : Ascending listed)
    (hlisted' : Ascending listed')
    (hsame : ∀ other, other ≠ name → listedFor listed other = listedFor listed' other) :
    (LearningState.addAll known listed).AgreeBut name (LearningState.addAll others listed') := by
  refine ⟨?_, fun other hother => ?_, ?_, ?_⟩
  · rw [addAll_eq known, addAll_eq others]
    exact hagree.trained
  · have hbefore := hagree.variations other hother
    rw [variationsOf_addAll known hlisted, variationsOf_addAll others hlisted', hbefore,
      hsame other hother, newAmong_congr hbefore]
  · rw [addAll_eq known, addAll_eq others]
    exact hagree.improvements
  · rw [addAll_eq known, addAll_eq others]
    exact hagree.counts

theorem ascending_map_entries {α β : Type} (f : α → β) (d : Dict α) :
    Ascending (d.entries.map fun e => (e.1, f e.2)) := (d.map f).ascending

/-- The lessons of one project add the same for all names for which the same was found. -/
theorem Insights.AgreeBut.addTo (hagree : known.AgreeBut name others) (settings : LearnerSettings)
    (project : String) (files : List SourceFile) {found found' : ProjectLearning.Found}
    (hfound : ProjectLearning.FoundBeside name found found') (now : Instant) :
    (Lesson.addTo settings known ⟨project, files, found, now⟩).1.AgreeBut name
      (Lesson.addTo settings others ⟨project, files, found', now⟩).1 := by
  have hcounts : ∀ pattern, pattern ≠ name →
      (found.map List.length).get? pattern = (found'.map List.length).get? pattern := by
    intro pattern hpattern
    rw [Dict.get?_map, Dict.get?_map, hfound pattern hpattern]
  let insight : ProjectInsight := ⟨files.length, found.map List.length, now⟩
  let insight' : ProjectInsight := ⟨files.length, found'.map List.length, now⟩
  have hseen : { known with projects := known.projects.insert project insight }.AgreeBut name
      { others with projects := others.projects.insert project insight' } := by
    refine ⟨hagree.trained, hagree.variations, hagree.improvements, fun searched pattern hpattern => ?_⟩
    unfold countOf
    simp only [Dict.get?_insert]
    split
    · exact hcounts pattern hpattern
    · exact hagree.counts searched pattern hpattern
  have hlisted : ∀ pattern, pattern ≠ name →
      listedFor (found.entries.map fun f => (f.1, ProjectLearning.deriveRules settings f.2)) pattern =
        listedFor (found'.entries.map fun f => (f.1, ProjectLearning.deriveRules settings f.2))
          pattern := by
    intro pattern hpattern
    have hrules : ∀ d : ProjectLearning.Found,
        (d.entries.map fun f => (f.1, ProjectLearning.deriveRules settings f.2)).lookup pattern =
          (d.get? pattern).map (ProjectLearning.deriveRules settings) :=
      fun d => Dict.get?_map (ProjectLearning.deriveRules settings) d pattern
    unfold listedFor
    rw [hrules, hrules, hfound pattern hpattern]
  have hadded := hseen.addAll (ascending_map_entries (ProjectLearning.deriveRules settings) found)
    (ascending_map_entries (ProjectLearning.deriveRules settings) found') hlisted
  rw [← addDerived_eq_addAll, ← addDerived_eq_addAll] at hadded
  refine ⟨fun searched => ?_, hadded.variations, hadded.improvements, hadded.counts⟩
  have htrained := hadded.trained searched
  unfold isTrained Dict.contains at htrained ⊢
  simp only [Lesson.addTo, Lesson.insight, Dict.get?_insert]
  split
  · rfl
  · exact htrained

theorem improvePattern_congr (now : Instant) {p : Pattern}
    (hsame : known.variationsOf p.name = others.variationsOf p.name) :
    improvePattern known now p = improvePattern others now p := by
  unfold improvePattern
  rw [hsame]

theorem entriesOf_others (hagree : known.AgreeBut name others) (now : Instant)
    (names : Option (List String)) (patterns : List Pattern) (hother : other ≠ name) :
    entriesOf other (improvePatterns known now names patterns).2 =
      entriesOf other (improvePatterns others now names (Pattern.others name patterns)).2 := by
  induction patterns with
  | nil => rfl
  | cons p rest ih =>
      rw [improvePatterns_cons]
      by_cases hname : p.name = name
      · rw [others_cons_of_eq hname, ← ih]
        split
        · rw [entriesOf_cons, name_improvePattern, hname, if_neg hother.symm, List.nil_append]
        · rfl
      · rw [others_cons_of_ne hname, improvePatterns_cons,
          improvePattern_congr now (hagree.variations p.name hname)]
        split
        · rw [entriesOf_cons, entriesOf_cons, ih]
        · exact ih

/-- The entries of improved patterns are added to the logs of their names. -/
theorem Insights.AgreeBut.logged (hagree : known.AgreeBut name others) (now : Instant)
    (names : Option (List String)) (patterns : List Pattern) :
    (LearningState.logged known (improvePatterns known now names patterns).2).AgreeBut name
      (LearningState.logged others
        (improvePatterns others now names (Pattern.others name patterns)).2) := by
  refine ⟨?_, ?_, fun other hother => ?_, ?_⟩
  · rw [logged_eq known, logged_eq others]
    exact hagree.trained
  · rw [logged_eq known, logged_eq others]
    exact hagree.variations
  · rw [improvementsOf_logged, improvementsOf_logged, hagree.improvements other hother,
      entriesOf_others hagree now names patterns hother]
  · rw [logged_eq known, logged_eq others]
    exact hagree.counts

/-- Where the same variations are known, the same ones of a list are new. -/
theorem added_congr
    (hsame : ∀ pattern, known.variationsOf pattern = others.variationsOf pattern) (pattern : String)
    (listed : List String) :
    (known.addVariations pattern listed).2 = (others.addVariations pattern listed).2 ∧
      ∀ other, (known.addVariations pattern listed).1.variationsOf other =
        (others.addVariations pattern listed).1.variationsOf other := by
  induction listed generalizing known others with
  | nil => exact ⟨rfl, hsame⟩
  | cons v rest ih =>
      have hnew : known.isNew pattern v = others.isNew pattern v := by
        unfold Insights.isNew
        rw [hsame]
      have hnext : ∀ other, (known.addVariation pattern v).variationsOf other =
          (others.addVariation pattern v).variationsOf other := fun other => by
        rw [variationsOf_addVariation, variationsOf_addVariation, hsame, hnew]
      obtain ⟨hadded, hlater⟩ := ih hnext
      refine ⟨?_, hlater⟩
      simp only [Insights.addVariations, hadded, hnew]

end Additions
end AdaptiveRules
