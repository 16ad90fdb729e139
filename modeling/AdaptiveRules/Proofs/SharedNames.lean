import AdaptiveRules.Proofs.ReportedImprovements

/-!
# Patterns of one name

Patterns of different languages may share a name.  Variations, logs and answers are kept by name
alone.  When such patterns are improved, each of them is improved on its own and makes its own entry
in the log, but the answer for the name is that of the last of them.
-/

namespace AdaptiveRules
namespace LearningState

open RuleMerging

variable {s : LearningState} {names : Option (List String)} {name : String}

/-- The rule of a pattern of that name which is meant is changed by improving, counted from when the
learner has begun. -/
def ChangesOne (s : LearningState) (names : Option (List String)) (name : String) : Prop :=
  ∃ (index : Nat) (p q : Pattern), s.begin.learner.patterns[index]? = some p ∧
    (s.improve names).2.learner.patterns[index]? = some q ∧
    p.name = name ∧ isTarget names p = true ∧ q.textRule ≠ p.textRule

theorem mem_namesakes {patterns : List Pattern} {p : Pattern} :
    p ∈ namesakes names name patterns ↔ p ∈ patterns ∧ p.name = name ∧ isTarget names p = true := by
  simp [namesakes, and_comm]

theorem changesOne_iff :
    ChangesOne s names name ↔
      ∃ p ∈ namesakes names name s.begin.learner.patterns, TakesUp s.begin.learner.insights p := by
  constructor
  · rintro ⟨index, p, q, hp, hq, hname, htarget, hother⟩
    refine ⟨p, mem_namesakes.mpr ⟨List.mem_of_getElem? hp, hname, htarget⟩, ?_⟩
    rw [getElem?_patterns_improve hp, if_pos htarget] at hq
    obtain rfl := Option.some.inj hq
    exact Pattern.improve_iff.mp ((Pattern.improve_iff_textRule_ne ..).mpr hother)
  · rintro ⟨p, hp, htakes⟩
    obtain ⟨hmem, hname, htarget⟩ := mem_namesakes.mp hp
    obtain ⟨index, hplace⟩ := List.mem_iff_getElem?.mp hmem
    have hlater := getElem?_patterns_improve hplace names
    rw [if_pos htarget] at hlater
    refine ⟨index, p, _, hplace, hlater, hname, htarget, ?_⟩
    exact (Pattern.improve_iff_textRule_ne ..).mp (Pattern.improve_iff.mpr htakes)

theorem get?_improve_eq_true_iff :
    (s.improve names).1.get? name = some true ↔
      ∃ last ∈ (namesakes names name s.begin.learner.patterns).getLast?,
        TakesUp s.begin.learner.insights last := by
  rw [get?_improve, Option.map_eq_some_iff]
  refine exists_congr fun last => and_congr_right fun _ => ?_
  exact Pattern.improve_iff

theorem length_improvementsOf_improve (s : LearningState) (names : Option (List String))
    (name : String) :
    ((s.improve names).2.learner.insights.improvementsOf name).length =
      (s.begin.learner.insights.improvementsOf name).length +
        (namesakes names name s.begin.learner.patterns).countP fun p =>
          (p.improve (s.begin.learner.insights.variationsOf p.name)).2 := by
  rw [improvementsOf_improve, List.length_append, List.length_filterMap_eq_countP]
  simp only [isSome_improvePattern]

/-- Every change makes an entry, but the answer for a name is yes exactly if the last of its patterns
takes up a variation.  So a yes always means that one of them was changed, and the answer is right
exactly if the last one is changed where any is. -/
theorem improve_answers_for_last (s : LearningState) (names : Option (List String)) (name : String) :
    let meant := namesakes names name s.begin.learner.patterns
    let Takes := TakesUp s.begin.learner.insights
    ((s.improve names).2.learner.insights.improvementsOf name).length =
        (s.begin.learner.insights.improvementsOf name).length + (meant.countP fun p =>
          (p.improve (s.begin.learner.insights.variationsOf p.name)).2) ∧
      ((s.improve names).1.get? name = some true ↔ ∃ last ∈ meant.getLast?, Takes last) ∧
      ((s.improve names).1.get? name = some true → ChangesOne s names name) ∧
      (((s.improve names).1.get? name = some true ↔ ChangesOne s names name) ↔
        ((∃ p ∈ meant, Takes p) → ∃ last ∈ meant.getLast?, Takes last)) := by
  intro meant Takes
  have hlast : (∃ last ∈ meant.getLast?, Takes last) → ∃ p ∈ meant, Takes p := by
    rintro ⟨last, hmem, htakes⟩
    exact ⟨last, List.mem_of_getLast? hmem, htakes⟩
  rw [get?_improve_eq_true_iff, changesOne_iff]
  exact ⟨length_improvementsOf_improve s names name, Iff.rfl, hlast, fun h => h.mpr,
    fun h => ⟨hlast, h⟩⟩

/-- A configuration of two patterns of one name. -/
def bilingual : Configuration :=
  { Configuration.standard with patterns :=
    [{ CatalogEntry.ofRule "w" "a" with language := "rust", mode := .base },
      { CatalogEntry.ofRule "w" "b" with language := "python", mode := .base }] }

/-- A learner with the patterns that knows the rule of one of them as a variation. -/
def learnerWith (patterns : List Pattern) : LearningState :=
  (inMemory patterns none).withLearner fun l => { l with
    insights := (l.insights.addVariations "w" ["b"]).1
    initialized := true }

/-- The first of the two rules is changed and the entry is made, but the answer is no. -/
theorem improve_answers_for_last_bilingual :
    ∃ patterns, Catalog.patterns bilingual .none ⟨0, 0⟩ = .ok patterns ∧
      (learnerWith patterns).textRules = ["a", "b"] ∧
      ((learnerWith patterns).improve none).2.textRules = ["(?:a|b)", "b"] ∧
      (((learnerWith patterns).improve none).2.learner.insights.improvementsOf "w").length = 1 ∧
      ((learnerWith patterns).improve none).1.get? "w" = some false := by
  refine ⟨_, rfl, ?_⟩
  decide +kernel

end LearningState
end AdaptiveRules
