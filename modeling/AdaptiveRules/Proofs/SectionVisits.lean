import AdaptiveRules.ConfigurationSession
import Mathlib.Tactic.MkIffOfInductiveProp

/-!
# Visits to sections

What a visit to a section makes of a configuration depends on the answers alone.  It leaves all other
sections and the catalog as they are.  A visit to matching ends with windows that overlap by less than
their size, and a visit that leaves learning switched on ends with groups of at least one.
-/

namespace AdaptiveRules

variable {c d e : Configuration} {keys rest : List Key}

/-! ### Configurations that differ in some sections -/

/-- All sections but these are the same, and so is the catalog. -/
@[mk_iff]
structure Configuration.DiffersOnlyIn (sections : List ConfigurationSection)
    (c d : Configuration) : Prop where
  general : .general ∉ sections → d.general = c.general
  matching : .matching ∉ sections → d.matching = c.matching
  adaptation : .adaptation ∉ sections → d.adaptation = c.adaptation
  learning : .learning ∉ sections → d.learning = c.learning
  cache : .cache ∉ sections → d.cache = c.cache
  patterns : d.patterns = c.patterns

namespace Configuration.DiffersOnlyIn

variable {sections more : List ConfigurationSection}

theorem refl (sections : List ConfigurationSection) (c : Configuration) :
    DiffersOnlyIn sections c c := by
  constructor <;> intros <;> rfl

theorem trans (hfirst : DiffersOnlyIn sections c d) (hsecond : DiffersOnlyIn sections d e) :
    DiffersOnlyIn sections c e where
  general hout := (hsecond.general hout).trans (hfirst.general hout)
  matching hout := (hsecond.matching hout).trans (hfirst.matching hout)
  adaptation hout := (hsecond.adaptation hout).trans (hfirst.adaptation hout)
  learning hout := (hsecond.learning hout).trans (hfirst.learning hout)
  cache hout := (hsecond.cache hout).trans (hfirst.cache hout)
  patterns := hsecond.patterns.trans hfirst.patterns

theorem mono (hdiffers : DiffersOnlyIn sections c d) (hsubset : sections ⊆ more) :
    DiffersOnlyIn more c d where
  general hout := hdiffers.general fun hin => hout (hsubset hin)
  matching hout := hdiffers.matching fun hin => hout (hsubset hin)
  adaptation hout := hdiffers.adaptation fun hin => hout (hsubset hin)
  learning hout := hdiffers.learning fun hin => hout (hsubset hin)
  cache hout := hdiffers.cache fun hin => hout (hsubset hin)
  patterns := hdiffers.patterns

end Configuration.DiffersOnlyIn

/-! ### What answers lead to -/

namespace Question

/-- Answers to the questions lead from one configuration to the other. -/
def LeadsTo (c d : Configuration) : List Question → Prop
  | [] => d = c
  | choose _ _ change :: more => ∃ name, LeadsTo (change name c) d more
  | confirm _ change :: more => ∃ b, LeadsTo (change b c) d more
  | require _ change :: more => LeadsTo (change true c) d more ∨ d = change false c
  | natural _ _ change :: more => ∃ n, LeadsTo (change n c) d more
  | number _ change :: more => ∃ x, LeadsTo (change x c) d more
  | text _ change :: more => ∃ s, LeadsTo (change s c) d more

/-- Every answer to the question leads to a configuration that stands in this relation to the one
before. -/
def Within (R : Configuration → Configuration → Prop) : Question → Prop
  | choose _ _ change => ∀ name c, R c (change name c)
  | confirm _ change => ∀ b c, R c (change b c)
  | require _ change => ∀ b c, R c (change b c)
  | natural _ _ change => ∀ n c, R c (change n c)
  | number _ change => ∀ x c, R c (change x c)
  | text _ change => ∀ s c, R c (change s c)

theorem LeadsTo.within {R : Configuration → Configuration → Prop} {questions : List Question}
    (hrefl : ∀ c, R c c) (htrans : ∀ c d e, R c d → R d e → R c e)
    (hwithin : ∀ q ∈ questions, q.Within R) (hleads : LeadsTo c d questions) : R c d := by
  induction questions generalizing c with
  | nil =>
      rw [show d = c from hleads]
      exact hrefl c
  | cons q more ih =>
      have hq : q.Within R := hwithin q List.mem_cons_self
      have hmore : ∀ c, LeadsTo c d more → R c d :=
        fun c => ih fun q hin => hwithin q (List.mem_cons_of_mem _ hin)
      cases q with
      | require _ change =>
          rcases hleads with hon | rfl
          · exact htrans _ _ _ (hq true c) (hmore _ hon)
          · exact hq false c
      | _ =>
          obtain ⟨answer, hleads⟩ := hleads
          exact htrans _ _ _ (hq answer c) (hmore _ hleads)

end Question

namespace Questionnaire

variable {q : Questionnaire} {questions : List Question} {text : String}

theorem leadsTo_of_askAll (hasked : q.askAll c keys questions = some (text, d, rest)) :
    Question.LeadsTo c d questions := by
  induction questions generalizing c keys with
  | nil =>
      simp only [askAll, Option.some.injEq, Prod.mk.injEq] at hasked
      exact hasked.2.1.symm
  | cons question more ih =>
      unfold askAll at hasked
      cases hask : question.ask c keys with
      | none => simp [hask] at hasked
      | some answered =>
          obtain ⟨a, left⟩ := answered
          simp only [hask] at hasked
          cases question with
          | require proposed change =>
              simp only [Question.ask, Option.map_eq_some_iff, Prod.mk.injEq] at hask
              obtain ⟨⟨b, _⟩, -, rfl, -⟩ := hask
              cases b with
              | true => exact Or.inl (ih hasked)
              | false =>
                  simp only [Bool.false_eq_true, if_false, Option.some.injEq, Prod.mk.injEq]
                    at hasked
                  exact Or.inr hasked.2.1.symm
          | _ =>
              simp only [Question.ask, Option.map_eq_some_iff, Prod.mk.injEq] at hask
              obtain ⟨answer, -, rfl, -⟩ := hask
              exact ⟨_, ih hasked⟩

theorem leadsTo_of_visit (hvisit : (q.visit c keys).outcome = some (d, rest)) :
    Question.LeadsTo c d q.questions := by
  unfold visit at hvisit
  cases hasked : q.askAll c keys q.questions with
  | none => simp [hasked] at hvisit
  | some found =>
      obtain ⟨text, d', left⟩ := found
      simp only [hasked, Option.some.injEq, Prod.mk.injEq] at hvisit
      obtain ⟨rfl, -⟩ := hvisit
      exact leadsTo_of_askAll hasked

end Questionnaire

/-! ### The sections -/

namespace ConfigurationSection

variable {s : ConfigurationSection}

theorem within_questions (s : ConfigurationSection) :
    ∀ q ∈ s.questionnaire.questions, q.Within (Configuration.DiffersOnlyIn [s]) := by
  cases s <;>
    simp [questionnaire, generalQuestions, matchingQuestions, adaptationQuestions,
      learningQuestions, cacheQuestions, Question.Within, Configuration.differsOnlyIn_iff]

/-- A visit changes nothing outside of its section. -/
theorem differsOnlyIn_of_visit (hvisit : (s.questionnaire.visit c keys).outcome = some (d, rest)) :
    Configuration.DiffersOnlyIn [s] c d :=
  (Questionnaire.leadsTo_of_visit hvisit).within (.refl [s]) (fun _ _ _ => .trans)
    (within_questions s)

theorem windowSize_of_visit
    (hvisit : (matching.questionnaire.visit c keys).outcome = some (d, rest)) :
    1 ≤ d.matching.windowSize ∧ d.matching.overlap < d.matching.windowSize := by
  have hleads := Questionnaire.leadsTo_of_visit hvisit
  simp only [questionnaire, matchingQuestions, Question.LeadsTo] at hleads
  obtain ⟨size, overlap, retries, maxMatches, rfl⟩ := hleads
  simp only
  omega

/-- Learning is switched off, or every question about it is answered. -/
theorem learning_of_visit
    (hvisit : (learning.questionnaire.visit c keys).outcome = some (d, rest)) :
    1 ≤ d.learning.minGroupSize ∨ d = { c with learning.enabled := false } := by
  have hleads := Questionnaire.leadsTo_of_visit hvisit
  simp only [questionnaire, learningQuestions, Question.LeadsTo] at hleads
  rcases hleads with ⟨store, path, size, blocks, rfl⟩ | hoff
  · exact Or.inl (Nat.le_max_right size 1)
  · exact Or.inr hoff

theorem minGroupSize_of_enabled
    (hvisit : (learning.questionnaire.visit c keys).outcome = some (d, rest))
    (hon : d.learning.enabled = true) : 1 ≤ d.learning.minGroupSize := by
  rcases learning_of_visit hvisit with hsize | rfl
  · exact hsize
  · cases hon

theorem minGroupSize_of_visit (hsize : 1 ≤ c.learning.minGroupSize)
    (hvisit : (s.questionnaire.visit c keys).outcome = some (d, rest)) :
    1 ≤ d.learning.minGroupSize := by
  by_cases hs : s = learning
  · subst hs
    rcases learning_of_visit hvisit with hafter | rfl
    · exact hafter
    · exact hsize
  · have hsame := (differsOnlyIn_of_visit hvisit).learning (by simpa using Ne.symm hs)
    rw [hsame]
    exact hsize

end ConfigurationSection
end AdaptiveRules
