import AdaptiveRules.Proofs.LearnerRuns

/-!
# What is known only grows

What the insights hold of projects, variations and improvements is what they know.  A learner that
has begun never loses any of it; one that has not begun knows what it knew when it was made.
-/

namespace AdaptiveRules
namespace Insights

/-- The one knows all that the other knows, in the same order. -/
structure Extends (new old : Insights) : Prop where
  trained : ∀ project, old.isTrained project = true → new.isTrained project = true
  variations : ∀ pattern, old.variationsOf pattern <+: new.variationsOf pattern
  improvements : ∀ pattern, old.improvementsOf pattern <+: new.improvementsOf pattern

structure SameKnowledge (new old : Insights) : Prop where
  trained : ∀ project, new.isTrained project = old.isTrained project
  variations : ∀ pattern, new.variationsOf pattern = old.variationsOf pattern
  improvements : ∀ pattern, new.improvementsOf pattern = old.improvementsOf pattern

structure IsBlank (known : Insights) : Prop where
  trained : ∀ project, known.isTrained project = false
  variations : ∀ pattern, known.variationsOf pattern = []
  improvements : ∀ pattern, known.improvementsOf pattern = []

variable {a b c : Insights}

theorem Extends.refl (a : Insights) : Extends a a :=
  ⟨fun _ => id, fun _ => List.prefix_refl _, fun _ => List.prefix_refl _⟩

theorem Extends.trans (hcb : Extends c b) (hba : Extends b a) : Extends c a :=
  ⟨fun project htrained => hcb.trained project (hba.trained project htrained),
    fun pattern => (hba.variations pattern).trans (hcb.variations pattern),
    fun pattern => (hba.improvements pattern).trans (hcb.improvements pattern)⟩

theorem SameKnowledge.refl (a : Insights) : SameKnowledge a a :=
  ⟨fun _ => rfl, fun _ => rfl, fun _ => rfl⟩

theorem SameKnowledge.trans (hcb : SameKnowledge c b) (hba : SameKnowledge b a) :
    SameKnowledge c a :=
  ⟨fun project => (hcb.trained project).trans (hba.trained project),
    fun pattern => (hcb.variations pattern).trans (hba.variations pattern),
    fun pattern => (hcb.improvements pattern).trans (hba.improvements pattern)⟩

theorem SameKnowledge.extends (hsame : SameKnowledge b a) : Extends b a := by
  refine ⟨?_, ?_, ?_⟩
  · intro project htrained
    rwa [hsame.trained]
  · intro pattern
    rw [hsame.variations]
  · intro pattern
    rw [hsame.improvements]

theorem SameKnowledge.isBlank (hsame : SameKnowledge b a) (hblank : a.IsBlank) : b.IsBlank :=
  ⟨fun project => (hsame.trained project).trans (hblank.trained project),
    fun pattern => (hsame.variations pattern).trans (hblank.variations pattern),
    fun pattern => (hsame.improvements pattern).trans (hblank.improvements pattern)⟩

theorem isBlank_empty (now : Instant) : (empty now).IsBlank :=
  ⟨fun _ => rfl, fun _ => rfl, fun _ => rfl⟩

/-- What knows nothing is extended by everything and extends nothing else. -/
theorem IsBlank.extends (hblank : a.IsBlank) (b : Insights) : Extends b a := by
  refine ⟨?_, ?_, ?_⟩
  · intro project htrained
    rw [hblank.trained] at htrained
    cases htrained
  · intro pattern
    rw [hblank.variations]
    exact List.nil_prefix
  · intro pattern
    rw [hblank.improvements]
    exact List.nil_prefix

theorem Extends.isBlank (hextends : Extends b a) (hblank : b.IsBlank) : a.IsBlank := by
  refine ⟨?_, ?_, ?_⟩
  · intro project
    by_contra htrained
    have hkept := hextends.trained project (by simpa using htrained)
    rw [hblank.trained] at hkept
    cases hkept
  · intro pattern
    exact List.prefix_nil.mp (hblank.variations pattern ▸ hextends.variations pattern)
  · intro pattern
    exact List.prefix_nil.mp (hblank.improvements pattern ▸ hextends.improvements pattern)

/-! ### Additions -/

/-- What adding any variation keeps, adding several of a pattern keeps. -/
theorem addVariations_keeps {P : Insights → Prop} {known : Insights}
    (hadd : ∀ known pattern v, P known → P (known.addVariation pattern v)) (hknown : P known)
    (pattern : String) (variations : List String) : P (known.addVariations pattern variations).1 := by
  induction variations generalizing known with
  | nil => exact hknown
  | cons v rest ih => exact ih (hadd known pattern v hknown)

theorem contains_insert_of_contains {α : Type} {d : Dict α} {k j : String} {v : α}
    (hcontains : d.contains j = true) : (d.insert k v).contains j = true := by
  unfold Dict.contains at hcontains ⊢
  rw [Dict.get?_insert]
  split
  · rfl
  · exact hcontains

theorem prefix_get?_insert {α : Type} (d : Dict (List α)) (k j : String) (more : List α) :
    (d.get? j).getD [] <+: ((d.insert k ((d.get? k).getD [] ++ more)).get? j).getD [] := by
  rw [Dict.get?_insert]
  split
  · next heq =>
      rw [heq, Option.getD_some]
      exact List.prefix_append _ _
  · exact List.prefix_refl _

theorem extends_addVariation (known : Insights) (pattern variation : String) :
    Extends (known.addVariation pattern variation) known := by
  unfold addVariation
  split
  · exact ⟨fun _ => id, fun other => prefix_get?_insert known.variations pattern other [variation],
      fun _ => List.prefix_refl _⟩
  · exact Extends.refl known

theorem extends_addImprovement (known : Insights) (pattern : String) (i : Improvement) :
    Extends (known.addImprovement pattern i) known :=
  ⟨fun _ => id, fun _ => List.prefix_refl _,
    fun other => prefix_get?_insert known.improvements pattern other [i]⟩

end Insights

namespace LearningState

open Insights

/-- Adding the variations of a file keeps it as well. -/
theorem addAll_keeps {P : Insights → Prop} {known : Insights}
    (hadd : ∀ known pattern v, P known → P (known.addVariation pattern v)) (hknown : P known)
    (variations : List (String × List String)) : P (addAll known variations) :=
  List.foldlRecOn (motive := P) variations _ hknown fun _ hgrown v _ =>
    addVariations_keeps hadd hgrown v.1 v.2

/-- What is derived from a project is added as the variations of a file are. -/
theorem addDerived_eq_addAll (settings : LearnerSettings) (known : Insights)
    (found : List (String × List String)) :
    (ProjectLearning.addDerived settings known found).1 =
      addAll known (found.map fun f => (f.1, ProjectLearning.deriveRules settings f.2)) := by
  induction found generalizing known with
  | nil => rfl
  | cons f rest ih =>
      obtain ⟨pattern, texts⟩ := f
      exact ih _

theorem addDerived_keeps {P : Insights → Prop} {known : Insights}
    (hadd : ∀ known pattern v, P known → P (known.addVariation pattern v)) (hknown : P known)
    (settings : LearnerSettings) (found : List (String × List String)) :
    P (ProjectLearning.addDerived settings known found).1 := by
  rw [addDerived_eq_addAll]
  exact addAll_keeps hadd hknown _

theorem extends_addAll (known : Insights) (variations : List (String × List String)) :
    Extends (addAll known variations) known :=
  addAll_keeps (P := (Extends · known)) (fun grown pattern v hgrown =>
    (extends_addVariation grown pattern v).trans hgrown) (.refl known) variations

theorem extends_logged (known : Insights) (outcomes : List (Pattern × Option Improvement)) :
    Extends (logged known outcomes) known := by
  induction outcomes generalizing known with
  | nil => exact Extends.refl known
  | cons o rest ih =>
      obtain ⟨p, entry⟩ := o
      cases entry with
      | none => exact ih known
      | some i => exact (ih _).trans (extends_addImprovement ..)

theorem extends_addDerived (settings : LearnerSettings) (known : Insights)
    (found : List (String × List String)) :
    Extends (ProjectLearning.addDerived settings known found).1 known :=
  addDerived_keeps (P := (Extends · known)) (fun grown pattern v hgrown =>
    (extends_addVariation grown pattern v).trans hgrown) (.refl known) settings found

theorem extends_note (s : LearningState) (project : String) (files : List SourceFile)
    (found : ProjectLearning.Found) :
    Extends (ProjectLearning.note s project files found).1.learner.insights s.learner.insights := by
  have hderived := extends_addDerived s.learner.settings
    { s.learner.insights with
      projects := s.learner.insights.projects.insert project
        ⟨files.length, found.map List.length, s.now⟩ }
    found.entries
  refine ⟨?_, hderived.variations, hderived.improvements⟩
  intro other htrained
  exact contains_insert_of_contains (hderived.trained other htrained)

/-- A learner that has begun forgets nothing. -/
theorem Quiet.extends {s t : LearningState} (hquiet : Quiet s t)
    (hbegun : s.learner.initialized = true) :
    Extends t.learner.insights s.learner.insights := by
  cases hquiet with
  | search hsearch =>
      rw [hsearch.insights_eq]
      exact Extends.refl _
  | begin =>
      rw [begin_of_initialized hbegun]
      exact Extends.refl _
  | note project files found => exact extends_note s project files found
  | merge variations =>
      unfold merged
      rw [mergeAll_eq]
      exact extends_addAll ..
  | stamp => exact ⟨fun _ => id, fun _ => List.prefix_refl _, fun _ => List.prefix_refl _⟩
  | tick time => exact Extends.refl _

theorem Move.extends {s t : LearningState} (hmove : Move s t)
    (hbegun : s.learner.initialized = true) :
    Extends t.learner.insights s.learner.insights := by
  cases hmove with
  | quiet hquiet => exact hquiet.extends hbegun
  | improve names =>
      obtain ⟨observers, metrics, heq⟩ := improved_eq s names
      have hlogged := extends_logged s.learner.insights
        (improvePatterns s.learner.insights s.now names s.learner.patterns).2
      rw [heq]
      exact ⟨hlogged.trained, hlogged.variations, hlogged.improvements⟩

theorem extends_of_moves {s t : LearningState} (hmoves : Moves s t)
    (hbegun : s.learner.initialized = true) :
    Extends t.learner.insights s.learner.insights := by
  induction hmoves with
  | refl => exact Extends.refl _
  | tail hfirst hlast ih => exact (hlast.extends ((frame_of_moves hfirst).begun hbegun)).trans ih

/-- A learner that has not begun knows what it knew. -/
theorem Move.sameKnowledge {s t : LearningState} (hmove : Move s t)
    (hbegun : t.learner.initialized = false) :
    s.learner.initialized = false ∧ SameKnowledge t.learner.insights s.learner.insights := by
  have hbefore : s.learner.initialized = false := by
    by_contra hstarted
    have hkept := hmove.frame.begun (by simpa using hstarted)
    rw [hbegun] at hkept
    cases hkept
  refine ⟨hbefore, ?_⟩
  have hguard : s.learner.initialized ≠ true := by simp [hbefore]
  cases hmove with
  | improve names hstarted => exact absurd hstarted hguard
  | quiet hquiet =>
      cases hquiet with
      | search hsearch =>
          rw [hsearch.insights_eq]
          exact SameKnowledge.refl _
      | begin =>
          rw [initialized_begin] at hbegun
          cases hbegun
      | note project files found hstarted => exact absurd hstarted hguard
      | merge variations hstarted => exact absurd hstarted hguard
      | stamp => exact ⟨fun _ => rfl, fun _ => rfl, fun _ => rfl⟩
      | tick time => exact SameKnowledge.refl _

theorem sameKnowledge_of_moves {s t : LearningState} (hmoves : Moves s t)
    (hbegun : t.learner.initialized = false) :
    s.learner.initialized = false ∧ SameKnowledge t.learner.insights s.learner.insights := by
  induction hmoves with
  | refl => exact ⟨hbegun, SameKnowledge.refl _⟩
  | tail _ hlast ih =>
      obtain ⟨hbefore, hsame⟩ := hlast.sameKnowledge hbegun
      obtain ⟨hstart, hsofar⟩ := ih hbefore
      exact ⟨hstart, hsame.trans hsofar⟩

end LearningState
end AdaptiveRules
