import AdaptiveRules.Proofs.KnowledgeGrowth

/-!
# Lessons

A lesson is a project that was searched, with what was found in it.  Work on a project either ends
before anything is loaded, or it leaves what is known as it was loaded, or it adds one lesson as a
whole; there is no state in between, wherever the work stops.
-/

namespace AdaptiveRules

structure Lesson where
  project : String
  files : List SourceFile
  found : ProjectLearning.Found
  time : Instant

namespace Lesson

def insight (l : Lesson) : ProjectInsight := ⟨l.files.length, l.found.map List.length, l.time⟩

/-- The insights with the lesson taken in, and how many variations that brings. -/
def addTo (settings : LearnerSettings) (known : Insights) (l : Lesson) : Insights × Nat :=
  let (grown, added) := ProjectLearning.addDerived settings
    { known with projects := known.projects.insert l.project l.insight } l.found.entries
  ({ grown with
      trained := grown.trained.insert l.project ()
      metrics := { grown.metrics with
        projectsAnalyzed := grown.metrics.projectsAnalyzed + 1
        lastUpdate := l.time } }, added)

def report (l : Lesson) (added : Nat) : LearnReport :=
  ⟨l.project, l.files.length, l.found.map List.length, added, false⟩

/-- What was found is what some patterns find in the files. -/
def IsGenuine (l : Lesson) : Prop :=
  ∃ s t : LearningState, (ProjectLearning.extract l.files).run.run s = (.ok l.found, t)

/-- The insights with some lessons taken in, one after another. -/
def addAllTo (settings : LearnerSettings) (known : Insights) (lessons : List Lesson) : Insights :=
  lessons.foldl (fun known l => (l.addTo settings known).1) known

end Lesson

/-! ### Variations that are added -/

namespace Insights

theorem addVariation_with (known : Insights) (projects : Dict ProjectInsight)
    (saved : Option Instant) (pattern variation : String) :
    { known with projects, saved }.addVariation pattern variation =
      { known.addVariation pattern variation with projects, saved } := by
  unfold addVariation isNew variationsOf
  simp only
  split <;> rfl

theorem addVariations_with (known : Insights) (projects : Dict ProjectInsight)
    (saved : Option Instant) (pattern : String) (variations : List String) :
    { known with projects, saved }.addVariations pattern variations =
      ({ (known.addVariations pattern variations).1 with projects, saved },
        (known.addVariations pattern variations).2) := by
  induction variations generalizing known with
  | nil => rfl
  | cons v rest ih =>
      simp only [addVariations, addVariation_with, ih]
      rfl

theorem addVariation_eq (known : Insights) (pattern variation : String) :
    known.addVariation pattern variation =
      { known with variations := (known.addVariation pattern variation).variations } := by
  unfold addVariation
  split <;> rfl

theorem mem_variationsOf_addVariation {known : Insights} {pattern other v w : String} :
    w ∈ (known.addVariation pattern v).variationsOf other ↔
      w ∈ known.variationsOf other ∨ other = pattern ∧ w = v ∧ v ≠ "" := by
  unfold addVariation
  by_cases hnew : known.isNew pattern v = true
  · rw [if_pos hnew]
    have hword : v ≠ "" := by
      rintro rfl
      simp [isNew] at hnew
    unfold variationsOf
    rw [Dict.get?_insert]
    by_cases hother : other = pattern
    · simp [hother, hword]
    · simp [hother]
  · rw [if_neg hnew]
    have hold : v ≠ "" → v ∈ known.variationsOf pattern := by
      intro hword
      simpa [isNew, hword] using hnew
    constructor
    · exact Or.inl
    · rintro (hmem | ⟨rfl, rfl, hword⟩)
      · exact hmem
      · exact hold hword

theorem mem_variationsOf_addVariations {known : Insights} {pattern other w : String}
    {variations : List String} :
    w ∈ (known.addVariations pattern variations).1.variationsOf other ↔
      w ∈ known.variationsOf other ∨ other = pattern ∧ w ∈ variations ∧ w ≠ "" := by
  induction variations generalizing known with
  | nil => simp [addVariations]
  | cons v rest ih =>
      have hstep : (known.addVariations pattern (v :: rest)).1 =
          ((known.addVariation pattern v).addVariations pattern rest).1 := rfl
      rw [hstep, ih, mem_variationsOf_addVariation, List.mem_cons]
      constructor
      · rintro ((hold | ⟨rfl, rfl, hword⟩) | ⟨rfl, hmem, hword⟩)
        · exact Or.inl hold
        · exact Or.inr ⟨rfl, Or.inl rfl, hword⟩
        · exact Or.inr ⟨rfl, Or.inr hmem, hword⟩
      · rintro (hold | ⟨rfl, rfl | hmem, hword⟩)
        · exact Or.inl (Or.inl hold)
        · exact Or.inl (Or.inr ⟨rfl, rfl, hword⟩)
        · exact Or.inr ⟨rfl, hmem, hword⟩

end Insights

theorem LearningState.addAll_eq (known : Insights) (listed : List (String × List String)) :
    addAll known listed = { known with variations := (addAll known listed).variations } := by
  refine addAll_keeps (P := fun t => t = { known with variations := t.variations })
    (fun t pattern v ht => ?_) rfl listed
  rw [Insights.addVariation_eq]
  exact congrArg (fun u : Insights =>
    { u with variations := (t.addVariation pattern v).variations }) ht

namespace ProjectLearning

theorem addDerived_eq (settings : LearnerSettings) (known : Insights)
    (found : List (String × List String)) :
    (addDerived settings known found).1 =
      { known with variations := (addDerived settings known found).1.variations } := by
  rw [LearningState.addDerived_eq_addAll]
  exact LearningState.addAll_eq known _

theorem addDerived_with (settings : LearnerSettings) (known : Insights)
    (projects : Dict ProjectInsight) (saved : Option Instant)
    (found : List (String × List String)) :
    addDerived settings { known with projects, saved } found =
      ({ (addDerived settings known found).1 with projects, saved },
        (addDerived settings known found).2) := by
  induction found generalizing known with
  | nil => rfl
  | cons f rest ih =>
      obtain ⟨pattern, texts⟩ := f
      simp only [addDerived, Insights.addVariations_with, ih]

theorem mem_variationsOf_addDerived {settings : LearnerSettings} {known : Insights}
    {found : List (String × List String)} {pattern w : String} :
    w ∈ (addDerived settings known found).1.variationsOf pattern ↔
      w ∈ known.variationsOf pattern ∨
        ∃ texts, (pattern, texts) ∈ found ∧ w ∈ deriveRules settings texts ∧ w ≠ "" := by
  induction found generalizing known with
  | nil => simp [addDerived]
  | cons f rest ih =>
      obtain ⟨first, texts⟩ := f
      have hstep : (addDerived settings known ((first, texts) :: rest)).1 =
          (addDerived settings (known.addVariations first (deriveRules settings texts)).1 rest).1 :=
        rfl
      rw [hstep, ih, Insights.mem_variationsOf_addVariations]
      constructor
      · rintro ((hold | ⟨rfl, hmem, hword⟩) | ⟨others, hmem, hrule⟩)
        · exact Or.inl hold
        · exact Or.inr ⟨texts, List.mem_cons_self, hmem, hword⟩
        · exact Or.inr ⟨others, List.mem_cons_of_mem _ hmem, hrule⟩
      · rintro (hold | ⟨others, hmem, hrule, hword⟩)
        · exact Or.inl (Or.inl hold)
        · rcases List.mem_cons.mp hmem with heq | hmem
          · cases heq
            exact Or.inl (Or.inr ⟨rfl, hrule, hword⟩)
          · exact Or.inr ⟨others, hmem, hrule, hword⟩

end ProjectLearning

/-! ### What a lesson adds -/

namespace Lesson

variable {settings : LearnerSettings} {base known : Insights} {l : Lesson} {lessons : List Lesson}

theorem addTo_eq (settings : LearnerSettings) (known : Insights) (l : Lesson) :
    (l.addTo settings known).1 =
      { known with
        projects := known.projects.insert l.project l.insight
        trained := known.trained.insert l.project ()
        variations := (l.addTo settings known).1.variations
        metrics := { known.metrics with
          projectsAnalyzed := known.metrics.projectsAnalyzed + 1
          lastUpdate := l.time } } := by
  have hderived := ProjectLearning.addDerived_eq settings
    { known with projects := known.projects.insert l.project l.insight } l.found.entries
  unfold addTo
  generalize ProjectLearning.addDerived settings _ l.found.entries = derived at hderived ⊢
  obtain ⟨grown, added⟩ := derived
  simp only at hderived ⊢
  rw [hderived]

theorem addTo_with_saved (settings : LearnerSettings) (known : Insights) (saved : Option Instant)
    (l : Lesson) :
    l.addTo settings { known with saved } =
      ({ (l.addTo settings known).1 with saved }, (l.addTo settings known).2) := by
  have hthere := ProjectLearning.addDerived_with settings known
    (known.projects.insert l.project l.insight) saved l.found.entries
  have hhere := ProjectLearning.addDerived_with settings known
    (known.projects.insert l.project l.insight) known.saved l.found.entries
  unfold addTo
  simp only
  rw [hthere, hhere]

theorem addAllTo_append (settings : LearnerSettings) (known : Insights) (lessons : List Lesson)
    (l : Lesson) :
    addAllTo settings known (lessons ++ [l]) =
      (l.addTo settings (addAllTo settings known lessons)).1 := by
  unfold addAllTo
  rw [List.foldl_append]
  rfl

theorem mem_variationsOf_addTo {pattern w : String} :
    w ∈ (l.addTo settings known).1.variationsOf pattern ↔
      w ∈ known.variationsOf pattern ∨ ∃ texts, (pattern, texts) ∈ l.found.entries ∧
        w ∈ ProjectLearning.deriveRules settings texts ∧ w ≠ "" :=
  ProjectLearning.mem_variationsOf_addDerived

theorem isTrained_addAllTo (project : String) :
    (addAllTo settings base lessons).isTrained project = true ↔
      base.isTrained project = true ∨ project ∈ lessons.map Lesson.project := by
  induction lessons using List.reverseRecOn with
  | nil => simp [addAllTo]
  | append_singleton lessons l ih =>
      rw [addAllTo_append, addTo_eq]
      unfold Insights.isTrained Dict.contains at ih ⊢
      rw [Dict.get?_insert]
      by_cases hproject : project = l.project
      · simp [hproject]
      · rw [if_neg hproject, ih, List.map_append]
        simp [hproject]

theorem projects_addAllTo_of_notMem {project : String}
    (hother : project ∉ lessons.map Lesson.project) :
    (addAllTo settings base lessons).projects.get? project = base.projects.get? project := by
  induction lessons using List.reverseRecOn with
  | nil => rfl
  | append_singleton lessons l ih =>
      rw [List.map_append, List.mem_append, not_or] at hother
      have hproject : project ≠ l.project := by simpa using hother.2
      rw [addAllTo_append, addTo_eq]
      simp only
      rw [Dict.get?_insert, if_neg hproject]
      exact ih hother.1

theorem projects_addAllTo_of_mem (hnodup : (lessons.map Lesson.project).Nodup) (hl : l ∈ lessons) :
    (addAllTo settings base lessons).projects.get? l.project = some l.insight := by
  induction lessons using List.reverseRecOn with
  | nil => cases hl
  | append_singleton lessons last ih =>
      rw [List.map_append, List.nodup_append] at hnodup
      obtain ⟨hbefore, _, hapart⟩ := hnodup
      rw [addAllTo_append, addTo_eq]
      simp only
      rw [Dict.get?_insert]
      rcases List.mem_append.mp hl with hl | hl
      · have hproject : l.project ≠ last.project :=
          hapart _ (List.mem_map_of_mem hl) _ (by simp)
        rw [if_neg hproject]
        exact ih hbefore hl
      · rw [List.mem_singleton.mp hl, if_pos rfl]

theorem projectsAnalyzed_addAllTo :
    (addAllTo settings base lessons).metrics.projectsAnalyzed =
      base.metrics.projectsAnalyzed + lessons.length := by
  induction lessons using List.reverseRecOn with
  | nil => rfl
  | append_singleton lessons l ih =>
      rw [addAllTo_append, addTo_eq]
      simp only
      rw [ih, List.length_append, List.length_singleton, Nat.add_assoc]

theorem mem_variationsOf_addAllTo {pattern w : String} :
    w ∈ (addAllTo settings base lessons).variationsOf pattern ↔
      w ∈ base.variationsOf pattern ∨ ∃ l ∈ lessons, ∃ texts, (pattern, texts) ∈ l.found.entries ∧
        w ∈ ProjectLearning.deriveRules settings texts ∧ w ≠ "" := by
  induction lessons using List.reverseRecOn with
  | nil => simp [addAllTo]
  | append_singleton lessons l ih =>
      rw [addAllTo_append, mem_variationsOf_addTo, ih]
      simp only [List.mem_append, List.mem_singleton, or_and_right, exists_or, exists_eq_left,
        or_assoc]

end Lesson

namespace LearningState

/-- What the learner knows once it has begun. -/
def knownAtFirst (s : LearningState) : Insights := s.begin.learner.insights

theorem learner_begin (s : LearningState) :
    s.begin.learner = { s.learner with
      patterns := s.begin.learner.patterns
      insights := s.knownAtFirst
      initialized := true } := by
  by_cases hbegun : s.learner.initialized = true
  · unfold knownAtFirst
    rw [begin_of_initialized hbegun, ← hbegun]
  · unfold knownAtFirst begin
    rw [if_neg hbegun]
    rfl

theorem begin_with_patience (s : LearningState) (patience : Option Nat) :
    { s with patience }.begin = { s.begin with patience } := by
  unfold begin
  split <;> rfl

theorem begin_frame (s : LearningState) :
    s.begin.storage = s.storage ∧ s.begin.time = s.time := by
  unfold begin
  split <;> exact ⟨rfl, rfl⟩

end LearningState

namespace ProjectLearning

open LearningState

theorem note_eq (s : LearningState) (project : String) (files : List SourceFile) (found : Found) :
    let l : Lesson := ⟨project, files, found, s.now⟩
    let added := l.addTo s.learner.settings s.learner.insights
    (note s project files found).1 =
        { s with learner := { s.learner with
          patterns := (note s project files found).1.learner.patterns
          insights := added.1 } } ∧
      (note s project files found).2 = l.report added.2 := ⟨rfl, rfl⟩

/-- Saving and announcing change nothing of what is known but the time at which it was saved. -/
theorem finish_outcome (s : LearningState) (event : Event) (report : LearnReport) :
    ∃ outcome t, (do persist; announce event; return report : Learning LearnReport).run.run s =
        (outcome, t) ∧
      t.learner = s.stamp.learner ∧ t.time = s.time ∧
      (outcome = .ok report ∨ ∃ i, outcome = .error i) := by
  obtain ⟨patience, hpersist | ⟨i, hpersist⟩⟩ := persist_cases s
  · obtain ⟨observers, patience', hannounce⟩ :=
      announce_cases (LearningState.store { s.stamp with patience }) event
    rw [run_bind, hpersist]
    simp only
    rw [run_bind]
    cases hrun : (announce event).run.run (LearningState.store { s.stamp with patience }) with
    | mk outcome t =>
        rw [hrun] at hannounce
        simp only at hannounce
        subst hannounce
        cases outcome with
        | ok => exact ⟨.ok report, _, rfl, rfl, rfl, Or.inl rfl⟩
        | error i => exact ⟨.error i, _, rfl, rfl, rfl, Or.inr ⟨i, rfl⟩⟩
  · rw [run_bind, hpersist]
    exact ⟨.error i, _, rfl, rfl, rfl, Or.inr ⟨i, rfl⟩⟩

/-- How work on a project ends.  What is not listed, such as the patterns, may have changed. -/
inductive Ends (s : LearningState) (project : String) (files : List SourceFile) :
    Except Interruption LearnReport × LearningState → Prop
  /-- It is stopped before what was learned is loaded. -/
  | unbegun {t : LearningState} (i : Interruption) (hlearner : t.learner = s.learner)
      (hstorage : t.storage = s.storage) (htime : t.time = s.time) :
      Ends s project files (.error i, t)
  | skipped {t : LearningState} (hlearner : t.learner = s.begin.learner) (htime : t.time = s.time)
      (hknown : s.knownAtFirst.isTrained project = true) :
      Ends s project files (.ok (skippedReport project files), t)
  /-- It is stopped while patterns are applied to the files. -/
  | searching {t : LearningState} (i : Interruption)
      (hlearner : t.learner = { s.begin.learner with patterns := t.learner.patterns })
      (htime : t.time = s.time) : Ends s project files (.error i, t)
  /-- The project is learned, and after that the work goes on to its end or is stopped. -/
  | learned {t : LearningState} (found : Found) (outcome : Except Interruption LearnReport)
      (hnew : s.knownAtFirst.isTrained project = false)
      (hextract : ∃ patience u,
        (extract files).run.run { s.begin with patience } = (.ok found, u))
      (hlearner : t.learner = { s.begin.learner with
        patterns := t.learner.patterns
        insights := { (Lesson.addTo s.learner.settings s.knownAtFirst
          ⟨project, files, found, s.now⟩).1 with saved := some s.now } })
      (htime : t.time = s.time)
      (houtcome : outcome = .ok (Lesson.report ⟨project, files, found, s.now⟩
          (Lesson.addTo s.learner.settings s.knownAtFirst ⟨project, files, found, s.now⟩).2) ∨
        ∃ i, outcome = .error i) :
      Ends s project files (outcome, t)

theorem ends_learn (s : LearningState) (project : String) (files : List SourceFile) :
    Ends s project files (s.learn project files) := by
  unfold LearningState.learn learn
  obtain ⟨patience, hbegin | ⟨i, hbegin⟩⟩ := begin_cases s
  · obtain ⟨_, htime⟩ := begin_frame s
    rw [run_bind, hbegin]
    simp only
    rw [run_bind, run_get, begin_with_patience]
    simp only
    split
    · next hknown => exact .skipped rfl htime hknown
    · next hnew =>
        have hsearches := along_extract files { s.begin with patience }
        rw [run_bind]
        cases hextract : (extract files).run.run { s.begin with patience } with
        | mk outcome u =>
            rw [hextract] at hsearches
            obtain ⟨hlearner, _, hclock⟩ := frame_of_searches hsearches
            simp only at hlearner hclock
            rw [htime] at hclock
            cases outcome with
            | error i => exact .searching i hlearner hclock
            | ok found =>
                simp only
                rw [run_bind, run_get]
                simp only
                rw [run_bind, run_set]
                obtain ⟨outcome, t, hrun, hlast, hwhen, houtcome⟩ :=
                  finish_outcome (note u project files found).1
                    (.projectLearned project (note u project files found).2)
                    (note u project files found).2
                simp only
                rw [hrun]
                obtain ⟨hnoted, hreport⟩ := note_eq u project files found
                have hnow : u.now = s.now := by
                  unfold LearningState.now
                  rw [hclock]
                have hsettings : u.learner.settings = s.learner.settings := by
                  rw [hlearner, learner_begin]
                have hknown : u.learner.insights = s.knownAtFirst := by
                  rw [hlearner]
                  rfl
                rw [hreport, hnow, hsettings, hknown] at houtcome
                refine .learned found outcome (Bool.eq_false_iff.mpr hnew) ⟨_, _, hextract⟩ ?_ ?_
                  houtcome
                · rw [hlast, hnoted, hnow, hsettings, hknown, hlearner]
                  simp only [stamp, withLearner, now, hclock]
                · rw [hwhen, hnoted]
                  exact hclock
  · rw [run_bind, hbegin]
    exact .unbegun i rfl rfl rfl

end ProjectLearning
end AdaptiveRules
