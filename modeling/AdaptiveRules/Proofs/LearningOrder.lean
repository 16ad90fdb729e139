import AdaptiveRules.Paragraphs
import AdaptiveRules.Proofs.KnowledgeRetention
import AdaptiveRules.Proofs.LessonOrder
import AdaptiveRules.Proofs.ProjectFindings

/-!
# The order in which projects are learned

Where no pattern adapts, a learner whose caches hold what its rules find in files keeps them so,
whatever it does.  So what is found in a project does not depend on the projects that were learned
before it, and each project gives the same lesson in every order.  What is known in the end is what
was known at first with these lessons taken in; the order of the lessons shows in the order of the
variations only.

A search in other blocks of a file may leave something else in a cache, as the key does not tell the
blocks.  Then the order shows, as the entry may be gone before the file is learned.
-/

namespace AdaptiveRules

open ProjectLearning LearningState

/-! ### Patterns that stay ready -/

section Ready

variable {look : SourceFile → MatchContext} {contents : Set String} {p : Pattern}

theorem RulePattern.Truthful.foldl_installed {p : RulePattern} (htruthful : p.Truthful look contents)
    (rules : List String) : (rules.foldl RulePattern.installed p).Truthful look contents :=
  List.foldlRecOn (motive := fun q : RulePattern => q.Truthful look contents) rules
    RulePattern.installed htruthful fun _ hq rule _ => hq.installed rule

namespace Pattern

theorem Ready.offer (hready : p.Ready look contents) (variations : List String) :
    (p.offer variations).Ready look contents := by
  refine ⟨(keepsRule_offer p variations).fixed hready.fixed, ?_⟩
  obtain ⟨core, mode⟩ := p
  cases mode <;> exact hready.truthful

theorem Ready.restore (hready : p.Ready look contents) (log : List Improvement) :
    (Learner.restore p log).Ready look contents := by
  constructor
  · unfold IsFixed
    rw [mode_restore]
    exact hready.fixed
  · rw [core_restore]
    exact hready.truthful.foldl_installed _

theorem Ready.improvePattern (hready : p.Ready look contents) (known : Insights) (now : Instant) :
    (improvePattern known now p).1.Ready look contents := by
  refine ⟨hready.fixed, ?_⟩
  show ((Adaptation.improve p.core (known.variationsOf p.name)).1).Truthful look contents
  rw [core_improve]
  exact hready.truthful.foldl_installed _

end Pattern

theorem ready_of_mem_improvePatterns {known : Insights} {now : Instant} {names : Option (List String)}
    {patterns : List Pattern} (hall : ∀ p ∈ patterns, p.Ready look contents) :
    ∀ p ∈ (improvePatterns known now names patterns).1, p.Ready look contents := by
  induction patterns with
  | nil => exact fun p hp => absurd hp List.not_mem_nil
  | cons first rest ih =>
      obtain ⟨hfirst, hrest⟩ := List.forall_mem_cons.mp hall
      simp only [improvePatterns]
      split
      · exact List.forall_mem_cons.mpr ⟨hfirst.improvePattern known now, ih hrest⟩
      · exact List.forall_mem_cons.mpr ⟨hfirst, ih hrest⟩

end Ready

/-! ### Learners that are ready -/

namespace ProjectLearning

theorem contextOf_congr {l m : Learner} (hsettings : m.settings = l.settings)
    (hcutter : m.cutter = l.cutter) : contextOf m = contextOf l := by
  funext file
  unfold contextOf
  rw [hsettings, hcutter]

/-- What a learner that has begun is left with by a project. -/
inductive Leaves (s : LearningState) (project : String) (files : List SourceFile) : Learner → Prop
  | skipped (hknown : s.learner.insights.isTrained project = true) :
      Leaves s project files s.learner
  | searching {i : Interruption} {u : LearningState}
      (hnew : s.learner.insights.isTrained project = false)
      (hextract : (extract files).run.run s = (.error i, u)) : Leaves s project files u.learner
  | learned {found : Found} {u : LearningState}
      (hnew : s.learner.insights.isTrained project = false)
      (hextract : (extract files).run.run s = (.ok found, u)) :
      Leaves s project files (note u project files found).1.stamp.learner

theorem leaves_learn {s t : LearningState} (hbegin : begin.run.run s = (.ok (), t)) (project : String)
    (files : List SourceFile) : Leaves t project files (s.learn project files).2.learner := by
  unfold LearningState.learn learn
  rw [run_bind, hbegin]
  simp only
  rw [run_bind, run_get]
  simp only
  split
  · next hknown => exact .skipped hknown
  · next hnew =>
      rw [run_bind]
      rcases hextract : (extract files).run.run t with ⟨i | found, u⟩
      · exact .searching (Bool.eq_false_iff.mpr hnew) hextract
      · simp only
        rw [run_bind, run_get]
        simp only
        rw [run_bind, run_set]
        obtain ⟨outcome, v, hrun, hlast, _⟩ := finish_outcome (note u project files found).1
          (.projectLearned project (note u project files found).2) (note u project files found).2
        simp only
        rw [hrun]
        simp only
        rw [hlast]
        exact .learned (Bool.eq_false_iff.mpr hnew) hextract

end ProjectLearning

namespace Learner

variable {contents : Set String} {l m : Learner}

/-- No pattern adapts, and the caches hold what is found in files. -/
def IsReady (l : Learner) (contents : Set String) : Prop :=
  ∀ p ∈ l.patterns, p.Ready (contextOf l) contents

theorem IsReady.of_eq (hready : l.IsReady contents) (hpatterns : m.patterns = l.patterns)
    (hsettings : m.settings = l.settings) (hcutter : m.cutter = l.cutter) : m.IsReady contents := by
  unfold IsReady
  rw [hpatterns, contextOf_congr hsettings hcutter]
  exact hready

theorem IsReady.offerKnown (hready : l.IsReady contents) : l.offerKnown.IsReady contents := by
  intro p hp
  obtain ⟨q, hq, rfl⟩ := List.mem_map.mp hp
  exact (hready q hq).offer _

theorem IsReady.restoreAll (hready : l.IsReady contents) : l.restoreAll.IsReady contents := by
  intro p hp
  obtain ⟨q, hq, rfl⟩ := List.mem_map.mp hp
  exact (hready q hq).restore _

theorem IsReady.mergeAll (hready : l.IsReady contents) (variations : List (String × List String)) :
    (LearningState.mergeAll l variations).1.IsReady contents := by
  induction variations generalizing l with
  | nil => exact hready
  | cons v rest ih =>
      obtain ⟨pattern, vs⟩ := v
      have hadded : IsReady { l with insights := (l.insights.addVariations pattern vs).1 } contents :=
        hready.of_eq rfl rfl rfl
      have hmerged : (l.merge pattern vs).1.IsReady contents := by
        unfold Learner.merge
        simp only
        split
        · exact hadded
        · exact hadded.offerKnown
      exact ih hmerged

end Learner

namespace LearningState

variable {contents : Set String} {s : LearningState}

theorem serves_of_isReady (hready : s.learner.IsReady contents) :
    Serves s.learner.patterns (contextOf s.learner) contents s :=
  ⟨rfl, List.forall₂_same.mpr fun p hp => ⟨.refl p, hready p hp⟩⟩

theorem isReady_of_serves {patterns : List Pattern} {look : SourceFile → MatchContext}
    (hserves : Serves patterns look contents s) : s.learner.IsReady contents := by
  intro q hq
  obtain ⟨index, hindex⟩ := List.mem_iff_getElem?.mp hq
  have hplaces := rel_getElem? hserves.ready index
  rw [hindex] at hplaces
  rw [hserves.looks]
  generalize patterns[index]? = place at hplaces
  cases hplaces with
  | some hboth => exact hboth.2

theorem isReady_begin (hready : s.learner.IsReady contents) : s.begin.learner.IsReady contents := by
  unfold LearningState.begin
  split
  · exact hready
  · have hloaded : Learner.IsReady { s.learner with insights := s.loaded, initialized := true }
        contents := hready.of_eq rfl rfl rfl
    exact hloaded.restoreAll.offerKnown

theorem isReady_note (hready : s.learner.IsReady contents) (project : String)
    (files : List SourceFile) (found : Found) :
    (note s project files found).1.learner.IsReady contents := by
  have hgrown : Learner.IsReady { s.learner with
      insights := (addDerived s.learner.settings
        { s.learner.insights with
          projects := s.learner.insights.projects.insert project
            ⟨files.length, found.map List.length, s.now⟩ }
        found.entries).1 } contents := hready.of_eq rfl rfl rfl
  exact hgrown.offerKnown.of_eq rfl rfl rfl

theorem isReady_learn (hsha : Set.InjOn Sha256.hex contents) (hready : s.learner.IsReady contents)
    (project : String) {files : List SourceFile} (hfiles : ∀ file ∈ files, file.content ∈ contents) :
    (s.learn project files).2.learner.IsReady contents := by
  obtain ⟨patience, hbegin | ⟨i, hbegin⟩⟩ := begin_cases s
  · have hbegun : { s with patience }.begin.learner.IsReady contents :=
      isReady_begin (s := { s with patience }) hready
    obtain ⟨hsearched, _⟩ := comesTo_extract hsha (tellsPaths_contextOf _) hfiles _
      (serves_of_isReady hbegun)
    have hleaves := leaves_learn hbegin project files
    generalize (s.learn project files).2.learner = last at hleaves
    cases hleaves with
    | skipped => exact hbegun
    | searching _ hextract =>
        rw [hextract] at hsearched
        exact isReady_of_serves hsearched
    | learned _ hextract =>
        rw [hextract] at hsearched
        exact (isReady_note (isReady_of_serves hsearched) project files _).of_eq rfl rfl rfl
  · unfold LearningState.learn ProjectLearning.learn
    rw [run_bind, hbegin]
    exact hready

end LearningState

/-- The files that are learned have the given contents. -/
def LearnerOperation.ReadsIn (contents : Set String) : LearnerOperation → Prop
  | .learn _ files _ => ∀ file ∈ files, file.content ∈ contents
  | _ => True

namespace LearningState

variable {contents : Set String} {s : LearningState}

theorem isReady_perform (hsha : Set.InjOn Sha256.hex contents) (hready : s.learner.IsReady contents)
    {op : LearnerOperation} (hop : op.ReadsIn contents) :
    (s.perform op).learner.IsReady contents := by
  have hbegun := isReady_begin hready
  cases op with
  | begin => exact hbegun
  | learn project files patience =>
      exact isReady_learn (s := { s with patience }) hsha hready project hop
  | improve names =>
      have hlearner : (s.improve names).2.learner = (s.begin.improved names).stamp.learner := rfl
      obtain ⟨observers, metrics, himproved⟩ := improved_eq s.begin names
      simp only [perform, hlearner, himproved]
      exact ready_of_mem_improvePatterns hbegun
  | importFrom path =>
      simp only [perform, importFrom]
      cases s.begin.readExport path with
      | error p => exact hbegun
      | ok e =>
          have hmerged := hbegun.mergeAll e.variations.entries
          simp only
          split
          · exact hmerged
          · exact hmerged.of_eq rfl rfl rfl
  | exportTo path =>
      simp only [perform, exportTo]
      split <;> exact hbegun
  | persist => exact hready.of_eq rfl rfl rfl
  | close =>
      obtain ⟨t, _, hlearner, hclosed⟩ := perform_of_savesAtOnce s .close rfl
      have hstamped : t.learner.IsReady contents := hlearner ▸ hready.of_eq rfl rfl rfl
      rw [hclosed]
      exact hstamped
  | reset => exact hready.of_eq rfl rfl rfl
  | tick time => exact hready
  | place path text =>
      simp only [perform, placed]
      split <;> exact hready

theorem isReady_performAll (hsha : Set.InjOn Sha256.hex contents)
    (hready : s.learner.IsReady contents) {ops : List LearnerOperation}
    (hops : ∀ op ∈ ops, op.ReadsIn contents) : (s.performAll ops).learner.IsReady contents := by
  induction ops generalizing s with
  | nil => exact hready
  | cons op rest ih =>
      obtain ⟨hop, hrest⟩ := List.forall_mem_cons.mp hops
      exact ih (isReady_perform hsha hready hop) hrest

end LearningState

/-! ### Learning some projects -/

/-- A project to be learned at some time. -/
structure Assignment where
  project : String
  files : List SourceFile
  time : MatchTime

namespace Assignment

/-- The assignment without its time. -/
def work (a : Assignment) : String × List SourceFile := (a.project, a.files)

def operations (a : Assignment) : List LearnerOperation :=
  [.tick a.time, .learn a.project a.files none]

end Assignment

namespace ProjectLearning

theorem begin_of_patient {s : LearningState} (hpatience : s.patience = none) :
    begin.run.run s = (.ok (), s.begin) := by
  unfold begin
  rw [run_bind, run_get]
  simp only
  split
  · next hbegun =>
      rw [begin_of_initialized hbegun]
      rfl
  · rw [run_bind, pause_of_patient hpatience]
    rfl

/-- The lesson that a project gives to a learner with the rules of this one. -/
def lessonOf (l : Learner) (project : String) (files : List SourceFile) (time : Instant) :
    Option Lesson :=
  if l.insights.isTrained project then none
  else (gathered l.patterns (contextOf l) files).toOption.map fun found =>
    ⟨project, files, found, time⟩

theorem project_of_lessonOf {project : String} {files : List SourceFile} {time : Instant} {m : Lesson}
    (hlesson : lessonOf l project files time = some m) : m.project = project := by
  unfold lessonOf at hlesson
  split at hlesson
  · cases hlesson
  · obtain ⟨_, _, rfl⟩ := Option.map_eq_some_iff.mp hlesson
    rfl

/-- The lessons that some projects give. -/
def lessonsOf (l : Learner) (as : List Assignment) : List Lesson :=
  as.filterMap fun a => lessonOf l a.project a.files a.time.now

theorem lessonsOf_cons (l : Learner) (a : Assignment) (as : List Assignment) :
    lessonsOf l (a :: as) = (lessonOf l a.project a.files a.time.now).toList ++ lessonsOf l as := by
  unfold lessonsOf
  rw [List.filterMap_cons]
  cases lessonOf l a.project a.files a.time.now <;> rfl

theorem sublist_lessonsOf (l : Learner) (as : List Assignment) :
    ((lessonsOf l as).map Lesson.project).Sublist (as.map Assignment.project) := by
  induction as with
  | nil => exact List.Sublist.slnil
  | cons a rest ih =>
      rw [lessonsOf_cons]
      cases hlesson : lessonOf l a.project a.files a.time.now with
      | none => exact ih.cons _
      | some m =>
          simp only [Option.toList_some, List.singleton_append, List.map_cons,
            project_of_lessonOf hlesson]
          exact ih.cons_cons _

/-- Without times, the lessons follow from the projects and their files. -/
theorem undated_lessonsOf {l m : Learner} (hpatterns : m.patterns = l.patterns)
    (hsettings : m.settings = l.settings) (hcutter : m.cutter = l.cutter)
    (htrained : m.insights.trained = l.insights.trained) (as : List Assignment) :
    (lessonsOf m as).map Lesson.undated = (as.map Assignment.work).filterMap fun w =>
      (lessonOf l w.1 w.2 ⟨0, 0⟩).map Lesson.undated := by
  have hlesson : ∀ project files (now : Instant), (lessonOf m project files now).map Lesson.undated =
      (lessonOf l project files ⟨0, 0⟩).map Lesson.undated := by
    intro project files now
    have hknown : m.insights.isTrained project = l.insights.isTrained project := by
      unfold Insights.isTrained
      rw [htrained]
    unfold lessonOf
    rw [hknown, hpatterns, contextOf_congr hsettings hcutter]
    split
    · rfl
    · rw [Option.map_map, Option.map_map]
      rfl
  unfold lessonsOf
  rw [List.map_filterMap, List.filterMap_map]
  exact List.filterMap_congr fun a _ => hlesson a.project a.files a.time.now

end ProjectLearning

namespace LearningState

variable {contents : Set String} {l : Learner} {s : LearningState} {lessons : List Lesson}

/-- A learner that has begun as the given one and has taken in some lessons. -/
structure Course (l : Learner) (contents : Set String) (s : LearningState) (lessons : List Lesson) :
    Prop where
  begun : s.learner.initialized = true
  settings : s.learner.settings = l.settings
  serves : Serves l.patterns (contextOf l) contents s
  known : s.learner.insights = { Lesson.addAllTo l.settings l.insights lessons with
    saved := s.learner.insights.saved }

theorem Course.isTrained (hcourse : Course l contents s lessons) {project : String}
    (hother : project ∉ lessons.map Lesson.project) :
    s.learner.insights.isTrained project = l.insights.isTrained project := by
  rw [Bool.eq_iff_iff, hcourse.known]
  show (Lesson.addAllTo l.settings l.insights lessons).isTrained project = true ↔ _
  rw [Lesson.isTrained_addAllTo, or_iff_left hother]

theorem Course.of_learner_eq {t : LearningState} (hcourse : Course l contents s lessons)
    (hlearner : t.learner = s.learner) : Course l contents t lessons := by
  obtain ⟨hbegun, hsettings, ⟨hlooks, hready⟩, hknown⟩ := hcourse
  rw [← hlearner] at hbegun hsettings hlooks hready hknown
  exact ⟨hbegun, hsettings, ⟨hlooks, hready⟩, hknown⟩

/-- Searching a project changes nothing, and comes to what the rules find. -/
theorem Course.extract (hcourse : Course l contents s lessons) (hsha : Set.InjOn Sha256.hex contents)
    {files : List SourceFile} (hfiles : ∀ file ∈ files, file.content ∈ contents)
    (hpatience : s.patience = none) {outcome : Except Interruption Found} {t : LearningState}
    (hextract : (ProjectLearning.extract files).run.run s = (outcome, t)) :
    Course l contents t lessons ∧ t.now = s.now ∧
      outcome = gathered l.patterns (contextOf l) files := by
  obtain ⟨hsearched, hvalue⟩ :=
    comesTo_extract hsha (tellsPaths_contextOf l) hfiles s hcourse.serves
  obtain ⟨hframe, _, hclock⟩ := frame_of_searches (along_extract files s)
  rw [hextract] at hsearched hvalue hframe hclock
  simp only at hsearched hvalue hframe hclock
  refine ⟨⟨?_, ?_, hsearched, ?_⟩, congrArg MatchTime.now hclock, (hvalue hpatience).1⟩
  · rw [hframe]
    exact hcourse.begun
  · rw [hframe]
    exact hcourse.settings
  · rw [hframe]
    exact hcourse.known

theorem Course.note (hcourse : Course l contents s lessons) (project : String)
    (files : List SourceFile) (found : Found) :
    Course l contents (ProjectLearning.note s project files found).1.stamp
      (lessons ++ [⟨project, files, found, s.now⟩]) := by
  have hoffered := forall₂_offerKnown
    (fun c p vs hp => ⟨hp.1.trans (p.resembles_offer vs), hp.2.offer vs⟩)
    (l := { s.learner with
      insights := (addDerived s.learner.settings
        { s.learner.insights with
          projects := s.learner.insights.projects.insert project
            ⟨files.length, found.map List.length, s.now⟩ }
        found.entries).1 }) hcourse.serves.ready
  have hinsights : (ProjectLearning.note s project files found).1.stamp.learner.insights =
      { (Lesson.addTo s.learner.settings s.learner.insights
          ⟨project, files, found, s.now⟩).1 with saved := some s.now } := rfl
  refine ⟨hcourse.begun, hcourse.settings, ⟨hcourse.serves.looks, hoffered⟩, ?_⟩
  rw [hinsights, Lesson.addAllTo_append, hcourse.settings, hcourse.known, Lesson.addTo_with_saved]

/-- A project that was not learned in this course adds its lesson, whatever was learned before. -/
theorem Course.learn (hcourse : Course l contents s lessons) (hsha : Set.InjOn Sha256.hex contents)
    {a : Assignment} (hfiles : ∀ file ∈ a.files, file.content ∈ contents)
    (hother : a.project ∉ lessons.map Lesson.project) :
    Course l contents (s.performAll a.operations)
      (lessons ++ (lessonOf l a.project a.files a.time.now).toList) := by
  let ready : LearningState := { s with time := a.time, patience := none }
  have hready : Course l contents ready lessons := hcourse.of_learner_eq rfl
  have hbegin : ProjectLearning.begin.run.run ready = (.ok (), ready) := by
    rw [begin_of_patient rfl, begin_of_initialized hready.begun]
  have hleaves := leaves_learn hbegin a.project a.files
  have hend : (s.performAll a.operations).learner = (ready.learn a.project a.files).2.learner := rfl
  generalize (ready.learn a.project a.files).2.learner = last at hleaves hend
  have htrained := hready.isTrained hother
  unfold lessonOf
  rw [← htrained]
  cases hleaves with
  | skipped hknown =>
      rw [if_pos hknown, Option.toList_none, List.append_nil]
      exact hready.of_learner_eq hend
  | searching hnew hextract =>
      obtain ⟨hsearched, _, hgathered⟩ := hready.extract hsha hfiles rfl hextract
      rw [hnew, ← hgathered]
      simp only [Except.toOption, Option.map_none, Bool.false_eq_true, if_false, Option.toList_none,
        List.append_nil]
      exact hsearched.of_learner_eq hend
  | @learned found u hnew hextract =>
      obtain ⟨hsearched, hnow, hgathered⟩ := hready.extract hsha hfiles rfl hextract
      rw [hnew, ← hgathered]
      simp only [Except.toOption, Option.map_some, Bool.false_eq_true, if_false, Option.toList_some]
      have hnoted := hsearched.note a.project a.files found
      rw [hnow] at hnoted
      exact hnoted.of_learner_eq hend

theorem performAll_assignments_cons (s : LearningState) (a : Assignment) (as : List Assignment) :
    s.performAll ((a :: as).flatMap Assignment.operations) =
      (s.performAll a.operations).performAll (as.flatMap Assignment.operations) := by
  rw [List.flatMap_cons]
  exact List.foldl_append

/-- Projects that are different and were not learned in this course before add their lessons. -/
theorem Course.learnAll (hcourse : Course l contents s lessons) (hsha : Set.InjOn Sha256.hex contents)
    {as : List Assignment} (hfiles : ∀ a ∈ as, ∀ file ∈ a.files, file.content ∈ contents)
    (hnodup : (as.map Assignment.project).Nodup)
    (hothers : ∀ a ∈ as, a.project ∉ lessons.map Lesson.project) :
    Course l contents (s.performAll (as.flatMap Assignment.operations))
      (lessons ++ lessonsOf l as) := by
  induction as generalizing s lessons with
  | nil => exact (List.append_nil lessons).symm ▸ hcourse
  | cons a rest ih =>
      obtain ⟨hfirst, hrest⟩ := List.forall_mem_cons.mp hfiles
      obtain ⟨hnew, hlater⟩ := List.forall_mem_cons.mp hothers
      obtain ⟨hapart, hnodup⟩ := List.nodup_cons.mp hnodup
      have hstep := ih (hcourse.learn hsha hfirst hnew) hrest hnodup (by
        intro b hb hmem
        rw [List.map_append, List.mem_append] at hmem
        rcases hmem with hmem | hmem
        · exact hlater b hb hmem
        · obtain ⟨m, hm, hproject⟩ := List.mem_map.mp hmem
          rw [project_of_lessonOf (Option.mem_toList.mp hm)] at hproject
          exact hapart (hproject ▸ List.mem_map_of_mem hb))
      rwa [lessonsOf_cons, performAll_assignments_cons, ← List.append_assoc]

/-! ### Two orders -/

theorem learn_begin (hpatience : s.patience = none) (project : String) (files : List SourceFile) :
    s.begin.learn project files = s.learn project files := by
  have hthere : s.begin.patience = none := by
    unfold LearningState.begin
    split <;> exact hpatience
  unfold LearningState.learn ProjectLearning.learn
  rw [run_bind, run_bind, begin_of_patient hpatience, begin_of_patient hthere,
    begin_of_initialized (initialized_begin s)]

/-- A learner may as well begin before its first assignment. -/
theorem performAll_operations_begin (s : LearningState) (a : Assignment) :
    { s with time := a.time }.begin.performAll a.operations = s.performAll a.operations := by
  have hlearn := learn_begin (s := { s with time := a.time, patience := none }) rfl a.project a.files
  have hbegin : { { s with time := a.time }.begin with time := a.time, patience := none } =
      { s with time := a.time, patience := none }.begin := by
    obtain ⟨_, htime⟩ := begin_frame { s with time := a.time }
    have hpatience := begin_with_patience { s with time := a.time } none
    simp only at hpatience htime
    rw [hpatience, htime]
  show { ({ { s with time := a.time }.begin with time := a.time, patience := none }.learn
      a.project a.files).2 with patience := none } = _
  rw [hbegin, hlearn]
  rfl

/-- What is known after some projects: what is known at first, with the lesson of each. -/
theorem exists_course (hready : s.learner.IsReady contents) (hsha : Set.InjOn Sha256.hex contents)
    {a : Assignment} {as : List Assignment}
    (hfiles : ∀ b ∈ a :: as, ∀ file ∈ b.files, file.content ∈ contents)
    (hnodup : ((a :: as).map Assignment.project).Nodup) :
    Course { s with time := a.time }.begin.learner contents
      (s.performAll ((a :: as).flatMap Assignment.operations))
      (lessonsOf { s with time := a.time }.begin.learner (a :: as)) := by
  have hbegun : { s with time := a.time }.begin.learner.IsReady contents :=
    isReady_begin (s := { s with time := a.time }) hready
  have hstart : Course { s with time := a.time }.begin.learner contents
      { s with time := a.time }.begin [] :=
    ⟨initialized_begin _, rfl, serves_of_isReady hbegun, rfl⟩
  have hcourse := hstart.learnAll hsha hfiles hnodup nofun
  have hrun : { s with time := a.time }.begin.performAll
        ((a :: as).flatMap Assignment.operations) =
      s.performAll ((a :: as).flatMap Assignment.operations) := by
    rw [performAll_assignments_cons, performAll_assignments_cons, performAll_operations_begin]
  rwa [hrun, List.nil_append] at hcourse

/-- Two courses on the same projects, of learners that know the same at first but for times. -/
theorem Course.agreesUpToOrder {known : Insights} {t : LearningState} {as bs : List Assignment}
    (hcourse : Course l contents s (lessonsOf l as))
    (hother : Course { l with insights := known } contents t
      (lessonsOf { l with insights := known } bs))
    (hknown : known.undated = l.insights.undated) (hnodup : (as.map Assignment.project).Nodup)
    (hperm : (as.map Assignment.work).Perm (bs.map Assignment.work)) :
    Insights.AgreesUpToOrder s.learner.insights t.learner.insights := by
  have htrained : known.trained = l.insights.trained := (Insights.mk.inj hknown).2.2.1
  have hlessons : ((lessonsOf l as).map Lesson.undated).Perm
      ((lessonsOf { l with insights := known } bs).map Lesson.undated) := by
    rw [undated_lessonsOf (l := l) rfl rfl rfl rfl,
      undated_lessonsOf (l := l) (m := { l with insights := known }) rfl rfl rfl htrained]
    exact hperm.filterMap _
  have hagrees : Insights.AgreesUpToOrder
      (Lesson.addAllTo l.settings l.insights (lessonsOf l as))
      (Lesson.addAllTo l.settings known (lessonsOf { l with insights := known } bs)) :=
    Lesson.agreesUpToOrder_addAllTo hknown hlessons (hnodup.sublist (sublist_lessonsOf l as))
  rw [hcourse.known, hother.known]
  exact ⟨hagrees.trained, hagrees.analyzed, hagrees.projects, hagrees.variations⟩

/-- Where no pattern adapts and no cache answers for a file by what was found elsewhere, two runs that
learn the same projects in different orders and at different times, after anything that the learner
did before, come to know the same. -/
theorem learned_in_any_order {s₀ : LearningState} (hfixed : ∀ p ∈ s₀.learner.patterns, p.IsFixed)
    (htruthful : ∀ p ∈ s₀.learner.patterns, p.core.Truthful (contextOf s₀.learner) contents)
    (hsha : Set.InjOn Sha256.hex contents) {before : List LearnerOperation}
    (hbefore : ∀ op ∈ before, op.ReadsIn contents) {as bs : List Assignment}
    (hfiles : ∀ a ∈ as, ∀ file ∈ a.files, file.content ∈ contents)
    (hnodup : (as.map Assignment.project).Nodup)
    (hperm : (as.map Assignment.work).Perm (bs.map Assignment.work)) :
    Insights.AgreesUpToOrder
      ((s₀.performAll before).performAll (as.flatMap Assignment.operations)).learner.insights
      ((s₀.performAll before).performAll (bs.flatMap Assignment.operations)).learner.insights := by
  have hready : (s₀.performAll before).learner.IsReady contents :=
    isReady_performAll hsha (fun p hp => ⟨hfixed p hp, htruthful p hp⟩) hbefore
  generalize s₀.performAll before = s at hready ⊢
  have hothers : ∀ b ∈ bs, ∀ file ∈ b.files, file.content ∈ contents := by
    intro b hb
    obtain ⟨a, ha, hwork⟩ := List.mem_map.mp (hperm.mem_iff.mpr (List.mem_map_of_mem hb))
    have hsame : a.files = b.files := congrArg Prod.snd hwork
    exact hsame ▸ hfiles a ha
  have hapart : (bs.map Assignment.project).Nodup := by
    have hprojects := hperm.map Prod.fst
    rw [List.map_map, List.map_map] at hprojects
    exact hprojects.nodup_iff.mp hnodup
  cases as with
  | nil =>
      obtain rfl : bs = [] := by simpa using hperm
      exact .refl _
  | cons a as =>
      cases bs with
      | nil => simp at hperm
      | cons b bs =>
          obtain ⟨known, hknown, hlearner⟩ := learner_begin_of_time { s with time := a.time } b.time
          have hcourse := exists_course hready hsha hfiles hnodup
          have hother := exists_course hready hsha hothers hapart
          simp only at hlearner
          rw [hlearner] at hother
          unfold knownAtFirst at hknown
          generalize { s with time := a.time }.begin.learner = l at hcourse hother hknown
          exact hcourse.agreesUpToOrder hother hknown hnodup hperm

/-! ### A rule that finds less in paragraphs -/

def restOfText : TextRule :=
  .ofCore "a.+" (.seq (.set ⟨[(97, 97)]⟩) (.plus true (.set ⟨[(0, 1114111)]⟩)))

/-- A learner that cuts files into paragraphs, with room for one entry in the cache. -/
def paragraphLearner : LearningState :=
  (LearningState.inMemory
    [.plain
      { definition := .ofRule "w" restOfText.source
        engine := .none
        body := .textual restOfText
        cutter := none
        maxMatches := RulePattern.standardMaxMatches
        metrics := .empty ⟨0, 0⟩
        cache := some (.ofCapacity 1 none) }]
    none).withLearner fun l => { l with
      settings := { l.settings with useBlocks := true }
      cutter := some fun _ => Paragraphs.extract }

def twoParagraphs : SourceFile := ⟨"a.md", "a1\n\na2"⟩

def paragraphProjects : List Assignment :=
  [⟨"p", [twoParagraphs], ⟨⟨1, 0⟩, 0⟩⟩, ⟨"q", [⟨"b.md", "a3"⟩], ⟨⟨2, 0⟩, 0⟩⟩]

/-- The patterns have been matched with a file as a whole. -/
def matchedUncut (s : LearningState) (file : SourceFile) : LearningState :=
  s.withLearner fun l => { l with patterns := l.patterns.map fun p =>
    (p.matchSource file.content (some { contextOf l file with blocks := [] }) s.time).pattern }

theorem injOn_hex_paragraphProjects : Set.InjOn Sha256.hex {twoParagraphs.content, "a3"} := by
  have hdiffer : Sha256.hex twoParagraphs.content ≠ Sha256.hex "a3" := by decide +kernel
  rintro a (rfl | rfl) b (rfl | rfl) heq
  · rfl
  · exact absurd heq hdiffer
  · exact absurd heq.symm hdiffer
  · rfl

/-- The order does not matter for the learner with an empty cache.  It does once the cache answers for
the paragraphs of a file by what the rule has found in the whole file: the answer is used if that file
is learned first, and has left the cache if it is learned last. -/
theorem learned_in_any_order_paragraphs :
    Insights.AgreesUpToOrder
        ((paragraphLearner.performAll [.begin]).performAll
          (paragraphProjects.flatMap Assignment.operations)).learner.insights
        ((paragraphLearner.performAll [.begin]).performAll
          (paragraphProjects.reverse.flatMap Assignment.operations)).learner.insights ∧
      ¬ Insights.AgreesUpToOrder
        (((matchedUncut paragraphLearner twoParagraphs).performAll [.begin]).performAll
          (paragraphProjects.flatMap Assignment.operations)).learner.insights
        (((matchedUncut paragraphLearner twoParagraphs).performAll [.begin]).performAll
          (paragraphProjects.reverse.flatMap Assignment.operations)).learner.insights := by
  constructor
  · have hfixed : ∀ p ∈ paragraphLearner.learner.patterns, p.IsFixed := by
      intro p hp
      rw [List.mem_singleton.mp hp]
      exact nofun
    have htruthful : ∀ p ∈ paragraphLearner.learner.patterns,
        p.core.Truthful (contextOf paragraphLearner.learner) {twoParagraphs.content, "a3"} := by
      intro p hp
      rw [List.mem_singleton.mp hp]
      exact RulePattern.truthful_of_empty fun c hc => (Option.some.inj hc) ▸ rfl
    have hbefore : ∀ op ∈ [LearnerOperation.begin],
        op.ReadsIn {twoParagraphs.content, "a3"} := List.forall_mem_singleton.mpr trivial
    have hfiles : ∀ a ∈ paragraphProjects, ∀ file ∈ a.files,
        file.content ∈ ({twoParagraphs.content, "a3"} : Set String) := by
      intro a ha file hfile
      simp only [paragraphProjects, List.mem_cons, List.not_mem_nil, or_false] at ha
      rcases ha with rfl | rfl
      · exact Or.inl (List.mem_singleton.mp hfile ▸ rfl)
      · exact Or.inr (List.mem_singleton.mp hfile ▸ rfl)
    have hnodup : (paragraphProjects.map Assignment.project).Nodup := by decide
    have hperm : (paragraphProjects.map Assignment.work).Perm
        (paragraphProjects.reverse.map Assignment.work) :=
      (List.reverse_perm paragraphProjects).symm.map _
    exact learned_in_any_order hfixed htruthful injOn_hex_paragraphProjects hbefore hfiles hnodup hperm
  · intro hagrees
    have hcounts := congrArg (Option.map fun told => told.2.entries) (hagrees.projects "p")
    revert hcounts
    decide +kernel

end LearningState
end AdaptiveRules
