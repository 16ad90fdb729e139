import AdaptiveRules.Proofs.KnowledgeRetention
import AdaptiveRules.Proofs.Lessons

/-!
# Learning in the background is all or nothing

Projects are submitted, tasks start in any order, are cancelled, and stop wherever they wait.  All
along such a run what the learner knows is what it knew at first with some lessons taken in as a
whole, each for another project that was submitted and not known before; every report on a project
that was learned belongs to one of these lessons.  A task that ends cancelled does nothing, and a
shutdown accounts for every task.
-/

namespace AdaptiveRules

open LearningState

/-! ### The learner of a scheduler -/

namespace LearningState

theorem knownAtFirst_congr {s t : LearningState} (hlearner : t.learner = s.learner)
    (hstorage : t.storage = s.storage) (htime : t.time = s.time) :
    t.knownAtFirst = s.knownAtFirst := by
  obtain ⟨learner, storage, observers, time, patience⟩ := s
  obtain ⟨learner', storage', observers', time', patience'⟩ := t
  simp only at hlearner hstorage htime
  subst hlearner hstorage htime
  unfold knownAtFirst begin
  simp only
  split <;> rfl

/-- What a learner knows: what it knew at first, where it begins at some time, with the lessons. -/
structure Taught (s₀ s : LearningState) (base : Insights) (lessons : List Lesson) : Prop where
  settings : s.learner.settings = s₀.learner.settings
  unbegun : s.learner.initialized = false →
    s.learner = s₀.learner ∧ s.storage = s₀.storage ∧ base = s₀.learner.insights ∧ lessons = []
  begun : s.learner.initialized = true → ∃ time, base = { s₀ with time }.knownAtFirst
  known : s.learner.insights =
    { Lesson.addAllTo s₀.learner.settings base lessons with saved := s.learner.insights.saved }
  nodup : (lessons.map Lesson.project).Nodup
  genuine : ∀ l ∈ lessons, l.IsGenuine ∧ base.isTrained l.project = false

variable {s₀ s t : LearningState} {base : Insights} {lessons : List Lesson}

theorem Taught.refl (s : LearningState) :
    Taught s s (if s.learner.initialized then s.knownAtFirst else s.learner.insights) [] := by
  refine ⟨rfl, fun hbefore => ⟨rfl, rfl, by rw [hbefore]; rfl, rfl⟩,
    fun hbegun => ⟨s.time, by rw [hbegun]; rfl⟩, ?_, List.nodup_nil, nofun⟩
  by_cases hbegun : s.learner.initialized = true
  · rw [if_pos hbegun]
    unfold knownAtFirst
    rw [begin_of_initialized hbegun]
    rfl
  · rw [if_neg hbegun]
    rfl

/-- It is of no account what the observers were told, how long the patience is, and whether what is
known was saved. -/
theorem Taught.of_learner_eq (htaught : Taught s₀ s base lessons) (hlearner : t.learner = s.learner)
    (hstorage : t.learner.initialized = false → t.storage = s.storage) :
    Taught s₀ t base lessons := by
  refine ⟨?_, ?_, ?_, ?_, htaught.nodup, htaught.genuine⟩
  · rw [hlearner]
    exact htaught.settings
  · intro hbefore
    rw [hstorage hbefore, hlearner]
    rw [hlearner] at hbefore
    exact htaught.unbegun hbefore
  · rw [hlearner]
    exact htaught.begun
  · rw [hlearner]
    exact htaught.known

/-- A learner that begins takes over what it knew at first. -/
theorem Taught.exists_begin (htaught : Taught s₀ s base lessons) :
    ∃ base', Taught s₀ s.begin base' lessons := by
  by_cases hbegun : s.learner.initialized = true
  · rw [begin_of_initialized hbegun]
    exact ⟨base, htaught⟩
  · obtain ⟨hlearner, hstorage, _, rfl⟩ := htaught.unbegun (Bool.eq_false_iff.mpr hbegun)
    have hsame : s.knownAtFirst = { s₀ with time := s.time }.knownAtFirst :=
      knownAtFirst_congr hlearner hstorage rfl
    refine ⟨s.knownAtFirst, ?_, ?_, fun _ => ⟨s.time, hsame⟩, rfl, List.nodup_nil, nofun⟩
    · rw [learner_begin]
      exact htaught.settings
    · intro hbefore
      rw [initialized_begin] at hbefore
      cases hbefore

theorem Taught.isTrained (htaught : Taught s₀ s base lessons) (project : String) :
    s.learner.insights.isTrained project = true ↔
      base.isTrained project = true ∨ project ∈ lessons.map Lesson.project := by
  rw [← Lesson.isTrained_addAllTo, htaught.known]
  rfl

/-- The lesson that work on a project adds: none, or one for this project, and that is the case if it
reports that the project was learned. -/
inductive Adds (project : String) (files : List SourceFile) (lessons : List Lesson) :
    Except Interruption LearnReport → List Lesson → Prop
  | nothing (outcome : Except Interruption LearnReport)
      (hskipped : ∀ report, outcome = .ok report → report.skipped = true) :
      Adds project files lessons outcome lessons
  | lesson (l : Lesson) (outcome : Except Interruption LearnReport) (hproject : l.project = project)
      (hfiles : l.files = files)
      (hreport : ∀ report, outcome = .ok report → ∃ added, report = l.report added) :
      Adds project files lessons outcome (lessons ++ [l])

theorem Taught.learn (htaught : Taught s₀ s base lessons) (project : String)
    (files : List SourceFile) :
    ∃ base' lessons', Taught s₀ (s.learn project files).2 base' lessons' ∧
      Adds project files lessons (s.learn project files).1 lessons' := by
  obtain ⟨base', hbegun⟩ := htaught.exists_begin
  have hready := initialized_begin s
  have hends := ProjectLearning.ends_learn s project files
  generalize s.learn project files = result at hends
  cases hends with
  | unbegun i hlearner hstorage htime =>
      exact ⟨base, lessons, htaught.of_learner_eq hlearner fun _ => hstorage, .nothing _ nofun⟩
  | skipped hlearner htime hknown =>
      refine ⟨base', lessons, hbegun.of_learner_eq hlearner ?_, .nothing _ ?_⟩
      · rw [hlearner, hready]
        nofun
      · rintro report ⟨⟩
        rfl
  | @searching t i hlearner htime =>
      refine ⟨base', lessons, ⟨?_, ?_, fun _ => hbegun.begun hready, ?_, hbegun.nodup,
        hbegun.genuine⟩, .nothing _ nofun⟩
      · rw [hlearner]
        exact hbegun.settings
      · rw [hlearner, hready]
        nofun
      · rw [hlearner]
        exact hbegun.known
  | @learned t found outcome hnew hextract hlearner htime houtcome =>
      have hother := (hbegun.isTrained project).not.mp (by simpa [knownAtFirst] using hnew)
      rw [not_or] at hother
      refine ⟨base', lessons ++ [⟨project, files, found, s.now⟩], ⟨?_, ?_,
        fun _ => hbegun.begun hready, ?_, ?_, ?_⟩, .lesson _ _ rfl rfl ?_⟩
      · rw [hlearner]
        exact hbegun.settings
      · rw [hlearner]
        simp only [hready]
        nofun
      · have hknown := hbegun.known
        rw [hlearner, Lesson.addAllTo_append]
        unfold knownAtFirst
        rw [hknown, Lesson.addTo_with_saved, htaught.settings]
      · rw [List.map_append, List.nodup_append]
        refine ⟨hbegun.nodup, List.nodup_singleton _, ?_⟩
        rintro p hp q hq rfl
        obtain rfl : p = project := by simpa using hq
        exact hother.2 hp
      · intro l hl
        rcases List.mem_append.mp hl with hl | hl
        · exact hbegun.genuine l hl
        · rw [List.mem_singleton.mp hl]
          obtain ⟨patience, u, hextract⟩ := hextract
          exact ⟨⟨_, _, hextract⟩, by simpa using hother.1⟩
      · rintro report rfl
        rcases houtcome with hok | ⟨i, herror⟩
        · cases hok
          exact ⟨_, rfl⟩
        · cases herror

end LearningState

/-! ### Tasks -/

/-- What is done about tasks before a shutdown; time may pass. -/
def SchedulerAction.isBackground : SchedulerAction → Bool
  | .operate (.tick _) => true
  | .operate _ => false
  | .shutdown => false
  | _ => true

namespace LearningTask

/-- The task has not started. -/
def IsOpen (t : LearningTask) : Prop := t.status = .waiting ∨ t.status = .queued

end LearningTask

namespace LearningScheduler

variable {s u : LearningScheduler} {id : Nat} {patience : Option Nat}

/-- The status in which work leaves its task. -/
def endStatus : Except Interruption LearnReport → TaskStatus
  | .ok report => .finished (some report)
  | .error .suspended => .suspended
  | .error .crashed => .failed

theorem report_endStatus (t : LearningTask) (outcome : Except Interruption LearnReport) :
    { t with status := endStatus outcome }.report = outcome.toOption := by
  rcases outcome with (_ | _) | report <;> rfl

theorem work_eq (s : LearningScheduler) (t : LearningTask) (patience : Option Nat) :
    s.work t patience =
      { s with state :=
          { ({ s.state with patience }.learn t.project t.files).2 with patience := none } }.change
        t.id fun u =>
          { u with status := endStatus ({ s.state with patience }.learn t.project t.files).1 } :=
  rfl

theorem id_of_task? {t : LearningTask} (htask : s.task? id = some t) : t.id = id := by
  simpa using List.find?_some htask

theorem task?_change (s : LearningScheduler) (id : Nat) (status : TaskStatus) :
    (s.change id fun t => { t with status }).task? id =
      (s.task? id).map fun t => { t with status } := by
  unfold task? change
  induction s.tasks with
  | nil => rfl
  | cons t rest ih =>
      by_cases ht : t.id = id
      · simp [ht]
      · simp [ht, ih]

theorem task?_work {t : LearningTask} (htask : s.task? id = some t) :
    (s.work t patience).task? id =
      some { t with status := endStatus ({ s.state with patience }.learn t.project t.files).1 } := by
  obtain rfl := id_of_task? htask
  rw [work_eq, task?_change]
  change (s.task? t.id).map _ = _
  rw [htask]
  rfl

/-- What it means for a task to go on. -/
inductive Starts (s : LearningScheduler) (id : Nat) (patience : Option Nat) :
    LearningScheduler → Prop
  | idle (hidle : ∀ t, s.task? id = some t → ¬ t.IsOpen) : Starts s id patience s
  | cancelled (t : LearningTask) (htask : s.task? id = some t) (hopen : t.IsOpen)
      (hcancelled : t.cancelled = true) :
      Starts s id patience (s.change id fun t => { t with status := .finished none })
  | queued (t : LearningTask) (htask : s.task? id = some t) (hopen : t.IsOpen)
      (hcancelled : t.cancelled = false) :
      Starts s id patience (s.change id fun t => { t with status := .queued })
  | works (t : LearningTask) (htask : s.task? id = some t) (hopen : t.IsOpen)
      (hcancelled : t.cancelled = false) : Starts s id patience (s.work t patience)

theorem starts_start (s : LearningScheduler) (id : Nat) (patience : Option Nat) :
    Starts s id patience (s.start id patience) := by
  unfold start
  cases htask : s.task? id with
  | none =>
      refine .idle fun t ht => ?_
      rw [htask] at ht
      cases ht
  | some t =>
      simp only
      split
      · next hclosed =>
          refine .idle fun u hu => ?_
          rw [htask] at hu
          cases hu
          rintro (hwaiting | hqueued)
          · exact hclosed.1 hwaiting
          · exact hclosed.2 hqueued
      · next hopen =>
          have hopen : t.IsOpen := by
            by_cases hwaiting : t.status = .waiting
            · exact Or.inl hwaiting
            · exact Or.inr (by_contra fun hqueued => hopen ⟨hwaiting, hqueued⟩)
          split
          · next hcancelled => exact .cancelled t htask hopen hcancelled
          · next hcancelled =>
              split
              · exact .works t htask hopen (Bool.eq_false_iff.mpr hcancelled)
              · exact .queued t htask hopen (Bool.eq_false_iff.mpr hcancelled)

/-- The report that a task gets as it goes on. -/
def reportOf (s : LearningScheduler) : SchedulerAction → Option LearnReport
  | .start id patience =>
      if (s.task? id).any fun t => !t.isFinished then
        ((s.start id patience).task? id).bind LearningTask.report
      else none
  | _ => none

/-- The reports that tasks get along a run. -/
def reports (s : LearningScheduler) (actions : List SchedulerAction) : List LearnReport :=
  match actions with
  | [] => []
  | a :: rest => (s.reportOf a).toList ++ (s.perform a).reports rest

/-- The projects that reports tell to have been learned. -/
def learnedIn (reports : List LearnReport) : List String :=
  (reports.filter fun r => !r.skipped).map LearnReport.project

theorem reports_append (s : LearningScheduler) (done rest : List SchedulerAction) :
    s.reports (done ++ rest) = s.reports done ++ (s.performAll done).reports rest := by
  induction done generalizing s with
  | nil => rfl
  | cons a done ih =>
      simp only [List.cons_append, reports, ih, List.append_assoc]
      rfl

theorem reportOf_of_not_start {a : SchedulerAction} (ha : ∀ id patience, a ≠ .start id patience) :
    s.reportOf a = none := by
  cases a with
  | start id patience => exact absurd rfl (ha id patience)
  | _ => rfl

/-- A task gets the report of its work, and no report if it does not work. -/
theorem reportOf_start (s : LearningScheduler) (id : Nat) (patience : Option Nat) :
    s.start id patience = s ∧ s.reportOf (.start id patience) = none ∨
      (∃ status, s.start id patience = s.change id fun t => { t with status }) ∧
        s.reportOf (.start id patience) = none ∨
      ∃ t, s.task? id = some t ∧ s.start id patience = s.work t patience ∧
        s.reportOf (.start id patience) =
          ({ s.state with patience }.learn t.project t.files).1.toOption := by
  have hstarts := starts_start s id patience
  have hreport : s.reportOf (.start id patience) =
      if (s.task? id).any fun t => !t.isFinished then
        ((s.start id patience).task? id).bind LearningTask.report
      else none := rfl
  rw [hreport]
  generalize s.start id patience = u at hstarts ⊢
  cases hstarts with
  | idle hidle =>
      refine Or.inl ⟨rfl, ?_⟩
      cases htask : s.task? id with
      | none => rfl
      | some t =>
          have hclosed := hidle t htask
          unfold LearningTask.IsOpen at hclosed
          cases hstatus : t.status <;> simp_all [LearningTask.isFinished, LearningTask.report]
  | cancelled t htask =>
      refine Or.inr (Or.inl ⟨⟨_, rfl⟩, ?_⟩)
      rw [task?_change, htask]
      simp [LearningTask.report]
  | queued t htask =>
      refine Or.inr (Or.inl ⟨⟨_, rfl⟩, ?_⟩)
      rw [task?_change, htask]
      simp [LearningTask.report]
  | works t htask hopen =>
      refine Or.inr (Or.inr ⟨t, htask, rfl, ?_⟩)
      rw [task?_work htask, htask]
      have hunfinished : t.isFinished = false := by
        unfold LearningTask.isFinished
        rcases hopen with hopen | hopen <;> rw [hopen]
      simp only [Option.any_some, hunfinished, Bool.not_false, if_true, Option.bind_some,
        report_endStatus]

/-! ### Runs -/

/-- After some actions: what the learner knows, whom the tasks are for, and who was told that his
project is learned. -/
structure Accounts (s₀ : LearningState) (done : List SchedulerAction) (u : LearningScheduler)
    (base : Insights) (lessons : List Lesson) : Prop where
  taught : Taught s₀ u.state base lessons
  submitted : ∀ l ∈ lessons, .submit l.project l.files ∈ done
  tasks : ∀ t ∈ u.tasks, .submit t.project t.files ∈ done
  reports : (learnedIn ((ofState s₀).reports done)).Sublist (lessons.map Lesson.project)

theorem learnedIn_append (first second : List LearnReport) :
    learnedIn (first ++ second) = learnedIn first ++ learnedIn second := by
  simp [learnedIn]

theorem learnedIn_of_skipped {report : Option LearnReport}
    (hskipped : ∀ r, report = some r → r.skipped = true) : learnedIn report.toList = [] := by
  cases report with
  | none => rfl
  | some r => simp [learnedIn, hskipped r rfl]

variable {s₀ : LearningState} {done actions : List SchedulerAction} {a : SchedulerAction}
  {base : Insights} {lessons : List Lesson}

theorem Accounts.mem_tasks_change (haccounts : Accounts s₀ done u base lessons) (id : Nat)
    (f : LearningTask → LearningTask) (hf : ∀ t, (f t).project = t.project ∧ (f t).files = t.files) :
    ∀ t ∈ (u.change id f).tasks, .submit t.project t.files ∈ done := by
  intro t ht
  obtain ⟨v, hv, rfl⟩ := List.mem_map.mp ht
  split
  · rw [(hf v).1, (hf v).2]
    exact haccounts.tasks v hv
  · exact haccounts.tasks v hv

/-- An action that is no start leaves what is known and adds tasks that are submitted. -/
theorem tasks_perform (hbackground : a.isBackground = true)
    (ha : ∀ id patience, a ≠ .start id patience) (u : LearningScheduler) :
    (u.perform a).state.learner = u.state.learner ∧ (u.perform a).state.storage = u.state.storage ∧
      ∀ t ∈ (u.perform a).tasks, (∃ v ∈ u.tasks, t.project = v.project ∧ t.files = v.files) ∨
        a = .submit t.project t.files := by
  have hsame : ∀ t ∈ u.tasks, (∃ v ∈ u.tasks, t.project = v.project ∧ t.files = v.files) ∨
      a = .submit t.project t.files := fun t ht => Or.inl ⟨t, ht, rfl, rfl⟩
  cases a with
  | start id patience => exact absurd rfl (ha id patience)
  | shutdown => cases hbackground
  | submit project files =>
      refine ⟨rfl, rfl, fun t ht => ?_⟩
      rcases List.mem_append.mp ht with ht | ht
      · exact hsame t (List.mem_of_mem_filter ht)
      · rw [List.mem_singleton.mp ht]
        exact Or.inr rfl
  | cancel id =>
      refine ⟨rfl, rfl, fun t ht => ?_⟩
      obtain ⟨v, hv, rfl⟩ := List.mem_map.mp ht
      refine Or.inl ⟨v, hv, ?_⟩
      split <;> exact ⟨rfl, rfl⟩
  | forget id => exact ⟨rfl, rfl, fun t ht => hsame t (List.mem_of_mem_filter ht)⟩
  | hold => exact ⟨rfl, rfl, hsame⟩
  | release => exact ⟨rfl, rfl, hsame⟩
  | operate op =>
      cases op with
      | tick time =>
          simp only [perform]
          split <;> exact ⟨rfl, rfl, hsame⟩
      | _ => cases hbackground

theorem reports_concat (s : LearningScheduler) (done : List SchedulerAction)
    (a : SchedulerAction) :
    s.reports (done ++ [a]) = s.reports done ++ ((s.performAll done).reportOf a).toList := by
  simp [reports_append, reports]

theorem state_work (s : LearningScheduler) (t : LearningTask) (patience : Option Nat) :
    (s.work t patience).state =
      { ({ s.state with patience }.learn t.project t.files).2 with patience := none } := rfl

/-- The lessons that there are after learning are those from before and one from this project. -/
theorem mem_cases_of_adds {project : String} {files : List SourceFile}
    {outcome : Except Interruption LearnReport} {lessons' : List Lesson}
    (hadds : Adds project files lessons outcome lessons') {l : Lesson} (hl : l ∈ lessons') :
    l ∈ lessons ∨ l.project = project ∧ l.files = files := by
  cases hadds with
  | nothing => exact Or.inl hl
  | lesson last _ hproject hfiles =>
      rcases List.mem_append.mp hl with hl | hl
      · exact Or.inl hl
      · rw [List.mem_singleton.mp hl]
        exact Or.inr ⟨hproject, hfiles⟩

/-- That a project was learned is told only if its lesson was added. -/
theorem learnedIn_sublist_of_adds {project : String} {files : List SourceFile}
    {outcome : Except Interruption LearnReport} {lessons' : List Lesson}
    (hadds : Adds project files lessons outcome lessons') {told : List LearnReport}
    (htold : (learnedIn told).Sublist (lessons.map Lesson.project)) :
    (learnedIn (told ++ outcome.toOption.toList)).Sublist (lessons'.map Lesson.project) := by
  rw [learnedIn_append]
  cases hadds with
  | nothing _ hskipped =>
      rw [learnedIn_of_skipped, List.append_nil]
      · exact htold
      · intro report hr
        cases outcome with
        | error i => cases hr
        | ok r =>
            cases hr
            exact hskipped _ rfl
  | lesson l _ _ _ hreport =>
      rw [List.map_append]
      apply htold.append
      cases outcome with
      | error i => exact List.nil_sublist _
      | ok r =>
          obtain ⟨added, rfl⟩ := hreport r rfl
          exact List.Sublist.refl _

/-- An action that tells nobody anything adds no lesson. -/
theorem Accounts.quiet (haccounts : Accounts s₀ done ((ofState s₀).performAll done) base lessons)
    (hreport : ((ofState s₀).performAll done).reportOf a = none)
    (htaught : Taught s₀ u.state base lessons)
    (htasks : ∀ t ∈ u.tasks, .submit t.project t.files ∈ done ++ [a]) :
    Accounts s₀ (done ++ [a]) u base lessons := by
  refine ⟨htaught, fun l hl => List.mem_append_left _ (haccounts.submitted l hl), htasks, ?_⟩
  rw [reports_concat, hreport, Option.toList_none, List.append_nil]
  exact haccounts.reports

/-- A start makes the learner known to the lesson of its task, if it works at all. -/
theorem Accounts.start (haccounts : Accounts s₀ done ((ofState s₀).performAll done) base lessons)
    (id : Nat) (patience : Option Nat) :
    ∃ base' lessons', Accounts s₀ (done ++ [.start id patience])
      (((ofState s₀).performAll done).start id patience) base' lessons' := by
  have hlast := reports_concat (ofState s₀) done (.start id patience)
  generalize hu : (ofState s₀).performAll done = u at hlast
  have hmore : ∀ b, b ∈ done → b ∈ done ++ [.start id patience] :=
    fun b => List.mem_append_left _
  rcases u.reportOf_start id patience with
    ⟨hstart, hreport⟩ | ⟨⟨status, hstart⟩, hreport⟩ | ⟨t, htask, hstart, hreport⟩
  · rw [hstart]
    subst hu
    exact ⟨base, lessons, haccounts.quiet hreport haccounts.taught
      fun t ht => hmore _ (haccounts.tasks t ht)⟩
  · rw [hstart]
    subst hu
    exact ⟨base, lessons, haccounts.quiet hreport haccounts.taught
      fun t ht => hmore _ (haccounts.mem_tasks_change id (fun t => { t with status })
        (fun _ => ⟨rfl, rfl⟩) t ht)⟩
  · rw [hu] at haccounts
    have hwaiting : Taught s₀ { u.state with patience } base lessons :=
      haccounts.taught.of_learner_eq rfl fun _ => rfl
    obtain ⟨base', lessons', htaught, hadds⟩ := hwaiting.learn t.project t.files
    have hmember := haccounts.tasks t (List.mem_of_find?_eq_some htask)
    have hchanged := haccounts.mem_tasks_change t.id
      (fun v => { v with
        status := endStatus ({ u.state with patience }.learn t.project t.files).1 })
      fun _ => ⟨rfl, rfl⟩
    rw [hstart]
    rw [hreport] at hlast
    refine ⟨base', lessons', ?_, fun l hl => hmore _ ?_, fun v hv => hmore _ (hchanged v hv), ?_⟩
    · rw [state_work]
      exact htaught.of_learner_eq rfl fun _ => rfl
    · rcases mem_cases_of_adds hadds hl with hold | ⟨hproject, hfiles⟩
      · exact haccounts.submitted l hold
      · rw [hproject, hfiles]
        exact hmember
    · rw [hlast]
      exact learnedIn_sublist_of_adds hadds haccounts.reports

theorem Accounts.perform (haccounts : Accounts s₀ done ((ofState s₀).performAll done) base lessons)
    (hbackground : a.isBackground = true) :
    ∃ base' lessons',
      Accounts s₀ (done ++ [a]) (((ofState s₀).performAll done).perform a) base' lessons' := by
  by_cases hstart : ∃ id patience, a = .start id patience
  · obtain ⟨id, patience, rfl⟩ := hstart
    exact haccounts.start id patience
  · have ha : ∀ id patience, a ≠ .start id patience := by
      rintro id patience rfl
      exact hstart ⟨id, patience, rfl⟩
    obtain ⟨hlearner, hstorage, htasks⟩ := tasks_perform hbackground ha ((ofState s₀).performAll done)
    refine ⟨base, lessons, haccounts.quiet (reportOf_of_not_start ha)
      (haccounts.taught.of_learner_eq hlearner fun _ => hstorage) fun t ht => ?_⟩
    rcases htasks t ht with ⟨v, hv, hproject, hfiles⟩ | rfl
    · rw [hproject, hfiles]
      exact List.mem_append_left _ (haccounts.tasks v hv)
    · exact List.mem_append_right _ List.mem_cons_self

/-- No two tasks have the same number. -/
structure Numbered (s : LearningScheduler) : Prop where
  nodup : (s.tasks.map LearningTask.id).Nodup
  lt : ∀ t ∈ s.tasks, t.id < s.submitted

theorem Numbered.of_sublist (hnumbered : Numbered s)
    (hids : (u.tasks.map LearningTask.id).Sublist (s.tasks.map LearningTask.id))
    (hcount : u.submitted = s.submitted) : Numbered u := by
  refine ⟨hnumbered.nodup.sublist hids, fun t ht => ?_⟩
  obtain ⟨v, hv, hid⟩ := List.mem_map.mp (hids.subset (List.mem_map_of_mem ht))
  rw [← hid, hcount]
  exact hnumbered.lt v hv

theorem ids_change (s : LearningScheduler) (id : Nat) (f : LearningTask → LearningTask)
    (hf : ∀ t, (f t).id = t.id) :
    (s.change id f).tasks.map LearningTask.id = s.tasks.map LearningTask.id := by
  unfold change
  rw [List.map_map]
  apply List.map_congr_left
  intro t _
  simp only [Function.comp]
  split
  · exact hf t
  · rfl

theorem ids_start (s : LearningScheduler) (id : Nat) (patience : Option Nat) :
    (s.start id patience).tasks.map LearningTask.id = s.tasks.map LearningTask.id := by
  have hstarts := starts_start s id patience
  generalize s.start id patience = u at hstarts
  cases hstarts with
  | idle => rfl
  | cancelled => exact ids_change s id _ fun _ => rfl
  | queued => exact ids_change s id _ fun _ => rfl
  | works t => exact ids_change s t.id _ fun _ => rfl

theorem submitted_start (s : LearningScheduler) (id : Nat) (patience : Option Nat) :
    (s.start id patience).submitted = s.submitted := by
  have hstarts := starts_start s id patience
  generalize s.start id patience = u at hstarts
  cases hstarts <;> rfl

theorem Numbered.start (hnumbered : Numbered s) (id : Nat) (patience : Option Nat) :
    Numbered (s.start id patience) :=
  hnumbered.of_sublist (by rw [ids_start]) (submitted_start s id patience)

theorem Numbered.perform (hnumbered : Numbered s) (hbackground : a.isBackground = true) :
    Numbered (s.perform a) := by
  cases a with
  | start id patience => exact hnumbered.start id patience
  | shutdown => cases hbackground
  | cancel id =>
      have hids := ids_change s id (fun t => { t with cancelled := true }) fun _ => rfl
      exact hnumbered.of_sublist (hids ▸ List.Sublist.refl _) rfl
  | forget id => exact hnumbered.of_sublist (List.filter_sublist.map _) rfl
  | hold => exact ⟨hnumbered.nodup, hnumbered.lt⟩
  | release => exact ⟨hnumbered.nodup, hnumbered.lt⟩
  | operate op =>
      simp only [LearningScheduler.perform]
      split <;> exact ⟨hnumbered.nodup, hnumbered.lt⟩
  | submit project files =>
      have hkept : Numbered { s with tasks := s.tasks.filter fun t => !t.isFinished } :=
        hnumbered.of_sublist (List.filter_sublist.map _) rfl
      refine ⟨?_, fun t ht => ?_⟩
      · change ((s.tasks.filter _ ++ [_]).map LearningTask.id).Nodup
        rw [List.map_append, List.nodup_append]
        refine ⟨hkept.nodup, List.nodup_singleton _, ?_⟩
        rintro i hi j hj rfl
        obtain ⟨v, hv, rfl⟩ := List.mem_map.mp hi
        have hbelow := hkept.lt v hv
        have hnew : v.id = s.submitted := by simpa using hj
        simp only at hbelow
        omega
      · change t.id < s.submitted + 1
        rcases List.mem_append.mp ht with ht | ht
        · have hbelow := hkept.lt t ht
          simp only at hbelow
          omega
        · rw [List.mem_singleton.mp ht]
          exact Nat.lt_succ_self _

end LearningScheduler
end AdaptiveRules
