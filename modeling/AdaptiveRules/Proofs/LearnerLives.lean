import AdaptiveRules.Proofs.KnowledgeRetention
import AdaptiveRules.Proofs.Lessons
import AdaptiveRules.Proofs.PatternRuns

/-!
# The lives of learners

Learners follow each other on one store, each with patterns and settings of its own.  While a learner
works, others may use its patterns; what the patterns announce then is announced to the observers of
the learner.  In a life without resets, in which nothing is saved before the learner has begun, the
store goes on to hold what it held, and every learner that has begun knows it.
-/

namespace AdaptiveRules

open Insights LearningState

inductive LifeStep
  | operate (op : LearnerOperation)
  /-- Somebody else uses a pattern of the learner. -/
  | use (index : Nat) (op : PatternOperation)
  /-- Another learner takes over the store. -/
  | restart (patterns : List Pattern) (settings : LearnerSettings) (cutter : Option BlockCutter)
      (announces : Bool)

/-- The events that an operation of a pattern leads to. -/
def Pattern.eventsOf (p : Pattern) : PatternOperation → List Event
  | .search source context time => (p.matchSource source context time).events
  | .adapt context now => (p.adapt context now).events
  | _ => []

namespace LearningState

def use (s : LearningState) (index : Nat) (op : PatternOperation) : LearningState :=
  match s.learner.patterns[index]? with
  | none => s
  | some p =>
      (s.withLearner fun l => { l with patterns := l.patterns.set index (p.perform op) }).announceAll
        (p.eventsOf op)

def undergo (s : LearningState) : LifeStep → LearningState
  | .operate op => s.perform op
  | .use index op => s.use index op
  | .restart patterns settings cutter announces =>
      s.withLearner fun l => .fresh patterns l.store settings cutter announces s.now

def undergoAll (s : LearningState) (steps : List LifeStep) : LearningState := steps.foldl undergo s

theorem use_eq (s : LearningState) (index : Nat) (op : PatternOperation) :
    ∃ observers, s.use index op =
      { s with
        observers
        learner := { s.learner with patterns := (s.use index op).learner.patterns } } := by
  unfold use
  split
  · exact ⟨s.observers, rfl⟩
  · exact ⟨_, rfl⟩

end LearningState

/-- An operation asks of the store what it can do, and saves nothing before the learner has begun. -/
def LifeStep.IsSafe (step : LifeStep) (sound : Storage → Prop) (fit : Insights → Prop)
    (s : LearningState) : Prop :=
  ∀ op, step = .operate op → op.Suits sound fit s ∧ ¬ s.IsPremature op

namespace LearningState

variable {sound : Storage → Prop} {fit : Insights → Prop} {s : LearningState} {held : Insights}
  {h : StoreHandle} {step : LifeStep} {steps : List LifeStep}

theorem store_undergo (s : LearningState) (step : LifeStep) :
    (s.undergo step).learner.store = s.learner.store := by
  cases step with
  | operate op => exact store_perform s op
  | use index op =>
      obtain ⟨observers, huse⟩ := use_eq s index op
      simp only [undergo]
      rw [huse]
  | restart patterns settings cutter announces => rfl

theorem Steady.undergo (hworks : s.learner.store.Works sound fit) (hsteady : Steady sound s)
    (hsafe : step.IsSafe sound fit s) : Steady sound (s.undergo step) := by
  cases step with
  | operate op => exact hsteady.perform hworks (hsafe op rfl).1
  | use index op =>
      obtain ⟨observers, huse⟩ := use_eq s index op
      simp only [LearningState.undergo]
      rw [huse]
      exact ⟨hsteady.sound, hsteady.blank⟩
  | restart patterns settings cutter announces => exact ⟨hsteady.sound, fun _ => isBlank_empty _⟩

theorem Keeps.undergo (hworks : s.learner.store.Works sound fit) (hsteady : Steady sound s)
    (hkeeps : Keeps held s) (hsafe : step.IsSafe sound fit s) : Keeps held (s.undergo step) := by
  cases step with
  | operate op =>
      obtain ⟨hsuits, htimely⟩ := hsafe op rfl
      exact hkeeps.perform hworks hsteady hsuits (Or.inr htimely)
  | use index op =>
      obtain ⟨observers, huse⟩ := use_eq s index op
      simp only [LearningState.undergo]
      rw [huse]
      exact ⟨hkeeps.stored, hkeeps.known⟩
  | restart patterns settings cutter announces => exact ⟨hkeeps.stored, nofun⟩

/-- The store stays in place and sound all along. -/
theorem Steady.undergoAll (hworks : h.Works sound fit)
    (hsteady : s.learner.store = h ∧ Steady sound s)
    (hsafe : ∀ done step rest, steps = done ++ step :: rest →
      step.IsSafe sound fit (s.undergoAll done)) :
    ∀ done rest, steps = done ++ rest →
      (s.undergoAll done).learner.store = h ∧ Steady sound (s.undergoAll done) :=
  forall_foldl (P := fun u : LearningState => u.learner.store = h ∧ Steady sound u)
    (fun u step hu hstep =>
      ⟨(store_undergo u step).trans hu.1, hu.2.undergo (by rwa [hu.1]) hstep⟩) hsteady hsafe

/-- What the store once held and the learner knew is never lost. -/
theorem Keeps.undergoAll (hworks : h.Works sound fit)
    (hsteady : s.learner.store = h ∧ Steady sound s) (hkeeps : Keeps held s)
    (hsafe : ∀ done step rest, steps = done ++ step :: rest →
      step.IsSafe sound fit (s.undergoAll done)) :
    Keeps held (s.undergoAll steps) := by
  have hstep : ∀ (u : LearningState) (step : LifeStep),
      (u.learner.store = h ∧ Steady sound u) ∧ Keeps held u → step.IsSafe sound fit u →
      ((u.undergo step).learner.store = h ∧ Steady sound (u.undergo step)) ∧
        Keeps held (u.undergo step) := by
    rintro u step ⟨⟨hstore, hsteady⟩, hkeeps⟩ hsafe
    rw [← hstore] at hworks
    exact ⟨⟨(store_undergo u step).trans hstore, hsteady.undergo hworks hsafe⟩,
      hkeeps.undergo hworks hsteady hsafe⟩
  exact (forall_foldl hstep ⟨hsteady, hkeeps⟩ hsafe steps [] (List.append_nil steps).symm).2

/-- In memory every step is safe that neither resets nor saves at once. -/
theorem isSafe_of_memory (hstore : s.learner.store = .memory)
    (hops : ∀ op, .operate op ∈ steps → op ≠ .reset ∧ op.savesAtOnce = false) :
    ∀ done step rest, steps = done ++ step :: rest →
      step.IsSafe (fun _ => True) (fun _ => True) (s.undergoAll done) := by
  have hkept : ∀ done : List LifeStep, (s.undergoAll done).learner.store = .memory := by
    intro done
    refine List.foldlRecOn (motive := fun u : LearningState => u.learner.store = .memory) done
      undergo hstore fun u hu step _ => (store_undergo u step).trans hu
  rintro done step rest hsplit op rfl
  obtain ⟨hkeeps, hlate⟩ := hops op (hsplit ▸ List.mem_append_right _ List.mem_cons_self)
  refine ⟨LearnerOperation.suits_memory hkeeps (hkept done), fun hearly => ?_⟩
  rw [hearly.1] at hlate
  cases hlate

end LearningState

/-! ### How work on a project goes -/

namespace ProjectLearning

open LearningState

/-- How work on a project goes, and where it may stop. -/
inductive Course (s : LearningState) (project : String) (files : List SourceFile) :
    Except Interruption LearnReport × LearningState → Prop
  /-- It is stopped before what was learned is loaded. -/
  | unbegun {i : Interruption} {patience : Option Nat}
      (hbegin : begin.run.run s = (.error i, { s with patience })) :
      Course s project files (.error i, { s with patience })
  | skipped {patience : Option Nat} (hbegin : begin.run.run s = (.ok (), { s.begin with patience }))
      (hknown : s.knownAtFirst.isTrained project = true) :
      Course s project files (.ok (skippedReport project files), { s.begin with patience })
  /-- It is stopped while patterns are applied to the files. -/
  | searching {i : Interruption} {u : LearningState} {patience : Option Nat}
      (hbegin : begin.run.run s = (.ok (), { s.begin with patience }))
      (hnew : s.knownAtFirst.isTrained project = false)
      (hextract : (extract files).run.run { s.begin with patience } = (.error i, u)) :
      Course s project files (.error i, u)
  /-- It is stopped before what was learned is saved. -/
  | unsaved {found : Found} {u : LearningState} {patience : Option Nat}
      (hbegin : begin.run.run s = (.ok (), { s.begin with patience }))
      (hnew : s.knownAtFirst.isTrained project = false)
      (hextract : (extract files).run.run { s.begin with patience } = (.ok found, u))
      (i : Interruption) (patience' : Option Nat) :
      Course s project files
        (.error i, { (note u project files found).1.stamp with patience := patience' })
  /-- It is stopped before what was learned is announced. -/
  | unannounced {found : Found} {u : LearningState} {patience : Option Nat}
      (hbegin : begin.run.run s = (.ok (), { s.begin with patience }))
      (hnew : s.knownAtFirst.isTrained project = false)
      (hextract : (extract files).run.run { s.begin with patience } = (.ok found, u))
      (i : Interruption) (patience' : Option Nat) :
      Course s project files
        (.error i, { (note u project files found).1.persist with patience := patience' })
  | learned {found : Found} {u : LearningState} {patience : Option Nat}
      (hbegin : begin.run.run s = (.ok (), { s.begin with patience }))
      (hnew : s.knownAtFirst.isTrained project = false)
      (hextract : (extract files).run.run { s.begin with patience } = (.ok found, u))
      (patience' : Option Nat) :
      Course s project files (.ok (note u project files found).2,
        { (note u project files found).1.persist.announce
            (.projectLearned project (note u project files found).2) with patience := patience' })

theorem run_begin_of_initialized {s : LearningState} (hbegun : s.learner.initialized = true) :
    begin.run.run s = (.ok (), s) := by
  unfold begin
  rw [run_bind, run_get]
  simp only [hbegun, if_true]
  rfl

theorem run_announce_cases (s : LearningState) (event : Event) : ∃ patience,
    (announce event).run.run s = (.ok (), { s.announce event with patience }) ∨
      ∃ i, (announce event).run.run s = (.error i, { s with patience }) := by
  unfold announce
  simp only [run_bind, run_get]
  by_cases hannounces : s.learner.announces = true
  · simp only [if_pos hannounces, run_bind]
    obtain ⟨patience, hpause | ⟨i, hpause⟩⟩ := pause_cases s
    · refine ⟨patience, Or.inl ?_⟩
      simp only [hpause, run_modify, LearningState.announce, if_pos hannounces]
      rfl
    · exact ⟨patience, Or.inr ⟨i, by rw [hpause]⟩⟩
  · refine ⟨s.patience, Or.inl ?_⟩
    rw [if_neg hannounces, LearningState.announce, if_neg hannounces]
    rfl

/-- What is noted is stamped, then saved, then announced; the work may stop between these. -/
theorem run_finish_cases (s : LearningState) (event : Event) (report : LearnReport) : ∃ patience,
    (do persist; announce event; return report : Learning LearnReport).run.run s =
        (.ok report, { s.persist.announce event with patience }) ∨
      ∃ i, (do persist; announce event; return report : Learning LearnReport).run.run s =
          (.error i, { s.stamp with patience }) ∨
        (do persist; announce event; return report : Learning LearnReport).run.run s =
          (.error i, { s.persist with patience }) := by
  obtain ⟨patience, hpersist | ⟨i, hpersist⟩⟩ := persist_cases s
  · have hsaved : LearningState.store { s.stamp with patience } = { s.persist with patience } := rfl
    have hsame : LearningState.announce { s.persist with patience } event =
        { s.persist.announce event with patience } := by
      unfold LearningState.announce
      split <;> rfl
    obtain ⟨patience', hannounce | ⟨i, hannounce⟩⟩ :=
      run_announce_cases { s.persist with patience } event
    · refine ⟨patience', Or.inl ?_⟩
      rw [run_bind, hpersist, hsaved]
      simp only
      rw [run_bind, hannounce, hsame]
      rfl
    · refine ⟨patience', Or.inr ⟨i, Or.inr ?_⟩⟩
      rw [run_bind, hpersist, hsaved]
      simp only
      rw [run_bind, hannounce]
  · refine ⟨patience, Or.inr ⟨i, Or.inl ?_⟩⟩
    rw [run_bind, hpersist]

theorem course_learn (s : LearningState) (project : String) (files : List SourceFile) :
    Course s project files (s.learn project files) := by
  unfold LearningState.learn learn
  obtain ⟨patience, hbegin | ⟨i, hbegin⟩⟩ := begin_cases s
  · rw [begin_with_patience] at hbegin
    rw [run_bind, hbegin]
    simp only
    rw [run_bind, run_get]
    simp only
    split
    · next hknown => exact .skipped hbegin hknown
    · next hunknown =>
        have hnew : s.knownAtFirst.isTrained project = false := Bool.eq_false_iff.mpr hunknown
        rw [run_bind]
        rcases hextract : (extract files).run.run { s.begin with patience } with ⟨i | found, u⟩
        · exact .searching hbegin hnew hextract
        · simp only
          rw [run_bind, run_get]
          simp only
          rw [run_bind, run_set]
          simp only
          obtain ⟨patience', hfinish | ⟨i, hfinish | hfinish⟩⟩ :=
            run_finish_cases (note u project files found).1
              (.projectLearned project (note u project files found).2) (note u project files found).2
          · rw [hfinish]
            exact .learned hbegin hnew hextract patience'
          · rw [hfinish]
            exact .unsaved hbegin hnew hextract i patience'
          · rw [hfinish]
            exact .unannounced hbegin hnew hextract i patience'
  · rw [run_bind, hbegin]
    exact .unbegun hbegin

end ProjectLearning

namespace LearningState

variable {s t : LearningState}

theorem learn_of_begin (hbegin : ProjectLearning.begin.run.run s = (.ok (), t))
    (hbegun : t.learner.initialized = true) (project : String) (files : List SourceFile) :
    s.learn project files = t.learn project files := by
  unfold learn ProjectLearning.learn
  rw [ProjectLearning.run_bind, ProjectLearning.run_bind, hbegin,
    ProjectLearning.run_begin_of_initialized hbegun]

/-- An operation either loads first, or leaves the learner but for the time at which it was saved. -/
theorem perform_begin_cases (s : LearningState) {op : LearnerOperation} (hop : op ≠ .reset) :
    (∃ later : LearnerOperation, later ≠ .reset ∧ s.perform op = s.begin.perform later) ∨
      ∃ saved, (s.perform op).learner =
        { s.learner with insights := { s.learner.insights with saved } } := by
  have hthere := begin_of_initialized (initialized_begin s)
  cases op with
  | begin => exact Or.inl ⟨.begin, hop, hthere.symm⟩
  | learn project files patience =>
      obtain ⟨left, hbegin | ⟨i, hbegin⟩⟩ := ProjectLearning.begin_cases { s with patience }
      · rw [begin_with_patience { s with patience } left, begin_with_patience s patience] at hbegin
        refine Or.inl ⟨.learn project files left, nofun, ?_⟩
        simp only [perform]
        rw [learn_of_begin hbegin (initialized_begin s)]
      · refine Or.inr ⟨s.learner.insights.saved, ?_⟩
        simp only [perform, learn, ProjectLearning.learn]
        rw [ProjectLearning.run_bind, hbegin]
  | improve names => exact Or.inl ⟨.improve names, hop, by simp only [perform, improve, hthere]⟩
  | importFrom path => exact Or.inl ⟨.importFrom path, hop, by simp only [perform, importFrom, hthere]⟩
  | exportTo path => exact Or.inl ⟨.exportTo path, hop, by simp only [perform, exportTo, hthere]⟩
  | persist => exact Or.inr ⟨some s.now, rfl⟩
  | close =>
      obtain ⟨observers, hannounce⟩ :=
        announce_eq s.persist (.shutdown HealthBoard.learnerComponent)
      refine Or.inr ⟨some s.now, ?_⟩
      simp only [perform, close]
      rw [hannounce]
      rfl
  | reset => exact absurd rfl hop
  | tick time => exact Or.inr ⟨s.learner.insights.saved, rfl⟩
  | place path text =>
      refine Or.inr ⟨s.learner.insights.saved, ?_⟩
      simp only [perform, placed]
      split <;> rfl

end LearningState
end AdaptiveRules
