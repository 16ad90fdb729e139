import AdaptiveRules.LearningScheduler
import AdaptiveRules.Proofs.LearnerMoves

/-!
# Runs of the learner and of its scheduler

A run is a list of operations, performed one after another, with the passing of time and files that
others write among them.  A scheduler does nothing to its learner but to let it learn the projects of
tasks and to close it in the end, so each of its actions comes down to one operation at most.  Tasks
may start in any order and stop at any place where they wait.
-/

namespace AdaptiveRules

open LearningState

/-- What every step of a run keeps holds all along the run. -/
theorem forall_foldl {σ α : Type} {step : σ → α → σ} {P : σ → Prop} {Q : σ → α → Prop}
    (hstep : ∀ s a, P s → Q s a → P (step s a)) {s : σ} {run : List α} (hstart : P s)
    (hall : ∀ done a rest, run = done ++ a :: rest → Q (done.foldl step s) a) :
    ∀ done rest, run = done ++ rest → P (done.foldl step s) := by
  intro done
  induction done using List.reverseRecOn with
  | nil => exact fun _ _ => hstart
  | append_singleton done a ih =>
      intro rest hrun
      have hsplit : run = done ++ a :: rest := by rw [hrun, List.append_assoc, List.singleton_append]
      rw [List.foldl_append]
      exact hstep _ a (ih (a :: rest) hsplit) (hall done a rest hsplit)

inductive LearnerOperation
  | begin
  /-- Learning that is stopped at the place where the patience ends. -/
  | learn (project : String) (files : List SourceFile) (patience : Option Nat)
  | improve (names : Option (List String))
  | importFrom (path : String)
  | exportTo (path : String)
  | persist
  | close
  | reset
  | tick (time : MatchTime)
  /-- Somebody else writes a file. -/
  | place (path text : String)

namespace LearnerOperation

/-- The operations that save without having loaded. -/
def savesAtOnce : LearnerOperation → Bool
  | persist => true
  | close => true
  | _ => false

/-- The operations that write files which are not the store's. -/
def writesFile : LearnerOperation → Bool
  | exportTo _ => true
  | place .. => true
  | _ => false

end LearnerOperation

namespace LearningState

/-- The state with a file written, or as it was if that is not possible. -/
def placed (s : LearningState) (path text : String) : LearningState :=
  match s.storage.files.write path text with
  | .ok files => { s with storage := { s.storage with files } }
  | .error _ => s

def perform (s : LearningState) : LearnerOperation → LearningState
  | .begin => s.begin
  | .learn project files patience =>
      { ({ s with patience }.learn project files).2 with patience := none }
  | .improve names => (s.improve names).2
  | .importFrom path => (s.importFrom path).2
  | .exportTo path => (s.exportTo path).2
  | .persist => s.persist
  | .close => s.close
  | .reset => s.reset.2
  | .tick time => { s with time }
  | .place path text => s.placed path text

def performAll (s : LearningState) (ops : List LearnerOperation) : LearningState :=
  ops.foldl perform s

/-- Operations that save at once save the learner as it is. -/
theorem perform_of_savesAtOnce (s : LearningState) (op : LearnerOperation)
    (hop : op.savesAtOnce = true) :
    ∃ t, QuietMoves s t ∧ t.learner = s.stamp.learner ∧ s.perform op = t.store := by
  have hstamped : QuietMoves s s.stamp := .single (.stamp s)
  cases op with
  | persist => exact ⟨s.stamp, hstamped, rfl, rfl⟩
  | close =>
      obtain ⟨observers, hannounce⟩ :=
        announce_eq s.persist (.shutdown HealthBoard.learnerComponent)
      exact ⟨_, hstamped.trans (quietMoves_attend _ observers s.patience), rfl, hannounce⟩
  | _ => cases hop

/-- What an operation other than a reset does: moves, and then it saves.  If it does not save, then
no pattern was improved and at most another file is written. -/
theorem perform_cases (s : LearningState) {op : LearnerOperation} (hop : op ≠ .reset) :
    ∃ t, Moves s t ∧
      (QuietMoves s t ∧ s.perform op = t ∨
        (t.learner.initialized = true ∨ op.savesAtOnce = true) ∧ s.perform op = t.store ∨
        QuietMoves s t ∧ op.writesFile = true ∧
          ∃ files, s.perform op = { t with storage := { t.storage with files } }) := by
  have hbegun : QuietMoves s s.begin := .single (.begin s)
  have hready := initialized_begin s
  cases op with
  | begin => exact ⟨s.begin, QuietMoves.moves hbegun, Or.inl ⟨hbegun, rfl⟩⟩
  | learn project files patience =>
      obtain ⟨t, hmoves, hend⟩ := ProjectLearning.learn_cases { s with patience } project files
      have hthere : QuietMoves s { t with patience := none } :=
        ((quietMoves_attend s s.observers patience).trans hmoves).trans
          (quietMoves_attend t t.observers none)
      refine ⟨{ t with patience := none }, QuietMoves.moves hthere, ?_⟩
      simp only [perform]
      rcases hend with hend | ⟨hinit, hend⟩
      · exact Or.inl ⟨hthere, by rw [hend]⟩
      · exact Or.inr (Or.inl ⟨Or.inl hinit, by rw [hend]; rfl⟩)
  | improve names =>
      have hmove : Move s.begin (s.begin.improved names) := .improve _ names hready
      exact ⟨_, ((QuietMoves.moves hbegun).tail hmove).tail (.quiet (.stamp _)),
        Or.inr (Or.inl ⟨Or.inl (hmove.frame.begun hready), rfl⟩)⟩
  | importFrom path =>
      simp only [perform, importFrom]
      cases s.begin.readExport path with
      | error p => exact ⟨s.begin, QuietMoves.moves hbegun, Or.inl ⟨hbegun, rfl⟩⟩
      | ok e =>
          have hmove : Quiet s.begin (s.begin.merged e.variations.entries) := .merge _ _ hready
          have hmerged := hbegun.tail hmove
          simp only
          split
          · exact ⟨_, QuietMoves.moves hmerged, Or.inl ⟨hmerged, rfl⟩⟩
          · exact ⟨_, QuietMoves.moves (hmerged.tail (.stamp _)),
              Or.inr (Or.inl ⟨Or.inl (hmove.frame.begun hready), rfl⟩)⟩
  | exportTo path =>
      simp only [perform, exportTo]
      cases s.begin.storage.files.write path
          (InsightsExport.ofInsights s.begin.learner.insights s.begin.now).toJson.pretty with
      | error p => exact ⟨s.begin, QuietMoves.moves hbegun, Or.inl ⟨hbegun, rfl⟩⟩
      | ok files => exact ⟨s.begin, QuietMoves.moves hbegun, Or.inr (Or.inr ⟨hbegun, rfl, files, rfl⟩)⟩
  | persist =>
      obtain ⟨t, hmoves, _, hsaved⟩ := perform_of_savesAtOnce s .persist rfl
      exact ⟨t, QuietMoves.moves hmoves, Or.inr (Or.inl ⟨Or.inr rfl, hsaved⟩)⟩
  | close =>
      obtain ⟨t, hmoves, _, hsaved⟩ := perform_of_savesAtOnce s .close rfl
      exact ⟨t, QuietMoves.moves hmoves, Or.inr (Or.inl ⟨Or.inr rfl, hsaved⟩)⟩
  | reset => exact absurd rfl hop
  | tick time =>
      have htick : QuietMoves s { s with time } := .single (.tick s time)
      exact ⟨_, QuietMoves.moves htick, Or.inl ⟨htick, rfl⟩⟩
  | place path text =>
      simp only [perform, placed]
      cases s.storage.files.write path text with
      | error p => exact ⟨s, .refl, Or.inl ⟨.refl, rfl⟩⟩
      | ok files => exact ⟨s, .refl, Or.inr (Or.inr ⟨.refl, rfl, files, rfl⟩)⟩

end LearningState

/-! ### Schedulers -/

inductive SchedulerAction
  | operate (op : LearnerOperation)
  | submit (project : String) (files : List SourceFile)
  | cancel (id : Nat)
  | start (id : Nat) (patience : Option Nat)
  | forget (id : Nat)
  | hold
  | release
  | shutdown

namespace LearningScheduler

/-- What the scheduler does; after a shutdown another one takes over the learner. -/
def perform (s : LearningScheduler) : SchedulerAction → LearningScheduler
  | .operate op => if s.isFree then { s with state := s.state.perform op } else s
  | .submit project files => s.submit project files
  | .cancel id => (s.cancel id).2
  | .start id patience => s.start id patience
  | .forget id => { s with tasks := s.tasks.filter fun t => t.id != id }
  | .hold => { s with held := true }
  | .release => s.release
  | .shutdown => if s.held then s else ofState s.shutdown.2

def performAll (s : LearningScheduler) (actions : List SchedulerAction) : LearningScheduler :=
  actions.foldl perform s

/-- What an action comes down to for the learner. -/
def effect (s : LearningScheduler) : SchedulerAction → Option LearnerOperation
  | .operate op => if s.isFree then some op else none
  | .start id patience =>
      match s.task? id with
      | none => none
      | some t =>
          if t.status ≠ .waiting ∧ t.status ≠ .queued then none
          else if t.cancelled then none
          else if s.isFree then some (.learn t.project t.files patience)
          else none
  | .shutdown => if s.held then none else some .close
  | _ => none

theorem performAll_append (s : LearningScheduler) (first rest : List SchedulerAction) :
    s.performAll (first ++ rest) = (s.performAll first).performAll rest := List.foldl_append

/-! Waiting for a task and taking the learner are made of these actions. -/

theorem runThose_eq_performAll (s : LearningScheduler) (p : LearningTask → Bool) :
    s.runThose p =
      s.performAll (((s.tasks.filter p).map LearningTask.id).map (.start · none)) := by
  unfold performAll
  rw [List.foldl_map]
  rfl

theorem exists_performAll_wait (s : LearningScheduler) (id : Nat) :
    ∃ actions, (s.wait id).2 = s.performAll actions := by
  unfold wait
  cases s.task? id with
  | none => exact ⟨[], rfl⟩
  | some t =>
      refine ⟨((s.tasks.filter fun _ => true).map LearningTask.id).map (.start · none) ++
        [.forget id], ?_⟩
      rw [performAll_append, ← runThose_eq_performAll]
      rfl

theorem exists_performAll_hold (s : LearningScheduler) :
    ∃ actions, s.hold = s.performAll actions := by
  unfold hold
  split
  · refine ⟨((s.tasks.filter LearningTask.isQueued).map LearningTask.id).map (.start · none) ++
      (.hold :: ((({ s.runThose LearningTask.isQueued with held := true }).tasks.filter
        fun _ => true).map LearningTask.id).map (.start · none)), ?_⟩
    rw [performAll_append, ← runThose_eq_performAll]
    exact runThose_eq_performAll _ _
  · exact ⟨[.hold], rfl⟩

end LearningScheduler
end AdaptiveRules
