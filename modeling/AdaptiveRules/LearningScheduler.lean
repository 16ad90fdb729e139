import AdaptiveRules.ProjectLearning

/-!
# Learning in the background

Projects are submitted as tasks to one learner.  A task starts when the learner is free and works
alone; one that is cancelled before it starts does nothing.  A task that waits for an answer that does
not come keeps the learner until it is aborted.  A shutdown cancels what has not started and aborts
what does not end.
-/

namespace AdaptiveRules

inductive TaskStatus
  /-- Has not been looked at. -/
  | waiting
  /-- Stands in line for the learner. -/
  | queued
  /-- Has started and does not go on. -/
  | suspended
  /-- Has ended, with a report unless it was cancelled. -/
  | finished (report : Option LearnReport)
  | failed
  deriving DecidableEq

/-- Has learned its project or found it known. -/
def TaskStatus.isCompleted : TaskStatus → Bool
  | finished (some _) => true
  | _ => false

structure LearningTask where
  id : Nat
  project : String
  files : List SourceFile
  cancelled : Bool
  status : TaskStatus

structure LearningScheduler where
  state : LearningState
  /-- The tasks that were not waited for, in the order in which they were submitted. -/
  tasks : List LearningTask
  submitted : Nat
  /-- Someone else holds the learner. -/
  held : Bool

structure ShutdownReport where
  completed : Nat
  cancelled : Nat
  aborted : Nat
  failed : Nat
  deriving DecidableEq

namespace LearningTask

def isFinished (t : LearningTask) : Bool :=
  match t.status with
  | .finished _ => true
  | .failed => true
  | _ => false

def isQueued (t : LearningTask) : Bool := t.status = .queued

def report (t : LearningTask) : Option LearnReport :=
  match t.status with
  | .finished report => report
  | _ => none

end LearningTask

namespace LearningScheduler

def ofState (state : LearningState) : LearningScheduler := ⟨state, [], 0, false⟩

/-- Submits a project; tasks that have ended are dropped. -/
def submit (s : LearningScheduler) (project : String) (files : List SourceFile) :
    LearningScheduler :=
  { s with
    tasks := s.tasks.filter (fun t => !t.isFinished) ++ [⟨s.submitted, project, files, false, .waiting⟩]
    submitted := s.submitted + 1 }

def task? (s : LearningScheduler) (id : Nat) : Option LearningTask :=
  s.tasks.find? fun t => t.id == id

/-- Changes the task of a number. -/
def change (s : LearningScheduler) (id : Nat) (f : LearningTask → LearningTask) :
    LearningScheduler :=
  { s with tasks := s.tasks.map fun t => if t.id = id then f t else t }

/-- Cancels a task, and says whether there is one of that number. -/
def cancel (s : LearningScheduler) (id : Nat) : Bool × LearningScheduler :=
  ((s.task? id).isSome, s.change id fun t => { t with cancelled := true })

/-- Nobody holds the learner. -/
def isFree (s : LearningScheduler) : Bool :=
  !s.held && s.tasks.all fun t => t.status ≠ .suspended

/-- Runs a task on the learner, with so much patience. -/
def work (s : LearningScheduler) (t : LearningTask) (patience : Option Nat) : LearningScheduler :=
  let (outcome, state) := { s.state with patience }.learn t.project t.files
  let status : TaskStatus :=
    match outcome with
    | .ok report => .finished (some report)
    | .error .suspended => .suspended
    | .error .crashed => .failed
  { s with state := { state with patience := none } }.change t.id fun t => { t with status }

/-- Lets a task go on: it ends if it was cancelled, works if the learner is free, and stands in line
for it if not. -/
def start (s : LearningScheduler) (id : Nat) (patience : Option Nat) : LearningScheduler :=
  match s.task? id with
  | none => s
  | some t =>
      if t.status ≠ .waiting ∧ t.status ≠ .queued then s
      else if t.cancelled then s.change id fun t => { t with status := .finished none }
      else if s.isFree then s.work t patience
      else s.change id fun t => { t with status := .queued }

/-- Lets the tasks that are meant go on, in the order in which they were submitted. -/
def runThose (s : LearningScheduler) (p : LearningTask → Bool) : LearningScheduler :=
  ((s.tasks.filter p).map LearningTask.id).foldl (fun s id => s.start id none) s

/-- Lets all tasks go on, in the order in which they were submitted. -/
def runAll (s : LearningScheduler) : LearningScheduler := s.runThose fun _ => true

/-- Takes the learner for someone else, after the tasks that stand in line for it. -/
def hold (s : LearningScheduler) : LearningScheduler :=
  if s.tasks.any LearningTask.isQueued then
    { s.runThose LearningTask.isQueued with held := true }.runAll
  else { s with held := true }

/-- Gives the learner back. -/
def release (s : LearningScheduler) : LearningScheduler := { s with held := false }

/-- Waits for a task and forgets it.  There is no report if it was cancelled, failed, or is not
known. -/
def wait (s : LearningScheduler) (id : Nat) : Option LearnReport × LearningScheduler :=
  match s.task? id with
  | none => (none, s)
  | some _ =>
      let s := s.runAll
      ((s.task? id).bind LearningTask.report,
        { s with tasks := s.tasks.filter fun t => t.id != id })

/-- How many tasks have not ended. -/
def pending (s : LearningScheduler) : Nat := (s.tasks.filter fun t => !t.isFinished).length

def countOf (s : LearningScheduler) (p : TaskStatus → Bool) : Nat :=
  (s.tasks.filter fun t => p t.status).length

/-- What became of the tasks, where those that have started and not ended are aborted. -/
def outcome (s : LearningScheduler) : ShutdownReport :=
  ⟨s.countOf TaskStatus.isCompleted, s.countOf (· = .finished none), s.countOf (· = .suspended),
    s.countOf (· = .failed)⟩

def cancelAll (s : LearningScheduler) : LearningScheduler :=
  { s with tasks := s.tasks.map fun t => { t with cancelled := true } }

/-- Cancels all tasks, lets them end, aborts the others and closes the learner. -/
def shutdown (s : LearningScheduler) : ShutdownReport × LearningState :=
  let s := s.cancelAll.runAll
  (s.outcome, s.state.close)

end LearningScheduler
end AdaptiveRules
