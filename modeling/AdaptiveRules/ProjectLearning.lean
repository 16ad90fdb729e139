import AdaptiveRules.Generalization
import AdaptiveRules.Learner
import AdaptiveRules.Similarity

/-!
# Learning from projects

A project is learned once.  Every pattern is applied to every file of its language, similar matches of
a pattern are grouped, and each group that one rule can stand for gives a variation.  The work may be
stopped wherever it waits for something else: for the store, for a match, or for observers.  All that
is learned is noted between two such places, so a project is learned as a whole or not at all.
-/

namespace AdaptiveRules

structure SourceFile where
  path : String
  content : String
  deriving DecidableEq

/-- Work that may be interrupted.  What was changed before stays changed. -/
abbrev Learning (α : Type) := ExceptT Interruption (StateM LearningState) α

namespace ProjectLearning

/-- The matches of each pattern, as texts, by the name of the pattern. -/
abbrev Found := Dict (List String)

/-- A place where the work may be stopped. -/
def pause : Learning Unit := do
  let s ← get
  match s.patience with
  | none => return ()
  | some 0 => throw .suspended
  | some (n + 1) => set { s with patience := some n }

/-- The context of a file; its blocks are cut if the settings say so. -/
def contextOf (l : Learner) (file : SourceFile) : MatchContext :=
  let language := FileLanguage.ofPath file.path
  let context := MatchContext.ofFile file.path language .custom
  match l.settings.useBlocks, l.cutter with
  | true, some cut => { context with blocks := cut language file.content }
  | _, _ => context

/-- Applies a pattern to a file. -/
def matchPattern (p : Pattern) (file : SourceFile) (context : MatchContext) (time : MatchTime) :
    PatternStep (Except Interruption (List MatchInstance)) :=
  if FileLanguage.applies p.language context.language then
    p.matchSource file.content (some context) time
  else ⟨.ok [], p, []⟩

/-- Puts a pattern in its place among the others. -/
def setAt (index : Nat) (p : Pattern) : Learning Unit :=
  modify fun s => s.withLearner fun l => { l with patterns := l.patterns.set index p }

/-- Applies the pattern at a place to a file and adds what it finds. -/
def matchAt (index : Nat) (file : SourceFile) (context : MatchContext) (found : Found) :
    Learning Found := do
  let s ← get
  match s.learner.patterns[index]? with
  | none => return found
  | some p =>
      pause
      let step := matchPattern p file context s.time
      setAt index step.pattern
      modify fun s => s.announceAll step.events
      match step.answer with
      | .error i => throw i
      | .ok [] => return found
      | .ok ms => return found.alter p.name fun texts => texts.getD [] ++ ms.map MatchInstance.text

/-- Applies all patterns to a file that has a name and a content. -/
def matchFile (found : Found) (file : SourceFile) : Learning Found := do
  if file.path.isEmpty || file.content.isEmpty then return found
  let s ← get
  let context := contextOf s.learner file
  (List.range s.learner.patterns.length).foldlM
    (fun found index => matchAt index file context found) found

/-- Applies all patterns to all files. -/
def extract (files : List SourceFile) : Learning Found := files.foldlM matchFile .empty

/-- The rules for the groups of similar texts, each rule once. -/
def deriveRules (s : LearnerSettings) (texts : List String) : List String :=
  ((Similarity.groups s.thresholds s.minGroupSize texts).filterMap fun group =>
    Generalization.generalize (group.map (·.2)) s.maxExamples).eraseDups

/-- Adds the variations that the matches of each pattern suggest, and counts them. -/
def addDerived (settings : LearnerSettings) (insights : Insights) :
    List (String × List String) → Insights × Nat
  | [] => (insights, 0)
  | (pattern, texts) :: rest =>
      let (insights, added) := insights.addVariations pattern (deriveRules settings texts)
      let (insights, more) := addDerived settings insights rest
      (insights, added + more)

/-- Notes a project and what was found in it. -/
def note (s : LearningState) (project : String) (files : List SourceFile) (found : Found) :
    LearningState × LearnReport :=
  let counts := found.map List.length
  let known := s.learner.insights
  let seen := { known with
    projects := known.projects.insert project ⟨files.length, counts, s.now⟩ }
  let (insights, added) := addDerived s.learner.settings seen found.entries
  let s := s.withLearner fun l => { l with insights }.offerKnown
  let m := insights.metrics
  let insights := { insights with
    trained := insights.trained.insert project ()
    metrics := { m with projectsAnalyzed := m.projectsAnalyzed + 1, lastUpdate := s.now } }
  (s.withLearner fun l => { l with insights }, ⟨project, files.length, counts, added, false⟩)

/-- The report on a project that is known already. -/
def skippedReport (project : String) (files : List SourceFile) : LearnReport :=
  ⟨project, files.length, .empty, 0, true⟩

/-- Loads what was learned before, the first time. -/
def begin : Learning Unit := do
  let s ← get
  if s.learner.initialized then return ()
  pause
  modify LearningState.begin

/-- Saves what was learned. -/
def persist : Learning Unit := do
  modify LearningState.stamp
  pause
  modify LearningState.store

def announce (event : Event) : Learning Unit := do
  let s ← get
  if s.learner.announces then
    pause
    modify fun s => s.announce event

/-- Learns a project, unless it was learned before. -/
def learn (project : String) (files : List SourceFile) : Learning LearnReport := do
  begin
  let s ← get
  if s.learner.insights.isTrained project then return skippedReport project files
  let found ← extract files
  let s ← get
  let (s, report) := note s project files found
  set s
  persist
  announce (.projectLearned project report)
  return report

end ProjectLearning

/-- Learns a project without being stopped from outside. -/
def LearningState.learn (s : LearningState) (project : String) (files : List SourceFile) :
    Except Interruption LearnReport × LearningState :=
  (ProjectLearning.learn project files).run.run s

end AdaptiveRules
