import AdaptiveRules.Catalog
import AdaptiveRules.InsightsStore
import AdaptiveRules.Observers

/-!
# The learner

A learner holds patterns and the insights about them.  Before its first work it loads the insights
from its store, once; if they cannot be loaded it starts without any.  Then it installs again the
improvements that were made in earlier runs, as long as the rules they replaced are the rules in
place, and offers the known variations to its patterns.

Saving is tried and its problems are passed over.  Only a reset reports them.
-/

namespace AdaptiveRules

structure LearnerSettings where
  thresholds : SimilarityThresholds
  minGroupSize : Nat
  maxExamples : Nat
  useBlocks : Bool

structure Learner where
  patterns : List Pattern
  store : StoreHandle
  settings : LearnerSettings
  cutter : Option BlockCutter
  /-- Whether the learner itself announces what it does. -/
  announces : Bool
  insights : Insights
  initialized : Bool

/-- A learner at work: with what stores keep, the observers, and the present time. -/
structure LearningState where
  learner : Learner
  storage : Storage
  observers : Observers
  time : MatchTime
  /-- How many more times the work may wait for something else before it is stopped; none if it is
  never stopped. -/
  patience : Option Nat

def LearnerSettings.ofConfiguration (s : LearningSettings) : LearnerSettings :=
  ⟨s.thresholds, s.minGroupSize, s.maxExamples, s.useBlocks⟩

namespace Learner

/-- A learner that has not begun. -/
def fresh (patterns : List Pattern) (store : StoreHandle) (settings : LearnerSettings)
    (cutter : Option BlockCutter) (announces : Bool) (now : Instant) : Learner :=
  ⟨patterns, store, settings, cutter, announces, .empty now, false⟩

/-- The first pattern of that name. -/
def pattern? (l : Learner) (name : String) : Option Pattern :=
  l.patterns.find? fun p => p.name == name

/-- Replaces the first pattern of that name. -/
def replaceFirst (name : String) (p : Pattern) : List Pattern → List Pattern
  | [] => []
  | q :: rest => if q.name = name then p :: rest else q :: replaceFirst name p rest

def setPattern (l : Learner) (name : String) (p : Pattern) : Learner :=
  { l with patterns := replaceFirst name p l.patterns }

/-- Installs logged improvements in order, each if the rule it replaced is in place.  The first that
cannot be installed ends it. -/
def restore (p : Pattern) : List Improvement → Pattern
  | [] => p
  | i :: rest =>
      if p.textRule = i.original then
        match p.install i.improved with
        | .ok p => restore p rest
        | .error _ => p
      else restore p rest

def restoreAll (l : Learner) : Learner :=
  { l with patterns := l.patterns.map fun p => restore p (l.insights.improvementsOf p.name) }

/-- Offers every pattern the variations known for its name. -/
def offerKnown (l : Learner) : Learner :=
  { l with patterns := l.patterns.map fun p => p.offer (l.insights.variationsOf p.name) }

/-- Adds variations from outside and offers them. -/
def merge (l : Learner) (pattern : String) (variations : List String) : Learner × Nat :=
  let (insights, added) := l.insights.addVariations pattern variations
  let l := { l with insights }
  (if added = 0 then l else l.offerKnown, added)

end Learner

namespace LearningState

def now (s : LearningState) : Instant := s.time.now

/-- The state with another learner. -/
def withLearner (s : LearningState) (f : Learner → Learner) : LearningState :=
  { s with learner := f s.learner }

/-- Announces events of patterns. -/
def announceAll (s : LearningState) (events : List Event) : LearningState :=
  { s with observers := s.observers.emitAll events }

/-- Announces an event of the learner, if it announces any. -/
def announce (s : LearningState) (event : Event) : LearningState :=
  if s.learner.announces then s.announceAll [event] else s

/-- The insights that the store holds, or those at hand if it holds none that can be read. -/
def loaded (s : LearningState) : Insights :=
  match s.learner.store.load s.now s.storage with
  | .ok (some insights) => insights
  | _ => s.learner.insights

/-- Loads what was learned before, the first time it is called. -/
def begin (s : LearningState) : LearningState :=
  if s.learner.initialized then s
  else
    s.withLearner fun l =>
      Learner.offerKnown (Learner.restoreAll { l with insights := s.loaded, initialized := true })

/-- Marks the insights as saved now. -/
def stamp (s : LearningState) : LearningState :=
  s.withLearner fun l => { l with insights := { l.insights with saved := some s.now } }

/-- Gives the insights to the store. -/
def store (s : LearningState) : LearningState :=
  { s with storage := (s.learner.store.save s.learner.insights s.storage).2 }

/-- Saves the insights as well as the store can. -/
def persist (s : LearningState) : LearningState := s.stamp.store

/-- Forgets what was learned, here and in the store.  Rules that were installed stay. -/
def reset (s : LearningState) : Except Problem Unit × LearningState :=
  let s := s.withLearner fun l => { l with insights := .empty s.now }
  let (r, storage) := s.learner.store.clear s.storage
  (r, { s with storage })

/-- Saves the insights and announces the end. -/
def close (s : LearningState) : LearningState :=
  s.persist.announce (.shutdown HealthBoard.learnerComponent)

/-! ### Improvements -/

/-- A pattern improved by the variations known for its name, and the log entry if it changed. -/
def improvePattern (insights : Insights) (now : Instant) (p : Pattern) :
    Pattern × Option Improvement :=
  let (improved, changed) := p.improve (insights.variationsOf p.name)
  (improved,
    if changed then some (.ofRules p.textRule improved.textRule now) else none)

/-- The pattern is among those to improve; all are if no names are given. -/
def isTarget (names : Option (List String)) (p : Pattern) : Bool :=
  names.all fun ns => ns.contains p.name

/-- Improves the patterns that are meant.  Each of them comes with its log entry. -/
def improvePatterns (insights : Insights) (now : Instant) (names : Option (List String)) :
    List Pattern → List Pattern × List (Pattern × Option Improvement)
  | [] => ([], [])
  | p :: rest =>
      let (others, outcomes) := improvePatterns insights now names rest
      if isTarget names p then
        let (improved, entry) := improvePattern insights now p
        (improved :: others, (improved, entry) :: outcomes)
      else (p :: others, outcomes)

/-- Notes an improvement: the counters, the success rate, the log, and an event. -/
def noteImprovement (s : LearningState) (p : Pattern) (i : Improvement) : LearningState :=
  let rate := p.core.metrics.successRate
  let counted := s.withLearner fun l =>
    let m := l.insights.metrics
    { l with insights := { l.insights with metrics :=
      { m with
        patternsImproved := m.patternsImproved + 1
        ruleImprovements := m.ruleImprovements + 1
        rateBefore := m.rateBefore.insert p.name rate
        rateAfter := m.rateAfter.insert p.name rate } } }
  (counted.announce (.patternImproved p.name i)).withLearner fun l =>
    { l with insights := l.insights.addImprovement p.name i }

def noteImprovements (s : LearningState) (outcomes : List (Pattern × Option Improvement)) :
    LearningState :=
  outcomes.foldl
    (fun s o =>
      match o.2 with
      | some i => s.noteImprovement o.1 i
      | none => s)
    s

def touchMetrics (s : LearningState) : LearningState :=
  s.withLearner fun l =>
    { l with insights := { l.insights with metrics :=
      { l.insights.metrics with lastUpdate := s.now } } }

/-- Improves the patterns that are meant, and says of each name whether that changed the rule.  Of
patterns with the same name the last one counts. -/
def improve (s : LearningState) (names : Option (List String)) : Dict Bool × LearningState :=
  let s := s.begin
  let (patterns, outcomes) := improvePatterns s.learner.insights s.now names s.learner.patterns
  let s := (s.withLearner fun l => { l with patterns }).noteImprovements outcomes
  (Dict.ofList (outcomes.map fun o => (o.1.name, o.2.isSome)), s.touchMetrics.persist)

end LearningState
end AdaptiveRules
