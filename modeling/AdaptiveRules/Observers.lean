import AdaptiveRules.LearningRecords
import AdaptiveRules.MatchCache
import AdaptiveRules.MatchFailure

/-!
# Events and their observers

Patterns and the learner announce what happens to them.  Observers are told of the events they ask
for, in the order in which they were registered.  The counting observers share one set of counts, the
health observers one board that holds the last known status of every component.  An observer that
fails is passed over; it does not stop the others.
-/

namespace AdaptiveRules

inductive EventKind
  | patternAdapted
  | matchRecovered
  | projectLearned
  | patternImproved
  | shutdown
  deriving DecidableEq

inductive Event
  | patternAdapted (pattern : String) (record : AdaptationRecord)
  | matchRecovered (pattern : String) (kind : FailureKind) (recovered : Nat) (success : Bool)
  | projectLearned (project : String) (report : LearnReport)
  | patternImproved (pattern : String) (improvement : Improvement)
  | shutdown (component : String)

namespace EventKind

def all : List EventKind :=
  [patternAdapted, matchRecovered, projectLearned, patternImproved, shutdown]

def name : EventKind → String
  | patternAdapted => "pattern_adapted"
  | matchRecovered => "match_recovered"
  | projectLearned => "project_learned"
  | patternImproved => "pattern_improved"
  | shutdown => "shutdown"

def ofName? (s : String) : Option EventKind := all.find? fun k => k.name == s

end EventKind

namespace Event

def kind : Event → EventKind
  | patternAdapted .. => .patternAdapted
  | matchRecovered .. => .matchRecovered
  | projectLearned .. => .projectLearned
  | patternImproved .. => .patternImproved
  | shutdown .. => .shutdown

/-- The members that describe an event. -/
def members : Event → List (String × Json)
  | patternAdapted pattern record => [("pattern", .str pattern), ("record", record.toJson)]
  | matchRecovered pattern kind recovered success =>
      [("pattern", .str pattern), ("kind", .str kind.name), ("recovered", .ofNat recovered),
        ("success", .bool success)]
  | projectLearned project report =>
      [("project_id", .str project), ("report", report.toJson)]
  | patternImproved pattern improvement =>
      [("pattern", .str pattern), ("improvement", improvement.toJson)]
  | shutdown component => [("component", .str component)]

end Event

inductive ComponentStatus
  | healthy
  | degraded
  | shutdown
  deriving DecidableEq

def ComponentStatus.name : ComponentStatus → String
  | healthy => "healthy"
  | degraded => "degraded"
  | shutdown => "shutdown"

/-- How often things happened. -/
structure EventCounts where
  adaptations : Nat
  ruleChanges : Nat
  recoveries : Nat
  failedRecoveries : Nat
  recoveredInstances : Nat
  projects : Nat
  improvements : Nat
  deriving DecidableEq

namespace EventCounts

def zero : EventCounts := ⟨0, 0, 0, 0, 0, 0, 0⟩

def count (c : EventCounts) : Event → EventCounts
  | .patternAdapted _ record =>
      { c with
        adaptations := c.adaptations + 1
        ruleChanges := c.ruleChanges + (if record.changed then 1 else 0) }
  | .matchRecovered _ _ recovered success =>
      if success then
        { c with
          recoveries := c.recoveries + 1
          recoveredInstances := c.recoveredInstances + recovered }
      else { c with failedRecoveries := c.failedRecoveries + 1 }
  | .projectLearned .. => { c with projects := c.projects + 1 }
  | .patternImproved .. => { c with improvements := c.improvements + 1 }
  | .shutdown .. => c

def recoveryRate (c : EventCounts) : Float :=
  shareOf c.recoveries (c.recoveries + c.failedRecoveries)

def toJson (c : EventCounts) : Json :=
  .obj [("adaptations", .ofNat c.adaptations), ("rule_changes", .ofNat c.ruleChanges),
    ("recoveries", .ofNat c.recoveries), ("failed_recoveries", .ofNat c.failedRecoveries),
    ("recovered_instances", .ofNat c.recoveredInstances), ("projects", .ofNat c.projects),
    ("improvements", .ofNat c.improvements), ("recovery_rate", .float c.recoveryRate)]

end EventCounts

/-- The status of every component that was heard of. -/
abbrev HealthBoard := Dict ComponentStatus

namespace HealthBoard

/-- The component that a pattern is on the board. -/
def patternComponent (pattern : String) : String := "pattern:" ++ pattern

/-- The component that the learner is on the board. -/
def learnerComponent : String := "learner"

def note (b : HealthBoard) : Event → HealthBoard
  | .patternAdapted .. => b
  | .matchRecovered pattern _ _ success =>
      b.insert (patternComponent pattern) (if success then .healthy else .degraded)
  | .projectLearned .. => b.insert learnerComponent .healthy
  | .patternImproved pattern _ => b.insert (patternComponent pattern) .healthy
  | .shutdown component => b.insert component .shutdown

end HealthBoard

inductive Observer
  | logging
  | counting
  | health
  /-- Writes down the events of the given kinds, and may fail after that. -/
  | recorder (name : String) (kinds : List EventKind) (fails : Bool)

/-- The kinds of events an observer asks for. -/
def Observer.kinds : Observer → List EventKind
  | logging => EventKind.all
  | counting => [.patternAdapted, .matchRecovered, .projectLearned, .patternImproved]
  | health => [.matchRecovered, .projectLearned, .patternImproved, .shutdown]
  | recorder _ kinds _ => kinds

/-- What the observers know. -/
structure ObserverState where
  counts : EventCounts
  board : HealthBoard
  /-- What recorders wrote down, in order, with the name of the recorder. -/
  recorded : List (String × Event)

def ObserverState.initial : ObserverState := ⟨.zero, .empty, []⟩

/-- Tells an observer of an event, and whether that went well. -/
def Observer.tell (s : ObserverState) (event : Event) : Observer → ObserverState × Bool
  | logging => (s, true)
  | counting => ({ s with counts := s.counts.count event }, true)
  | health => ({ s with board := HealthBoard.note s.board event }, true)
  | recorder name _ fails => ({ s with recorded := s.recorded ++ [(name, event)] }, !fails)

structure Observers where
  registered : List Observer
  state : ObserverState

namespace Observers

def none : Observers := ⟨[], .initial⟩

/-- One observer that logs. -/
def standard : Observers := ⟨[.logging], .initial⟩

def register (o : Observers) (observer : Observer) : Observers :=
  { o with registered := o.registered ++ [observer] }

/-- The observers of a kind of event, each as often as it asks for the kind. -/
def ofKind (o : Observers) (kind : EventKind) : List Observer :=
  o.registered.flatMap fun observer =>
    (observer.kinds.filter (· = kind)).map fun _ => observer

def countOf (o : Observers) (kind : EventKind) : Nat := (o.ofKind kind).length

/-- The number of registrations; an observer counts once for each kind it asks for. -/
def count (o : Observers) : Nat := (o.registered.flatMap fun observer => observer.kinds).length

/-- Tells all observers of the kind; failures are passed over. -/
def emit (o : Observers) (event : Event) : Observers :=
  { o with state := (o.ofKind event.kind).foldl (fun s observer => (observer.tell s event).1) o.state }

def emitAll (o : Observers) (events : List Event) : Observers := events.foldl emit o

end Observers
end AdaptiveRules
