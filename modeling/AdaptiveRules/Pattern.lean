import AdaptiveRules.Adaptation
import AdaptiveRules.MatchRecovery
import AdaptiveRules.Observers

/-!
# Patterns that adapt and recover

A pattern is a rule at work in one of three modes.  A plain one only matches.  An adaptive one adapts
its rule before a match in a context where it does badly.  A resilient one does that too, and tries to
recover when the match fails.  In the other two modes a failed match finds nothing.

An operation answers with the pattern as it is afterwards and the events that it announces.
-/

namespace AdaptiveRules

/-- Recovery of one pattern: its settings and what became of it by kind of failure. -/
structure Recovery where
  settings : RecoverySettings
  stats : Dict RecoveryStats

inductive PatternMode
  | plain
  | adaptive (adaptation : Adaptation)
  | resilient (adaptation : Adaptation) (recovery : Recovery)

structure Pattern where
  core : RulePattern
  mode : PatternMode

/-- What an operation on a pattern leads to. -/
structure PatternStep (α : Type) where
  answer : α
  pattern : Pattern
  events : List Event

namespace PatternMode

def adaptation? : PatternMode → Option Adaptation
  | plain => none
  | adaptive a => some a
  | resilient a _ => some a

def withAdaptation (a : Adaptation) : PatternMode → PatternMode
  | plain => plain
  | adaptive _ => adaptive a
  | resilient _ r => resilient a r

end PatternMode

namespace Recovery

/-- Counts an attempt to recover from a kind of failure. -/
def count (r : Recovery) (kind : FailureKind) (success : Bool) : Recovery :=
  { r with
    stats := r.stats.alter kind.name fun s =>
      ⟨(s.map RecoveryStats.attempts).getD 0 + 1,
        (s.map RecoveryStats.successes).getD 0 + (if success then 1 else 0)⟩ }

end Recovery

namespace Pattern

def plain (core : RulePattern) : Pattern := ⟨core, .plain⟩

def adaptive (core : RulePattern) (adaptation : Adaptation) : Pattern :=
  ⟨core, .adaptive adaptation⟩

/-- A resilient pattern; its metadata overrides the settings. -/
def resilient (core : RulePattern) (adaptation : Adaptation) (settings : RecoverySettings) :
    Pattern :=
  ⟨core, .resilient adaptation ⟨settings.overriddenBy core.definition.metadata, .empty⟩⟩

def name (p : Pattern) : String := p.core.name

def language (p : Pattern) : String := p.core.language

def textRule (p : Pattern) : String := p.core.textRule

/-- The variations the pattern holds; none if it does not adapt. -/
def variations (p : Pattern) : List String :=
  (p.mode.adaptation?.map Adaptation.variations).getD []

/-- The pattern with more variations to take up; a plain one holds none. -/
def offer (p : Pattern) (variations : List String) : Pattern :=
  match p.mode.adaptation? with
  | none => p
  | some a => { p with mode := p.mode.withAdaptation (a.offer variations) }

def install (p : Pattern) (rule : String) : Except PatternFault Pattern :=
  (p.core.install rule).map fun core => { p with core }

/-- The pattern improved by the best of the variations, and whether its rule changed. -/
def improve (p : Pattern) (variations : List String) : Pattern × Bool :=
  let (core, changed) := Adaptation.improve p.core variations
  ({ p with core }, changed)

def shouldAdapt (p : Pattern) (context : MatchContext) : Option Bool :=
  p.mode.adaptation?.map fun a => a.shouldAdapt p.core.metrics context

/-- Adapts the pattern to a context, if it can. -/
def adapt (p : Pattern) (context : MatchContext) (now : Instant) :
    PatternStep (Option AdaptationRecord) :=
  match p.mode.adaptation? with
  | none => ⟨none, p, []⟩
  | some a =>
      let (a, core, record) := a.adapt p.core context now
      ⟨some record, ⟨core, p.mode.withAdaptation a⟩, [.patternAdapted p.name record]⟩

/-- Adapts by itself, where there is a context in which the pattern does badly. -/
def beforeMatch (p : Pattern) (context : Option MatchContext) (now : Instant) :
    PatternStep (Option AdaptationRecord) :=
  match p.mode.adaptation?, context with
  | some a, some c =>
      if a.enabled && a.shouldAdapt p.core.metrics c then p.adapt c now else ⟨none, p, []⟩
  | _, _ => ⟨none, p, []⟩

/-- Recovers from a failed match, if the pattern does that; otherwise nothing is found. -/
def afterFailure (p : Pattern) (failure : MatchError) (source : String) :
    PatternStep (Except Interruption (List MatchInstance)) :=
  match p.mode with
  | .plain => ⟨.ok [], p, []⟩
  | .adaptive _ => ⟨.ok [], p, []⟩
  | .resilient a r =>
      let counted (success : Bool) : Pattern :=
        ⟨p.core, .resilient a (r.count failure.kind success)⟩
      match MatchRecovery.recover p.core r.settings failure.kind source with
      | .error i => ⟨.error i, p, []⟩
      | .ok (.ok found) =>
          ⟨.ok (found.map fun m => { m with recovered := true }), counted (!found.isEmpty),
            [.matchRecovered p.name failure.kind found.length true]⟩
      | .ok (.error _) =>
          ⟨.ok [], counted false, [.matchRecovered p.name failure.kind 0 false]⟩

/-- All that the pattern finds in a source. -/
def matchSource (p : Pattern) (source : String) (context : Option MatchContext) (time : MatchTime) :
    PatternStep (Except Interruption (List MatchInstance)) :=
  let before := p.beforeMatch context time.now
  let (outcome, core) := before.pattern.core.run source context time
  let p : Pattern := { before.pattern with core }
  match outcome with
  | .error i => ⟨.error i, p, before.events⟩
  | .ok (.ok found) => ⟨.ok found, p, before.events⟩
  | .ok (.error failure) =>
      let after := p.afterFailure failure source
      ⟨after.answer, after.pattern, before.events ++ after.events⟩

end Pattern
end AdaptiveRules
