import AdaptiveRules.LearningRecords
import AdaptiveRules.RuleMerging
import AdaptiveRules.RulePattern

/-!
# Adaptation to contexts

A pattern that does badly in a context may take up a variation of its rule.  It does badly if it was
used there more than a given number of times and succeeded in less than a given share of them; where
it was never used in the context, its uses with the same parser decide.  Every attempt to adapt is
recorded, whether the rule changed or not.
-/

namespace AdaptiveRules

structure AdaptationThresholds where
  minSamples : Nat
  successRate : Float

def AdaptationThresholds.standard : AdaptationThresholds := ⟨10, 0.5⟩

structure Adaptation where
  thresholds : AdaptationThresholds
  /-- Whether the pattern adapts by itself. -/
  enabled : Bool
  /-- The variations that may be taken up. -/
  variations : List String
  records : List AdaptationRecord

namespace Adaptation

def standard : Adaptation := ⟨.standard, true, [], []⟩

/-- Holds more variations; those that are held already are passed over. -/
def offer (a : Adaptation) (variations : List String) : Adaptation :=
  { a with
    variations := variations.foldl (fun held v => if held.contains v then held else held ++ [v])
      a.variations }

/-- Enough uses with too few successes. -/
def fails (t : AdaptationThresholds) (uses : Nat) (rate : Float) : Bool :=
  t.minSamples < uses && decide (rate < t.successRate)

def shouldAdapt (a : Adaptation) (m : UsageMetrics) (context : MatchContext) : Bool :=
  match m.context? context.key with
  | some u => fails a.thresholds u.uses u.successRate
  | none =>
      match m.parser? context.parser with
      | some u => fails a.thresholds u.total u.successRate
      | none => false

/-- The success rate in the context, or else with its parser. -/
def rateIn (m : UsageMetrics) (context : MatchContext) : Float :=
  match m.context? context.key with
  | some u => u.successRate
  | none => m.parserRate context.parser

/-- The pattern with the best variation taken up; unchanged if there is none or it cannot be used. -/
def improve (p : RulePattern) (variations : List String) : RulePattern × Bool :=
  match RuleMerging.improved? variations p.textRule with
  | none => (p, false)
  | some rule =>
      match p.install rule with
      | .ok p => (p, true)
      | .error _ => (p, false)

/-- Adapts a pattern to a context and records it. -/
def adapt (a : Adaptation) (p : RulePattern) (context : MatchContext) (now : Instant) :
    Adaptation × RulePattern × AdaptationRecord :=
  let (adapted, changed) := improve p a.variations
  let record : AdaptationRecord :=
    { time := now
      contextKey := context.key
      parser := context.parser
      language := context.language
      rateBefore := rateIn p.metrics context
      previousRule := p.textRule
      newRule := adapted.textRule
      changed }
  ({ a with records := a.records ++ [record] }, adapted, record)

end Adaptation
end AdaptiveRules
