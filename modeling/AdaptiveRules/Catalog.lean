import AdaptiveRules.Configuration
import AdaptiveRules.Pattern
import AdaptiveRules.Problems

/-!
# The catalog of patterns

The patterns of a configuration are made in their order.  A name may occur only once within a
language.  The first entry with a fault stops everything; that it repeats an earlier name and
language is seen before its other faults.
-/

namespace AdaptiveRules

namespace CatalogEntry

def definition (e : CatalogEntry) : PatternDefinition where
  name := e.name
  rule := e.rule
  category := e.category
  purpose := e.purpose
  language := e.language
  confidence := e.confidence
  metadata := e.metadata
  extract := none

/-- What no two entries may share. -/
def identity (e : CatalogEntry) : String × String := (e.name, e.language)

end CatalogEntry

namespace Catalog

def adaptation (s : AdaptationSettings) : Adaptation :=
  ⟨s.thresholds, s.enabled, [], []⟩

/-- The pattern of an entry. -/
def pattern (c : Configuration) (engine : QueryEngine) (now : Instant) (e : CatalogEntry) :
    Except PatternFault Pattern := do
  let core ← RulePattern.ofDefinition e.definition engine now
  let core := { core with cache := c.cache.cache }.withMaxMatches c.matching.maxMatches
  match e.mode with
  | .base => return .plain core
  | .adaptive => return .adaptive core (adaptation c.adaptation)
  | .resilient => return .resilient core (adaptation c.adaptation) c.matching.recovery

def duplicate (e : CatalogEntry) : Problem :=
  .configuration ("padrão duplicado: " ++ e.name ++ " (" ++ e.language ++ ")")

/-- The patterns of the entries that follow those with the given identities. -/
def patternsFrom (c : Configuration) (engine : QueryEngine) (now : Instant) :
    List (String × String) → List CatalogEntry → Except Problem (List Pattern)
  | _, [] => .ok []
  | seen, e :: rest =>
      if seen.contains e.identity then .error (duplicate e)
      else
        match pattern c engine now e with
        | .error fault => .error (.pattern fault)
        | .ok p => (patternsFrom c engine now (e.identity :: seen) rest).map (p :: ·)

def patterns (c : Configuration) (engine : QueryEngine) (now : Instant) :
    Except Problem (List Pattern) :=
  patternsFrom c engine now [] c.patterns

end Catalog
end AdaptiveRules
