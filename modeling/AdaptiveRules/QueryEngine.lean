import AdaptiveRules.MatchFailure
import AdaptiveRules.MatchInstance

/-!
# Structural query engines

A structural query is run by an engine outside the library.  The engine says which languages it
knows, whether a query is sound, and what a query finds in a source.  It may also never answer, or
break down; then what waits for the answer is interrupted where it stands.
-/

namespace AdaptiveRules

/-- Why a computation has no outcome. -/
inductive Interruption
  /-- It waits for an answer that does not come, or was stopped while it waited. -/
  | suspended
  | crashed
  deriving DecidableEq

/-- An outcome, which may be a failed match, unless it is interrupted. -/
abbrev Attempt (α : Type) := Except Interruption (Except MatchError α)

structure QueryEngine where
  name : String
  supports : String → Bool
  /-- The complaint about a query of a language, if it is not sound. -/
  complaint? : String → String → Option String
  /-- What a query of a language finds in a source. -/
  run : String → String → String → Attempt (List MatchInstance)

namespace QueryEngine

def absence (language : String) : String := "no structural support for '" ++ language ++ "'"

/-- The engine that knows no language. -/
def none : QueryEngine where
  name := "none"
  supports _ := false
  complaint? language _ := some (absence language)
  run language _ _ := .ok (.error ⟨absence language⟩)

end QueryEngine
end AdaptiveRules
