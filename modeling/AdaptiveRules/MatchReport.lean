import AdaptiveRules.Catalog

/-!
# Reports on a file

A report holds what patterns find in a file, by the name of the pattern.  A pattern for another
language has no part in it.
-/

namespace AdaptiveRules
namespace MatchReport

/-- What a pattern finds in the source of a file, applied to it for the first time. -/
def found (p : Pattern) (source : String) (context : MatchContext) (now : Instant) :
    List MatchInstance :=
  match (p.matchSource source (some context) ⟨now, 0⟩).answer with
  | .ok ms => ms
  | .error _ => []

/-- Notes what a pattern finds; of patterns with one name the last counts. -/
def add (source : String) (context : MatchContext) (now : Instant)
    (report : Dict (List MatchInstance)) (p : Pattern) : Dict (List MatchInstance) :=
  if FileLanguage.applies p.language context.language then
    report.insert p.name (found p source context now)
  else report

def ofPatterns (patterns : List Pattern) (source : String) (context : MatchContext)
    (now : Instant) : Dict (List MatchInstance) :=
  patterns.foldl (add source context now) .empty

def toJson (report : Dict (List MatchInstance)) : Json :=
  .ofDict (.ofList fun m => m.toJson.canonical) report

end MatchReport
end AdaptiveRules
