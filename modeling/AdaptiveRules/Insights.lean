import AdaptiveRules.JsonParser
import AdaptiveRules.JsonPrinter
import AdaptiveRules.LearningRecords

/-!
# What was learned

The insights hold what was found in each project, the variations that are known for each pattern, and
a log of the improvements of each pattern.  A variation is held once and is never empty.  Insights
are written as JSON; what is missing when they are read is as in empty insights.
-/

namespace AdaptiveRules

structure LearningMetrics where
  projectsAnalyzed : Nat
  patternsImproved : Nat
  ruleImprovements : Nat
  /-- The success rate of each pattern before its last improvement. -/
  rateBefore : Dict Float
  /-- The success rate of each pattern right after its last improvement. -/
  rateAfter : Dict Float
  lastUpdate : Instant

structure Insights where
  projects : Dict ProjectInsight
  improvements : Dict (List Improvement)
  /-- The projects that were learned. -/
  trained : Dict Unit
  variations : Dict (List String)
  metrics : LearningMetrics
  saved : Option Instant

namespace LearningMetrics

def zero (now : Instant) : LearningMetrics := ⟨0, 0, 0, .empty, .empty, now⟩

def toJson (m : LearningMetrics) : Json :=
  .obj [("projects_analyzed", .ofNat m.projectsAnalyzed),
    ("patterns_improved", .ofNat m.patternsImproved),
    ("regex_improvements", .ofNat m.ruleImprovements),
    ("success_rate_before", .ofDict .float m.rateBefore),
    ("success_rate_after", .ofDict .float m.rateAfter), ("last_update", m.lastUpdate.toJson)]

def fieldNames : List String :=
  ["projects_analyzed", "patterns_improved", "regex_improvements", "success_rate_before",
    "success_rate_after", "last_update"]

def ofJson? (now : Instant) (j : Json) : Option LearningMetrics := do
  let fs ← j.asRecord? fieldNames
  let projectsAnalyzed ← fs.orElse "projects_analyzed" (·.asNat? 64) 0
  let patternsImproved ← fs.orElse "patterns_improved" (·.asNat? 64) 0
  let ruleImprovements ← fs.orElse "regex_improvements" (·.asNat? 64) 0
  let rateBefore ← fs.orElse "success_rate_before" (·.asDict? Json.asFloat?) .empty
  let rateAfter ← fs.orElse "success_rate_after" (·.asDict? Json.asFloat?) .empty
  let lastUpdate ← fs.orElse "last_update" Instant.ofJson? now
  return ⟨projectsAnalyzed, patternsImproved, ruleImprovements, rateBefore, rateAfter, lastUpdate⟩

end LearningMetrics

namespace Insights

def empty (now : Instant) : Insights := ⟨.empty, .empty, .empty, .empty, .zero now, none⟩

def isTrained (s : Insights) (project : String) : Bool := s.trained.contains project

/-- The variations that are known for a pattern. -/
def variationsOf (s : Insights) (pattern : String) : List String :=
  (s.variations.get? pattern).getD []

/-- The log of the improvements of a pattern. -/
def improvementsOf (s : Insights) (pattern : String) : List Improvement :=
  (s.improvements.get? pattern).getD []

/-- The variation can be added: it is not empty and not known yet. -/
def isNew (s : Insights) (pattern variation : String) : Bool :=
  !variation.isEmpty && !(s.variationsOf pattern).contains variation

def addVariation (s : Insights) (pattern variation : String) : Insights :=
  if s.isNew pattern variation then
    { s with variations := s.variations.insert pattern (s.variationsOf pattern ++ [variation]) }
  else s

/-- Adds the variations that are new, and says how many there were. -/
def addVariations (s : Insights) (pattern : String) : List String → Insights × Nat
  | [] => (s, 0)
  | v :: rest =>
      let (t, added) := addVariations (s.addVariation pattern v) pattern rest
      (t, added + if s.isNew pattern v then 1 else 0)

/-- Appends to the log of a pattern. -/
def addImprovement (s : Insights) (pattern : String) (i : Improvement) : Insights :=
  { s with improvements := s.improvements.insert pattern (s.improvementsOf pattern ++ [i]) }

def totalVariations (s : Insights) : Nat := s.variations.values.flatten.length

def totalImprovements (s : Insights) : Nat := s.improvements.values.flatten.length

/-- Nothing was learned; what was found in projects does not count. -/
def isEmpty (s : Insights) : Bool :=
  s.trained.isEmpty && s.variations.isEmpty && s.improvements.isEmpty

/-! ### JSON form -/

def toJson (s : Insights) : Json :=
  .obj [("project_insights", .ofDict ProjectInsight.toJson s.projects),
    ("pattern_improvements", .ofDict (.ofList Improvement.toJson) s.improvements),
    ("training_projects", .ofStrings s.trained.keys),
    ("pattern_variations", .ofDict .ofStrings s.variations), ("metrics", s.metrics.toJson),
    ("timestamp", .ofOption Instant.toJson s.saved)]

def fieldNames : List String :=
  ["project_insights", "pattern_improvements", "training_projects", "pattern_variations",
    "metrics", "timestamp"]

def texts? (j : Json) : Option (List String) := j.asList? Json.asString?

/-- A list of names, repeated or not, as a set. -/
def names? (j : Json) : Option (Dict Unit) :=
  (texts? j).map fun names => Dict.ofList (names.map (·, ()))

def improvements? (j : Json) : Option (Dict (List Improvement)) :=
  j.asDict? (·.asList? Improvement.ofJson?)

/-- Reads insights; a time that is missing is the present one. -/
def ofJson? (now : Instant) (j : Json) : Option Insights := do
  let fs ← j.asRecord? fieldNames
  let projects ← fs.orElse "project_insights" (·.asDict? ProjectInsight.ofJson?) .empty
  let improvements ← fs.orElse "pattern_improvements" improvements? .empty
  let trained ← fs.orElse "training_projects" names? .empty
  let variations ← fs.orElse "pattern_variations" (·.asDict? texts?) .empty
  let metrics ← fs.orElse "metrics" (LearningMetrics.ofJson? now) (.zero now)
  let saved ← fs.optional "timestamp" Instant.ofJson?
  return ⟨projects, improvements, trained, variations, metrics, saved⟩

def ofText? (now : Instant) (text : String) : Option Insights :=
  (Json.parse? text).bind (ofJson? now)

/-- The text of a file that holds insights. -/
def toText (s : Insights) : String := s.toJson.pretty

end Insights
end AdaptiveRules
