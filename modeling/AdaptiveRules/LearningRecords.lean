import AdaptiveRules.Instant
import AdaptiveRules.JsonDecoding
import AdaptiveRules.MatchContext

/-!
# Records of change

What adaptation, learning and improvement leave behind: one record for each attempt to adapt a rule,
one for each rule that was improved, one report for each project that was given to the learner.
-/

namespace AdaptiveRules

namespace Instant

def toJson (t : Instant) : Json := .str t.toRfc3339

def ofJson? (j : Json) : Option Instant := j.asString?.bind Instant.ofRfc3339?

end Instant

structure AdaptationRecord where
  time : Instant
  contextKey : String
  parser : ParserKind
  language : String
  rateBefore : Float
  previousRule : String
  newRule : String
  changed : Bool

def AdaptationRecord.toJson (r : AdaptationRecord) : Json :=
  .obj [("timestamp", r.time.toJson), ("context_key", .str r.contextKey),
    ("parser_kind", .str r.parser.name), ("language_id", .str r.language),
    ("success_rate_before", .float r.rateBefore), ("previous_rule", .str r.previousRule),
    ("new_rule", .str r.newRule), ("changed", .bool r.changed)]

/-- A rule that was replaced by a better one. -/
structure Improvement where
  kind : String
  original : String
  improved : String
  time : Instant
  deriving DecidableEq

namespace Improvement

/-- The kind of an improvement of a text rule. -/
def textKind : String := "regex"

def ofRules (original improved : String) (time : Instant) : Improvement :=
  ⟨textKind, original, improved, time⟩

def toJson (i : Improvement) : Json :=
  .obj [("type", .str i.kind), ("original", .str i.original), ("improved", .str i.improved),
    ("timestamp", i.time.toJson)]

def ofJson? (j : Json) : Option Improvement := do
  let fs ← j.asRecord? ["type", "original", "improved", "timestamp"]
  let kind ← fs.required "type" Json.asString?
  let original ← fs.required "original" Json.asString?
  let improved ← fs.required "improved" Json.asString?
  let time ← fs.required "timestamp" Instant.ofJson?
  return ⟨kind, original, improved, time⟩

end Improvement

/-- What was found in a project. -/
structure ProjectInsight where
  fileCount : Nat
  patternCounts : Dict Nat
  time : Instant
  deriving DecidableEq

namespace ProjectInsight

def toJson (p : ProjectInsight) : Json :=
  .obj [("file_count", .ofNat p.fileCount), ("pattern_counts", .ofDict .ofNat p.patternCounts),
    ("timestamp", p.time.toJson)]

def ofJson? (j : Json) : Option ProjectInsight := do
  let fs ← j.asRecord? ["file_count", "pattern_counts", "timestamp"]
  let fileCount ← fs.required "file_count" (·.asNat? 64)
  let patternCounts ← fs.required "pattern_counts" (·.asDict? (·.asNat? 64))
  let time ← fs.required "timestamp" Instant.ofJson?
  return ⟨fileCount, patternCounts, time⟩

end ProjectInsight

/-- The outcome of learning a project; a project that is known already is skipped. -/
structure LearnReport where
  project : String
  fileCount : Nat
  patternCounts : Dict Nat
  newVariations : Nat
  skipped : Bool
  deriving DecidableEq

def LearnReport.toJson (r : LearnReport) : Json :=
  .obj [("project_id", .str r.project), ("file_count", .ofNat r.fileCount),
    ("pattern_counts", .ofDict .ofNat r.patternCounts), ("new_variations", .ofNat r.newVariations),
    ("skipped", .bool r.skipped)]

end AdaptiveRules
