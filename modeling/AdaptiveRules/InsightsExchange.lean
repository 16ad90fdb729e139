import AdaptiveRules.Learner

/-!
# Exchange of variations

Variations are written to a file that others can read in.  The improvements and the metrics that the
file tells of besides are not taken over.
-/

namespace AdaptiveRules

structure InsightsExport where
  version : String
  time : Instant
  variations : Dict (List String)
  improvements : Dict (List Improvement)
  metrics : LearningMetrics

structure ImportCounts where
  imported : Nat
  /-- Variations that are empty or were known. -/
  skipped : Nat
  deriving DecidableEq

namespace InsightsExport

def currentVersion : String := "1.0"

def ofInsights (s : Insights) (now : Instant) : InsightsExport :=
  ⟨currentVersion, now, s.variations, s.improvements, s.metrics⟩

def toJson (e : InsightsExport) : Json :=
  .obj [("version", .str e.version), ("exported_at", e.time.toJson),
    ("pattern_variations", .ofDict .ofStrings e.variations),
    ("pattern_improvements", .ofDict (.ofList Improvement.toJson) e.improvements),
    ("metrics", e.metrics.toJson)]

def fieldNames : List String :=
  ["version", "exported_at", "pattern_variations", "pattern_improvements", "metrics"]

def ofJson? (now : Instant) (j : Json) : Option InsightsExport := do
  let fs ← j.asRecord? fieldNames
  let version ← fs.required "version" Json.asString?
  let time ← fs.required "exported_at" Instant.ofJson?
  let variations ← fs.required "pattern_variations" (·.asDict? Insights.texts?)
  let improvements ← fs.orElse "pattern_improvements" Insights.improvements? .empty
  let metrics ← fs.orElse "metrics" (LearningMetrics.ofJson? now) (.zero now)
  return ⟨version, time, variations, improvements, metrics⟩

def ofText? (now : Instant) (text : String) : Option InsightsExport :=
  (Json.parse? text).bind (ofJson? now)

def totalVariations (e : InsightsExport) : Nat := e.variations.values.flatten.length

end InsightsExport

namespace LearningState

/-- Writes what is known to a file. -/
def exportTo (s : LearningState) (path : String) : Except Problem InsightsExport × LearningState :=
  let s := s.begin
  let e := InsightsExport.ofInsights s.learner.insights s.now
  match s.storage.files.write path e.toJson.pretty with
  | .ok files => (.ok e, { s with storage := { s.storage with files } })
  | .error p => (.error (.file p), s)

/-- Merges the variations of each pattern. -/
def mergeAll (l : Learner) : List (String × List String) → Learner × ImportCounts
  | [] => (l, ⟨0, 0⟩)
  | (pattern, variations) :: rest =>
      let (l, added) := l.merge pattern variations
      let (l, counts) := mergeAll l rest
      (l, ⟨added + counts.imported, variations.length - added + counts.skipped⟩)

/-- The export that a file holds. -/
def readExport (s : LearningState) (path : String) : Except Problem InsightsExport :=
  match s.storage.files.readText path with
  | .error p => .error (.file p)
  | .ok text =>
      match InsightsExport.ofText? s.now text with
      | some e => .ok e
      | none => .error .jsonUnreadable

/-- Takes over the variations of a file; what is known afterwards is saved if that is more. -/
def importFrom (s : LearningState) (path : String) : Except Problem ImportCounts × LearningState :=
  let s := s.begin
  match s.readExport path with
  | .error p => (.error p, s)
  | .ok e =>
      let (learner, counts) := mergeAll s.learner e.variations.entries
      let s := { s with learner }
      (.ok counts, if counts.imported = 0 then s else s.persist)

end LearningState
end AdaptiveRules
