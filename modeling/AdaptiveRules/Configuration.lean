import AdaptiveRules.Adaptation
import AdaptiveRules.JsonDecoding
import AdaptiveRules.MatchRecovery
import AdaptiveRules.Similarity
import AdaptiveRules.TomlParser
import AdaptiveRules.TomlPrinter

/-!
# Configuration

A configuration says how sources are matched, how patterns adapt and learn, and which patterns there
are.  Every section and every setting may be left out; only a pattern needs a name and a rule.  It is
kept as a TOML document, and read from JSON in the same form.
-/

namespace AdaptiveRules

structure GeneralSettings where
  logLevel : String
  logFormat : String
  deriving DecidableEq

structure MatchingSettings where
  windowSize : Nat
  overlap : Nat
  retries : Nat
  maxMatches : Nat
  deriving DecidableEq

structure AdaptationSettings where
  enabled : Bool
  minSamples : Nat
  successRate : Float

structure CacheSettings where
  enabled : Bool
  capacity : Nat
  ttlSeconds : Nat
  deriving DecidableEq

/-- Where the learned state is kept. -/
inductive StoreKind
  | json
  | sqlite
  deriving DecidableEq

structure LearningSettings where
  enabled : Bool
  store : StoreKind
  insightsPath : String
  minGroupSize : Nat
  maxExamples : Nat
  thresholds : SimilarityThresholds
  useBlocks : Bool
  shutdownSeconds : Nat

/-- How much a pattern of the catalog can do. -/
inductive EntryMode
  | base
  | adaptive
  | resilient
  deriving DecidableEq

structure CatalogEntry where
  name : String
  rule : String
  category : String
  purpose : String
  language : String
  confidence : Float
  mode : EntryMode
  metadata : Dict Json

structure Configuration where
  general : GeneralSettings
  matching : MatchingSettings
  adaptation : AdaptationSettings
  cache : CacheSettings
  learning : LearningSettings
  patterns : List CatalogEntry

namespace GeneralSettings

def standard : GeneralSettings := ⟨"info", "text"⟩

def toJson (s : GeneralSettings) : Json :=
  .obj [("log_level", .str s.logLevel), ("log_format", .str s.logFormat)]

def ofJson? (j : Json) : Option GeneralSettings := do
  let fs ← j.asRecord? ["log_level", "log_format"]
  let logLevel ← fs.orElse "log_level" Json.asString? standard.logLevel
  let logFormat ← fs.orElse "log_format" Json.asString? standard.logFormat
  return ⟨logLevel, logFormat⟩

end GeneralSettings

namespace MatchingSettings

def standard : MatchingSettings := ⟨1000, 100, 3, 10000⟩

def recovery (s : MatchingSettings) : RecoverySettings := ⟨s.windowSize, s.overlap, s.retries⟩

def toJson (s : MatchingSettings) : Json :=
  .obj [("chunk_size", .ofNat s.windowSize), ("chunk_overlap", .ofNat s.overlap),
    ("max_retries", .ofNat s.retries), ("max_matches", .ofNat s.maxMatches)]

def ofJson? (j : Json) : Option MatchingSettings := do
  let fs ← j.asRecord? ["chunk_size", "chunk_overlap", "max_retries", "max_matches"]
  let windowSize ← fs.orElse "chunk_size" (·.asNat? 64) standard.windowSize
  let overlap ← fs.orElse "chunk_overlap" (·.asNat? 64) standard.overlap
  let retries ← fs.orElse "max_retries" (·.asNat? 32) standard.retries
  let maxMatches ← fs.orElse "max_matches" (·.asNat? 64) standard.maxMatches
  return ⟨windowSize, overlap, retries, maxMatches⟩

end MatchingSettings

namespace AdaptationSettings

def standard : AdaptationSettings := ⟨true, 10, 0.5⟩

def thresholds (s : AdaptationSettings) : AdaptationThresholds := ⟨s.minSamples, s.successRate⟩

def toJson (s : AdaptationSettings) : Json :=
  .obj [("enabled", .bool s.enabled), ("min_samples", .ofNat s.minSamples),
    ("success_threshold", .float s.successRate)]

def ofJson? (j : Json) : Option AdaptationSettings := do
  let fs ← j.asRecord? ["enabled", "min_samples", "success_threshold"]
  let enabled ← fs.orElse "enabled" Json.asBool? standard.enabled
  let minSamples ← fs.orElse "min_samples" (·.asNat? 64) standard.minSamples
  let successRate ← fs.orElse "success_threshold" Json.asFloat? standard.successRate
  return ⟨enabled, minSamples, successRate⟩

end AdaptationSettings

namespace CacheSettings

def standard : CacheSettings := ⟨true, 1000, 300⟩

/-- The cache of a pattern; without a time to live if that is zero. -/
def cache (s : CacheSettings) : Option MatchCache :=
  if s.enabled then
    some (.ofCapacity s.capacity
      (if s.ttlSeconds = 0 then none else some (s.ttlSeconds * 1000000000)))
  else none

def toJson (s : CacheSettings) : Json :=
  .obj [("enabled", .bool s.enabled), ("capacity", .ofNat s.capacity),
    ("ttl_secs", .ofNat s.ttlSeconds)]

def ofJson? (j : Json) : Option CacheSettings := do
  let fs ← j.asRecord? ["enabled", "capacity", "ttl_secs"]
  let enabled ← fs.orElse "enabled" Json.asBool? standard.enabled
  let capacity ← fs.orElse "capacity" (·.asNat? 64) standard.capacity
  let ttlSeconds ← fs.orElse "ttl_secs" (·.asNat? 64) standard.ttlSeconds
  return ⟨enabled, capacity, ttlSeconds⟩

end CacheSettings

namespace StoreKind

def name : StoreKind → String
  | json => "json"
  | sqlite => "sqlite"

def ofJson? (j : Json) : Option StoreKind :=
  match j.asName? with
  | some "json" => some json
  | some "sqlite" => some sqlite
  | _ => none

end StoreKind

namespace LearningSettings

def standard : LearningSettings where
  enabled := true
  store := .json
  insightsPath := ".padrao/insights.json"
  minGroupSize := 2
  maxExamples := 5
  thresholds := ⟨0.3, 0.7, 0.5⟩
  useBlocks := false
  shutdownSeconds := 5

def toJson (s : LearningSettings) : Json :=
  .obj [("enabled", .bool s.enabled), ("store", .str s.store.name),
    ("insights_path", .str s.insightsPath), ("min_group_size", .ofNat s.minGroupSize),
    ("max_examples", .ofNat s.maxExamples),
    ("length_tolerance", .float s.thresholds.lengthTolerance),
    ("char_similarity", .float s.thresholds.charSimilarity),
    ("word_similarity", .float s.thresholds.wordSimilarity), ("use_blocks", .bool s.useBlocks),
    ("shutdown_timeout_secs", .ofNat s.shutdownSeconds)]

def fieldNames : List String :=
  ["enabled", "store", "insights_path", "min_group_size", "max_examples", "length_tolerance",
    "char_similarity", "word_similarity", "use_blocks", "shutdown_timeout_secs"]

def ofJson? (j : Json) : Option LearningSettings := do
  let fs ← j.asRecord? fieldNames
  let enabled ← fs.orElse "enabled" Json.asBool? standard.enabled
  let store ← fs.orElse "store" StoreKind.ofJson? standard.store
  let insightsPath ← fs.orElse "insights_path" Json.asString? standard.insightsPath
  let minGroupSize ← fs.orElse "min_group_size" (·.asNat? 64) standard.minGroupSize
  let maxExamples ← fs.orElse "max_examples" (·.asNat? 64) standard.maxExamples
  let length ← fs.orElse "length_tolerance" Json.asFloat? standard.thresholds.lengthTolerance
  let char ← fs.orElse "char_similarity" Json.asFloat? standard.thresholds.charSimilarity
  let word ← fs.orElse "word_similarity" Json.asFloat? standard.thresholds.wordSimilarity
  let useBlocks ← fs.orElse "use_blocks" Json.asBool? standard.useBlocks
  let shutdownSeconds ← fs.orElse "shutdown_timeout_secs" (·.asNat? 64) standard.shutdownSeconds
  return ⟨enabled, store, insightsPath, minGroupSize, maxExamples, ⟨length, char, word⟩, useBlocks,
    shutdownSeconds⟩

end LearningSettings

namespace EntryMode

def name : EntryMode → String
  | base => "base"
  | adaptive => "adaptive"
  | resilient => "resilient"

def ofJson? (j : Json) : Option EntryMode :=
  match j.asName? with
  | some "base" => some base
  | some "adaptive" => some adaptive
  | some "resilient" => some resilient
  | _ => none

end EntryMode

namespace CatalogEntry

/-- A resilient pattern for all languages. -/
def ofRule (name rule : String) : CatalogEntry :=
  ⟨name, rule, "", "", FileLanguage.any, 0.8, .resilient, .empty⟩

def toJson (e : CatalogEntry) : Json :=
  .obj [("name", .str e.name), ("rule", .str e.rule), ("category", .str e.category),
    ("purpose", .str e.purpose), ("language", .str e.language),
    ("confidence", .float e.confidence), ("mode", .str e.mode.name),
    ("metadata", .ofDict id e.metadata)]

def fieldNames : List String :=
  ["name", "rule", "category", "purpose", "language", "confidence", "mode", "metadata"]

def ofJson? (j : Json) : Option CatalogEntry := do
  let fs ← j.asRecord? fieldNames
  let name ← fs.required "name" Json.asString?
  let rule ← fs.required "rule" Json.asString?
  let category ← fs.orElse "category" Json.asString? ""
  let purpose ← fs.orElse "purpose" Json.asString? ""
  let language ← fs.orElse "language" Json.asString? FileLanguage.any
  let confidence ← fs.orElse "confidence" Json.asFloat? 0.8
  let mode ← fs.orElse "mode" EntryMode.ofJson? .resilient
  let metadata ← fs.orElse "metadata" (·.asDict? fun v => some v.canonical) .empty
  return ⟨name, rule, category, purpose, language, confidence, mode, metadata⟩

end CatalogEntry

namespace Configuration

/-- All settings as they are when nothing is said, and no patterns. -/
def standard : Configuration :=
  ⟨.standard, .standard, .standard, .standard, .standard, []⟩

/-- The patterns to start with. -/
def starterEntries : List CatalogEntry :=
  [{ CatalogEntry.ofRule "accessor" "\\b(?:get|set)_[a-zA-Z]+\\b" with
      category := "code_patterns"
      purpose := "understanding" },
    { CatalogEntry.ofRule "todo_comment" "(?:#|//)\\s*TODO[^\\n]*" with
      category := "documentation"
      purpose := "maintenance" },
    { CatalogEntry.ofRule "python_import" "^(?:from\\s+[\\w.]+\\s+)?import\\s+[\\w., ]+" with
      category := "dependencies"
      purpose := "understanding"
      language := "python" }]

def starter : Configuration := { standard with patterns := starterEntries }

def toJson (c : Configuration) : Json :=
  .obj [("general", c.general.toJson), ("matching", c.matching.toJson),
    ("adaptation", c.adaptation.toJson), ("cache", c.cache.toJson),
    ("learning", c.learning.toJson), ("patterns", .ofList CatalogEntry.toJson c.patterns)]

def ofJson? (j : Json) : Option Configuration := do
  let fs ← j.asRecord? ["general", "matching", "adaptation", "cache", "learning", "patterns"]
  let general ← fs.orElse "general" GeneralSettings.ofJson? .standard
  let matching ← fs.orElse "matching" MatchingSettings.ofJson? .standard
  let adaptation ← fs.orElse "adaptation" AdaptationSettings.ofJson? .standard
  let cache ← fs.orElse "cache" CacheSettings.ofJson? .standard
  let learning ← fs.orElse "learning" LearningSettings.ofJson? .standard
  let patterns ← fs.orElse "patterns" (·.asList? CatalogEntry.ofJson?) []
  return ⟨general, matching, adaptation, cache, learning, patterns⟩

/-- Reads the text of a configuration file. -/
def ofToml? (text : String) : Option Configuration := (Toml.parse? text).bind ofJson?

/-- The text of a configuration file; none if a setting has no place in one. -/
def toToml? (c : Configuration) : Option String := Toml.print? c.toJson

end Configuration
end AdaptiveRules
