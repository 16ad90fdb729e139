import AdaptiveRules.Instant
import AdaptiveRules.JsonDecoding
import AdaptiveRules.MatchCache
import AdaptiveRules.MatchContext

/-!
# How often a rule succeeds

Every use of a rule is one observation: whether it succeeded, how long it took, and where it was made.
Observations are counted in total, by context, by the parser of the context and by the name of the
rule.  Averages run over all observations; of the single times only the last ones are kept.
-/

namespace AdaptiveRules

structure ContextUse where
  uses : Nat
  successes : Nat
  averageTime : Float

structure ParserUse where
  total : Nat
  successful : Nat
  failed : Nat
  averageTime : Float

structure Observation where
  success : Bool
  seconds : Float
  contextKey : Option String
  parser : Option ParserKind
  name : Option String
  cacheHit : Option Bool

structure UsageMetrics where
  totalUses : Nat
  successes : Nat
  failures : Nat
  averageTime : Float
  times : List Float
  contexts : Dict ContextUse
  parsers : Dict ParserUse
  matchCounts : Dict Nat
  timings : Dict (List Float)
  cacheHits : Nat
  cacheMisses : Nat
  lastUpdated : Instant
  created : Instant

/-- The average after one more sample, where `count` includes the sample. -/
def runningAverage (average sample : Float) (count : Nat) : Float :=
  average + (sample - average) / Float.ofScientific count false 0

/-- How many single times are kept. -/
def keptSamples : Nat := 1000

/-- Adds a time at the end; when the list is full, the first one goes. -/
def addSample (times : List Float) (time : Float) : List Float :=
  (if times.length = keptSamples then times.drop 1 else times) ++ [time]

namespace ContextUse

def none : ContextUse := ⟨0, 0, 0⟩

def observe (u : ContextUse) (o : Observation) : ContextUse where
  uses := u.uses + 1
  successes := u.successes + (if o.success then 1 else 0)
  averageTime := runningAverage u.averageTime o.seconds (u.uses + 1)

def successRate (u : ContextUse) : Float := shareOf u.successes u.uses

def toJson (u : ContextUse) : Json :=
  .obj [("uses", .ofNat u.uses), ("successes", .ofNat u.successes),
    ("avg_time", .float u.averageTime)]

def ofJson? (j : Json) : Option ContextUse := do
  let fs ← j.asRecord? ["uses", "successes", "avg_time"]
  let uses ← fs.required "uses" (·.asNat? 64)
  let successes ← fs.required "successes" (·.asNat? 64)
  let averageTime ← fs.required "avg_time" Json.asFloat?
  return ⟨uses, successes, averageTime⟩

end ContextUse

namespace ParserUse

def none : ParserUse := ⟨0, 0, 0, 0⟩

def observe (u : ParserUse) (o : Observation) : ParserUse where
  total := u.total + 1
  successful := u.successful + (if o.success then 1 else 0)
  failed := u.failed + (if o.success then 0 else 1)
  averageTime := runningAverage u.averageTime o.seconds (u.total + 1)

def successRate (u : ParserUse) : Float := shareOf u.successful u.total

def toJson (u : ParserUse) : Json :=
  .obj [("total", .ofNat u.total), ("successful", .ofNat u.successful),
    ("failed", .ofNat u.failed), ("avg_time", .float u.averageTime)]

def ofJson? (j : Json) : Option ParserUse := do
  let fs ← j.asRecord? ["total", "successful", "failed", "avg_time"]
  let total ← fs.required "total" (·.asNat? 64)
  let successful ← fs.required "successful" (·.asNat? 64)
  let failed ← fs.required "failed" (·.asNat? 64)
  let averageTime ← fs.required "avg_time" Json.asFloat?
  return ⟨total, successful, failed, averageTime⟩

end ParserUse

namespace UsageMetrics

def empty (now : Instant) : UsageMetrics where
  totalUses := 0
  successes := 0
  failures := 0
  averageTime := 0
  times := []
  contexts := .empty
  parsers := .empty
  matchCounts := .empty
  timings := .empty
  cacheHits := 0
  cacheMisses := 0
  lastUpdated := now
  created := now

/-- Changes the value under a name, if there is a name. -/
def alterAt (d : Dict α) (name : Option String) (f : Option α → α) : Dict α :=
  match name with
  | some k => d.alter k f
  | none => d

def observe (m : UsageMetrics) (o : Observation) (now : Instant) : UsageMetrics where
  totalUses := m.totalUses + 1
  successes := m.successes + (if o.success then 1 else 0)
  failures := m.failures + (if o.success then 0 else 1)
  averageTime := runningAverage m.averageTime o.seconds (m.totalUses + 1)
  times := addSample m.times o.seconds
  contexts := alterAt m.contexts o.contextKey fun u => (u.getD .none).observe o
  parsers := alterAt m.parsers (o.parser.map ParserKind.name) fun u => (u.getD .none).observe o
  matchCounts := alterAt m.matchCounts o.name fun n => n.getD 0 + 1
  timings := alterAt m.timings o.name fun ts => addSample (ts.getD []) o.seconds
  cacheHits := m.cacheHits + (if o.cacheHit = some true then 1 else 0)
  cacheMisses := m.cacheMisses + (if o.cacheHit = some false then 1 else 0)
  lastUpdated := now
  created := m.created

def successRate (m : UsageMetrics) : Float := shareOf m.successes m.totalUses

def cacheHitRate (m : UsageMetrics) : Float := shareOf m.cacheHits (m.cacheHits + m.cacheMisses)

def context? (m : UsageMetrics) (key : String) : Option ContextUse := m.contexts.get? key

def parser? (m : UsageMetrics) (kind : ParserKind) : Option ParserUse := m.parsers.get? kind.name

/-- The success rate with a parser; zero if it was never used. -/
def parserRate (m : UsageMetrics) (kind : ParserKind) : Float :=
  ((m.parser? kind).map ParserUse.successRate).getD 0

/-- The average time with a parser; zero if it was never used. -/
def parserTime (m : UsageMetrics) (kind : ParserKind) : Float :=
  ((m.parser? kind).map ParserUse.averageTime).getD 0

/-- The short form. -/
def summary (m : UsageMetrics) : Json :=
  .obj [("total_uses", .ofNat m.totalUses), ("successful_matches", .ofNat m.successes),
    ("failed_matches", .ofNat m.failures), ("success_rate", .float m.successRate),
    ("avg_execution_time", .float m.averageTime), ("cache_hit_rate", .float m.cacheHitRate),
    ("contexts", .ofNat m.contexts.size),
    ("parser_success_rates", .ofDict (fun u => .float u.successRate) m.parsers),
    ("last_updated", .str m.lastUpdated.toRfc3339)]

def floats (times : List Float) : Json := .ofList .float times

def toJson (m : UsageMetrics) : Json :=
  .obj [("total_uses", .ofNat m.totalUses), ("successful_matches", .ofNat m.successes),
    ("failed_matches", .ofNat m.failures), ("avg_time", .float m.averageTime),
    ("execution_times", floats m.times),
    ("context_performance", .ofDict ContextUse.toJson m.contexts),
    ("parser_stats", .ofDict ParserUse.toJson m.parsers),
    ("pattern_match_counts", .ofDict .ofNat m.matchCounts),
    ("pattern_timings", .ofDict floats m.timings),
    ("cache_hits", .ofNat m.cacheHits), ("cache_misses", .ofNat m.cacheMisses),
    ("last_updated", .str m.lastUpdated.toRfc3339), ("created_at", .str m.created.toRfc3339)]

def fieldNames : List String :=
  ["total_uses", "successful_matches", "failed_matches", "avg_time", "execution_times",
    "context_performance", "parser_stats", "pattern_match_counts", "pattern_timings",
    "cache_hits", "cache_misses", "last_updated", "created_at"]

def instant? (j : Json) : Option Instant := j.asString?.bind Instant.ofRfc3339?

def floats? (j : Json) : Option (List Float) := j.asList? Json.asFloat?

/-- Use by parser; every name is that of a parser. -/
def parsers? (j : Json) : Option (Dict ParserUse) := do
  let d ← j.asDict? ParserUse.ofJson?
  if d.keys.all fun k => (ParserKind.ofName? k).isSome then some d else none

def ofJson? (j : Json) : Option UsageMetrics := do
  let fs ← j.asRecord? fieldNames
  let totalUses ← fs.required "total_uses" (·.asNat? 64)
  let successes ← fs.required "successful_matches" (·.asNat? 64)
  let failures ← fs.required "failed_matches" (·.asNat? 64)
  let averageTime ← fs.required "avg_time" Json.asFloat?
  let times ← fs.required "execution_times" floats?
  let contexts ← fs.required "context_performance" (·.asDict? ContextUse.ofJson?)
  let parsers ← fs.required "parser_stats" parsers?
  let matchCounts ← fs.required "pattern_match_counts" (·.asDict? (·.asNat? 64))
  let timings ← fs.required "pattern_timings" (·.asDict? floats?)
  let cacheHits ← fs.required "cache_hits" (·.asNat? 64)
  let cacheMisses ← fs.required "cache_misses" (·.asNat? 64)
  let lastUpdated ← fs.required "last_updated" instant?
  let created ← fs.required "created_at" instant?
  return ⟨totalUses, successes, failures, averageTime, times, contexts, parsers, matchCounts,
    timings, cacheHits, cacheMisses, lastUpdated, created⟩

end UsageMetrics
end AdaptiveRules
