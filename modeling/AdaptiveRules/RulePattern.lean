import AdaptiveRules.MatchCache
import AdaptiveRules.PatternDefinition
import AdaptiveRules.UsageMetrics

/-!
# Patterns at work

A pattern applies its rule to a source: to the blocks of the context or those that are cut from the
source, and to the whole source if the blocks give nothing.  A block that fails is passed over; a
failure of the whole source is the failure of the match.  What a match finds is kept in the cache
until another rule is installed, and every match is observed once, failed or not.  A match that is
interrupted is not observed.
-/

namespace AdaptiveRules

/-- Cuts a source of a language into blocks. -/
abbrev BlockCutter := String → String → List Block

/-- When a match is made and how many seconds it takes. -/
structure MatchTime where
  now : Instant
  seconds : Float

structure RulePattern where
  definition : PatternDefinition
  engine : QueryEngine
  body : RuleBody
  cutter : Option BlockCutter
  maxMatches : Nat
  metrics : UsageMetrics
  cache : Option MatchCache

namespace RulePattern

/-- How many matches of one unit are allowed unless something else is said. -/
def standardMaxMatches : Nat := 10000

/-- A pattern that was never used, or the fault of its definition. -/
def ofDefinition (d : PatternDefinition) (engine : QueryEngine) (now : Instant) :
    Except PatternFault RulePattern := do
  let body ← d.validate engine
  return ⟨d, engine, body, none, standardMaxMatches, .empty now, some .standard⟩

def withMaxMatches (p : RulePattern) (n : Nat) : RulePattern := { p with maxMatches := max n 1 }

def name (p : RulePattern) : String := p.definition.name

def language (p : RulePattern) : String := p.definition.language

def textRule (p : RulePattern) : String := p.body.textRule

/-- What the rule is applied with. -/
def parserKind (p : RulePattern) : ParserKind :=
  if p.body.isStructural then .treeSitter else .custom

/-- Puts another text rule in place and forgets what the old one found. -/
def install (p : RulePattern) (source : String) : Except PatternFault RulePattern :=
  if TextLines.isBlank source then .error (.emptyRule p.name)
  else
    match TextRule.compile source with
    | .ok rule => .ok { p with body := p.body.install rule, cache := p.cache.map MatchCache.clear }
    | .error e => .error (.invalidRule p.name e)

/-- The match with the fields that the definition extracts from it. -/
def extended (p : RulePattern) (m : MatchInstance) : MatchInstance :=
  match p.definition.extract.bind fun extract => extract m with
  | some fields => m.addFields fields
  | none => m

/-- The matches of a text rule in a unit. -/
def matchWith (p : RulePattern) (rule : TextRule) (text : String) :
    Except MatchError (List MatchInstance) :=
  (rule.findAll text p.maxMatches).map fun found => found.map p.extended

/-- The matches of the query in a unit, or of the learned rule where the query finds nothing. -/
def matchQuery (p : RulePattern) (query : String) (learned : Option TextRule) (text : String) :
    Attempt (List MatchInstance) :=
  match p.engine.run p.language query text with
  | .error i => .error i
  | .ok (.error e) => .ok (.error e)
  | .ok (.ok found) =>
      if p.maxMatches < found.length then .ok (.error (.matchLimit p.maxMatches))
      else
        match found, learned with
        | [], some rule => .ok (p.matchWith rule text)
        | found, _ => .ok (.ok (found.map p.extended))

/-- The matches in one unit: a block, a window or a whole source. -/
def matchUnit (p : RulePattern) (text : String) : Attempt (List MatchInstance) :=
  match p.body with
  | .textual rule => .ok (p.matchWith rule text)
  | .structural query learned => p.matchQuery query learned text

def matchBlocks (p : RulePattern) : List Block → Except Interruption (List MatchInstance)
  | [] => .ok []
  | b :: rest => do
      let found ← p.matchUnit b.content
      let more ← p.matchBlocks rest
      match found with
      | .ok found => return found.map (·.within b) ++ more
      | .error _ => return more

/-- The blocks of the context, or else those the source is cut into. -/
def blocksOf (p : RulePattern) (source : String) (context : Option MatchContext) : List Block :=
  match context with
  | some c =>
      if c.blocks.isEmpty then (p.cutter.map fun cut => cut c.language source).getD []
      else c.blocks
  | none => (p.cutter.map fun cut => cut p.language source).getD []

/-- What the rule in place finds, without cache and observation. -/
def collect (p : RulePattern) (source : String) (context : Option MatchContext) :
    Attempt (List MatchInstance) :=
  match p.matchBlocks (p.blocksOf source context) with
  | .error i => .error i
  | .ok [] => p.matchUnit source
  | .ok found => .ok (.ok found)

def observe (p : RulePattern) (success : Bool) (context : Option MatchContext)
    (cacheHit : Option Bool) (time : MatchTime) : RulePattern :=
  let o : Observation :=
    { success
      seconds := time.seconds
      contextKey := context.map MatchContext.key
      parser := some ((context.map MatchContext.parser).getD .unknown)
      name := some p.name
      cacheHit }
  { p with metrics := p.metrics.observe o time.now }

/-- The key of a call in the cache. -/
def callKey (p : RulePattern) (source : String) (context : Option MatchContext) : String :=
  MatchContext.cacheKey source ((context.map MatchContext.key).getD "") p.parserKind

/-- Asks the cache, if there is one. -/
def remembered (p : RulePattern) (key : String) (now : Instant) :
    Option (List MatchInstance) × RulePattern :=
  match p.cache with
  | none => (none, p)
  | some c =>
      let (found, c) := c.get key now
      (found, { p with cache := some c })

def remember (p : RulePattern) (key : String) (found : List MatchInstance) (now : Instant) :
    RulePattern :=
  { p with cache := p.cache.map fun c => c.put key found now }

/-- Matches a source: one observation, with the answer of the cache if it has one. -/
def run (p : RulePattern) (source : String) (context : Option MatchContext) (time : MatchTime) :
    Attempt (List MatchInstance) × RulePattern :=
  let key := p.callKey source context
  match p.remembered key time.now with
  | (some found, p) => (.ok (.ok found), p.observe (!found.isEmpty) context (some true) time)
  | (none, p) =>
      let hit := p.cache.map fun _ => false
      match p.collect source context with
      | .error i => (.error i, p)
      | .ok (.error e) => (.ok (.error e), p.observe false context hit time)
      | .ok (.ok found) =>
          (.ok (.ok found),
            (p.observe (!found.isEmpty) context hit time).remember key found time.now)

end RulePattern
end AdaptiveRules
