import AdaptiveRules.Proofs.ConservativeModes
import AdaptiveRules.Proofs.ContextKeys

/-!
# What the metrics record of the calls

A call is observed once it has an outcome, be it a failure, and before anything is done to recover
from that; a call that is interrupted leaves no trace in the metrics.  So the counters are a function
of the calls in the order they were made, and no operation that is not a call touches them.
-/

namespace AdaptiveRules

/-- A match that was asked for: its context, and what the rule in place made of it before any
recovery. -/
structure MatchCall where
  context : Option MatchContext
  outcome : Attempt (List MatchInstance)

namespace MatchCall

def isConcluded (c : MatchCall) : Bool := c.outcome.isOk

/-- The rule found something. -/
def success (c : MatchCall) : Bool :=
  match c.outcome with
  | .ok (.ok found) => !found.isEmpty
  | _ => false

/-- The parser of the context; unknown where there is none. -/
def parser (c : MatchCall) : ParserKind := (c.context.map MatchContext.parser).getD .unknown

def isAt (key : String) (c : MatchCall) : Bool := c.context.map MatchContext.key == some key

def isBy (kind : ParserKind) (c : MatchCall) : Bool := c.parser == kind

/-- How many calls there are and how many of them were a success; nothing if there are none. -/
def tally (calls : List MatchCall) : Option (Nat × Nat) :=
  if calls.isEmpty then none else some (calls.length, calls.countP success)

def observation (c : MatchCall) (name : String) (cacheHit : Option Bool) (seconds : Float) :
    Observation where
  success := c.success
  seconds := seconds
  contextKey := c.context.map MatchContext.key
  parser := some c.parser
  name := some name
  cacheHit := cacheHit

theorem tally_eq_none_iff {calls : List MatchCall} : tally calls = none ↔ calls = [] := by
  cases calls <;> simp [tally]

theorem of_tally {calls : List MatchCall} {total successes : Nat}
    (htally : tally calls = some (total, successes)) :
    calls ≠ [] ∧ total = calls.length ∧ successes = calls.countP success := by
  cases calls with
  | nil => cases htally
  | cons first rest =>
      obtain ⟨htotal, hsuccesses⟩ := Prod.mk.inj (Option.some.inj htally)
      exact ⟨List.cons_ne_nil first rest, htotal.symm, hsuccesses.symm⟩

theorem tally_concat (calls : List MatchCall) (c : MatchCall) :
    tally (calls ++ [c]) =
      some (((tally calls).getD (0, 0)).1 + 1,
        ((tally calls).getD (0, 0)).2 + if c.success then 1 else 0) := by
  cases calls with
  | nil => simp [tally, List.countP_cons]
  | cons first rest =>
      rw [tally, tally, List.length_append, List.countP_append, List.countP_singleton]
      rfl

end MatchCall

/-! ### Dictionaries of counters -/

namespace UsageMetrics

theorem get?_alterAt {α : Type} (d : Dict α) (name : Option String) (f : Option α → α)
    (k : String) :
    (alterAt d name f).get? k = if name = some k then some (f (d.get? k)) else d.get? k := by
  cases name with
  | none => rfl
  | some j =>
      unfold alterAt Dict.alter
      rw [Dict.get?_insert]
      by_cases hname : k = j
      · rw [if_pos hname, if_pos (by rw [hname]), hname]
      · rw [if_neg hname, if_neg fun heq => hname (Option.some.inj heq).symm]

theorem forall_values_alterAt {α : Type} {d : Dict α} {P : α → Prop} (start : α) (count : α → α)
    (hd : ∀ u ∈ d.values, P u) (hstart : P start) (hcount : ∀ u, P u → P (count u))
    (name : Option String) :
    ∀ u ∈ (alterAt d name fun u => count (u.getD start)).values, P u := by
  cases name with
  | none => exact hd
  | some k =>
      intro u hu
      obtain ⟨e, he, rfl⟩ := List.mem_map.mp hu
      rcases mem_putAscending he with rfl | he
      · apply hcount
        cases hold : d.get? k with
        | none => exact hstart
        | some v =>
            obtain ⟨before, after, hsplit, _⟩ := List.lookup_eq_some_iff.mp hold
            exact hd v (List.mem_map.mpr ⟨(k, v), by rw [hsplit]; simp, rfl⟩)
      · exact hd e.2 (List.mem_map_of_mem he)

theorem sum_values_alterAt {α : Type} {d : Dict α} {size : α → Nat} (start : α) (count : α → α)
    (hstart : size start = 0) (hcount : ∀ u, size (count u) = size u + 1) (k : String) :
    ((alterAt d (some k) fun u => count (u.getD start)).values.map size).sum =
      (d.values.map size).sum + 1 := by
  have hsum := Dict.sum_values_insert size d k (count ((d.get? k).getD start))
  rw [hcount, ← Option.getD_map size, hstart, ← Nat.add_assoc] at hsum
  show ((d.insert k (count ((d.get? k).getD start))).values.map size).sum = _
  omega

end UsageMetrics

/-! ### What one observation adds -/

namespace UsageMetrics

open MatchCall

/-- The metrics are those of a pattern with the name after the calls. -/
structure Records (name : String) (calls : List MatchCall) (m : UsageMetrics) : Prop where
  totalUses : m.totalUses = calls.length
  successes : m.successes = calls.countP success
  failures : m.failures = calls.countP (!·.success)
  context : ∀ key, (m.context? key).map ContextUse.counts = tally (calls.filter (isAt key))
  parser : ∀ kind, (m.parser? kind).map (fun u => (u.total, u.successful)) =
    tally (calls.filter (isBy kind))
  contextTotal : (m.contexts.values.map ContextUse.uses).sum = calls.countP (·.context.isSome)
  parserTotal : (m.parsers.values.map ParserUse.total).sum = calls.length
  contextParts : ∀ u ∈ m.contexts.values, u.successes ≤ u.uses
  parserParts : ∀ u ∈ m.parsers.values, u.total = u.successful + u.failed
  matchCount : (m.matchCounts.get? name).getD 0 = calls.length
  times : m.times.length = min calls.length keptSamples
  timings : ((m.timings.get? name).getD []).length = min calls.length keptSamples

theorem records_empty (name : String) (created : Instant) : Records name [] (.empty created) := by
  constructor <;> intros <;> first | rfl | simp_all [empty, Dict.values, Dict.empty]

theorem length_addSample (times : List Float) (seconds : Float) {count : Nat}
    (htimes : times.length = min count keptSamples) :
    (addSample times seconds).length = min (count + 1) keptSamples := by
  unfold addSample
  split
  next hfull =>
    rw [List.length_append, List.length_drop, List.length_singleton]
    have hkept : 0 < keptSamples := by decide
    omega
  next hroom =>
    rw [List.length_append, List.length_singleton]
    omega

variable {name : String} {calls : List MatchCall} {m : UsageMetrics}

/-- A counter under a name goes with the calls that are counted there. -/
theorem tally_alterAt {α : Type} {d : Dict α} {read : α → Nat × Nat} (start : α) (count : α → α)
    {counted : MatchCall → Bool} {label : Option String} {k : String} {c : MatchCall}
    (hlabel : label = some k ↔ counted c = true)
    (hbefore : (d.get? k).map read = tally (calls.filter counted)) (hstart : read start = (0, 0))
    (hcount : ∀ u, read (count u) = ((read u).1 + 1, (read u).2 + if c.success then 1 else 0)) :
    ((alterAt d label fun u => count (u.getD start)).get? k).map read =
      tally ((calls ++ [c]).filter counted) := by
  rw [get?_alterAt, List.filter_append]
  by_cases hcounted : counted c = true
  · rw [if_pos (hlabel.mpr hcounted), List.filter_cons_of_pos hcounted, List.filter_nil,
      tally_concat, ← hbefore, Option.map_some, hcount, ← Option.getD_map read, hstart]
  · rw [if_neg fun heq => hcounted (hlabel.mp heq), List.filter_cons_of_neg hcounted,
      List.filter_nil, List.append_nil]
    exact hbefore

theorem Records.observe (hm : Records name calls m) (c : MatchCall) (hit : Option Bool)
    (seconds : Float) (now : Instant) :
    Records name (calls ++ [c]) (m.observe (c.observation name hit seconds) now) where
  totalUses := by
    rw [List.length_append, List.length_singleton, ← hm.totalUses]
    rfl
  successes := by
    rw [List.countP_append, ← hm.successes, List.countP_singleton]
    rfl
  failures := by
    rw [List.countP_append, ← hm.failures, List.countP_singleton]
    show m.failures + (if c.success then 0 else 1) = _
    cases c.success <;> rfl
  context key :=
    tally_alterAt ContextUse.none (fun u => u.observe (c.observation name hit seconds)) beq_iff_eq.symm
      (hm.context key) rfl fun u => rfl
  parser kind := by
    refine tally_alterAt ParserUse.none (fun u => u.observe (c.observation name hit seconds)) ?_
      (hm.parser kind) rfl fun u => rfl
    rw [observation, Option.map_some, Option.some.injEq, ParserKind.name_injective.eq_iff]
    exact beq_iff_eq.symm
  contextTotal := by
    rw [List.countP_append, ← hm.contextTotal, List.countP_singleton]
    simp only [UsageMetrics.observe, observation]
    cases c.context with
    | none => rfl
    | some context =>
        exact sum_values_alterAt ContextUse.none (fun u => u.observe (c.observation name hit seconds)) rfl
          (fun u => rfl) context.key
  parserTotal := by
    rw [List.length_append, ← hm.parserTotal]
    exact sum_values_alterAt ParserUse.none (fun u => u.observe (c.observation name hit seconds)) rfl
      (fun u => rfl) c.parser.name
  contextParts := by
    refine forall_values_alterAt ContextUse.none (fun u => u.observe (c.observation name hit seconds))
      hm.contextParts (Nat.le_refl 0) (fun u hu => ?_) _
    show u.successes + (if c.success then 1 else 0) ≤ u.uses + 1
    split <;> omega
  parserParts := by
    refine forall_values_alterAt ParserUse.none (fun u => u.observe (c.observation name hit seconds))
      hm.parserParts rfl (fun u hu => ?_) _
    show u.total + 1 = u.successful + (if c.success then 1 else 0) +
      (u.failed + if c.success then 0 else 1)
    split <;> omega
  matchCount := by
    simp only [UsageMetrics.observe, observation, get?_alterAt, if_true, Option.getD_some,
      List.length_append, List.length_singleton, hm.matchCount]
  times := by
    rw [List.length_append, List.length_singleton]
    exact length_addSample m.times seconds hm.times
  timings := by
    simp only [UsageMetrics.observe, observation, get?_alterAt, if_true, Option.getD_some,
      List.length_append, List.length_singleton]
    exact length_addSample _ seconds hm.timings

end UsageMetrics

/-! ### What a match adds -/

namespace RulePattern

def cacheHit (p : RulePattern) (source : String) (context : Option MatchContext)
    (time : MatchTime) : Option Bool :=
  p.cache.map fun c => (c.get (p.callKey source context) time.now).1.isSome

def call (p : RulePattern) (source : String) (context : Option MatchContext) (time : MatchTime) :
    MatchCall :=
  ⟨context, (p.run source context time).1⟩

theorem metrics_run (p : RulePattern) (source : String) (context : Option MatchContext)
    (time : MatchTime) :
    (p.run source context time).2.metrics =
      if (p.call source context time).isConcluded then
        p.metrics.observe ((p.call source context time).observation p.name
          (p.cacheHit source context time) time.seconds) time.now
      else p.metrics := by
  unfold call cacheHit run remembered
  cases hcache : p.cache with
  | none =>
      simp only [hcache, Option.map_none]
      rcases p.collect source context with i | e | found <;> rfl
  | some c =>
      -- Looking a call up changes the cache, also when nothing is found there.
      cases hget : c.get (p.callKey source context) time.now with
      | mk answer d =>
          cases answer with
          | some found =>
              simp only [hget, Option.map_some]
              rfl
          | none =>
              have hcollect : collect { p with cache := some d } = p.collect :=
                SameRule.collect ⟨rfl, rfl, rfl, rfl, rfl⟩
              simp only [hget, hcollect, Option.map_some]
              rcases p.collect source context with i | e | found <;> rfl

end RulePattern

/-! ### Runs -/

namespace Pattern

open RulePattern

variable {p : Pattern} {op : PatternOperation} {ops : List PatternOperation}

/-- The call that an operation makes, with the rule that it has readied for it. -/
def call? (p : Pattern) : PatternOperation → Option MatchCall
  | .search source context time =>
      some ((p.readied (.search source context time)).call source context time)
  | _ => none

def calls : Pattern → List PatternOperation → List MatchCall
  | _, [] => []
  | p, op :: rest => (p.call? op).toList ++ (p.perform op).calls rest

/-- The calls of a run that were not interrupted. -/
def uses (p : Pattern) (ops : List PatternOperation) : List MatchCall :=
  (p.calls ops).filter MatchCall.isConcluded

theorem metrics_perform_of_call?_none (hnone : p.call? op = none) :
    (p.perform op).core.metrics = p.core.metrics := by
  have hready : (p.readied op).metrics = p.core.metrics :=
    metrics_foldl_installed p.core (p.tries op)
  rw [core_perform]
  cases op with
  | search source context time => cases hnone
  | _ => exact hready

theorem metrics_perform_search (p : Pattern) (source : String) (context : Option MatchContext)
    (time : MatchTime) :
    (p.perform (.search source context time)).core.metrics =
      let call := (p.readied (.search source context time)).call source context time
      if call.isConcluded then
        p.core.metrics.observe (call.observation p.name
          ((p.readied (.search source context time)).cacheHit source context time) time.seconds)
          time.now
      else p.core.metrics := by
  rw [core_perform]
  simp only
  rw [metrics_run]
  unfold readied
  rw [metrics_foldl_installed, name_foldl_installed]
  rfl

theorem records_perform {calls : List MatchCall}
    (hm : p.core.metrics.Records p.name calls) (op : PatternOperation) :
    (p.perform op).core.metrics.Records p.name
      (calls ++ (p.call? op).toList.filter MatchCall.isConcluded) := by
  cases hcall : p.call? op with
  | none =>
      rw [metrics_perform_of_call?_none hcall, Option.toList_none, List.filter_nil, List.append_nil]
      exact hm
  | some call =>
      cases op with
      | search source context time =>
          obtain rfl := Option.some.inj hcall
          rw [metrics_perform_search, Option.toList_some, List.filter_singleton]
          simp only
          cases hconcluded : (readied p (.search source context time)).call source context time
            |>.isConcluded with
          | true => exact hm.observe ..
          | false => simpa using hm
      | _ => cases hcall

/-- The metrics of a pattern are made of the calls that were not interrupted. -/
theorem records_performAll {before : List MatchCall}
    (hm : p.core.metrics.Records p.name before) (ops : List PatternOperation) :
    (p.performAll ops).core.metrics.Records p.name (before ++ p.uses ops) := by
  -- The calls before the run are kept general, since each step adds to them.
  induction ops generalizing p before with
  | nil => simpa [uses, calls, performAll] using hm
  | cons op rest ih =>
      have hnext := records_perform hm op
      rw [← name_perform p op] at hnext
      have hlast := ih hnext
      rw [name_perform, List.append_assoc] at hlast
      unfold uses calls
      rw [List.filter_append]
      exact hlast

end Pattern
end AdaptiveRules
