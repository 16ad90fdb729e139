import AdaptiveRules.Proofs.UsageHistory

/-!
# Counters that agree

A pattern counts its calls in the metrics, in total and by context, parser and name, and its cache
counts once more whether it could answer.  All of these go up together: with every call that has an
outcome each total goes up by one, and exactly one of the hits and misses does, in the metrics and in
the cache.  A call that is interrupted has asked the cache, so it shows there as a miss and nowhere
else; where the engines always answer there are no such calls.
-/

namespace AdaptiveRules

/-! ### A call and its cache -/

namespace RulePattern

variable {p : RulePattern} {c : MatchCache} {interrupted : Nat}

/-- The cache has counted what the metrics have, and so many calls that were interrupted. -/
structure CacheAgrees (interrupted : Nat) (c : MatchCache) (m : UsageMetrics) : Prop where
  hits : c.hits = m.cacheHits
  misses : c.misses = m.cacheMisses + interrupted
  total : m.cacheHits + m.cacheMisses = m.totalUses
  room : c.size ≤ c.capacity

theorem CacheAgrees.clear {m : UsageMetrics} (hagrees : CacheAgrees interrupted c m) :
    CacheAgrees interrupted c.clear m :=
  ⟨hagrees.hits, hagrees.misses, hagrees.total, Nat.zero_le _⟩

theorem exists_cacheAgrees_foldl_installed (hcache : p.cache = some c)
    (hagrees : CacheAgrees interrupted c p.metrics) (rules : List String) :
    ∃ d, (rules.foldl installed p).cache = some d ∧
      CacheAgrees interrupted d (rules.foldl installed p).metrics := by
  rw [metrics_foldl_installed]
  by_cases haccepted : ∃ rule ∈ rules, Installable rule
  · exact ⟨c.clear, by rw [cache_foldl_installed_of_accepted haccepted, hcache]; rfl, hagrees.clear⟩
  · have hrejected : ∀ rule ∈ rules, ¬ Installable rule :=
      fun rule hmem hrule => haccepted ⟨rule, hmem, hrule⟩
    exact ⟨c, by rw [foldl_installed_of_rejected hrejected, hcache], hagrees⟩

theorem counts_run (hcache : p.cache = some c) (source : String) (context : Option MatchContext)
    (time : MatchTime) :
    ∃ d, (p.run source context time).2.cache = some d ∧
      d.hits = c.hits + (if p.cacheHit source context time = some true then 1 else 0) ∧
      d.misses = c.misses + (if p.cacheHit source context time = some true then 0 else 1) ∧
      (c.size ≤ c.capacity → d.size ≤ d.capacity) := by
  have hhit : p.cacheHit source context time =
      some (c.get (p.callKey source context) time.now).1.isSome := by
    rw [cacheHit, hcache, Option.map_some]
  obtain ⟨hhits, hmisses⟩ := c.get_counts (p.callKey source context) time.now
  have hcapacity := c.capacity_get (p.callKey source context) time.now
  have hsize := c.size_get_le (p.callKey source context) time.now
  simp only [hhit, Option.some.injEq]
  rcases run_cached hcache source context time with ⟨found, _, _, hafter⟩ | ⟨_, _, hafter⟩
  · exact ⟨_, hafter, hhits, hmisses, fun hroom => hcapacity ▸ hsize.trans hroom⟩
  · refine ⟨_, hafter, ?_⟩
    rcases p.collect source context with i | e | found
    · exact ⟨hhits, hmisses, fun hroom => hcapacity ▸ hsize.trans hroom⟩
    · exact ⟨hhits, hmisses, fun hroom => hcapacity ▸ hsize.trans hroom⟩
    · exact ⟨hhits, hmisses, fun _ => MatchCache.size_put_le ..⟩

/-- A call that the cache answers is not interrupted. -/
theorem isConcluded_of_cacheHit {source : String} {context : Option MatchContext} {time : MatchTime}
    (hhit : p.cacheHit source context time = some true) :
    (p.call source context time).isConcluded = true := by
  obtain ⟨c, hcache, hfound⟩ := Option.map_eq_some_iff.mp hhit
  unfold call
  rcases run_cached hcache source context time with ⟨found, _, hanswer, _⟩ | ⟨hmissing, _⟩
  · rw [hanswer]
    rfl
  · rw [hmissing] at hfound
    cases hfound

theorem exists_cacheAgrees_run (hcache : p.cache = some c)
    (hagrees : CacheAgrees interrupted c p.metrics) (source : String)
    (context : Option MatchContext) (time : MatchTime) :
    ∃ d, (p.run source context time).2.cache = some d ∧
      CacheAgrees (interrupted + [p.call source context time].countP (!·.isConcluded)) d
        (p.run source context time).2.metrics := by
  obtain ⟨d, hafter, hhits, hmisses, hroom⟩ := counts_run hcache source context time
  obtain ⟨hsameHits, hsameMisses, htotal, hsmall⟩ := hagrees
  obtain ⟨hit, hhit⟩ : ∃ hit, p.cacheHit source context time = some hit :=
    ⟨_, by rw [cacheHit, hcache, Option.map_some]⟩
  refine ⟨d, hafter, ?_⟩
  rw [metrics_run, List.countP_singleton]
  -- The cache counts before the rule is tried, the metrics when there is an outcome.
  cases hconcluded : (p.call source context time).isConcluded with
  | true =>
      simp only [if_true, Bool.not_true, Bool.false_eq_true, if_false]
      rw [hhit] at hhits hmisses ⊢
      cases hit with
      | true =>
          simp only [if_true] at hhits hmisses
          refine ⟨?_, ?_, ?_, hroom hsmall⟩ <;>
            simp [UsageMetrics.observe, MatchCall.observation] <;> omega
      | false =>
          simp only [Option.some.injEq, Bool.false_eq_true, if_false] at hhits hmisses
          refine ⟨?_, ?_, ?_, hroom hsmall⟩ <;>
            simp [UsageMetrics.observe, MatchCall.observation] <;> omega
  | false =>
      have hmiss : p.cacheHit source context time ≠ some true := by
        intro hanswered
        rw [isConcluded_of_cacheHit hanswered] at hconcluded
        cases hconcluded
      rw [if_neg hmiss] at hhits hmisses
      simp only [Bool.false_eq_true, if_false, Bool.not_false, if_true]
      exact ⟨by omega, by omega, htotal, hroom hsmall⟩

end RulePattern

/-! ### Engines that answer -/

/-- The engine answers every query, be it with a failure. -/
def QueryEngine.Answers (engine : QueryEngine) : Prop :=
  ∀ language query text, ∃ outcome, engine.run language query text = .ok outcome

namespace RulePattern

variable {p : RulePattern}

theorem exists_matchUnit (hanswers : p.engine.Answers) (text : String) :
    ∃ outcome, p.matchUnit text = .ok outcome := by
  unfold matchUnit
  cases p.body with
  | textual rule => exact ⟨_, rfl⟩
  | structural query learned =>
      simp only [matchQuery]
      obtain ⟨outcome, hrun⟩ := hanswers p.language query text
      rw [hrun]
      rcases outcome with e | found
      · exact ⟨_, rfl⟩
      · simp only
        split
        · exact ⟨_, rfl⟩
        · split <;> exact ⟨_, rfl⟩

theorem exists_matchBlocks (hanswers : p.engine.Answers) (blocks : List Block) :
    ∃ found, p.matchBlocks blocks = .ok found := by
  induction blocks with
  | nil => exact ⟨[], rfl⟩
  | cons b rest ih =>
      obtain ⟨outcome, hunit⟩ := exists_matchUnit hanswers b.content
      obtain ⟨more, hrest⟩ := ih
      unfold matchBlocks
      rw [hunit, hrest]
      rcases outcome with e | found
      · exact ⟨more, rfl⟩
      · exact ⟨_, rfl⟩

theorem exists_collect (hanswers : p.engine.Answers) (source : String)
    (context : Option MatchContext) : ∃ outcome, p.collect source context = .ok outcome := by
  obtain ⟨found, hblocks⟩ := exists_matchBlocks hanswers (p.blocksOf source context)
  unfold collect
  rw [hblocks]
  cases found with
  | nil => exact exists_matchUnit hanswers source
  | cons m rest => exact ⟨_, rfl⟩

theorem isConcluded_of_answers (hanswers : p.engine.Answers) (source : String)
    (context : Option MatchContext) (time : MatchTime) :
    (p.call source context time).isConcluded = true := by
  have hanswer : (p.run source context time).1 = p.collect source context ∨
      ∃ found, (p.run source context time).1 = .ok found := by
    cases hcache : p.cache with
    | none => exact Or.inl (run_uncached hcache source context time).1
    | some c =>
        rcases run_cached hcache source context time with ⟨found, _, hanswer, _⟩ | ⟨_, hanswer, _⟩
        · exact Or.inr ⟨_, hanswer⟩
        · exact Or.inl hanswer
  obtain ⟨outcome, hcollect⟩ := exists_collect hanswers source context
  unfold call
  rcases hanswer with hanswer | ⟨found, hanswer⟩
  · rw [hanswer, hcollect]
    rfl
  · rw [hanswer]
    rfl

end RulePattern

/-! ### Runs -/

def PatternOperation.isSearch : PatternOperation → Bool
  | search .. => true
  | _ => false

namespace Pattern

open RulePattern

variable {p : Pattern} {ops : List PatternOperation}

theorem length_calls (p : Pattern) (ops : List PatternOperation) :
    (p.calls ops).length = ops.countP PatternOperation.isSearch := by
  induction ops generalizing p with
  | nil => rfl
  | cons op rest ih =>
      rw [calls, List.length_append, ih, List.countP_cons, Nat.add_comm]
      cases op <;> rfl

def interruptions (p : Pattern) (ops : List PatternOperation) : Nat :=
  (p.calls ops).countP (!·.isConcluded)

theorem length_uses (p : Pattern) (ops : List PatternOperation) :
    (p.uses ops).length + p.interruptions ops = ops.countP PatternOperation.isSearch := by
  rw [← length_calls p ops, uses, interruptions, ← List.countP_eq_length_filter,
    List.length_eq_countP_add_countP MatchCall.isConcluded]
  simp only [Bool.not_eq_true, Bool.decide_eq_false]

theorem engine_perform (p : Pattern) (op : PatternOperation) :
    (p.perform op).core.engine =
      match op with
      | .exchange engine => engine
      | _ => p.core.engine := by
  have hready : (p.readied op).engine = p.core.engine := engine_foldl_installed p.core (p.tries op)
  rw [core_perform]
  cases op with
  | search source context time => exact (sameRule_run source context time).engine.trans hready
  | exchange engine => rfl
  | _ => exact hready

theorem interruptions_of_answers (hanswers : p.core.engine.Answers)
    (hexchanged : ∀ engine, .exchange engine ∈ ops → engine.Answers) :
    p.interruptions ops = 0 := by
  induction ops generalizing p with
  | nil => rfl
  | cons op rest ih =>
      have hengine : (p.perform op).core.engine.Answers := by
        rw [engine_perform]
        cases op with
        | exchange engine => exact hexchanged engine List.mem_cons_self
        | _ => exact hanswers
      have hrest := ih hengine fun engine hmem => hexchanged engine (List.mem_cons_of_mem _ hmem)
      rw [interruptions, calls, List.countP_append]
      cases op with
      | search source context time =>
          have hready : (p.readied (.search source context time)).engine.Answers := by
            rw [readied, engine_foldl_installed]
            exact hanswers
          rw [call?, Option.toList_some, List.countP_singleton,
            isConcluded_of_answers hready source context time]
          exact (Nat.zero_add _).trans hrest
      | _ => exact (Nat.zero_add _).trans hrest

theorem exists_cacheAgrees_perform {c : MatchCache} {interrupted : Nat}
    (hcache : p.core.cache = some c) (hagrees : CacheAgrees interrupted c p.core.metrics)
    (op : PatternOperation) :
    ∃ d, (p.perform op).core.cache = some d ∧
      CacheAgrees (interrupted + (p.call? op).toList.countP (!·.isConcluded)) d
        (p.perform op).core.metrics := by
  obtain ⟨d, hready, hkept⟩ := exists_cacheAgrees_foldl_installed hcache hagrees (p.tries op)
  rw [core_perform]
  cases op with
  | search source context time => exact exists_cacheAgrees_run hready hkept source context time
  | _ => exact ⟨d, hready, hkept⟩

theorem exists_cacheAgrees_performAll {c : MatchCache} {interrupted : Nat}
    (hcache : p.core.cache = some c) (hagrees : CacheAgrees interrupted c p.core.metrics)
    (ops : List PatternOperation) :
    ∃ d, (p.performAll ops).core.cache = some d ∧
      CacheAgrees (interrupted + p.interruptions ops) d (p.performAll ops).core.metrics := by
  induction ops generalizing p c interrupted with
  | nil => exact ⟨c, hcache, hagrees⟩
  | cons op rest ih =>
      obtain ⟨d, hnext, hkept⟩ := exists_cacheAgrees_perform hcache hagrees op
      have hrest := ih hnext hkept
      rw [Nat.add_assoc] at hrest
      rw [interruptions, calls, List.countP_append]
      exact hrest

theorem cache_performAll_none (hcache : p.core.cache = none) (ops : List PatternOperation) :
    (p.performAll ops).core.cache = none := by
  refine List.foldlRecOn (motive := fun q : Pattern => q.core.cache = none) ops perform hcache ?_
  intro q hq op _
  have hready : (q.readied op).cache = none := cache_foldl_installed_none hq (q.tries op)
  rw [core_perform]
  cases op with
  | search source context time => exact (run_uncached hready source context time).2
  | _ => exact hready

/-- From a pattern that was never used, with a cache or without, all counters agree after any run.
Every call that has an outcome is one use; the successes and failures, the totals by parser, the
count of the name and the hits and misses each add up to the uses, the uses by context to those with
a context, and as many times are kept as there is room for.  A cache counts what the metrics count,
and a miss for each call that was interrupted; none is where the engines answer. -/
theorem counters_agree {created : Instant} (hfresh : p.core.metrics = .empty created)
    (hcache : ∀ c, p.core.cache = some c → ∃ capacity ttl, c = .ofCapacity capacity ttl)
    (ops : List PatternOperation) :
    let m := (p.performAll ops).core.metrics
    (m.totalUses + p.interruptions ops = ops.countP PatternOperation.isSearch ∧
        m.totalUses = m.successes + m.failures) ∧
      ((m.parsers.values.map ParserUse.total).sum = m.totalUses ∧
        ∀ u ∈ m.parsers.values, u.total = u.successful + u.failed) ∧
      ((m.contexts.values.map ContextUse.uses).sum = (p.uses ops).countP (·.context.isSome) ∧
        ∀ u ∈ m.contexts.values, u.successes ≤ u.uses) ∧
      (m.matchCounts.get? p.name).getD 0 = m.totalUses ∧
      m.times.length = min m.totalUses 1000 ∧
      ((p.performAll ops).core.cache.isSome = p.core.cache.isSome ∧
        ∀ c, (p.performAll ops).core.cache = some c →
          c.hits = m.cacheHits ∧ c.misses = m.cacheMisses + p.interruptions ops ∧
            m.cacheHits + m.cacheMisses = m.totalUses ∧ c.size ≤ c.capacity) ∧
      (p.core.engine.Answers → (∀ engine, .exchange engine ∈ ops → engine.Answers) →
        p.interruptions ops = 0) := by
  have hm : (p.performAll ops).core.metrics.Records p.name (p.uses ops) :=
    records_performAll (hfresh ▸ UsageMetrics.records_empty p.name created) ops
  refine ⟨⟨hm.totalUses ▸ length_uses p ops, ?_⟩, ⟨hm.parserTotal.trans hm.totalUses.symm,
    hm.parserParts⟩, ⟨hm.contextTotal, hm.contextParts⟩, hm.matchCount.trans hm.totalUses.symm,
    hm.totalUses ▸ hm.times, ?_, interruptions_of_answers⟩
  · rw [hm.totalUses, hm.successes, hm.failures,
      List.length_eq_countP_add_countP MatchCall.success]
    simp only [Bool.not_eq_true, Bool.decide_eq_false]
  · cases hheld : p.core.cache with
    | none =>
        rw [cache_performAll_none hheld ops]
        exact ⟨rfl, fun c hc => by cases hc⟩
    | some c =>
        obtain ⟨capacity, ttl, rfl⟩ := hcache c hheld
        have hagrees : CacheAgrees 0 (.ofCapacity capacity ttl) p.core.metrics := by
          rw [hfresh]
          exact ⟨rfl, rfl, rfl, Nat.zero_le _⟩
        obtain ⟨d, hafter, hkept⟩ := exists_cacheAgrees_performAll hheld hagrees ops
        rw [hafter]
        refine ⟨rfl, fun e he => ?_⟩
        obtain rfl := Option.some.inj he
        rw [Nat.zero_add] at hkept
        exact ⟨hkept.hits, hkept.misses, hkept.total, hkept.room⟩

/-- One call succeeds and is answered once more by the cache, and one fails. -/
theorem counters_agree_short :
    let p := Pattern.resilient shortQuery .standard ⟨4, 0, 2⟩
    let now : MatchTime := ⟨⟨0, 0⟩, 0⟩
    let run := [.search "Zab" none now, .search "Zab" none now, .search "ZabZcd" none now]
    let m := (p.performAll run).core.metrics
    (m.totalUses, m.successes, m.failures, m.cacheHits, m.cacheMisses) = (3, 2, 1, 1, 2) ∧
      p.interruptions run = 0 ∧ m.totalUses + p.interruptions run = 3 ∧
      ∃ c, (p.performAll run).core.cache = some c ∧ c.hits = m.cacheHits ∧
        c.misses = m.cacheMisses + p.interruptions run ∧ c.size ≤ c.capacity := by
  intro p now run m
  have hanswers : p.core.engine.Answers := by
    intro language query text
    by_cases hlong : 4 < text.length
    · exact ⟨_, if_pos hlong⟩
    · exact ⟨_, if_neg hlong⟩
  obtain ⟨⟨hcalls, _⟩, _, _, _, _, ⟨hsome, hcache⟩, hnone⟩ :=
    counters_agree (p := p) rfl (fun c hc => ⟨2, none, (Option.some.inj hc).symm⟩) run
  obtain ⟨c, hc⟩ : ∃ c, (p.performAll run).core.cache = some c := Option.isSome_iff_exists.mp hsome
  obtain ⟨hhits, hmisses, _, hroom⟩ := hcache c hc
  refine ⟨by decide +kernel, hnone hanswers ?_, hcalls, c, hc, hhits, hmisses, hroom⟩
  intro engine hmem
  simp [run] at hmem

end Pattern
end AdaptiveRules
