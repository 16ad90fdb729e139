import AdaptiveRules.Proofs.InsightsConsistency
import AdaptiveRules.Proofs.PatternRuns

/-!
# Patterns that are alike

When a pattern is asked and how long it takes to answer shows in its metrics and in its cache.  It
does not show in what it does.  Whether a pattern does badly in a context follows from what its
metrics count, and what a cache answers does not depend on when its entries were made unless they
expire.  So two patterns with the same rule, counts and cache contents answer alike and stay alike,
whatever is asked of both.
-/

namespace AdaptiveRules

/-! ### What the metrics count -/

/-- Metrics without the times. -/
structure UsageCounts where
  totalUses : Nat
  successes : Nat
  failures : Nat
  contexts : Dict (Nat × Nat)
  parsers : Dict (Nat × Nat × Nat)
  matchCounts : Dict Nat
  cacheHits : Nat
  cacheMisses : Nat

def ContextUse.counts (u : ContextUse) : Nat × Nat := (u.uses, u.successes)

def ParserUse.counts (u : ParserUse) : Nat × Nat × Nat := (u.total, u.successful, u.failed)

theorem ContextUse.counts_observe {u v : ContextUse} (hcounts : u.counts = v.counts)
    (o : Observation) (seconds : Float) :
    (u.observe o).counts = (v.observe { o with seconds }).counts := by
  obtain ⟨huses, hsuccesses⟩ := Prod.mk.inj hcounts
  simp only [counts, observe, huses, hsuccesses]

theorem ParserUse.counts_observe {u v : ParserUse} (hcounts : u.counts = v.counts)
    (o : Observation) (seconds : Float) :
    (u.observe o).counts = (v.observe { o with seconds }).counts := by
  obtain ⟨htotal, hparts⟩ := Prod.mk.inj hcounts
  obtain ⟨hsuccessful, hfailed⟩ := Prod.mk.inj hparts
  simp only [counts, observe, htotal, hsuccessful, hfailed]

namespace UsageMetrics

def counts (m : UsageMetrics) : UsageCounts where
  totalUses := m.totalUses
  successes := m.successes
  failures := m.failures
  contexts := m.contexts.map ContextUse.counts
  parsers := m.parsers.map ParserUse.counts
  matchCounts := m.matchCounts
  cacheHits := m.cacheHits
  cacheMisses := m.cacheMisses

variable {m n : UsageMetrics}

theorem map_alterAt {α β : Type} {d e : Dict α} {c : α → β} (hmap : d.map c = e.map c)
    {f g : α → α} (hfg : ∀ u v, c u = c v → c (f u) = c (g v)) (start : α) (name : Option String) :
    (alterAt d name fun u => f (u.getD start)).map c =
      (alterAt e name fun u => g (u.getD start)).map c := by
  cases name with
  | none => exact hmap
  | some k =>
      have hvalues : c ((d.get? k).getD start) = c ((e.get? k).getD start) := by
        rw [← Option.getD_map c, ← Option.getD_map c, ← Dict.get?_map, ← Dict.get?_map, hmap]
      simp only [alterAt, Dict.alter, Dict.map_insert, hmap, hfg _ _ hvalues]

/-- Counting goes by what is observed and not by how long it took. -/
theorem counts_observe (hcounts : m.counts = n.counts) (o : Observation) (seconds : Float)
    (now later : Instant) :
    (m.observe o now).counts = (n.observe { o with seconds } later).counts := by
  obtain ⟨htotal, hsuccesses, hfailures, hcontexts, hparsers, hmatches, hhits, hmisses⟩ :=
    UsageCounts.mk.inj hcounts
  have hcontext := map_alterAt hcontexts (fun u v huv => ContextUse.counts_observe huv o seconds)
    .none o.contextKey
  have hparser := map_alterAt hparsers (fun u v huv => ParserUse.counts_observe huv o seconds)
    .none (o.parser.map ParserKind.name)
  simp only [counts, UsageCounts.mk.injEq]
  refine ⟨?_, ?_, ?_, hcontext, hparser, ?_, ?_, ?_⟩
  · exact congrArg (· + 1) htotal
  · exact congrArg (· + if o.success then 1 else 0) hsuccesses
  · exact congrArg (· + if o.success then 0 else 1) hfailures
  · exact congrArg (fun d => alterAt d o.name fun n => n.getD 0 + 1) hmatches
  · exact congrArg (· + if o.cacheHit = some true then 1 else 0) hhits
  · exact congrArg (· + if o.cacheHit = some false then 1 else 0) hmisses

theorem map_context? (hcounts : m.counts = n.counts) (key : String) :
    (m.context? key).map ContextUse.counts = (n.context? key).map ContextUse.counts := by
  unfold context?
  rw [← Dict.get?_map, ← Dict.get?_map]
  exact congrArg (fun c : UsageCounts => c.contexts.get? key) hcounts

theorem map_parser? (hcounts : m.counts = n.counts) (kind : ParserKind) :
    (m.parser? kind).map ParserUse.counts = (n.parser? kind).map ParserUse.counts := by
  unfold parser?
  rw [← Dict.get?_map, ← Dict.get?_map]
  exact congrArg (fun c : UsageCounts => c.parsers.get? kind.name) hcounts

end UsageMetrics

namespace Adaptation

variable {m n : UsageMetrics}

/-- Whether a pattern does badly can be told from the counts. -/
theorem shouldAdapt_eq (a : Adaptation) (hcounts : m.counts = n.counts) (context : MatchContext) :
    a.shouldAdapt m context = a.shouldAdapt n context := by
  have hread : ∀ m : UsageMetrics, a.shouldAdapt m context =
      match (m.context? context.key).map ContextUse.counts,
        (m.parser? context.parser).map ParserUse.counts with
      | some (uses, successes), _ => fails a.thresholds uses (shareOf successes uses)
      | none, some (total, successful, _) => fails a.thresholds total (shareOf successful total)
      | none, none => false := by
    intro m
    unfold shouldAdapt
    cases m.context? context.key with
    | some u => rfl
    | none => cases m.parser? context.parser <;> rfl
  rw [hread, hread, UsageMetrics.map_context? hcounts, UsageMetrics.map_parser? hcounts]

theorem rateIn_eq (hcounts : m.counts = n.counts) (context : MatchContext) :
    rateIn m context = rateIn n context := by
  have hread : ∀ m : UsageMetrics, rateIn m context =
      match (m.context? context.key).map ContextUse.counts,
        (m.parser? context.parser).map ParserUse.counts with
      | some (uses, successes), _ => shareOf successes uses
      | none, some (total, successful, _) => shareOf successful total
      | none, none => 0 := by
    intro m
    unfold rateIn UsageMetrics.parserRate
    cases m.context? context.key with
    | some u => rfl
    | none => cases m.parser? context.parser <;> rfl
  rw [hread, hread, UsageMetrics.map_context? hcounts, UsageMetrics.map_parser? hcounts]

end Adaptation

/-! ### What a cache holds -/

namespace MatchCache

/-- The cache as if all entries had been made at one time. -/
def undated (c : MatchCache) : MatchCache :=
  { c with entries := c.entries.map fun e => { e with stored := ⟨0, 0⟩ } }

/-- Two caches that hold the same; entries that expire were made at the same times. -/
structure Alike (c d : MatchCache) : Prop where
  undated : d.undated = c.undated
  dated : c.ttl ≠ none → d = c

variable {c d : MatchCache}

theorem Alike.refl (c : MatchCache) : Alike c c := ⟨rfl, fun _ => rfl⟩

theorem Alike.ttl_eq (halike : Alike c d) : d.ttl = c.ttl := by
  show d.undated.ttl = c.undated.ttl
  rw [halike.undated]

theorem map_without (c : MatchCache) (key : String) :
    (c.without key).map (fun e : CacheEntry => { e with stored := ⟨0, 0⟩ }) =
      c.undated.without key := by
  simp only [without, undated, List.filter_map]
  rfl

theorem put_undated (c : MatchCache) (key : String) (found : List MatchInstance) (now : Instant) :
    (c.put key found now).undated = c.undated.put key found ⟨0, 0⟩ := by
  simp only [put, undated, List.map_take, List.map_cons, map_without]

theorem get_undated (hkept : c.ttl = none) (key : String) (now : Instant) :
    (c.get key now).1 = (c.undated.get key ⟨0, 0⟩).1 ∧
      (c.get key now).2.undated = (c.undated.get key ⟨0, 0⟩).2 := by
  have hfind : c.undated.find? key =
      (c.find? key).map fun e => { e with stored := ⟨0, 0⟩ } := by
    simp only [find?, undated, List.find?_map]
    rfl
  have hfresh : ∀ e t, c.isExpired e t = false := by
    intro e t
    rw [isExpired, hkept]
    rfl
  have hstill : ∀ e t, c.undated.isExpired e t = false := by
    intro e t
    rw [isExpired, show c.undated.ttl = none from hkept]
    rfl
  unfold get
  rw [hfind]
  cases c.find? key with
  | none => exact ⟨rfl, rfl⟩
  | some e =>
      simp only [Option.map_some, hfresh, hstill, Bool.false_eq_true, if_false, true_and]
      simp only [undated, List.map_cons, map_without]

theorem ttl_get (c : MatchCache) (key : String) (now : Instant) : (c.get key now).2.ttl = c.ttl := by
  unfold get
  split
  · rfl
  · split <;> rfl

theorem Alike.get (halike : Alike c d) (key : String) {now later : Instant}
    (hnow : c.ttl ≠ none → later = now) :
    (d.get key later).1 = (c.get key now).1 ∧ Alike (c.get key now).2 (d.get key later).2 := by
  by_cases hkept : c.ttl = none
  · obtain ⟨hanswer, hafter⟩ := get_undated hkept key now
    obtain ⟨hother, hothers⟩ := get_undated (halike.ttl_eq.trans hkept) key later
    rw [hanswer, hother, halike.undated]
    refine ⟨rfl, ?_, ?_⟩
    · rw [hafter, hothers, halike.undated]
    · rw [ttl_get]
      exact absurd hkept
  · rw [halike.dated hkept, hnow hkept]
    exact ⟨rfl, .refl _⟩

theorem Alike.put (halike : Alike c d) (key : String) (found : List MatchInstance)
    {now later : Instant} (hnow : c.ttl ≠ none → later = now) :
    Alike (c.put key found now) (d.put key found later) := by
  constructor
  · rw [put_undated, put_undated, halike.undated]
  · intro hexpires
    rw [halike.dated hexpires, hnow hexpires]

theorem Alike.clear (halike : Alike c d) : Alike c.clear d.clear := by
  obtain ⟨hundated, hdated⟩ := halike
  refine ⟨?_, fun hexpires => by rw [hdated hexpires]⟩
  simp only [MatchCache.undated, MatchCache.mk.injEq] at hundated
  obtain ⟨_, hcapacity, httl, hhits, hmisses⟩ := hundated
  simp only [MatchCache.clear, MatchCache.undated, hcapacity, httl, hhits, hmisses]

end MatchCache

namespace RulePattern

/-- Two patterns with the same rule, counts and cache contents. -/
structure Alike (p q : RulePattern) : Prop where
  rule : SameRule p q
  counts : p.metrics.counts = q.metrics.counts
  caches : Option.Rel MatchCache.Alike p.cache q.cache

/-- How long the entries of the cache live, if they expire. -/
def ttl (p : RulePattern) : Option Nat := p.cache.bind MatchCache.ttl

variable {p q : RulePattern}

theorem Alike.refl (p : RulePattern) : Alike p p := by
  refine ⟨.refl p, rfl, ?_⟩
  cases p.cache with
  | none => exact .none
  | some c => exact .some (.refl c)

theorem ttl_installed (p : RulePattern) (rule : String) : (p.installed rule).ttl = p.ttl := by
  unfold ttl
  rcases installed_cases p rule with heq | ⟨compiled, heq⟩
  · rw [heq]
  · rw [heq]
    cases p.cache <;> rfl

theorem ttl_remembered (p : RulePattern) (key : String) (now : Instant) :
    (p.remembered key now).2.ttl = p.ttl := by
  unfold remembered ttl
  cases hcache : p.cache with
  | none => simp only [hcache]
  | some c => exact MatchCache.ttl_get ..

theorem ttl_run (p : RulePattern) (source : String) (context : Option MatchContext)
    (time : MatchTime) : (p.run source context time).2.ttl = p.ttl := by
  unfold ttl
  cases hcache : p.cache with
  | none => rw [(run_uncached hcache source context time).2]
  | some c =>
      rcases run_cached hcache source context time with ⟨_, _, _, hget⟩ | ⟨_, _, hput⟩
      · rw [hget]
        exact MatchCache.ttl_get ..
      · rw [hput]
        rcases p.collect source context with i | failure | found <;> exact MatchCache.ttl_get ..

theorem Alike.install (halike : Alike p q) (rule : String) :
    (∃ after others, p.install rule = .ok after ∧ q.install rule = .ok others ∧
      Alike after others) ∨
    ∃ fault, p.install rule = .error fault ∧ q.install rule = .error fault := by
  obtain ⟨hrule, hcounts, hcaches⟩ := halike
  have hname : q.name = p.name := congrArg PatternDefinition.name hrule.definition
  have hcleared : Option.Rel MatchCache.Alike (p.cache.map MatchCache.clear)
      (q.cache.map MatchCache.clear) := by
    generalize p.cache = c, q.cache = d at hcaches ⊢
    cases hcaches with
    | none => exact .none
    | some hcache => exact .some hcache.clear
  unfold RulePattern.install
  split
  · exact Or.inr ⟨_, rfl, by rw [hname]⟩
  · cases TextRule.compile rule with
    | error e => exact Or.inr ⟨_, rfl, by rw [hname]⟩
    | ok compiled =>
        refine Or.inl ⟨_, _, rfl, rfl, ⟨?_, hcounts, hcleared⟩⟩
        exact ⟨hrule.definition, hrule.engine, by rw [hrule.body], hrule.cutter, hrule.maxMatches⟩

theorem Alike.installed (halike : Alike p q) (rule : String) :
    Alike (p.installed rule) (q.installed rule) := by
  unfold RulePattern.installed
  rcases halike.install rule with ⟨after, others, hafter, hothers, hboth⟩ | ⟨fault, hp, hq⟩
  · rw [hafter, hothers]
    exact hboth
  · rw [hp, hq]
    exact halike

theorem Alike.improve (halike : Alike p q) (variations : List String) :
    Alike (Adaptation.improve p variations).1 (Adaptation.improve q variations).1 ∧
      (Adaptation.improve q variations).2 = (Adaptation.improve p variations).2 := by
  unfold Adaptation.improve
  rw [halike.rule.textRule]
  cases RuleMerging.improved? variations p.textRule with
  | none => exact ⟨halike, rfl⟩
  | some rule =>
      rcases halike.install rule with ⟨after, others, hafter, hothers, hboth⟩ | ⟨fault, hp, hq⟩
      · simp only [hafter, hothers]
        exact ⟨hboth, trivial⟩
      · simp only [hp, hq]
        exact ⟨halike, trivial⟩

theorem Alike.remembered (halike : Alike p q) (key : String) {now later : Instant}
    (hnow : p.ttl ≠ none → later = now) :
    (q.remembered key later).1 = (p.remembered key now).1 ∧
      Alike (p.remembered key now).2 (q.remembered key later).2 := by
  obtain ⟨hrule, hcounts, hcaches⟩ := halike
  unfold ttl at hnow
  unfold RulePattern.remembered
  rcases hp : p.cache with _ | c <;> rcases hq : q.cache with _ | d <;> rw [hp, hq] at hcaches
  · exact ⟨rfl, hrule, hcounts, by rw [hp, hq]; exact .none⟩
  · cases hcaches
  · cases hcaches
  · rw [hp] at hnow
    cases hcaches with
    | some hcache =>
        obtain ⟨hanswer, hafter⟩ := hcache.get key hnow
        exact ⟨hanswer, ⟨hrule.definition, hrule.engine, hrule.body, hrule.cutter,
          hrule.maxMatches⟩, hcounts, .some hafter⟩

theorem Alike.observe (halike : Alike p q) (success : Bool) (context : Option MatchContext)
    (cacheHit : Option Bool) (time others : MatchTime) :
    Alike (p.observe success context cacheHit time) (q.observe success context cacheHit others) := by
  obtain ⟨hrule, hcounts, hcaches⟩ := halike
  have hname : q.name = p.name := congrArg PatternDefinition.name hrule.definition
  refine ⟨⟨hrule.definition, hrule.engine, hrule.body, hrule.cutter, hrule.maxMatches⟩, ?_, hcaches⟩
  unfold RulePattern.observe
  rw [hname]
  exact UsageMetrics.counts_observe hcounts _ others.seconds time.now others.now

theorem Alike.remember (halike : Alike p q) (key : String) (found : List MatchInstance)
    {now later : Instant} (hnow : p.ttl ≠ none → later = now) :
    Alike (p.remember key found now) (q.remember key found later) := by
  obtain ⟨hrule, hcounts, hcaches⟩ := halike
  refine ⟨⟨hrule.definition, hrule.engine, hrule.body, hrule.cutter, hrule.maxMatches⟩,
    hcounts, ?_⟩
  unfold ttl at hnow
  unfold RulePattern.remember
  rcases hp : p.cache with _ | c <;> rcases hq : q.cache with _ | d <;> rw [hp, hq] at hcaches
  · exact .none
  · cases hcaches
  · cases hcaches
  · rw [hp] at hnow
    cases hcaches with
    | some hcache => exact .some (hcache.put key found hnow)

/-- Patterns that are alike answer alike and stay alike. -/
theorem Alike.run (halike : Alike p q) (source : String) (context : Option MatchContext)
    {time others : MatchTime} (hnow : p.ttl ≠ none → others.now = time.now) :
    (q.run source context others).1 = (p.run source context time).1 ∧
      Alike (p.run source context time).2 (q.run source context others).2 := by
  obtain ⟨hanswer, hasked⟩ := halike.remembered (p.callKey source context) hnow
  have hkept : (p.remembered (p.callKey source context) time.now).2.ttl = p.ttl :=
    ttl_remembered ..
  cases hp : p.remembered (p.callKey source context) time.now with
  | mk found asked =>
  cases hq : q.remembered (p.callKey source context) others.now with
  | mk found' asked' =>
  rw [hp, hq] at hanswer hasked
  rw [hp] at hkept
  obtain rfl : found' = found := hanswer
  simp only at hasked hkept
  have hhit : (asked'.cache.map fun _ => false) = asked.cache.map fun _ => false := by
    have hcaches := hasked.caches
    generalize asked.cache = c, asked'.cache = d at hcaches ⊢
    cases hcaches <;> rfl
  cases found' with
  | some found =>
      simp only [RulePattern.run, halike.rule.callKey, hp, hq, true_and]
      exact hasked.observe ..
  | none =>
      simp only [RulePattern.run, halike.rule.callKey, hp, hq, hhit, hasked.rule.collect]
      rcases asked.collect source context with i | failure | found
      · exact ⟨rfl, hasked⟩
      · exact ⟨rfl, hasked.observe ..⟩
      · exact ⟨rfl, (hasked.observe ..).remember _ found fun hexpires => hnow (hkept ▸ hexpires)⟩

end RulePattern

namespace Adaptation

/-- The adaptation as if all records had been made at one time. -/
def undated (a : Adaptation) : Adaptation :=
  { a with records := a.records.map fun r => { r with time := ⟨0, 0⟩ } }

variable {a b : Adaptation} {p q : RulePattern}

theorem adapt_alike (hlogs : b.undated = a.undated) (halike : p.Alike q) (context : MatchContext)
    (now later : Instant) :
    (b.adapt q context later).1.undated = (a.adapt p context now).1.undated ∧
      (a.adapt p context now).2.1.Alike (b.adapt q context later).2.1 := by
  obtain ⟨hthresholds, henabled, hvariations, hrecords⟩ := Adaptation.mk.inj hlogs
  obtain ⟨hcores, hchanged⟩ := halike.improve a.variations
  have hrule := hcores.rule.textRule
  simp only [adapt, hvariations]
  refine ⟨?_, hcores⟩
  simp only [undated, List.map_append, hrecords, List.map_cons, List.map_nil, hthresholds, henabled,
    hrule, halike.rule.textRule, hchanged, rateIn_eq halike.counts]

end Adaptation

end AdaptiveRules
