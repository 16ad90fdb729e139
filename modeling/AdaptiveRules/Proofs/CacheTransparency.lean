import AdaptiveRules.LiteralSearch
import AdaptiveRules.Pattern
import AdaptiveRules.Proofs.CacheEntries
import AdaptiveRules.Proofs.RuleApplication

/-!
# When a cache changes no answer

A plain pattern with a cache and the same pattern without one are asked the same.  The key of a call
does not say everything a match depends on: the blocks of the context are not part of it.  So the
answers agree for all runs exactly where contexts that share a key find the same in every source that
is asked for, whatever rules are installed on the way.  In one direction each entry of the cache is
what an earlier call with its key has found by the rule in place; in the other a call right after the
one that filled the cache shows the difference.
-/

namespace AdaptiveRules

inductive PatternCall
  | search (source : String) (context : Option MatchContext) (time : MatchTime)
  | install (rule : String)

/-- A call searches one of the sources in one of the contexts, or installs a rule. -/
def PatternCall.Concerns (sources : Set String) (contexts : Set (Option MatchContext)) :
    PatternCall → Prop
  | search source context _ => source ∈ sources ∧ context ∈ contexts
  | install _ => True

namespace RulePattern

/-- A failed match finds nothing. -/
def forgiven : Attempt (List MatchInstance) → Except Interruption (List MatchInstance)
  | .error i => .error i
  | .ok (.error _) => .ok []
  | .ok (.ok found) => .ok found

/-- The pattern with the rule installed, or as it was if that is not possible. -/
def installed (p : RulePattern) (rule : String) : RulePattern :=
  match p.install rule with
  | .ok q => q
  | .error _ => p

/-- Contexts that share a key find the same in every source. -/
def KeysSuffice (p : RulePattern) (sources : Set String) (contexts : Set (Option MatchContext)) :
    Prop :=
  ∀ source ∈ sources, ∀ c ∈ contexts, ∀ d ∈ contexts,
    MatchContext.keyOf c = MatchContext.keyOf d → ∀ found,
      p.collect source c = .ok (.ok found) → forgiven (p.collect source d) = .ok found

/-- Keys suffice where they tell the languages and the blocks. -/
theorem keysSuffice_of_blocks (p : RulePattern) (sources : Set String)
    {contexts : Set (Option MatchContext)}
    (hblocks : ∀ c ∈ contexts, ∀ d ∈ contexts, MatchContext.keyOf c = MatchContext.keyOf d →
      c.map (fun c => (c.language, c.blocks)) = d.map fun d => (d.language, d.blocks)) :
    p.KeysSuffice sources contexts := by
  intro source _ c hc d hd hkeys found hfound
  have hsame : p.blocksOf source c = p.blocksOf source d := by
    have hboth := hblocks c hc d hd hkeys
    cases c with
    | none =>
        cases d with
        | none => rfl
        | some d => simp at hboth
    | some c =>
        cases d with
        | none => simp at hboth
        | some d =>
            simp only [Option.map_some, Option.some.injEq, Prod.mk.injEq] at hboth
            simp only [blocksOf, hboth]
  have hcollect : p.collect source c = p.collect source d := by
    unfold collect
    rw [hsame]
  rw [← hcollect, hfound]
  rfl

theorem KeysSuffice.of_sameRule {p q : RulePattern} {sources : Set String}
    {contexts : Set (Option MatchContext)} (hsuffice : p.KeysSuffice sources contexts)
    (hsame : SameRule p q) : q.KeysSuffice sources contexts := by
  unfold KeysSuffice
  rwa [hsame.collect]

variable {p q : RulePattern} {c : MatchCache}

/-! ### Matches with and without a cache -/

theorem run_uncached (hcache : p.cache = none) (source : String) (context : Option MatchContext)
    (time : MatchTime) :
    (p.run source context time).1 = p.collect source context ∧
      (p.run source context time).2.cache = none := by
  unfold run remembered
  rw [hcache]
  simp only
  rcases p.collect source context with i | e | found <;> simp [remember, observe, hcache]

theorem run_cached (hcache : p.cache = some c) (source : String) (context : Option MatchContext)
    (time : MatchTime) :
    (∃ found, (c.get (p.callKey source context) time.now).1 = some found ∧
      (p.run source context time).1 = .ok (.ok found) ∧
      (p.run source context time).2.cache =
        some (c.get (p.callKey source context) time.now).2) ∨
    ((c.get (p.callKey source context) time.now).1 = none ∧
      (p.run source context time).1 = p.collect source context ∧
      (p.run source context time).2.cache = some
        (match p.collect source context with
        | .ok (.ok found) =>
            (c.get (p.callKey source context) time.now).2.put (p.callKey source context) found
              time.now
        | _ => (c.get (p.callKey source context) time.now).2)) := by
  have hcollect : ∀ d : MatchCache, collect { p with cache := some d } = p.collect :=
    fun _ => SameRule.collect ⟨rfl, rfl, rfl, rfl, rfl⟩
  unfold run remembered
  rw [hcache]
  simp only
  cases (c.get (p.callKey source context) time.now).1 with
  | some found => exact Or.inl ⟨found, rfl, rfl, rfl⟩
  | none =>
      right
      simp only [hcollect, true_and]
      rcases p.collect source context with i | e | found
      · exact ⟨rfl, rfl⟩
      · exact ⟨rfl, rfl⟩
      · exact ⟨rfl, rfl⟩

/-! ### Rules that are installed -/

theorem installed_cases (p : RulePattern) (rule : String) :
    p.installed rule = p ∨ ∃ compiled, p.installed rule =
      { p with body := p.body.install compiled, cache := p.cache.map MatchCache.clear } := by
  unfold installed install
  split
  · next q hq =>
      right
      split at hq
      · cases hq
      · split at hq
        · next compiled _ =>
            cases hq
            exact ⟨compiled, rfl⟩
        · cases hq
  · exact Or.inl rfl

theorem SameRule.installed (hsame : SameRule p q) (rule : String) :
    SameRule (p.installed rule) (q.installed rule) := by
  rw [hsame.eq_with]
  unfold RulePattern.installed install
  by_cases hblank : TextLines.isBlank rule = true
  · simp only [if_pos hblank]
    exact ⟨rfl, rfl, rfl, rfl, rfl⟩
  · simp only [if_neg hblank]
    cases TextRule.compile rule with
    | error e => exact ⟨rfl, rfl, rfl, rfl, rfl⟩
    | ok compiled => exact ⟨rfl, rfl, rfl, rfl, rfl⟩

theorem SameRule.foldl_installed (hsame : SameRule p q) (rules : List String) :
    SameRule (rules.foldl RulePattern.installed p) (rules.foldl RulePattern.installed q) := by
  induction rules generalizing p q with
  | nil => exact hsame
  | cons rule rest ih => exact ih (hsame.installed rule)

theorem cache_installed_none (hcache : p.cache = none) (rule : String) :
    (p.installed rule).cache = none := by
  rcases installed_cases p rule with heq | ⟨compiled, heq⟩
  · rw [heq, hcache]
  · rw [heq, hcache]
    rfl

theorem cache_foldl_installed_none (hcache : p.cache = none) (rules : List String) :
    (rules.foldl RulePattern.installed p).cache = none := by
  induction rules generalizing p with
  | nil => exact hcache
  | cons rule rest ih => exact ih (cache_installed_none hcache rule)

theorem cache_foldl_installed {capacity : Nat} {ttl : Option Nat}
    (hcache : p.cache = some (.ofCapacity capacity ttl)) (rules : List String) :
    (rules.foldl RulePattern.installed p).cache = some (.ofCapacity capacity ttl) := by
  induction rules generalizing p with
  | nil => exact hcache
  | cons rule rest ih =>
      apply ih
      rcases installed_cases p rule with heq | ⟨compiled, heq⟩
      · rw [heq, hcache]
      · rw [heq, hcache]
        rfl

end RulePattern

namespace Pattern

open RulePattern

def installed (p : Pattern) (rule : String) : Pattern :=
  match p.install rule with
  | .ok q => q
  | .error _ => p

def answers : Pattern → List PatternCall → List (Except Interruption (List MatchInstance))
  | _, [] => []
  | p, .search source context time :: rest =>
      (p.matchSource source context time).answer ::
        (p.matchSource source context time).pattern.answers rest
  | p, .install rule :: rest => (p.installed rule).answers rest

theorem matchSource_plain (p : RulePattern) (source : String) (context : Option MatchContext)
    (time : MatchTime) :
    (Pattern.plain p).matchSource source context time =
      ⟨forgiven (p.run source context time).1, Pattern.plain (p.run source context time).2, []⟩ := by
  simp only [matchSource, beforeMatch, Pattern.plain, PatternMode.adaptation?]
  rcases (p.run source context time).1 with i | e | found <;> rfl

theorem installed_plain (p : RulePattern) (rule : String) :
    (Pattern.plain p).installed rule = Pattern.plain (p.installed rule) := by
  unfold installed RulePattern.installed install
  simp only [Pattern.plain]
  cases p.install rule <;> rfl

theorem answers_installs (p : RulePattern) (rules : List String) (calls : List PatternCall) :
    (Pattern.plain p).answers (rules.map .install ++ calls) =
      (Pattern.plain (rules.foldl RulePattern.installed p)).answers calls := by
  induction rules generalizing p with
  | nil => rfl
  | cons rule rest ih =>
      simp only [List.map_cons, List.cons_append, answers, installed_plain, List.foldl_cons]
      exact ih _

theorem answers_search (p : RulePattern) (source : String) (context : Option MatchContext)
    (time : MatchTime) (calls : List PatternCall) :
    (Pattern.plain p).answers (.search source context time :: calls) =
      forgiven (p.run source context time).1 ::
        (Pattern.plain (p.run source context time).2).answers calls := by
  simp only [answers, matchSource_plain]

/-- Two patterns with one rule, of which one has no cache and the other keeps under each key what a
call with that key finds. -/
structure Mirrors (sources : Set String) (contexts : Set (Option MatchContext))
    (p q : RulePattern) : Prop where
  same : SameRule p q
  uncached : q.cache = none
  cached : ∃ c, p.cache = some c ∧ c.Holds fun key found =>
    ∃ source ∈ sources, ∃ context ∈ contexts,
      key = q.callKey source context ∧ q.collect source context = .ok (.ok found)

variable {sources : Set String} {contexts : Set (Option MatchContext)} {p q : RulePattern}

theorem Mirrors.installed (hmirrors : Mirrors sources contexts p q) (rule : String) :
    Mirrors sources contexts (p.installed rule) (q.installed rule) := by
  obtain ⟨hsame, huncached, c, hcached, hholds⟩ := hmirrors
  have hafter := hsame.installed rule
  refine ⟨hafter, cache_installed_none huncached rule, ?_⟩
  rcases installed_cases p rule with heq | ⟨compiled, heq⟩
  · have hq : SameRule q (q.installed rule) := hsame.symm.trans (by rwa [heq] at hafter)
    refine ⟨c, by rw [heq, hcached], ?_⟩
    rwa [hq.callKey, hq.collect]
  · refine ⟨c.clear, by rw [heq, hcached]; rfl, MatchCache.holds_clear⟩

/-- One search: the answers agree, and what the cache holds afterwards was found. -/
theorem Mirrors.search (hmirrors : Mirrors sources contexts p q)
    (hsha : Set.InjOn Sha256.hex sources) (hsuffice : q.KeysSuffice sources contexts)
    {source : String} (hsource : source ∈ sources) {context : Option MatchContext}
    (hcontext : context ∈ contexts) (time : MatchTime) :
    forgiven (p.run source context time).1 = forgiven (q.run source context time).1 ∧
      Mirrors sources contexts (p.run source context time).2 (q.run source context time).2 := by
  obtain ⟨hsame, huncached, c, hcached, hholds⟩ := hmirrors
  obtain ⟨hanswer, hnone⟩ := run_uncached huncached source context time
  have hp : SameRule p (p.run source context time).2 := sameRule_run ..
  have hq : SameRule q (q.run source context time).2 := sameRule_run ..
  have hkeep := hholds.get (q.callKey source context) time.now
  have hafter : SameRule (p.run source context time).2 (q.run source context time).2 :=
    hp.symm.trans (hsame.trans hq)
  rcases run_cached hcached source context time with
    ⟨found, hget, hfound, hcache⟩ | ⟨hget, hfound, hcache⟩
  · rw [← hsame.callKey] at hget hcache
    obtain ⟨other, hother, d, hd, hkey, hcollect⟩ := hholds.of_get hget
    obtain ⟨hdigest, hcontexts, _⟩ := (MatchContext.cacheKey_eq_iff ..).mp hkey.symm
    obtain rfl := hsha hother hsource hdigest
    constructor
    · rw [hfound, hanswer, hsuffice other hsource d hd context hcontext hcontexts found hcollect]
      rfl
    · refine ⟨hafter, hnone, _, hcache, ?_⟩
      rwa [hq.callKey, hq.collect]
  · rw [← hsame.callKey, ← hsame.collect] at hcache
    constructor
    · rw [hfound, hanswer, hsame.collect]
    · refine ⟨hafter, hnone, _, hcache, ?_⟩
      rw [hq.callKey, hq.collect]
      cases hcollect : q.collect source context with
      | error i => exact hkeep
      | ok outcome =>
          cases outcome with
          | error e => exact hkeep
          | ok found => exact hkeep.put ⟨source, hsource, context, hcontext, rfl, hcollect⟩ _

/-- A whole run: as long as keys suffice for every rule in place, the answers agree. -/
theorem Mirrors.answers_eq (hmirrors : Mirrors sources contexts p q)
    (hsha : Set.InjOn Sha256.hex sources)
    (hsuffice : ∀ rules : List String,
      (rules.foldl RulePattern.installed q).KeysSuffice sources contexts)
    {calls : List PatternCall} (hcalls : ∀ call ∈ calls, call.Concerns sources contexts) :
    (Pattern.plain p).answers calls = (Pattern.plain q).answers calls := by
  induction calls generalizing p q with
  | nil => rfl
  | cons call rest ih =>
      have hrest : ∀ call ∈ rest, call.Concerns sources contexts :=
        fun call hcall => hcalls call (List.mem_cons_of_mem _ hcall)
      cases call with
      | search source context time =>
          obtain ⟨hsource, hcontext⟩ := hcalls _ List.mem_cons_self
          obtain ⟨hanswer, hnext⟩ :=
            hmirrors.search hsha (hsuffice []) hsource hcontext time
          rw [answers_search, answers_search, hanswer, ih hnext _ hrest]
          intro rules
          exact (hsuffice rules).of_sameRule ((sameRule_run ..).foldl_installed rules)
      | install rule =>
          simp only [answers, installed_plain]
          exact ih (hmirrors.installed rule) (fun rules => hsuffice (rule :: rules)) hrest

/-- A call right after another one with its key is answered by what the first has found. -/
theorem answers_twice {capacity : Nat} (hcache : p.cache = some (.ofCapacity capacity none))
    {source : String} {c d : Option MatchContext}
    (hkeys : MatchContext.keyOf c = MatchContext.keyOf d) {found : List MatchInstance}
    (hfound : p.collect source c = .ok (.ok found)) (time : MatchTime) :
    (Pattern.plain p).answers [.search source c time, .search source d time] =
      [.ok found, .ok found] := by
  rcases run_cached hcache source c time with
    ⟨others, hget, _⟩ | ⟨_, hfirst, hkept⟩
  · exact absurd hget (by simp [MatchCache.get, MatchCache.find?, MatchCache.ofCapacity])
  rw [hfound] at hfirst
  simp only [hfound] at hkept
  have hsame : SameRule p (p.run source c time).2 := sameRule_run ..
  have hkey : (p.run source c time).2.callKey source d = p.callKey source c := by
    rw [hsame.callKey]
    exact (MatchContext.cacheKey_eq_iff ..).mpr ⟨rfl, hkeys.symm, rfl⟩
  have hremembered := MatchCache.get_put
    (c := ((MatchCache.ofCapacity capacity none).get (p.callKey source c) time.now).2)
    (le_max_right capacity 1) rfl (p.callKey source c) found time.now time.now
  have hsecond : ((p.run source c time).2.run source d time).1 = .ok (.ok found) := by
    rcases run_cached hkept source d time with
      ⟨others, hget, hothers, _⟩ | ⟨hget, _⟩
    · rw [hkey, hremembered] at hget
      cases hget
      exact hothers
    · rw [hkey, hremembered] at hget
      cases hget
  rw [answers_search, answers_search, hfirst, hsecond]
  rfl

theorem answers_twice_uncached (hcache : p.cache = none) (source : String)
    (c d : Option MatchContext) (time : MatchTime) :
    (Pattern.plain p).answers [.search source c time, .search source d time] =
      [forgiven (p.collect source c), forgiven (p.collect source d)] := by
  obtain ⟨hfirst, hnone⟩ := run_uncached hcache source c time
  obtain ⟨hsecond, _⟩ := run_uncached hnone source d time
  have hsame : SameRule p (p.run source c time).2 := sameRule_run ..
  rw [answers_search, answers_search, hfirst, hsecond, hsame.collect]
  rfl

/-- The answers with a cache of any capacity are those without one, in all runs on some sources and
contexts, exactly if the keys suffice there for every rule that can be installed. -/
theorem answers_cached_eq_uncached_iff (p : RulePattern) (capacity : Nat)
    (hsha : Set.InjOn Sha256.hex sources) :
    (∀ calls : List PatternCall, (∀ call ∈ calls, call.Concerns sources contexts) →
      (Pattern.plain { p with cache := some (.ofCapacity capacity none) }).answers calls =
        (Pattern.plain { p with cache := none }).answers calls) ↔
    ∀ rules : List String,
      (rules.foldl RulePattern.installed p).KeysSuffice sources contexts := by
  have hsame : SameRule { p with cache := some (.ofCapacity capacity none) }
      { p with cache := none } := ⟨rfl, rfl, rfl, rfl, rfl⟩
  have huncached : SameRule p { p with cache := none } := ⟨rfl, rfl, rfl, rfl, rfl⟩
  constructor
  · intro hanswers rules source hsource c hc d hd hkeys found hfound
    have htwice := hanswers (rules.map .install ++
      [.search source c ⟨⟨0, 0⟩, 0⟩, .search source d ⟨⟨0, 0⟩, 0⟩]) (by
        intro call hcall
        rcases List.mem_append.mp hcall with hcall | hcall
        · obtain ⟨rule, _, rfl⟩ := List.mem_map.mp hcall
          trivial
        · simp only [List.mem_cons, List.not_mem_nil, or_false] at hcall
          rcases hcall with rfl | rfl
          · exact ⟨hsource, hc⟩
          · exact ⟨hsource, hd⟩)
    have hbare := huncached.foldl_installed rules
    have hcached := hbare.trans (hsame.symm.foldl_installed rules)
    rw [answers_installs, answers_installs,
      answers_twice (cache_foldl_installed rfl rules) hkeys (by rw [hcached.collect, hfound]),
      answers_twice_uncached (cache_foldl_installed_none rfl rules), hbare.collect] at htwice
    simp only [List.cons.injEq, and_true] at htwice
    exact htwice.2.symm
  · intro hsuffice calls hcalls
    refine Mirrors.answers_eq
      ⟨hsame, rfl, _, rfl, MatchCache.holds_ofCapacity capacity none⟩ hsha ?_ hcalls
    intro rules
    exact (hsuffice rules).of_sameRule (huncached.foldl_installed rules)

/-! ### Two contexts that share a key -/

def runsQuery : RulePattern where
  definition := .ofRule "words" "(word)"
  engine := { QueryEngine.none with run _ _ text := .ok (.ok (LiteralSearch.lowercaseRuns text)) }
  body := .structural "(word)" none
  cutter := none
  maxMatches := standardMaxMatches
  metrics := .empty ⟨0, 0⟩
  cache := none

def paragraphContext (content : String) : MatchContext :=
  { MatchContext.ofFile "f.txt" "text" .custom with
    blocks := [⟨content, "paragraph", ⟨0, 0⟩, ⟨0, content.length⟩, 1⟩] }

/-- The paragraph of the first call is searched once more in the second. -/
theorem answers_cached_ne_uncached_paragraphs :
    ¬ ∀ calls : List PatternCall,
      (∀ call ∈ calls, call.Concerns {"ZZZ"}
        {some (paragraphContext "ab"), some (paragraphContext "bbbb")}) →
      (Pattern.plain { runsQuery with cache := some (.ofCapacity 1000 none) }).answers calls =
        (Pattern.plain { runsQuery with cache := none }).answers calls := by
  intro hanswers
  have hsuffice := (answers_cached_eq_uncached_iff runsQuery 1000
    (Set.injOn_singleton Sha256.hex "ZZZ")).mp hanswers []
  have hsecond := hsuffice "ZZZ" rfl (some (paragraphContext "ab")) (Or.inl rfl)
    (some (paragraphContext "bbbb")) (Or.inr rfl) rfl _ rfl
  have hstops := congrArg
    (fun answer => answer.toOption.map (List.map MatchInstance.stop)) hsecond
  revert hstops
  decide

end Pattern
end AdaptiveRules
