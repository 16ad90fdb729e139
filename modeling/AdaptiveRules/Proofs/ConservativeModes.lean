import AdaptiveRules.Proofs.AlikePatterns

/-!
# Adaptation and recovery are conservative

A plain pattern and an adaptive one that does not adapt by itself do the same.  An adaptive pattern
and a resilient one with the same thresholds do the same too, except that the second answers a failed
match with what it recovers.  Recovery leaves rule, metrics, cache and log alone, so it never changes
a later decision to adapt.
-/

namespace AdaptiveRules

/-! ### Matches that are not recovered -/

/-- A list without an instance that counts as recovered. -/
def NoneRecovered (found : List MatchInstance) : Prop := ∀ m ∈ found, m.recovered = false

/-- What the engine finds does not come from recovery, and is not marked so. -/
def QueryEngine.MarksNone (e : QueryEngine) : Prop :=
  ∀ language query text found, e.run language query text = .ok (.ok found) → NoneRecovered found

namespace RulePattern

/-- Neither the engine nor the cache gives recovered instances. -/
structure Unmarked (p : RulePattern) : Prop where
  engine : p.engine.MarksNone
  cached : ∀ c, p.cache = some c → c.Holds fun _ found => NoneRecovered found

variable {p : RulePattern} {found : List MatchInstance}

theorem noneRecovered_map {f : MatchInstance → MatchInstance}
    (hkeeps : ∀ m, (f m).recovered = m.recovered) (hfound : NoneRecovered found) :
    NoneRecovered (found.map f) := by
  intro m hm
  obtain ⟨m, hmem, rfl⟩ := List.mem_map.mp hm
  exact (hkeeps m).trans (hfound m hmem)

theorem recovered_extended (p : RulePattern) (m : MatchInstance) :
    (p.extended m).recovered = m.recovered := by
  unfold extended
  split <;> rfl

theorem noneRecovered_matchWith {rule : TextRule} {text : String}
    (hmatch : p.matchWith rule text = .ok found) : NoneRecovered found := by
  unfold matchWith TextRule.findAll at hmatch
  simp only at hmatch
  split at hmatch
  · cases hmatch
    refine noneRecovered_map p.recovered_extended ?_
    intro m hm
    obtain ⟨_, _, rfl⟩ := List.mem_map.mp hm
    rfl
  · cases hmatch

theorem noneRecovered_matchUnit (hengine : p.engine.MarksNone) {text : String}
    (hmatch : p.matchUnit text = .ok (.ok found)) : NoneRecovered found := by
  unfold matchUnit at hmatch
  split at hmatch
  · exact noneRecovered_matchWith (Except.ok.inj hmatch)
  · unfold matchQuery at hmatch
    split at hmatch
    · cases hmatch
    · cases hmatch
    · next list hrun =>
        split at hmatch
        · cases hmatch
        · split at hmatch
          · exact noneRecovered_matchWith (Except.ok.inj hmatch)
          · cases hmatch
            exact noneRecovered_map p.recovered_extended (hengine _ _ _ _ hrun)

theorem noneRecovered_matchBlocks (hengine : p.engine.MarksNone) {blocks : List Block}
    (hmatch : p.matchBlocks blocks = .ok found) : NoneRecovered found := by
  induction blocks generalizing found with
  | nil =>
      cases hmatch
      exact fun m hm => absurd hm List.not_mem_nil
  | cons b rest ih =>
      unfold matchBlocks at hmatch
      rcases hunit : p.matchUnit b.content with i | first
      · rw [hunit] at hmatch
        cases hmatch
      rcases hrest : p.matchBlocks rest with i | more
      · rw [hunit, hrest] at hmatch
        cases hmatch
      rw [hunit, hrest] at hmatch
      cases first with
      | error e =>
          cases hmatch
          exact ih hrest
      | ok first =>
          cases hmatch
          intro m hm
          rcases List.mem_append.mp hm with hm | hm
          · have hfirst := noneRecovered_matchUnit hengine hunit
            exact noneRecovered_map (f := fun m => m.within b) (fun _ => rfl) hfirst m hm
          · exact ih hrest m hm

theorem noneRecovered_collect (hengine : p.engine.MarksNone) {source : String}
    {context : Option MatchContext} (hcollect : p.collect source context = .ok (.ok found)) :
    NoneRecovered found := by
  unfold collect at hcollect
  split at hcollect
  · cases hcollect
  · exact noneRecovered_matchUnit hengine hcollect
  · next hblocks =>
      cases hcollect
      exact noneRecovered_matchBlocks hengine hblocks

theorem Unmarked.run (hunmarked : p.Unmarked) (source : String) (context : Option MatchContext)
    (time : MatchTime) :
    (∀ found, (p.run source context time).1 = .ok (.ok found) → NoneRecovered found) ∧
      (p.run source context time).2.Unmarked := by
  obtain ⟨hengine, hcached⟩ := hunmarked
  have hcollected : ∀ found, p.collect source context = .ok (.ok found) → NoneRecovered found :=
    fun _ hcollect => noneRecovered_collect hengine hcollect
  have hafter : (p.run source context time).2.engine.MarksNone := by
    have hsame : SameRule p (p.run source context time).2 := sameRule_run source context time
    rwa [hsame.engine]
  cases hcache : p.cache with
  | none =>
      obtain ⟨hanswer, hnone⟩ := run_uncached hcache source context time
      rw [hanswer]
      exact ⟨hcollected, hafter, fun c hc => by rw [hnone] at hc; cases hc⟩
  | some c =>
      have hkept := (hcached c hcache).get (p.callKey source context) time.now
      rcases run_cached hcache source context time with
        ⟨list, hget, hanswer, hcacheAfter⟩ | ⟨_, hanswer, hcacheAfter⟩
      · have hlist : NoneRecovered list := (hcached c hcache).of_get hget
        rw [hanswer]
        refine ⟨fun found hfound => by cases hfound; exact hlist, hafter, fun d hd => ?_⟩
        rw [hcacheAfter] at hd
        cases hd
        exact hkept
      · rw [hanswer]
        refine ⟨hcollected, hafter, fun d hd => ?_⟩
        rw [hcacheAfter] at hd
        cases hd
        rcases hcollect : p.collect source context with i | failure | found
        · exact hkept
        · exact hkept
        · exact hkept.put (hcollected found hcollect) time.now

theorem Unmarked.installed (hunmarked : p.Unmarked) (rule : String) : (p.installed rule).Unmarked := by
  rcases installed_cases p rule with heq | ⟨compiled, heq⟩
  · rwa [heq]
  · rw [heq]
    refine ⟨hunmarked.engine, fun d hd => ?_⟩
    obtain ⟨c, _, rfl⟩ := Option.map_eq_some_iff.mp hd
    exact MatchCache.holds_clear

end RulePattern

/-! ### Two patterns that are asked the same -/

/-- One call to two patterns, at the same time where entries of their caches expire. -/
inductive SameCall (ttl : Option Nat) : PatternOperation → PatternOperation → Prop
  | search (source : String) (context : Option MatchContext) {time others : MatchTime}
      (hnow : ttl ≠ none → others.now = time.now) :
      SameCall ttl (.search source context time) (.search source context others)
  | install (rule : String) : SameCall ttl (.install rule) (.install rule)
  | offer (variations : List String) : SameCall ttl (.offer variations) (.offer variations)

namespace Pattern

open RulePattern

/-- The answer of a search. -/
def answer? (p : Pattern) : PatternOperation → Option (Except Interruption (List MatchInstance))
  | .search source context time => some (p.matchSource source context time).answer
  | _ => none

/-- The answers of all searches in a run. -/
def returned : Pattern → List PatternOperation → List (Except Interruption (List MatchInstance))
  | _, [] => []
  | p, op :: rest => (p.answer? op).toList ++ (p.perform op).returned rest

/-- The second pattern is the first, a plain one, with an adaptation that is switched off. -/
structure Idles (p q : Pattern) : Prop where
  cores : p.core.Alike q.core
  plain : p.mode = .plain
  disabled : ∃ a, q.mode = .adaptive a ∧ a.enabled = false

/-- The second pattern is the first, an adaptive one, with recovery behind it. -/
structure Backs (p q : Pattern) : Prop where
  cores : p.core.Alike q.core
  modes : ∃ a b r, p.mode = .adaptive a ∧ q.mode = .resilient b r ∧ b.undated = a.undated

/-- An answer with recovery against the one without. -/
def Conserves (answer : Except Interruption (List MatchInstance)) :
    Except Interruption (List MatchInstance) → Prop
  | .ok found =>
      answer = .ok found ∧ NoneRecovered found ∨
        answer = .ok [] ∧ ∀ m ∈ found, m.recovered = true
  | .error i => answer = .error i ∨ answer = .ok []

variable {p q : Pattern} {op op' : PatternOperation} {ops ops' : List PatternOperation}

theorem ttl_readied (p : Pattern) (op : PatternOperation) : (p.readied op).ttl = p.core.ttl :=
  List.foldlRecOn (motive := fun core : RulePattern => core.ttl = p.core.ttl) (p.tries op)
    RulePattern.installed rfl fun core hcore rule _ => (ttl_installed core rule).trans hcore

theorem ttl_perform (p : Pattern) (op : PatternOperation) :
    (p.perform op).core.ttl = p.core.ttl := by
  have hready := ttl_readied p op
  rw [core_perform]
  cases op with
  | search source context time => exact (ttl_run ..).trans hready
  | _ => exact hready

/-! #### Adaptation that is switched off -/

theorem matchSource_disabled (core : RulePattern) {a : Adaptation} (henabled : a.enabled = false)
    (source : String) (context : Option MatchContext) (time : MatchTime) :
    (Pattern.adaptive core a).matchSource source context time =
      ⟨forgiven (core.run source context time).1, Pattern.adaptive (core.run source context time).2 a,
        []⟩ := by
  have hbefore : (Pattern.adaptive core a).beforeMatch context time.now =
      ⟨none, Pattern.adaptive core a, []⟩ := by
    cases context with
    | none => rfl
    | some c => simp [beforeMatch, Pattern.adaptive, PatternMode.adaptation?, henabled]
  unfold matchSource
  rw [hbefore]
  simp only [Pattern.adaptive]
  rcases (core.run source context time).1 with i | failure | found <;> rfl

theorem Idles.perform (hidles : p.Idles q) (hcall : SameCall p.core.ttl op op') :
    q.answer? op' = p.answer? op ∧ (p.perform op).Idles (q.perform op') := by
  obtain ⟨core, mode⟩ := p
  obtain ⟨other, others⟩ := q
  obtain ⟨hcores, hplain, a, hmode, henabled⟩ := hidles
  obtain rfl : mode = .plain := hplain
  obtain rfl : others = .adaptive a := hmode
  cases hcall with
  | search source context hnow =>
      obtain ⟨hanswer, hafter⟩ := hcores.run source context hnow
      have hsearch := matchSource_disabled other henabled source context
      have hplain := matchSource_plain core source context
      simp only [Pattern.plain] at hplain
      simp only [Pattern.adaptive] at hsearch
      simp only [answer?, Pattern.perform, hsearch, hplain]
      rw [hanswer]
      exact ⟨rfl, hafter, rfl, a, rfl, henabled⟩
  | install rule =>
      refine ⟨rfl, ?_, ?_, a, ?_, henabled⟩
      · simp only [Pattern.perform, core_installed]
        exact hcores.installed rule
      · exact mode_installed ..
      · exact mode_installed ..
  | offer variations => exact ⟨rfl, hcores, rfl, a.offer variations, rfl, henabled⟩

theorem Idles.performAll (hidles : p.Idles q) (hcalls : List.Forall₂ (SameCall p.core.ttl) ops ops') :
    q.returned ops' = p.returned ops ∧ (p.performAll ops).Idles (q.performAll ops') := by
  generalize hlives : p.core.ttl = lives at hcalls
  induction hcalls generalizing p q with
  | nil => exact ⟨rfl, hidles⟩
  | cons hcall _ ih =>
      obtain ⟨hanswer, hnext⟩ := hidles.perform (hlives ▸ hcall)
      obtain ⟨hrest, hend⟩ := ih hnext ((ttl_perform p _).trans hlives)
      exact ⟨by rw [returned, returned, hanswer, hrest], hend⟩

/-! #### Recovery -/

theorem Backs.exists_eq (hbacks : p.Backs q) :
    ∃ core other a b r, p = ⟨core, .adaptive a⟩ ∧ q = ⟨other, .resilient b r⟩ ∧
      core.Alike other ∧ b.undated = a.undated := by
  obtain ⟨core, mode⟩ := p
  obtain ⟨other, others⟩ := q
  obtain ⟨hcores, a, b, r, hp, hq, hlogs⟩ := hbacks
  obtain rfl : mode = .adaptive a := hp
  obtain rfl : others = .resilient b r := hq
  exact ⟨core, other, a, b, r, rfl, rfl, hcores, hlogs⟩

theorem Backs.beforeMatch (hbacks : p.Backs q) (context : Option MatchContext) (now later : Instant) :
    (p.beforeMatch context now).pattern.Backs (q.beforeMatch context later).pattern := by
  obtain ⟨core, other, a, b, r, rfl, rfl, hcores, hlogs⟩ := hbacks.exists_eq
  obtain ⟨hthresholds, henabled, _, _⟩ := Adaptation.mk.inj hlogs
  cases context with
  | none => exact ⟨hcores, a, b, r, rfl, rfl, hlogs⟩
  | some c =>
      have hbad : b.shouldAdapt other.metrics c = a.shouldAdapt core.metrics c := by
        rw [Adaptation.shouldAdapt_eq a hcores.counts c]
        unfold Adaptation.shouldAdapt
        rw [hthresholds]
      simp only [Pattern.beforeMatch, PatternMode.adaptation?]
      rw [henabled, hbad]
      split
      · obtain ⟨hafter, hadapted⟩ := Adaptation.adapt_alike hlogs hcores c now later
        exact ⟨hadapted, _, _, r, rfl, rfl, hafter⟩
      · exact ⟨hcores, a, b, r, rfl, rfl, hlogs⟩

/-- Recovery changes neither rule nor metrics nor cache, and marks what it finds. -/
theorem Backs.afterFailure (hbacks : p.Backs q) (failure : MatchError) (source : String) :
    Conserves (p.afterFailure failure source).answer (q.afterFailure failure source).answer ∧
      (p.afterFailure failure source).pattern.Backs (q.afterFailure failure source).pattern := by
  obtain ⟨core, other, a, b, r, rfl, rfl, hcores, hlogs⟩ := hbacks.exists_eq
  unfold Pattern.afterFailure
  simp only
  rcases MatchRecovery.recover other r.settings failure.kind source with i | e | found
  · exact ⟨Or.inr rfl, hcores, a, b, r, rfl, rfl, hlogs⟩
  · refine ⟨Or.inl ⟨rfl, ?_⟩, hcores, a, b, _, rfl, rfl, hlogs⟩
    exact fun m hm => absurd hm List.not_mem_nil
  · refine ⟨Or.inr ⟨rfl, ?_⟩, hcores, a, b, _, rfl, rfl, hlogs⟩
    intro m hm
    obtain ⟨_, _, rfl⟩ := List.mem_map.mp hm
    rfl

theorem unmarked_readied (hunmarked : p.core.Unmarked) (op : PatternOperation) :
    (p.readied op).Unmarked :=
  List.foldlRecOn (motive := RulePattern.Unmarked) (p.tries op) RulePattern.installed hunmarked
    fun _ hcore rule _ => hcore.installed rule

theorem unmarked_perform (hunmarked : p.core.Unmarked) {lives : Option Nat}
    (hcall : SameCall lives op op') : (p.perform op).core.Unmarked := by
  have hready := unmarked_readied hunmarked op
  rw [core_perform]
  cases hcall with
  | search source context hnow => exact (hready.run ..).2
  | install rule => exact hready
  | offer variations => exact hready

theorem Backs.search (hbacks : p.Backs q) (source : String) (context : Option MatchContext)
    {time others : MatchTime} (hnow : p.core.ttl ≠ none → others.now = time.now) :
    (p.core.Unmarked → Conserves (p.matchSource source context time).answer
        (q.matchSource source context others).answer) ∧
      (p.matchSource source context time).pattern.Backs
        (q.matchSource source context others).pattern := by
  have hbefore := hbacks.beforeMatch context time.now others.now
  have hready := core_beforeMatch p source context time
  have hlives : (p.beforeMatch context time.now).pattern.core.ttl = p.core.ttl := by
    rw [hready, ttl_readied]
  have hfound : p.core.Unmarked → ∀ found,
      ((p.beforeMatch context time.now).pattern.core.run source context time).1 = .ok (.ok found) →
        NoneRecovered found := by
    intro hunmarked
    rw [hready]
    exact ((unmarked_readied hunmarked _).run source context time).1
  obtain ⟨hanswer, hafter⟩ := hbefore.cores.run source context (hlives ▸ hnow)
  have hrun : Backs
      { (p.beforeMatch context time.now).pattern with
        core := ((p.beforeMatch context time.now).pattern.core.run source context time).2 }
      { (q.beforeMatch context others.now).pattern with
        core := ((q.beforeMatch context others.now).pattern.core.run source context others).2 } :=
    ⟨hafter, hbefore.modes⟩
  unfold matchSource
  simp only
  rw [hanswer]
  rcases hsearched :
      ((p.beforeMatch context time.now).pattern.core.run source context time).1 with i | failure | found
  · exact ⟨fun _ => Or.inl rfl, hrun⟩
  · obtain ⟨hconserves, hnext⟩ := hrun.afterFailure failure source
    exact ⟨fun _ => hconserves, hnext⟩
  · exact ⟨fun hunmarked => Or.inl ⟨rfl, hfound hunmarked found hsearched⟩, hrun⟩

theorem Backs.perform (hbacks : p.Backs q) (hcall : SameCall p.core.ttl op op') :
    (p.core.Unmarked →
        List.Forall₂ Conserves (p.answer? op).toList (q.answer? op').toList) ∧
      (p.perform op).Backs (q.perform op') := by
  cases hcall with
  | search source context hnow =>
      obtain ⟨hconserves, hnext⟩ := hbacks.search source context hnow
      exact ⟨fun hunmarked => .cons (hconserves hunmarked) .nil, hnext⟩
  | install rule =>
      obtain ⟨hcores, a, b, r, hp, hq, hlogs⟩ := hbacks
      refine ⟨fun _ => .nil, ?_, a, b, r, (mode_installed ..).trans hp, (mode_installed ..).trans hq,
        hlogs⟩
      simp only [Pattern.perform, core_installed]
      exact hcores.installed rule
  | offer variations =>
      obtain ⟨core, other, a, b, r, rfl, rfl, hcores, hlogs⟩ := hbacks.exists_eq
      refine ⟨fun _ => .nil, hcores, a.offer variations, b.offer variations, r, rfl, rfl, ?_⟩
      obtain ⟨hthresholds, henabled, hvariations, hrecords⟩ := Adaptation.mk.inj hlogs
      simp only [Adaptation.undated, Adaptation.offer, hthresholds, henabled, hvariations, hrecords]

theorem Backs.performAll (hbacks : p.Backs q)
    (hcalls : List.Forall₂ (SameCall p.core.ttl) ops ops') :
    (p.core.Unmarked → List.Forall₂ Conserves (p.returned ops) (q.returned ops')) ∧
      (p.performAll ops).Backs (q.performAll ops') := by
  generalize hlives : p.core.ttl = lives at hcalls
  induction hcalls generalizing p q with
  | nil => exact ⟨fun _ => .nil, hbacks⟩
  | cons hcall _ ih =>
      obtain ⟨hanswer, hnext⟩ := hbacks.perform (hlives ▸ hcall)
      obtain ⟨hrest, hend⟩ := ih hnext ((ttl_perform p _).trans hlives)
      refine ⟨fun hunmarked => ?_, hend⟩
      exact List.rel_append (hanswer hunmarked) (hrest (unmarked_perform hunmarked hcall))

def shortQuery : RulePattern where
  definition := .ofRule "words" "(word)"
  engine := { QueryEngine.none with
    run := fun _ _ text =>
      if 4 < text.length then .ok (.error ⟨"parse error"⟩)
      else .ok (.ok (LiteralSearch.lowercaseRuns text)) }
  body := .structural "(word)" none
  cutter := none
  maxMatches := standardMaxMatches
  metrics := .empty ⟨0, 0⟩
  cache := some (.ofCapacity 2 none)

theorem noneRecovered_lowercaseRuns (text : String) :
    NoneRecovered (LiteralSearch.lowercaseRuns text) := by
  unfold LiteralSearch.lowercaseRuns
  generalize text.toList = cs, 0 = pos, [] = taken
  induction cs generalizing pos taken with
  | nil =>
      unfold LiteralSearch.runsFrom
      split
      · exact fun m hm => absurd hm List.not_mem_nil
      · exact fun m hm => List.mem_singleton.mp hm ▸ rfl
  | cons c rest ih =>
      unfold LiteralSearch.runsFrom
      split_ifs
      · exact ih _ _
      · exact ih _ _
      · exact List.forall_mem_cons.mpr ⟨rfl, ih _ _⟩

theorem marksNone_shortQuery : shortQuery.engine.MarksNone := by
  intro language query text found hrun
  simp only [shortQuery] at hrun
  split at hrun
  · cases hrun
  · cases hrun
    exact noneRecovered_lowercaseRuns text

end Pattern
end AdaptiveRules
