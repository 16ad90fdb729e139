import AdaptiveRules.MatchRecovery

/-!
# What a match depends on

A pattern at work changes its metrics and its cache only.  What a unit, a source or a window gives
depends on the other parts, so patterns that have those in common find the same.
-/

namespace AdaptiveRules
namespace RulePattern

/-- Two patterns that differ in their metrics and caches at most. -/
structure SameRule (p q : RulePattern) : Prop where
  definition : q.definition = p.definition
  engine : q.engine = p.engine
  body : q.body = p.body
  cutter : q.cutter = p.cutter
  maxMatches : q.maxMatches = p.maxMatches

variable {p q r : RulePattern}

theorem SameRule.refl (p : RulePattern) : SameRule p p := ⟨rfl, rfl, rfl, rfl, rfl⟩

theorem SameRule.symm (hsame : SameRule p q) : SameRule q p :=
  ⟨hsame.definition.symm, hsame.engine.symm, hsame.body.symm, hsame.cutter.symm,
    hsame.maxMatches.symm⟩

theorem SameRule.trans (hpq : SameRule p q) (hqr : SameRule q r) : SameRule p r :=
  ⟨hqr.definition.trans hpq.definition, hqr.engine.trans hpq.engine, hqr.body.trans hpq.body,
    hqr.cutter.trans hpq.cutter, hqr.maxMatches.trans hpq.maxMatches⟩

/-- The parts in common make a pattern whatever its metrics and its cache. -/
theorem SameRule.eq_with (hsame : SameRule p q) :
    q = { p with metrics := q.metrics, cache := q.cache } := by
  obtain ⟨hdefinition, hengine, hbody, hcutter, hmax⟩ := hsame
  cases q
  simp only at hdefinition hengine hbody hcutter hmax
  simp only [hdefinition, hengine, hbody, hcutter, hmax]

theorem SameRule.textRule (hsame : SameRule p q) : q.textRule = p.textRule := by
  rw [hsame.eq_with]
  rfl

theorem SameRule.callKey (hsame : SameRule p q) : q.callKey = p.callKey := by
  rw [hsame.eq_with]
  rfl

theorem SameRule.blocksOf (hsame : SameRule p q) : q.blocksOf = p.blocksOf := by
  rw [hsame.eq_with]
  rfl

theorem SameRule.matchUnit (hsame : SameRule p q) : q.matchUnit = p.matchUnit := by
  rw [hsame.eq_with]
  rfl

theorem SameRule.matchBlocks (hsame : SameRule p q) : q.matchBlocks = p.matchBlocks := by
  funext blocks
  induction blocks with
  | nil => rfl
  | cons b rest ih =>
      unfold RulePattern.matchBlocks
      rw [hsame.matchUnit, ih]

theorem SameRule.collect (hsame : SameRule p q) : q.collect = p.collect := by
  funext source context
  unfold RulePattern.collect
  rw [hsame.blocksOf, hsame.matchBlocks, hsame.matchUnit]

theorem SameRule.matchWindows (hsame : SameRule p q) :
    MatchRecovery.matchWindows q = MatchRecovery.matchWindows p := by
  funext before ws
  induction ws generalizing before with
  | nil => rfl
  | cons w rest ih =>
      unfold MatchRecovery.matchWindows
      rw [hsame.matchUnit, ih]

theorem SameRule.byWindows (hsame : SameRule p q) (s : RecoverySettings) (source : String) :
    MatchRecovery.byWindows q s source = MatchRecovery.byWindows p s source := by
  have hattempts : ∀ more size last,
      MatchRecovery.attempts q s.overlap source more size last =
        MatchRecovery.attempts p s.overlap source more size last := by
    intro more
    induction more with
    | zero => intro size last; rfl
    | succ more ih =>
        intro size last
        unfold MatchRecovery.attempts
        rw [hsame.matchWindows]
        simp only [ih]
  exact hattempts _ _ _

/-! ### A match keeps the rule -/

theorem sameRule_observe (success : Bool) (context : Option MatchContext)
    (cacheHit : Option Bool) (time : MatchTime) :
    SameRule p (p.observe success context cacheHit time) := ⟨rfl, rfl, rfl, rfl, rfl⟩

theorem sameRule_remember (key : String) (found : List MatchInstance) (now : Instant) :
    SameRule p (p.remember key found now) := ⟨rfl, rfl, rfl, rfl, rfl⟩

theorem sameRule_remembered (key : String) (now : Instant) :
    SameRule p (p.remembered key now).2 := by
  unfold remembered
  cases p.cache with
  | none => exact SameRule.refl p
  | some c => exact ⟨rfl, rfl, rfl, rfl, rfl⟩

theorem sameRule_run (source : String) (context : Option MatchContext) (time : MatchTime) :
    SameRule p (p.run source context time).2 := by
  have hasked : SameRule p _ := sameRule_remembered (p.callKey source context) time.now
  cases hanswer : p.remembered (p.callKey source context) time.now with
  | mk found q =>
      rw [hanswer] at hasked
      cases found with
      | some found =>
          simp only [run, hanswer]
          exact hasked.trans (sameRule_observe ..)
      | none =>
          simp only [run, hanswer]
          rcases q.collect source context with i | e | found
          · exact hasked
          · exact hasked.trans (sameRule_observe ..)
          · exact (hasked.trans (sameRule_observe ..)).trans (sameRule_remember ..)

end RulePattern
end AdaptiveRules
