import AdaptiveRules.ProjectLearning
import AdaptiveRules.Proofs.RuleApplication
import Mathlib.Tactic

/-!
# Rules that are put in place

A text rule can be installed if it is neither blank nor malformed, whatever the pattern, and then it
is the text rule of the pattern.  A log of improvements leads from one rule to another if each entry
starts from the rule that the one before has left; restoring such a log puts its last rule in place.
A pattern that does not adapt keeps its text rule whatever it is applied to.
-/

namespace AdaptiveRules

/-- A text that can be put in the place of a rule. -/
def Installable (rule : String) : Prop :=
  TextLines.isBlank rule = false ∧ ∃ compiled, TextRule.compile rule = .ok compiled

theorem installable_iff {rule : String} :
    Installable rule ↔ TextLines.isBlank rule = false ∧ (TextRule.compile rule).isOk = true := by
  refine and_congr_right fun _ => ?_
  cases TextRule.compile rule with
  | error e => exact iff_of_false (fun ⟨_, h⟩ => nomatch h) Bool.false_ne_true
  | ok compiled => exact iff_of_true ⟨compiled, rfl⟩ rfl

instance : DecidablePred Installable := fun _ => decidable_of_iff _ installable_iff.symm

theorem TextRule.source_of_compile {source : String} {rule : TextRule}
    (hcompile : TextRule.compile source = .ok rule) : rule.source = source := by
  unfold TextRule.compile TextRule.compileWith at hcompile
  cases hparse : Regex.parse .multiLineDotAll source with
  | error e =>
      rw [hparse] at hcompile
      cases hcompile
  | ok core =>
      rw [hparse] at hcompile
      cases hcompile
      rfl

theorem RuleBody.textRule_install (rule : TextRule) (body : RuleBody) :
    (body.install rule).textRule = rule.source := by
  cases body <;> rfl

namespace Pattern

variable {p q : Pattern} {rule : String}

theorem exists_install (hrule : Installable rule) (p : Pattern) :
    ∃ q, p.install rule = .ok q := by
  obtain ⟨hblank, compiled, hcompile⟩ := hrule
  unfold install RulePattern.install
  rw [hblank, hcompile]
  exact ⟨_, rfl⟩

theorem of_install (hinstall : p.install rule = .ok q) :
    Installable rule ∧ q.textRule = rule ∧ q.name = p.name ∧ q.mode = p.mode := by
  unfold install RulePattern.install at hinstall
  cases hblank : TextLines.isBlank rule with
  | true => simp [hblank, Except.map] at hinstall
  | false =>
      cases hcompile : TextRule.compile rule with
      | error e => simp [hblank, hcompile, Except.map] at hinstall
      | ok compiled =>
          simp only [hblank, hcompile, Bool.false_eq_true, if_false, Except.map,
            Except.ok.injEq] at hinstall
          subst hinstall
          refine ⟨⟨hblank, compiled, hcompile⟩, ?_, rfl, rfl⟩
          calc
            (p.core.body.install compiled).textRule = compiled.source :=
              RuleBody.textRule_install compiled p.core.body
            _ = rule := TextRule.source_of_compile hcompile

/-- The pattern does not adapt by itself. -/
def IsFixed (p : Pattern) : Prop := ∀ a, p.mode.adaptation? = some a → a.enabled = false

/-- The one pattern has the name and the text rule of the other, and adapts no more than it. -/
structure KeepsRule (p q : Pattern) : Prop where
  name : q.name = p.name
  textRule : q.textRule = p.textRule
  fixed : p.IsFixed → q.IsFixed

theorem KeepsRule.refl (p : Pattern) : KeepsRule p p := ⟨rfl, rfl, id⟩

theorem KeepsRule.trans {r : Pattern} (hpq : KeepsRule p q) (hqr : KeepsRule q r) : KeepsRule p r :=
  ⟨hqr.name.trans hpq.name, hqr.textRule.trans hpq.textRule, hqr.fixed ∘ hpq.fixed⟩

theorem keepsRule_offer (p : Pattern) (variations : List String) :
    KeepsRule p (p.offer variations) := by
  unfold offer
  cases hmode : p.mode with
  | plain => exact KeepsRule.refl p
  | adaptive a =>
      refine ⟨rfl, rfl, fun hfixed b hb => ?_⟩
      cases hb
      exact hfixed a (by rw [hmode]; rfl)
  | resilient a r =>
      refine ⟨rfl, rfl, fun hfixed b hb => ?_⟩
      cases hb
      exact hfixed a (by rw [hmode]; rfl)

theorem beforeMatch_of_isFixed (hfixed : p.IsFixed) (context : Option MatchContext)
    (now : Instant) : p.beforeMatch context now = ⟨none, p, []⟩ := by
  unfold beforeMatch
  split
  · next a c hmode =>
      rw [hfixed a hmode]
      rfl
  · rfl

/-- Recovery leaves the pattern as it is, but for its account of what was recovered. -/
theorem afterFailure_cases (p : Pattern) (failure : MatchError) (source : String) :
    (p.afterFailure failure source).pattern = p ∨
      ∃ a r success, p.mode = .resilient a r ∧ (p.afterFailure failure source).pattern =
        { p with mode := .resilient a (r.count failure.kind success) } := by
  obtain ⟨core, mode⟩ := p
  unfold afterFailure
  cases mode with
  | plain => exact Or.inl rfl
  | adaptive a => exact Or.inl rfl
  | resilient a r =>
      simp only
      rcases MatchRecovery.recover core r.settings failure.kind source with i | e | found
      · exact Or.inl rfl
      · exact Or.inr ⟨a, r, false, rfl, rfl⟩
      · exact Or.inr ⟨a, r, _, rfl, rfl⟩

theorem keepsRule_afterFailure (p : Pattern) (failure : MatchError) (source : String) :
    KeepsRule p (p.afterFailure failure source).pattern := by
  rcases p.afterFailure_cases failure source with hsame | ⟨a, r, success, hmode, hcounted⟩
  · rw [hsame]
    exact KeepsRule.refl p
  · rw [hcounted]
    refine ⟨rfl, rfl, fun hfixed b hb => hfixed b ?_⟩
    rw [hmode]
    exact hb

/-- The pattern after a search is what the rule at work has become in it, with recovery behind it if
the rule failed. -/
theorem matchSource_cases (p : Pattern) (source : String) (context : Option MatchContext)
    (time : MatchTime) :
    let before := (p.beforeMatch context time.now).pattern
    let ran : Pattern := { before with core := (before.core.run source context time).2 }
    (p.matchSource source context time).pattern = ran ∨
      ∃ failure, (p.matchSource source context time).pattern =
        (ran.afterFailure failure source).pattern := by
  intro before ran
  unfold matchSource
  simp only
  rcases ((p.beforeMatch context time.now).pattern.core.run source context time).1
    with i | failure | found
  · exact Or.inl rfl
  · exact Or.inr ⟨failure, rfl⟩
  · exact Or.inl rfl

theorem keepsRule_matchSource (hfixed : p.IsFixed) (source : String)
    (context : Option MatchContext) (time : MatchTime) :
    KeepsRule p (p.matchSource source context time).pattern := by
  have hsame : RulePattern.SameRule p.core (p.core.run source context time).2 :=
    RulePattern.sameRule_run ..
  have hname : (p.core.run source context time).2.name = p.core.name := by
    unfold RulePattern.name
    rw [hsame.definition]
  have hrun : KeepsRule p { p with core := (p.core.run source context time).2 } :=
    ⟨hname, hsame.textRule, fun _ => hfixed⟩
  have hcases := p.matchSource_cases source context time
  rw [beforeMatch_of_isFixed hfixed] at hcases
  rcases hcases with hran | ⟨failure, hran⟩
  · rw [hran]
    exact hrun
  · rw [hran]
    exact hrun.trans (keepsRule_afterFailure _ failure source)

theorem keepsRule_matchPattern (hfixed : p.IsFixed) (file : SourceFile) (context : MatchContext)
    (time : MatchTime) :
    KeepsRule p (ProjectLearning.matchPattern p file context time).pattern := by
  unfold ProjectLearning.matchPattern
  split
  · exact keepsRule_matchSource hfixed ..
  · exact KeepsRule.refl p

/-- An improvement that changes the rule puts another one in place that can be installed. -/
theorem improve_cases (p : Pattern) (variations : List String) :
    (p.improve variations = (p, false)) ∨
      ∃ q, p.improve variations = (q, true) ∧ Installable q.textRule ∧ q.name = p.name ∧
        q.mode = p.mode := by
  unfold improve Adaptation.improve
  cases RuleMerging.improved? variations p.core.textRule with
  | none => exact Or.inl rfl
  | some rule =>
      cases hinstall : p.core.install rule with
      | error e => exact Or.inl (by simp [hinstall])
      | ok core =>
          right
          have hpattern : p.install rule = .ok { p with core } := by
            unfold install
            rw [hinstall]
            rfl
          obtain ⟨hrule, htext, hname, hmode⟩ := of_install hpattern
          refine ⟨{ p with core }, by simp [hinstall], ?_, hname, hmode⟩
          rwa [htext]

end Pattern

/-! ### Logs -/

/-- The log leads from the one rule to the other. -/
inductive Replays : String → List Improvement → String → Prop
  | nil (rule : String) : Replays rule [] rule
  | cons {first last : String} {i : Improvement} {rest : List Improvement}
      (hfirst : i.original = first) (hrule : Installable i.improved)
      (hrest : Replays i.improved rest last) : Replays first (i :: rest) last

theorem Replays.snoc {first last : String} {log : List Improvement} (hlog : Replays first log last)
    {i : Improvement} (horiginal : i.original = last) (hrule : Installable i.improved) :
    Replays first (log ++ [i]) i.improved := by
  induction hlog with
  | nil rule => exact .cons horiginal hrule (.nil _)
  | cons hfirst hthere _ ih => exact .cons hfirst hthere (ih horiginal)

theorem Replays.unique {first last other : String} {log : List Improvement}
    (hlog : Replays first log last) (hother : Replays first log other) : last = other := by
  induction hlog with
  | nil rule =>
      cases hother
      rfl
  | cons _ _ _ ih =>
      cases hother with
      | cons _ _ hrest => exact ih hrest

/-- A log that starts from the rule in place is restored to its end. -/
theorem restore_of_replays {p : Pattern} {first last : String} {log : List Improvement}
    (hlog : Replays first log last) (hfirst : p.textRule = first) :
    (Learner.restore p log).textRule = last ∧ (Learner.restore p log).name = p.name ∧
      (Learner.restore p log).mode = p.mode := by
  induction hlog generalizing p with
  | nil rule => exact ⟨hfirst, rfl, rfl⟩
  | cons horiginal hrule _ ih =>
      obtain ⟨q, hinstall⟩ := Pattern.exists_install hrule p
      obtain ⟨_, htext, hname, hmode⟩ := Pattern.of_install hinstall
      unfold Learner.restore
      simp only [hfirst, horiginal, if_true, hinstall]
      obtain ⟨hlast, hsame, hkept⟩ := ih htext
      exact ⟨hlast, hsame.trans hname, hkept.trans hmode⟩

end AdaptiveRules
