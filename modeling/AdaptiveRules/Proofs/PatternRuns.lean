import AdaptiveRules.Proofs.CacheTransparency
import AdaptiveRules.Proofs.RuleInstallation

/-!
# Runs of a pattern

A pattern is searched with, gets rules installed and variations offered, adapts to contexts, and is
improved and restored by a learner.  For its rule each of these operations comes down to two things:
some texts are tried as a rule, one after another, and then there is at most one search, by the rule
that is in place after that.  A text that is not accepted changes nothing; one that is accepted
replaces the text rule and empties the cache.
-/

namespace AdaptiveRules

inductive PatternOperation
  | search (source : String) (context : Option MatchContext) (time : MatchTime)
  | install (rule : String)
  | offer (variations : List String)
  | adapt (context : MatchContext) (now : Instant)
  /-- A learner improves the pattern by the variations it knows. -/
  | improve (known : Insights) (now : Instant)
  /-- A learner installs again the improvements it knows. -/
  | restore (known : Insights)
  /-- The engine is not part of the library; it may answer otherwise from now on. -/
  | exchange (engine : QueryEngine)

namespace RulePattern

variable {p : RulePattern} {rule : String} {rules : List String}

theorem installed_of_rejected (hrejected : ¬ Installable rule) : p.installed rule = p := by
  unfold installed install
  cases hblank : TextLines.isBlank rule with
  | true => rfl
  | false =>
      cases hcompile : TextRule.compile rule with
      | error e => rfl
      | ok compiled => exact absurd ⟨hblank, compiled, hcompile⟩ hrejected

theorem installed_of_installable (hrule : Installable rule) :
    ∃ compiled, TextRule.compile rule = .ok compiled ∧ p.installed rule =
      { p with body := p.body.install compiled, cache := p.cache.map MatchCache.clear } := by
  obtain ⟨hblank, compiled, hcompile⟩ := hrule
  refine ⟨compiled, hcompile, ?_⟩
  unfold installed install
  rw [hblank, hcompile]
  rfl

theorem textRule_installed (hrule : Installable rule) : (p.installed rule).textRule = rule := by
  obtain ⟨compiled, hcompile, hinstalled⟩ := installed_of_installable (p := p) hrule
  rw [hinstalled]
  calc
    (p.body.install compiled).textRule = compiled.source := RuleBody.textRule_install compiled p.body
    _ = rule := TextRule.source_of_compile hcompile

/-- Trying rules leaves everything but the rule in place and the cache. -/
theorem foldl_installed_keeps {β : Type} {read : RulePattern → β}
    (hread : ∀ q body cache, read { q with body, cache } = read q) (p : RulePattern)
    (rules : List String) : read (rules.foldl installed p) = read p := by
  refine List.foldlRecOn (motive := fun q : RulePattern => read q = read p) rules installed rfl ?_
  intro q hq rule _
  rcases installed_cases q rule with heq | ⟨compiled, heq⟩
  · rwa [heq]
  · rw [heq, hread]
    exact hq

theorem name_foldl_installed (p : RulePattern) (rules : List String) :
    (rules.foldl installed p).name = p.name := foldl_installed_keeps (fun _ _ _ => rfl) p rules

theorem metrics_foldl_installed (p : RulePattern) (rules : List String) :
    (rules.foldl installed p).metrics = p.metrics :=
  foldl_installed_keeps (fun _ _ _ => rfl) p rules

theorem engine_foldl_installed (p : RulePattern) (rules : List String) :
    (rules.foldl installed p).engine = p.engine := foldl_installed_keeps (fun _ _ _ => rfl) p rules

theorem foldl_installed_of_rejected (hrejected : ∀ rule ∈ rules, ¬ Installable rule) :
    rules.foldl installed p = p := by
  induction rules with
  | nil => rfl
  | cons first rest ih =>
      rw [List.foldl_cons, installed_of_rejected (hrejected first List.mem_cons_self)]
      exact ih fun rule hrule => hrejected rule (List.mem_cons_of_mem _ hrule)

/-- Once a rule was accepted, what the cache held before is gone. -/
theorem cache_foldl_installed_of_accepted (haccepted : ∃ rule ∈ rules, Installable rule) :
    (rules.foldl installed p).cache = p.cache.map MatchCache.clear := by
  induction rules generalizing p with
  | nil => simp at haccepted
  | cons first rest ih =>
      have hclear : (p.cache.map MatchCache.clear).map MatchCache.clear =
          p.cache.map MatchCache.clear := by
        rw [Option.map_map]
        rfl
      rw [List.foldl_cons]
      by_cases hrest : ∃ rule ∈ rest, Installable rule
      · rw [ih hrest]
        by_cases hfirst : Installable first
        · obtain ⟨compiled, _, hinstalled⟩ := installed_of_installable (p := p) hfirst
          rw [hinstalled]
          exact hclear
        · rw [installed_of_rejected hfirst]
      · have hfirst : Installable first := by
          obtain ⟨rule, hmem, hrule⟩ := haccepted
          rcases List.mem_cons.mp hmem with rfl | hmem
          · exact hrule
          · exact absurd ⟨rule, hmem, hrule⟩ hrest
        rw [foldl_installed_of_rejected fun rule hmem hrule => hrest ⟨rule, hmem, hrule⟩]
        obtain ⟨compiled, _, hinstalled⟩ := installed_of_installable (p := p) hfirst
        rw [hinstalled]

end RulePattern

namespace Pattern

open RulePattern

def perform (p : Pattern) : PatternOperation → Pattern
  | .search source context time => (p.matchSource source context time).pattern
  | .install rule => p.installed rule
  | .offer variations => p.offer variations
  | .adapt context now => (p.adapt context now).pattern
  | .improve known now => (LearningState.improvePattern known now p).1
  | .restore known => Learner.restore p (known.improvementsOf p.name)
  | .exchange engine => { p with core := { p.core with engine } }

def performAll (p : Pattern) (ops : List PatternOperation) : Pattern := ops.foldl perform p

/-- The pattern adapts by itself before it matches in the context. -/
def adapts (p : Pattern) (context : Option MatchContext) : Bool :=
  match p.mode.adaptation?, context with
  | some a, some c => a.enabled && a.shouldAdapt p.core.metrics c
  | _, _ => false

/-- The rules of the log that are tried when it is restored. -/
def restoring (p : Pattern) : List Improvement → List String
  | [] => []
  | i :: rest =>
      if p.textRule = i.original then
        i.improved ::
          match p.install i.improved with
          | .ok q => restoring q rest
          | .error _ => []
      else restoring p rest

/-- The texts that an operation tries to put in place as the text rule. -/
def tries (p : Pattern) : PatternOperation → List String
  | .search _ context _ =>
      if p.adapts context then (RuleMerging.improved? p.variations p.textRule).toList else []
  | .install rule => [rule]
  | .adapt .. => (RuleMerging.improved? p.variations p.textRule).toList
  | .improve known _ => (RuleMerging.improved? (known.variationsOf p.name) p.textRule).toList
  | .restore known => p.restoring (known.improvementsOf p.name)
  | _ => []

/-- The rule at work after an operation has tried what it tries. -/
def readied (p : Pattern) (op : PatternOperation) : RulePattern :=
  (p.tries op).foldl RulePattern.installed p.core

/-! ### What the operations come down to -/

theorem core_installed (p : Pattern) (rule : String) :
    (p.installed rule).core = p.core.installed rule := by
  unfold installed RulePattern.installed install
  cases p.core.install rule <;> rfl

theorem core_improve (p : RulePattern) (variations : List String) :
    (Adaptation.improve p variations).1 =
      (RuleMerging.improved? variations p.textRule).toList.foldl RulePattern.installed p := by
  unfold Adaptation.improve
  cases RuleMerging.improved? variations p.textRule with
  | none => rfl
  | some rule =>
      simp only [Option.toList_some, List.foldl_cons, List.foldl_nil, RulePattern.installed]
      cases p.install rule <;> rfl

theorem core_adapt (p : Pattern) (context : MatchContext) (now : Instant) :
    (p.adapt context now).pattern.core = p.readied (.adapt context now) := by
  unfold adapt readied tries variations
  cases p.mode.adaptation? with
  | none => rfl
  | some a => exact core_improve p.core a.variations

theorem core_beforeMatch (p : Pattern) (source : String) (context : Option MatchContext)
    (time : MatchTime) :
    (p.beforeMatch context time.now).pattern.core = p.readied (.search source context time) := by
  unfold beforeMatch readied tries adapts
  cases hmode : p.mode.adaptation? with
  | none => rfl
  | some a =>
      cases context with
      | none => rfl
      | some c =>
          simp only
          split
          · exact core_adapt p c time.now
          · rfl

theorem core_afterFailure (p : Pattern) (failure : MatchError) (source : String) :
    (p.afterFailure failure source).pattern.core = p.core := by
  rcases p.afterFailure_cases failure source with hsame | ⟨a, r, success, _, hcounted⟩
  · rw [hsame]
  · rw [hcounted]

theorem core_restore (p : Pattern) (log : List Improvement) :
    (Learner.restore p log).core = (p.restoring log).foldl RulePattern.installed p.core := by
  induction log generalizing p with
  | nil => rfl
  | cons i rest ih =>
      unfold Learner.restore restoring
      split
      · have hfirst := core_installed p i.improved
        unfold installed at hfirst
        rw [List.foldl_cons]
        cases hinstall : p.install i.improved with
        | error e =>
            rw [hinstall] at hfirst
            exact hfirst
        | ok q =>
            rw [hinstall] at hfirst
            simp only at hfirst ⊢
            rw [ih q, hfirst]
      · exact ih p

/-- For the rule at work an operation is a row of rules that are tried, and perhaps a search. -/
theorem core_perform (p : Pattern) (op : PatternOperation) :
    (p.perform op).core =
      match op with
      | .search source context time => ((p.readied op).run source context time).2
      | .exchange engine => { p.readied op with engine }
      | _ => p.readied op := by
  cases op with
  | search source context time =>
      show (p.matchSource source context time).pattern.core = _
      simp only [← core_beforeMatch]
      rcases p.matchSource_cases source context time with hran | ⟨failure, hran⟩
      · rw [hran]
      · rw [hran, core_afterFailure]
  | install rule => exact core_installed p rule
  | offer variations =>
      show (p.offer variations).core = _
      unfold offer
      cases p.mode.adaptation? <;> rfl
  | adapt context now => exact core_adapt p context now
  | improve known now => exact core_improve p.core (known.variationsOf p.name)
  | restore known => exact core_restore p (known.improvementsOf p.name)
  | exchange engine => rfl

theorem textRule_perform (p : Pattern) (op : PatternOperation) :
    (p.perform op).textRule = (p.readied op).textRule := by
  unfold textRule
  rw [core_perform]
  cases op with
  | search source context time =>
      have hsame : SameRule (p.readied (.search source context time)) _ :=
        sameRule_run source context time
      exact hsame.textRule
  | _ => rfl

theorem name_perform (p : Pattern) (op : PatternOperation) : (p.perform op).name = p.name := by
  have hready : (p.readied op).name = p.name := name_foldl_installed p.core (p.tries op)
  unfold name
  rw [core_perform]
  cases op with
  | search source context time =>
      have hsame : SameRule (p.readied (.search source context time)) _ :=
        sameRule_run source context time
      show (PatternDefinition.name _) = _
      rw [hsame.definition]
      exact hready
  | _ => exact hready

/-! ### What the operations leave of the mode -/

theorem mode_installed (p : Pattern) (rule : String) : (p.installed rule).mode = p.mode := by
  unfold installed
  cases hinstall : p.install rule with
  | error e => rfl
  | ok q => exact (of_install hinstall).2.2.2

theorem mode_restore (p : Pattern) (log : List Improvement) :
    (Learner.restore p log).mode = p.mode := by
  induction log generalizing p with
  | nil => rfl
  | cons i rest ih =>
      unfold Learner.restore
      split
      · cases hinstall : p.install i.improved with
        | error e => rfl
        | ok q => exact (ih q).trans (of_install hinstall).2.2.2
      · exact ih p

/-! A call adds records to the adaptation of a pattern and leaves the rest of it. -/

section Call

variable {β : Type} {read : Adaptation → β}
  (hread : ∀ a records, read { a with records } = read a)

include hread

theorem adaptation?_adapt (p : Pattern) (context : MatchContext) (now : Instant) :
    (p.adapt context now).pattern.mode.adaptation?.map read = p.mode.adaptation?.map read := by
  unfold adapt
  cases hmode : p.mode with
  | plain => simp only [PatternMode.adaptation?, hmode]
  | adaptive a => exact congrArg some (hread a _)
  | resilient a r => exact congrArg some (hread a _)

theorem adaptation?_beforeMatch (p : Pattern) (context : Option MatchContext) (now : Instant) :
    (p.beforeMatch context now).pattern.mode.adaptation?.map read =
      p.mode.adaptation?.map read := by
  unfold beforeMatch
  split
  · split
    · exact adaptation?_adapt hread ..
    · rfl
  · rfl

omit hread in
theorem adaptation?_afterFailure (p : Pattern) (failure : MatchError) (source : String) :
    (p.afterFailure failure source).pattern.mode.adaptation? = p.mode.adaptation? := by
  rcases p.afterFailure_cases failure source with hsame | ⟨a, r, success, hmode, hcounted⟩
  · rw [hsame]
  · rw [hcounted, hmode]
    rfl

theorem adaptation?_matchSource (p : Pattern) (source : String) (context : Option MatchContext)
    (time : MatchTime) :
    (p.matchSource source context time).pattern.mode.adaptation?.map read =
      p.mode.adaptation?.map read := by
  rw [← adaptation?_beforeMatch hread p context time.now]
  rcases p.matchSource_cases source context time with hran | ⟨failure, hran⟩
  · rw [hran]
  · rw [hran, adaptation?_afterFailure]

end Call

/-- Variations that are offered stand behind those that are held. -/
theorem exists_variations_offer (a : Adaptation) (variations : List String) :
    ∃ more, (a.offer variations).variations = a.variations ++ more ∧ ∀ v ∈ more, v ∈ variations := by
  unfold Adaptation.offer
  simp only
  generalize a.variations = held
  induction variations generalizing held with
  | nil => exact ⟨[], (List.append_nil held).symm, fun v hv => absurd hv List.not_mem_nil⟩
  | cons w rest ih =>
      rw [List.foldl_cons]
      split
      · obtain ⟨more, hmore, hoffered⟩ := ih held
        exact ⟨more, hmore, fun v hv => List.mem_cons_of_mem _ (hoffered v hv)⟩
      · obtain ⟨more, hmore, hoffered⟩ := ih (held ++ [w])
        refine ⟨w :: more, by rw [hmore, List.append_assoc, List.singleton_append], ?_⟩
        exact fun v hv => (List.mem_cons.mp hv).elim (fun heq => heq ▸ List.mem_cons_self)
          fun hmem => List.mem_cons_of_mem _ (hoffered v hmem)

/-- A pattern holds what it held, and behind that what it is offered. -/
theorem exists_variations_perform (p : Pattern) (op : PatternOperation) :
    ∃ more, (p.perform op).variations = p.variations ++ more ∧
      ∀ v ∈ more, ∃ variations, op = .offer variations ∧ v ∈ variations := by
  have hkept : ∀ {q : Pattern},
      q.mode.adaptation?.map Adaptation.variations = p.mode.adaptation?.map Adaptation.variations →
        ∃ more, q.variations = p.variations ++ more ∧
          ∀ v ∈ more, ∃ variations, op = .offer variations ∧ v ∈ variations := by
    intro q hsame
    refine ⟨[], ?_, fun v hv => absurd hv List.not_mem_nil⟩
    rw [variations, variations, hsame, List.append_nil]
  have hoffered : ∀ (a : Adaptation) (offered : List String), op = .offer offered →
      ∃ more, (a.offer offered).variations = a.variations ++ more ∧
        ∀ v ∈ more, ∃ variations, op = .offer variations ∧ v ∈ variations := by
    intro a offered hop
    obtain ⟨more, hmore, hnew⟩ := exists_variations_offer a offered
    exact ⟨more, hmore, fun v hv => ⟨offered, hop, hnew v hv⟩⟩
  cases op with
  | search source context time =>
      exact hkept (adaptation?_matchSource (fun _ _ => rfl) p source context time)
  | install rule => exact hkept (by rw [perform, mode_installed])
  | offer offered =>
      unfold perform offer Pattern.variations
      cases hmode : p.mode with
      | plain => exact ⟨[], by simp [PatternMode.adaptation?, hmode], by simp⟩
      | adaptive a => exact hoffered a offered rfl
      | resilient a r => exact hoffered a offered rfl
  | adapt context now => exact hkept (adaptation?_adapt (fun _ _ => rfl) p context now)
  | improve known now => exact hkept rfl
  | restore known => exact hkept (by rw [perform, mode_restore])
  | exchange engine => exact hkept rfl

theorem mem_variations_perform {p : Pattern} {op : PatternOperation} {v : String}
    (hv : v ∈ (p.perform op).variations) :
    v ∈ p.variations ∨ ∃ variations, op = .offer variations ∧ v ∈ variations := by
  obtain ⟨more, hmore, hoffered⟩ := exists_variations_perform p op
  rw [hmore, List.mem_append] at hv
  exact hv.imp_right (hoffered v)

theorem performAll_append (p : Pattern) (first rest : List PatternOperation) :
    p.performAll (first ++ rest) = (p.performAll first).performAll rest := List.foldl_append

end Pattern
end AdaptiveRules
