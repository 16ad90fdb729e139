import AdaptiveRules.Proofs.PatternRuns

/-!
# The cache answers for the rule in place

The key of a call does not name the rule, so the cache has to be emptied whenever a rule is accepted,
on every way that leads to one.  In a run of any operations each entry of the cache is what the rule
that is in place now has found, in a call with the key of the entry after which no rule was accepted.
Entries are made by searches that succeed and hold what these found themselves; a search that fails,
and what is recovered after it, makes none.
-/

namespace AdaptiveRules

namespace RulePattern

variable {p : RulePattern} {c : MatchCache}

/-- An entry that the cache holds under the key. -/
def Remembers (p : RulePattern) (key : String) (found : List MatchInstance) : Prop :=
  ∃ c, p.cache = some c ∧ ∃ e ∈ c.entries, e.key = key ∧ e.found = found

/-- A search keeps entries, and adds at most what it has found itself. -/
theorem remembers_run {source : String} {context : Option MatchContext} {time : MatchTime}
    {key : String} {found : List MatchInstance}
    (hafter : (p.run source context time).2.Remembers key found) :
    p.Remembers key found ∨
      p.callKey source context = key ∧ p.collect source context = .ok (.ok found) ∧
        (p.run source context time).1 = .ok (.ok found) := by
  obtain ⟨after, hcache, e, he, rfl, rfl⟩ := hafter
  cases hbefore : p.cache with
  | none =>
      rw [(run_uncached hbefore source context time).2] at hcache
      cases hcache
  | some c =>
      have hall : c.Holds p.Remembers := fun f hf => ⟨c, hbefore, f, hf, rfl, rfl⟩
      have hkept := hall.get (p.callKey source context) time.now
      rcases run_cached hbefore source context time with ⟨_, _, _, hget⟩ | ⟨_, hrun, hput⟩
      · obtain rfl := Option.some.inj (hget.symm.trans hcache)
        exact Or.inl (hkept e he)
      · obtain rfl := Option.some.inj (hput.symm.trans hcache)
        rw [hrun]
        revert he
        rcases hcollect : p.collect source context with i | failure | found
        · exact fun he => Or.inl (hkept e he)
        · exact fun he => Or.inl (hkept e he)
        · intro he
          have hnew : MatchCache.Holds
              (fun key list => p.Remembers key list ∨
                p.callKey source context = key ∧ found = list)
              ((c.get (p.callKey source context) time.now).2.put (p.callKey source context) found
                time.now) :=
            MatchCache.Holds.put (fun f hf => Or.inl (hkept f hf)) (Or.inr ⟨rfl, rfl⟩) time.now
          refine (hnew e he).imp_right ?_
          rintro ⟨hkey, rfl⟩
          exact ⟨hkey, rfl, rfl⟩

end RulePattern

namespace Pattern

variable {p : Pattern} {op : PatternOperation} {ops : List PatternOperation} {key : String}
  {found : List MatchInstance}

/-- None of the texts that the operation tries is accepted as a rule. -/
def AcceptsNone (p : Pattern) (op : PatternOperation) : Prop :=
  ∀ rule ∈ p.tries op, ¬ Installable rule

/-- No rule is accepted in the whole run. -/
def KeepsRuleIn : Pattern → List PatternOperation → Prop
  | _, [] => True
  | p, op :: rest => p.AcceptsNone op ∧ (p.perform op).KeepsRuleIn rest

/-- The list was collected in a call with the key, by the rule that is in place after the run, and no
rule was accepted after that call. -/
def CollectedSince (p : Pattern) (ops : List PatternOperation) (key : String)
    (found : List MatchInstance) : Prop :=
  ∃ done source context time rest, ops = done ++ .search source context time :: rest ∧
    let rule := (p.performAll done).readied (.search source context time)
    rule.callKey source context = key ∧ rule.collect source context = .ok (.ok found) ∧
      rule.body = (p.performAll ops).core.body ∧
      ((p.performAll done).perform (.search source context time)).KeepsRuleIn rest

theorem keepsRuleIn_concat {first : List PatternOperation} (hfirst : p.KeepsRuleIn first)
    (hlast : (p.performAll first).AcceptsNone op) : p.KeepsRuleIn (first ++ [op]) := by
  induction first generalizing p with
  | nil => exact ⟨hlast, trivial⟩
  | cons next rest ih => exact ⟨hfirst.1, ih hfirst.2 hlast⟩

/-! ### One operation -/

theorem readied_of_acceptsNone (hnone : p.AcceptsNone op) : p.readied op = p.core :=
  RulePattern.foldl_installed_of_rejected hnone

theorem body_perform (p : Pattern) (op : PatternOperation) :
    (p.perform op).core.body = (p.readied op).body := by
  rw [core_perform]
  cases op with
  | search source context time =>
      exact (RulePattern.sameRule_run (p := p.readied (.search source context time)) source context
        time).body
  | _ => rfl

/-- A rule that is accepted leaves nothing in the cache. -/
theorem acceptsNone_of_remembers_readied (hremembers : (p.readied op).Remembers key found) :
    p.AcceptsNone op ∧ p.core.Remembers key found := by
  have hnone : p.AcceptsNone op := by
    by_contra haccepted
    unfold AcceptsNone at haccepted
    push Not at haccepted
    obtain ⟨c, hcache, e, he, _⟩ := hremembers
    unfold readied at hcache
    rw [RulePattern.cache_foldl_installed_of_accepted haccepted, Option.map_eq_some_iff] at hcache
    obtain ⟨before, _, rfl⟩ := hcache
    cases he
  refine ⟨hnone, ?_⟩
  rwa [readied_of_acceptsNone hnone] at hremembers

/-- An entry after an operation was there before and no rule was accepted, or the operation is a
search that has just found it. -/
theorem remembers_perform (hafter : (p.perform op).core.Remembers key found) :
    (p.AcceptsNone op ∧ p.core.Remembers key found) ∨
      ∃ source context time, op = .search source context time ∧
        (p.readied op).callKey source context = key ∧
        (p.readied op).collect source context = .ok (.ok found) ∧
        ((p.readied op).run source context time).1 = .ok (.ok found) := by
  rw [core_perform] at hafter
  cases op with
  | search source context time =>
      rcases RulePattern.remembers_run hafter with hbefore | hnew
      · exact Or.inl (acceptsNone_of_remembers_readied hbefore)
      · exact Or.inr ⟨source, context, time, rfl, hnew⟩
  | _ => exact Or.inl (acceptsNone_of_remembers_readied hafter)

theorem perform_install_of_rejected {rule : String} (hrejected : ¬ Installable rule) :
    p.perform (.install rule) = p := by
  have hcore : (p.installed rule).core = p.core := by
    rw [core_installed, RulePattern.installed_of_rejected hrejected]
  have hmode := mode_installed p rule
  show p.installed rule = p
  cases hthere : p.installed rule
  rw [hthere] at hcore hmode
  simp only at hcore hmode
  rw [hcore, hmode]

/-! ### Whole runs -/

theorem CollectedSince.concat (hcollected : p.CollectedSince ops key found)
    (hnone : (p.performAll ops).AcceptsNone op) : p.CollectedSince (ops ++ [op]) key found := by
  obtain ⟨done, source, context, time, rest, rfl, hkey, hfound, hbody, hkeeps⟩ := hcollected
  have hsplit : p.performAll (done ++ .search source context time :: rest) =
      ((p.performAll done).perform (.search source context time)).performAll rest :=
    performAll_append p done (.search source context time :: rest)
  refine ⟨done, source, context, time, rest ++ [op], by simp, hkey, hfound, ?_, ?_⟩
  · rw [hbody, performAll_append _ _ [op]]
    show _ = (Pattern.perform _ op).core.body
    rw [body_perform, readied_of_acceptsNone hnone]
  · rw [hsplit] at hnone
    exact keepsRuleIn_concat hkeeps hnone

/-- In every run from an empty cache, what the cache holds was collected by the rule in place, since
that is in place. -/
theorem collectedSince_of_remembers (hempty : ∀ key found, ¬ p.core.Remembers key found)
    (hremembers : (p.performAll ops).core.Remembers key found) :
    p.CollectedSince ops key found := by
  induction ops using List.reverseRecOn with
  | nil => exact absurd hremembers (hempty key found)
  | append_singleton done op ih =>
      rw [performAll_append] at hremembers
      rcases remembers_perform hremembers with ⟨hnone, hbefore⟩ |
        ⟨source, context, time, rfl, hkey, hfound, _⟩
      · exact (ih hbefore).concat hnone
      · refine ⟨done, source, context, time, [], rfl, hkey, hfound, ?_, trivial⟩
        rw [performAll_append]
        exact (body_perform ..).symm

/-- In every state that a pattern with a new cache can reach: what the cache holds under a key was
collected without failure by the rule that is in place, in a call with that key after which no rule
was accepted; a text that is rejected changes neither the rule nor the cache, whoever tries it; and an
entry is made only by a search that does not fail, and is what that search itself has found. -/
theorem cache_answers_for_rule_in_place {capacity : Nat} {ttl : Option Nat}
    (hnew : p.core.cache = some (.ofCapacity capacity ttl)) (ops : List PatternOperation) :
    let q := p.performAll ops
    (∀ key found, q.core.Remembers key found → p.CollectedSince ops key found) ∧
      (∀ rule, ¬ Installable rule → q.perform (.install rule) = q) ∧
      (∀ op, q.AcceptsNone op → q.readied op = q.core) ∧
      ∀ op key found, (q.perform op).core.Remembers key found → ¬ q.core.Remembers key found →
        ∃ source context time, op = .search source context time ∧
          (q.readied op).callKey source context = key ∧
          ((q.readied op).run source context time).1 = .ok (.ok found) := by
  have hempty : ∀ key found, ¬ p.core.Remembers key found := by
    rintro key found ⟨c, hcache, e, he, _⟩
    obtain rfl := Option.some.inj (hnew.symm.trans hcache)
    cases he
  refine ⟨fun _ _ => collectedSince_of_remembers hempty, fun _ => perform_install_of_rejected,
    fun _ => readied_of_acceptsNone, ?_⟩
  intro op key found hafter hbefore
  rcases remembers_perform hafter with ⟨_, hold⟩ | ⟨source, context, time, hop, hkey, _, hrun⟩
  · exact absurd hold hbefore
  · exact ⟨source, context, time, hop, hkey, hrun⟩

/-! ### A rule that is learned -/

/-- A query that finds nothing. -/
def findsNothing : Pattern :=
  .adaptive
    { runsQuery with
      engine := { QueryEngine.none with run _ _ _ := .ok (.ok []) }
      cache := some (.ofCapacity 2 none) }
    .standard

def learningRun : List PatternOperation :=
  [.search "ab" none ⟨⟨0, 0⟩, 0⟩, .install "a", .search "ab" none ⟨⟨0, 0⟩, 0⟩, .install "("]

/-- The empty answer of the first search is gone; the second one was collected by the new rule, which
the last text does not replace. -/
theorem cache_answers_for_rule_in_place_learned :
    ∃ key found, (findsNothing.performAll learningRun).core.Remembers key found ∧
      found.map MatchInstance.text = ["a"] ∧
      findsNothing.CollectedSince learningRun key found := by
  have hentries : (findsNothing.performAll learningRun).core.cache.map
      (fun c => c.entries.map fun e => e.found.map MatchInstance.text) = some [["a"]] := by
    decide +kernel
  obtain ⟨c, hcache, htexts⟩ := Option.map_eq_some_iff.mp hentries
  obtain ⟨e, rest, hcons, htext, _⟩ := List.map_eq_cons_iff.mp htexts
  have hremembers : (findsNothing.performAll learningRun).core.Remembers e.key e.found :=
    ⟨c, hcache, e, hcons ▸ List.mem_cons_self, rfl, rfl⟩
  exact ⟨e.key, e.found, hremembers, htext,
    (cache_answers_for_rule_in_place rfl learningRun).1 e.key e.found hremembers⟩

end Pattern
end AdaptiveRules
