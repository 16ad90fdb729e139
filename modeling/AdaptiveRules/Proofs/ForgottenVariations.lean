import AdaptiveRules.Proofs.ClearedStores
import AdaptiveRules.Proofs.LearnerActions
import AdaptiveRules.Proofs.Lessons
import AdaptiveRules.Proofs.TakenVariations

/-!
# What a reset leaves behind

A reset forgets what the learner knows and what its store holds.  What patterns hold is not among
that.  Improvements go by what the learner knows, so after a reset they take up nothing but what was
learned or taken over since.  Adaptation goes by what a pattern holds; it takes up a variation from
before the reset exactly if the pattern still holds it and prefers it for a rule that it can have.
-/

namespace AdaptiveRules

namespace RuleMerging

theorem foldl_better_cases (best : Option String) (variations : List String) :
    variations.foldl better best = best ∨ ∃ v ∈ variations, variations.foldl better best = some v := by
  induction variations generalizing best with
  | nil => exact Or.inl rfl
  | cons w rest ih =>
      rw [List.foldl_cons]
      rcases ih (better best w) with hsame | ⟨v, hv, hbest⟩
      · have hbetter : better best w = best ∨ better best w = some w := by
          cases best with
          | none => exact Or.inr rfl
          | some b => exact (ite_eq_or_eq ..).symm
        rcases hbetter with hkept | hnew
        · exact Or.inl (hsame.trans hkept)
        · exact Or.inr ⟨w, List.mem_cons_self, hsame.trans hnew⟩
      · exact Or.inr ⟨v, List.mem_cons_of_mem _ hv, hbest⟩

/-- The best of more variations is the best of the first ones, unless it is among the others. -/
theorem selectBest_of_append {held more : List String} {rule v : String}
    (hbest : selectBest (held ++ more) rule = some v) (hold : v ∉ more) :
    selectBest held rule = some v := by
  unfold selectBest candidates at hbest ⊢
  rw [List.filter_append, List.foldl_append] at hbest
  rcases foldl_better_cases ((held.filter fun v => !v.isEmpty && !alreadyMerged rule v).foldl
    better none) (more.filter fun v => !v.isEmpty && !alreadyMerged rule v) with hsame | ⟨w, hw, hnew⟩
  · rwa [hsame] at hbest
  · obtain rfl : w = v := Option.some.inj (hnew.symm.trans hbest)
    exact absurd (List.mem_filter.mp hw).1 hold

end RuleMerging

namespace Pattern

open RuleMerging RulePattern

variable {p q : Pattern} {op : PatternOperation} {v : String}

theorem textRule_foldl_installed (p : RulePattern) (rules : List String) :
    (rules.foldl RulePattern.installed p).textRule = p.textRule ∨
      Installable (rules.foldl RulePattern.installed p).textRule := by
  refine List.foldlRecOn (motive := fun q : RulePattern =>
    q.textRule = p.textRule ∨ Installable q.textRule) rules RulePattern.installed (Or.inl rfl) ?_
  intro q hq rule _
  by_cases hrule : Installable rule
  · rw [RulePattern.textRule_installed hrule]
    exact Or.inr hrule
  · rwa [installed_of_rejected hrule]

/-- The pattern comes from the other by some operations, with what it was offered besides. -/
structure GrownBy (p : Pattern) (offered : Set String) (q : Pattern) : Prop where
  name : q.name = p.name
  textRule : q.textRule = p.textRule ∨ Installable q.textRule
  variations : ∃ more, q.variations = p.variations ++ more ∧ ∀ v ∈ more, v ∈ offered

theorem GrownBy.refl (p : Pattern) (offered : Set String) : GrownBy p offered p :=
  ⟨rfl, Or.inl rfl, [], (List.append_nil _).symm, fun _ hv => absurd hv List.not_mem_nil⟩

theorem GrownBy.perform {offered more : Set String} (hgrown : GrownBy p offered q)
    (hmore : offered ⊆ more) (hop : ∀ variations, op = .offer variations → ∀ v ∈ variations, v ∈ more) :
    GrownBy p more (q.perform op) := by
  obtain ⟨hname, hrule, held, hheld, hoffered⟩ := hgrown
  refine ⟨(name_perform q op).trans hname, ?_, ?_⟩
  · rw [textRule_perform]
    rcases textRule_foldl_installed q.core (q.tries op) with hsame | hnew
    · rw [readied, hsame]
      exact hrule
    · exact Or.inr hnew
  · obtain ⟨new, hnew, hfrom⟩ := exists_variations_perform q op
    refine ⟨held ++ new, by rw [hnew, hheld, List.append_assoc], fun v hv => ?_⟩
    rcases List.mem_append.mp hv with hv | hv
    · exact hmore (hoffered v hv)
    · obtain ⟨variations, rfl, hmem⟩ := hfrom v hv
      exact hop variations rfl v hmem

theorem GrownBy.performAll {offered more : Set String} (hgrown : GrownBy p offered q)
    (hmore : offered ⊆ more) (ops : List PatternOperation)
    (hops : ∀ variations, .offer variations ∈ ops → ∀ v ∈ variations, v ∈ more) :
    GrownBy p more (q.performAll ops) := by
  induction ops generalizing q offered with
  | nil => exact ⟨hgrown.name, hgrown.textRule, hgrown.variations.imp fun _ h =>
      ⟨h.1, fun v hv => hmore (h.2 v hv)⟩⟩
  | cons op rest ih =>
      have hnext : GrownBy p more (q.perform op) :=
        hgrown.perform hmore fun variations heq => hops variations (heq ▸ List.mem_cons_self)
      exact ih hnext subset_rfl fun variations hmem => hops variations (List.mem_cons_of_mem _ hmem)

/-- What a grown pattern prefers for a rule is among the new variations, or was preferred before. -/
theorem GrownBy.of_selectBest {offered : Set String} {rule : String} (hgrown : GrownBy p offered q)
    (hbest : selectBest q.variations rule = some v) :
    v ∈ offered ∨ selectBest p.variations rule = some v := by
  obtain ⟨more, hmore, hoffered⟩ := hgrown.variations
  rw [hmore] at hbest
  by_cases hv : v ∈ more
  · exact Or.inl (hoffered v hv)
  · exact Or.inr (selectBest_of_append hbest hv)

theorem taken?_adapt (hbest : selectBest p.variations p.textRule = some v)
    (hrule : Installable (merge p.textRule v)) (context : MatchContext) (now : Instant) :
    p.taken? (.adapt context now) = some v := by
  refine taken?_eq_some_iff.mpr ⟨rfl, hbest, ?_, hrule⟩
  rw [tries, improved?_eq, hbest]
  exact List.mem_singleton_self _

end Pattern

namespace LearningState

open RuleMerging

variable {s t u : LearningState} {a : LearnerAction} {index : Nat} {v : String}

def takings (s : LearningState) (index : Nat) (a : LearnerAction) : List String :=
  ((s.learner.patterns[index]?).map fun p => p.taken (s.doings index p a)).getD []

/-- What an action makes known for a name: it is learned or taken over. -/
def teaches (s : LearningState) (name : String) : LearnerAction → Set String
  | .note _ _ found => { v | ∃ texts, (name, texts) ∈ found.entries ∧
      v ∈ ProjectLearning.deriveRules s.learner.settings texts }
  | .merge pattern variations => { v | name = pattern ∧ v ∈ variations }
  | _ => ∅

/-- The action brings the variation in for the pattern at the index: it makes it known for its name,
or offers it to the pattern. -/
def Brings (s : LearningState) (index : Nat) (a : LearnerAction) (v : String) : Prop :=
  ∃ p, s.learner.patterns[index]? = some p ∧
    (v ∈ s.teaches p.name a ∨ ∃ variations, a = .use index (.offer variations) ∧ v ∈ variations)

def GainedSince : LearningState → List LearnerAction → Nat → String → Prop
  | _, [], _, _ => False
  | s, a :: rest, index, v => s.Brings index a v ∨ (s.act a).GainedSince rest index v

theorem gainedSince_append {first rest : List LearnerAction} :
    s.GainedSince (first ++ rest) index v ↔
      s.GainedSince first index v ∨ (s.actAll first).GainedSince rest index v := by
  induction first generalizing s with
  | nil => exact (Iff.of_eq (false_or _)).symm
  | cons a more ih =>
      rw [List.cons_append, GainedSince, GainedSince, ih, or_assoc]
      rfl

/-! ### What is known after an action -/

theorem store_act (s : LearningState) (a : LearnerAction) :
    (s.act a).learner.store = s.learner.store := by
  cases a with
  | begin => exact (Quiet.begin s).frame.store
  | merge pattern variations =>
      simp only [act, withLearner]
      rw [merge_eq]
  | improve names =>
      obtain ⟨observers, metrics, himproved⟩ := improved_eq s names
      simp only [act, himproved]
  | _ => rfl

theorem variations_logged (known : Insights) (outcomes : List (Pattern × Option Improvement)) :
    (logged known outcomes).variations = known.variations := by
  rw [logged_eq]

theorem mem_variationsOf_act {name : String}
    (hv : v ∈ (s.act a).learner.insights.variationsOf name) :
    v ∈ s.learner.insights.variationsOf name ∨
      (∃ now found, s.learner.store.load now s.storage = .ok (some found) ∧
        v ∈ found.variationsOf name) ∨
      v ∈ s.teaches name a := by
  cases a with
  | begin =>
      cases hbegun : s.learner.initialized with
      | true =>
          rw [act, begin_of_initialized hbegun] at hv
          exact Or.inl hv
      | false =>
          rw [act, insights_begin hbegun] at hv
          unfold loaded at hv
          split at hv
          next found hload => exact Or.inr (Or.inl ⟨_, found, hload, hv⟩)
          next => exact Or.inl hv
  | note project files found =>
      rcases ProjectLearning.mem_variationsOf_addDerived.mp hv with hold | ⟨texts, hmem, hrule, _⟩
      · exact Or.inl hold
      · exact Or.inr (Or.inr ⟨texts, hmem, hrule⟩)
  | merge pattern variations =>
      simp only [act, withLearner] at hv
      rw [merge_eq] at hv
      rcases Insights.mem_variationsOf_addVariations.mp hv with hold | ⟨hname, hmem, _⟩
      · exact Or.inl hold
      · exact Or.inr (Or.inr ⟨hname, hmem⟩)
  | improve names =>
      obtain ⟨observers, metrics, himproved⟩ := improved_eq s names
      simp only [act, himproved] at hv
      refine Or.inl ?_
      unfold Insights.variationsOf at hv ⊢
      rwa [variations_logged] at hv
  | reset => exact absurd hv List.not_mem_nil
  | _ => exact Or.inl hv

/-- What can be loaded after an action could be loaded before, or was known and is saved. -/
theorem load_act (hremembers : s.learner.store.Remembers) (hadmits : a.Admits s) {now : Instant}
    {found : Insights} (hload : s.learner.store.load now (s.act a).storage = .ok (some found)) :
    s.learner.store.load now s.storage = .ok (some found) ∨
      found.variations = s.learner.insights.variations := by
  cases a with
  | begin =>
      rw [act, (Quiet.begin s).frame.storage] at hload
      exact Or.inl hload
  | improve names =>
      obtain ⟨observers, metrics, himproved⟩ := improved_eq s names
      simp only [act, himproved] at hload
      exact Or.inl hload
  | save =>
      exact (hremembers.load_save hload).symm.imp_right fun hsame => hsame.variations
  | reset => exact Or.inl (hremembers.load_clear hload)
  | write files => exact Or.inl ((hadmits now).symm.trans hload)
  | _ => exact Or.inl hload

/-- What an action offers to a pattern is what is known for its name then, or comes from outside. -/
theorem eq_of_offer_mem_doings {p : Pattern} {variations : List String}
    (hmem : .offer variations ∈ s.doings index p a) :
    variations = (s.act a).learner.insights.variationsOf p.name ∨
      a = .use index (.offer variations) := by
  cases a with
  | begin =>
      simp only [doings] at hmem
      cases hbegun : s.learner.initialized with
      | true => simp [hbegun] at hmem
      | false =>
          left
          simpa [hbegun, act, insights_begin hbegun] using hmem
  | search i file context =>
      simp only [doings] at hmem
      split at hmem <;> simp at hmem
  | note project files found => exact Or.inl (by simpa [doings] using hmem)
  | merge pattern vs =>
      simp only [doings] at hmem
      split at hmem
      · simp at hmem
      · exact Or.inl (by simpa using hmem)
  | improve names =>
      simp only [doings] at hmem
      split at hmem <;> simp at hmem
  | use i op =>
      simp only [doings] at hmem
      split at hmem
      next hi =>
        obtain rfl := List.mem_singleton.mp hmem
        exact Or.inr (by rw [hi])
      next => simp at hmem
  | _ => simp [doings] at hmem

/-! ### What a run keeps -/

/-- The patterns have grown by what was gained, and nothing else is known or stored for them. -/
structure KnowsOnly (t : LearningState) (gained : Nat → Set String) (u : LearningState) : Prop where
  store : u.learner.store = t.learner.store
  patterns : ∀ index (q : Pattern), u.learner.patterns[index]? = some q →
    ∃ p : Pattern, t.learner.patterns[index]? = some p ∧ p.GrownBy (gained index) q
  known : ∀ index (q : Pattern) v, u.learner.patterns[index]? = some q →
    v ∈ u.learner.insights.variationsOf q.name → v ∈ gained index
  stored : ∀ now found, u.learner.store.load now u.storage = .ok (some found) →
    ∀ index (q : Pattern) v, u.learner.patterns[index]? = some q →
      v ∈ found.variationsOf q.name → v ∈ gained index

theorem KnowsOnly.act {gained : Nat → Set String} (hu : KnowsOnly t gained u)
    (hremembers : t.learner.store.Remembers) (hadmits : a.Admits u) :
    KnowsOnly t (fun index => gained index ∪ { v | u.Brings index a v }) (u.act a) := by
  have hknown : ∀ index (q : Pattern) v, u.learner.patterns[index]? = some q →
      v ∈ (u.act a).learner.insights.variationsOf q.name →
        v ∈ gained index ∪ { v | u.Brings index a v } := by
    intro index q v hq hv
    rcases mem_variationsOf_act hv with hold | ⟨now, found, hload, hfound⟩ | htaught
    · exact Or.inl (hu.known index q v hq hold)
    · exact Or.inl (hu.stored now found hload index q v hq hfound)
    · exact Or.inr ⟨q, hq, Or.inl htaught⟩
  have hbefore : ∀ index (r : Pattern), (u.act a).learner.patterns[index]? = some r →
      ∃ q : Pattern, u.learner.patterns[index]? = some q ∧ r.name = q.name ∧
        ∃ p : Pattern, t.learner.patterns[index]? = some p ∧
          p.GrownBy (gained index ∪ { v | u.Brings index a v }) r := by
    intro index r hr
    rw [getElem?_patterns_act] at hr
    obtain ⟨q, hq, rfl⟩ := Option.map_eq_some_iff.mp hr
    obtain ⟨p, hp, hgrown⟩ := hu.patterns index q hq
    have hnext := hgrown.performAll (Set.subset_union_left (t := { v | u.Brings index a v }))
      (u.doings index q a) fun variations hmem v hv => by
        rcases eq_of_offer_mem_doings hmem with rfl | rfl
        · exact hknown index q v hq hv
        · exact Or.inr ⟨q, hq, Or.inr ⟨variations, rfl, hv⟩⟩
    exact ⟨q, hq, hnext.name.trans hgrown.name.symm, p, hp, hnext⟩
  refine ⟨(store_act u a).trans hu.store, ?_, ?_, ?_⟩
  · intro index r hr
    obtain ⟨_, _, _, hgrown⟩ := hbefore index r hr
    exact hgrown
  · intro index r v hr hv
    obtain ⟨q, hq, hname, _⟩ := hbefore index r hr
    exact hknown index q v hq (hname ▸ hv)
  · intro now found hload index r v hr hv
    obtain ⟨q, hq, hname, _⟩ := hbefore index r hr
    rw [store_act] at hload
    rw [hname] at hv
    rcases load_act (hu.store ▸ hremembers) hadmits hload with hold | hsaved
    · exact Or.inl (hu.stored now found hold index q v hq hv)
    · unfold Insights.variationsOf at hv
      rw [hsaved] at hv
      exact Or.inl (hu.known index q v hq hv)

theorem KnowsOnly.actAll (ht : KnowsOnly t (fun _ => ∅) t)
    (hremembers : t.learner.store.Remembers) {done : List LearnerAction}
    (hadmits : t.AdmitsAll done) :
    KnowsOnly t (fun index => { v | t.GainedSince done index v }) (t.actAll done) := by
  -- From the end of the run, as what an action brings in depends on the state before it.
  induction done using List.reverseRecOn with
  | nil => exact ht
  | append_singleton done a ih =>
      obtain ⟨hdone, hlast, _⟩ := admitsAll_append.mp hadmits
      have hnext := (ih hdone).act hremembers hlast
      have hgained : (fun index => { v | t.GainedSince done index v } ∪
          { v | (t.actAll done).Brings index a v }) =
            fun index => { v | t.GainedSince (done ++ [a]) index v } := by
        funext index
        ext v
        simp only [Set.mem_union, Set.mem_ofPred_eq, gainedSince_append, GainedSince, or_false]
      rw [hgained] at hnext
      rwa [actAll_append]

theorem knowsOnly_reset (hreset : s.reset = (.ok (), t)) : KnowsOnly t (fun _ => ∅) t := by
  unfold reset at hreset
  simp only [Prod.mk.injEq] at hreset
  obtain ⟨hclear, rfl⟩ := hreset
  refine ⟨rfl, fun index q hq => ⟨q, hq, .refl q _⟩, ?_, ?_⟩
  · exact fun index q v _ hv => absurd hv List.not_mem_nil
  · intro now found hload
    rw [StoreHandle.load_of_clear (Prod.ext hclear rfl)] at hload
    cases hload

/-! ### What is taken up after a reset -/

/-- What an action makes a pattern take up is the best of what the learner knows, if it improves the
pattern, and otherwise the best of what the pattern holds. -/
theorem of_mem_takings (hadmits : a.Admits s) (hv : v ∈ s.takings index a) :
    ∃ q, s.learner.patterns[index]? = some q ∧ Installable (merge q.textRule v) ∧
      (v ∈ s.learner.insights.variationsOf q.name ∨
        (∀ names, a ≠ .improve names) ∧ selectBest q.variations q.textRule = some v) := by
  unfold takings at hv
  cases hq : s.learner.patterns[index]? with
  | none => simp [hq] at hv
  | some q =>
      rw [hq, Option.map_some, Option.getD_some] at hv
      have hone : ∀ {op : PatternOperation}, v ∈ q.taken [op] →
          op.merges = true ∧ selectBest (q.atHand op) q.textRule = some v ∧
            Installable (merge q.textRule v) := by
        intro op hmem
        obtain ⟨hop, hbest, hrule, _⟩ := Pattern.of_taken? (Pattern.mem_taken_singleton.mp hmem)
        exact ⟨hop, hbest, hrule⟩
      refine ⟨q, rfl, ?_⟩
      cases a with
      | search i file context =>
          simp only [doings] at hv
          split at hv
          · obtain ⟨_, hbest, hrule⟩ := hone hv
            exact ⟨hrule, Or.inr ⟨by simp, hbest⟩⟩
          · cases hv
      | improve names =>
          simp only [doings] at hv
          split at hv
          · obtain ⟨_, hbest, hrule⟩ := hone hv
            exact ⟨hrule, Or.inl (of_selectBest hbest).1⟩
          · cases hv
      | use i op =>
          simp only [doings] at hv
          split at hv
          · obtain ⟨hop, hbest, hrule⟩ := hone hv
            cases op with
            | search source context time => exact ⟨hrule, Or.inr ⟨by simp, hbest⟩⟩
            | adapt context now => exact ⟨hrule, Or.inr ⟨by simp, hbest⟩⟩
            | improve known now => cases hadmits
            | _ => cases hop
          · cases hv
      | begin =>
          rw [Pattern.taken_of_not_merges] at hv
          · cases hv
          · simp only [doings]
            split <;> simp [PatternOperation.merges]
      | note project files found =>
          rw [Pattern.taken_of_not_merges (by simp [doings, PatternOperation.merges])] at hv
          cases hv
      | merge pattern variations =>
          rw [Pattern.taken_of_not_merges] at hv
          · cases hv
          · simp only [doings]
            split <;> simp [PatternOperation.merges]
      | _ => cases hv

/-- A pattern that prefers a variation for a rule which it has or can be given takes it up at once
when it adapts. -/
theorem exists_takings {p : Pattern} (hp : t.learner.patterns[index]? = some p) {rule : String}
    (hrule : rule = p.textRule ∨ Installable rule) (hbest : selectBest p.variations rule = some v)
    (hmerged : Installable (merge rule v)) :
    ∃ done a, t.AdmitsAll (done ++ [a]) ∧ v ∈ (t.actAll done).takings index a ∧
      ¬ t.GainedSince done index v := by
  let adapt : LearnerAction := .use index (.adapt (.ofFile "" "" .unknown) ⟨0, 0⟩)
  have hadapts : ∀ {u : LearningState} {q : Pattern}, u.learner.patterns[index]? = some q →
      q.variations = p.variations → q.textRule = rule → v ∈ u.takings index adapt := by
    rintro u q hq hheld rfl
    rw [takings, hq, Option.map_some, Option.getD_some, doings, if_pos rfl,
      Pattern.mem_taken_singleton]
    exact Pattern.taken?_adapt (hheld ▸ hbest) hmerged _ _
  rcases hrule with rfl | hrule
  · exact ⟨[], adapt, ⟨rfl, trivial⟩, hadapts hp rfl rfl, id⟩
  -- Any other rule is installed first, which brings nothing in.
  · have hinstalled : (t.act (.use index (.install rule))).learner.patterns[index]? =
        some (p.installed rule) := by
      rw [getElem?_patterns_act, hp, Option.map_some, doings, if_pos rfl]
      rfl
    have hheld : (p.installed rule).variations = p.variations := by
      rw [Pattern.variations, Pattern.variations, Pattern.mode_installed]
    have htext : (p.installed rule).textRule = rule := by
      rw [Pattern.textRule, Pattern.core_installed, RulePattern.textRule_installed hrule]
    refine ⟨[.use index (.install rule)], adapt, ⟨rfl, rfl, trivial⟩,
      hadapts hinstalled hheld htext, ?_⟩
    rintro (⟨_, _, htaught | ⟨variations, huse, _⟩⟩ | hnone)
    · exact htaught
    · cases huse
    · exact hnone

/-- Whatever the learner does is a row of admitted actions.  After a reset, improvements take up only
what was brought in since.  Whether the same holds of all that is taken up, but for some variations
that the patterns may hold of their own, depends on the patterns at the reset: it does exactly if none
of them holds another variation that it prefers for the rule in place, or for a rule that can be
installed. -/
theorem takes_gained_iff (hremembers : s.learner.store.Remembers)
    (hreset : s.reset = (.ok (), t)) (own : Nat → Set String) :
    (∀ (u : LearningState) (op : LearnerOperation), op.Spares u → ByActions u (u.perform op)) ∧
      (∀ done names, t.AdmitsAll done → ∀ index, ∀ v ∈ (t.actAll done).takings index (.improve names),
        t.GainedSince done index v) ∧
      ((∀ done a, t.AdmitsAll (done ++ [a]) → ∀ index, ∀ v ∈ (t.actAll done).takings index a,
          t.GainedSince done index v ∨ v ∈ own index) ↔
        ∀ index p, t.learner.patterns[index]? = some p →
          ∀ rule, rule = p.textRule ∨ Installable rule →
            ∀ v, selectBest p.variations rule = some v → Installable (merge rule v) →
              v ∈ own index) := by
  have hstore : t.learner.store = s.learner.store := by
    have ht : t = s.act .reset := (congrArg Prod.snd hreset).symm
    rw [ht, store_act]
  have hrun : ∀ {done}, t.AdmitsAll done →
      KnowsOnly t (fun index => { v | t.GainedSince done index v }) (t.actAll done) :=
    fun hdone => (knowsOnly_reset hreset).actAll (hstore ▸ hremembers) hdone
  refine ⟨fun _ _ => byActions_perform, ?_, ?_, ?_⟩
  · intro done names hdone index v hv
    have hadmits : (LearnerAction.improve names).Admits (t.actAll done) := trivial
    obtain ⟨q, hq, _, hknown | ⟨hnot, _⟩⟩ := of_mem_takings hadmits hv
    · exact (hrun hdone).known index q v hq hknown
    · exact absurd rfl (hnot names)
  · intro hall index p hp rule hrule v hbest hmerged
    obtain ⟨done, a, hadmits, hv, hnot⟩ := exists_takings hp hrule hbest hmerged
    exact (hall done a hadmits index v hv).resolve_left hnot
  · intro hreach done a hadmits index v hv
    obtain ⟨hdone, hlast, _⟩ := admitsAll_append.mp hadmits
    obtain ⟨q, hq, hmerged, hknown | ⟨_, hbest⟩⟩ := of_mem_takings hlast hv
    · exact Or.inl ((hrun hdone).known index q v hq hknown)
    · obtain ⟨p, hp, hgrown⟩ := (hrun hdone).patterns index q hq
      rcases hgrown.of_selectBest hbest with hgained | hheld
      · exact Or.inl hgained
      · exact Or.inr (hreach index p hp q.textRule hgrown.textRule v hheld hmerged)

/-! ### A variation from a snapshot -/

/-- A learner with a pattern that adapts, which has loaded one variation for it. -/
def loadedLearner : LearningState :=
  (inMemory [.adaptive wordPattern.core .standard]
    (some ((Insights.empty ⟨0, 0⟩).addVariations "w" ["b"]).1)).begin

/-- The pattern of the learner still takes up the variation after the reset. -/
theorem takes_gained_iff_loaded :
    let t := loadedLearner.reset.2
    t.learner.insights.variationsOf "w" = [] ∧
      (∀ done names, t.AdmitsAll done → ∀ index,
        ∀ v ∈ (t.actAll done).takings index (.improve names), t.GainedSince done index v) ∧
      ¬ ∀ done a, t.AdmitsAll (done ++ [a]) → ∀ index, ∀ v ∈ (t.actAll done).takings index a,
        t.GainedSince done index v ∨ v ∈ (∅ : Set String) := by
  intro t
  obtain ⟨_, himproved, hall⟩ := takes_gained_iff (s := loadedLearner) (t := t)
    StoreHandle.memory_remembers rfl fun _ => ∅
  refine ⟨rfl, himproved, fun hforgotten => ?_⟩
  obtain ⟨p, hp⟩ : ∃ p, t.learner.patterns[0]? = some p :=
    Option.isSome_iff_exists.mp (by decide +kernel)
  have hpattern : (t.learner.patterns[0]?).map (fun p => (p.variations, p.textRule)) =
      some (["b"], "") := by decide +kernel
  rw [hp, Option.map_some, Option.some.injEq, Prod.mk.injEq] at hpattern
  obtain ⟨hheld, hrule⟩ := hpattern
  exact hall.mp hforgotten 0 p hp "" (Or.inl hrule.symm) "b" (by rw [hheld]; decide +kernel)
    (by decide +kernel)

end LearningState
end AdaptiveRules
