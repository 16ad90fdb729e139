import AdaptiveRules.Proofs.Dictionaries
import AdaptiveRules.Proofs.ImprovementReplay
import AdaptiveRules.Proofs.Lessons

/-!
# What is known agrees with itself

The insights hold the same facts in several places: the projects in two sets and a counter, the
improvements in a log, two counters and two tables of rates.  Whatever a learner does, and whichever
learners follow it on its store, these agree, and what is in the lists could be put there: every
variation once, every improvement made of a rule and a variation that is still known.  The store has
to hand out what was saved, what it handed out before, or nothing.
-/

namespace AdaptiveRules

open LearningState

/-! ### Improvements come from variations -/

namespace RuleMerging

theorem mem_of_selectBest {variations : List String} {current v : String}
    (hbest : selectBest variations current = some v) : v ∈ variations := by
  have hfold : ∀ (vs : List String) (best : Option String),
      vs.foldl better best = some v → best = some v ∨ v ∈ vs := by
    intro vs
    induction vs with
    | nil => exact fun best hbest => Or.inl hbest
    | cons w rest ih =>
        intro best hbest
        rcases ih (better best w) hbest with hfirst | hrest
        · have hone : better best w = best ∨ better best w = some w := by
            unfold better
            split
            · exact Or.inr rfl
            · split
              · exact Or.inr rfl
              · exact Or.inl rfl
          rcases hone with hone | hone
          · exact Or.inl (hone ▸ hfirst)
          · rw [hone] at hfirst
            cases hfirst
            exact Or.inr List.mem_cons_self
        · exact Or.inr (List.mem_cons_of_mem _ hrest)
  rcases hfold _ none hbest with hnone | hmem
  · cases hnone
  · exact List.mem_of_mem_filter hmem

theorem merge_of_improved? {variations : List String} {current rule : String}
    (himproved : improved? variations current = some rule) :
    rule ≠ current ∧ ∃ v ∈ variations, rule = merge current v := by
  unfold improved? at himproved
  obtain ⟨hmerged, hother⟩ := Option.filter_eq_some_iff.mp himproved
  obtain ⟨v, hbest, rfl⟩ := Option.map_eq_some_iff.mp hmerged
  exact ⟨by simpa using hother, v, mem_of_selectBest hbest, rfl⟩

end RuleMerging

theorem Pattern.improved?_of_improve {p q : Pattern} {variations : List String}
    (himprove : p.improve variations = (q, true)) :
    RuleMerging.improved? variations p.textRule = some q.textRule := by
  unfold Pattern.improve Adaptation.improve at himprove
  cases hrule : RuleMerging.improved? variations p.core.textRule with
  | none => simp [hrule] at himprove
  | some rule =>
      cases hinstall : p.core.install rule with
      | error e => simp [hrule, hinstall] at himprove
      | ok core =>
          have hpattern : p.install rule = .ok { p with core } := by
            unfold Pattern.install
            rw [hinstall]
            rfl
          obtain ⟨_, htext, _⟩ := Pattern.of_install hpattern
          obtain rfl : { p with core } = q := by simpa [hrule, hinstall] using himprove
          rw [← htext] at hrule
          exact hrule

/-- The improvement replaces a rule by another one, made of it and one of the variations. -/
def Improvement.MergesOne (i : Improvement) (variations : List String) : Prop :=
  i.improved ≠ i.original ∧ ∃ v ∈ variations, i.improved = RuleMerging.merge i.original v

theorem Improvement.MergesOne.mono {i : Improvement} {variations more : List String}
    (hmerges : i.MergesOne variations) (hmore : ∀ v ∈ variations, v ∈ more) :
    i.MergesOne more := by
  obtain ⟨hother, v, hv, hmerge⟩ := hmerges
  exact ⟨hother, v, hmore v hv, hmerge⟩

theorem LearningState.mergesOne_of_mem_outcomes {known : Insights} {now : Instant}
    {names : Option (List String)} {patterns : List Pattern} {p : Pattern} {i : Improvement}
    (ho : (p, some i) ∈ (improvePatterns known now names patterns).2) :
    i.MergesOne (known.variationsOf p.name) := by
  induction patterns with
  | nil => cases ho
  | cons first rest ih =>
      rw [improvePatterns_cons] at ho
      split at ho
      · rcases List.mem_cons.mp ho with heq | ho
        · have hname := name_improvePattern known now first
          rw [← heq] at hname
          rw [hname]
          unfold improvePattern at heq
          rcases first.improve_cases (known.variationsOf first.name) with hsame | ⟨q, hother, _⟩
          · rw [hsame] at heq
            cases heq
          · rw [hother] at heq
            cases heq
            exact RuleMerging.merge_of_improved? (Pattern.improved?_of_improve hother)
        · exact ih ho
      · exact ih ho

/-! ### Consistent insights -/

namespace Insights

structure Consistent (s : Insights) : Prop where
  trained : s.trained.keys = s.projects.keys
  analyzed : s.metrics.projectsAnalyzed = s.projects.size
  patternsImproved : s.metrics.patternsImproved = s.totalImprovements
  ruleImprovements : s.metrics.ruleImprovements = s.totalImprovements
  rateBefore : s.metrics.rateBefore.keys = s.improvements.keys
  rateAfter : s.metrics.rateAfter.keys = s.improvements.keys
  variations : ∀ pattern vs, s.variations.get? pattern = some vs → vs ≠ [] ∧ vs.Nodup ∧ "" ∉ vs
  improvements : ∀ pattern, ∀ i ∈ s.improvementsOf pattern, i.MergesOne (s.variationsOf pattern)

/-- All that consistency is about. -/
structure SameContent (new old : Insights) : Prop where
  projects : new.projects.keys = old.projects.keys
  trained : new.trained = old.trained
  variations : new.variations = old.variations
  improvements : new.improvements.map (List.map fun i => (i.original, i.improved)) =
    old.improvements.map (List.map fun i => (i.original, i.improved))
  analyzed : new.metrics.projectsAnalyzed = old.metrics.projectsAnalyzed
  patternsImproved : new.metrics.patternsImproved = old.metrics.patternsImproved
  ruleImprovements : new.metrics.ruleImprovements = old.metrics.ruleImprovements
  rateBefore : new.metrics.rateBefore.keys = old.metrics.rateBefore.keys
  rateAfter : new.metrics.rateAfter.keys = old.metrics.rateAfter.keys

variable {s t : Insights}

theorem SameContent.refl (s : Insights) : SameContent s s :=
  ⟨rfl, rfl, rfl, rfl, rfl, rfl, rfl, rfl, rfl⟩

/-- What an improvement replaced, and by what. -/
abbrev replaced (i : Improvement) : String × String := (i.original, i.improved)

theorem totalImprovements_eq (s : Insights) :
    s.totalImprovements = (s.improvements.map (List.map replaced)).values.flatten.length := by
  rw [Dict.values_map, ← List.map_flatten, List.length_map]
  rfl

theorem map_improvementsOf (s : Insights) (pattern : String) :
    (s.improvementsOf pattern).map replaced =
      ((s.improvements.map (List.map replaced)).get? pattern).getD [] := by
  rw [Dict.get?_map]
  unfold improvementsOf
  cases s.improvements.get? pattern <;> rfl

/-- Consistency depends on the content only. -/
theorem Consistent.of_sameContent (hs : s.Consistent) (hsame : SameContent t s) :
    t.Consistent := by
  have htotal : t.totalImprovements = s.totalImprovements := by
    rw [totalImprovements_eq, totalImprovements_eq, hsame.improvements]
  have hkeys : t.improvements.keys = s.improvements.keys := by
    rw [← Dict.keys_map (List.map replaced), hsame.improvements, Dict.keys_map]
  refine ⟨?_, ?_, ?_, ?_, ?_, ?_, ?_, ?_⟩
  · rw [hsame.trained, hsame.projects, hs.trained]
  · rw [hsame.analyzed, hs.analyzed, Dict.size_eq_of_keys hsame.projects]
  · rw [hsame.patternsImproved, htotal, hs.patternsImproved]
  · rw [hsame.ruleImprovements, htotal, hs.ruleImprovements]
  · rw [hsame.rateBefore, hkeys, hs.rateBefore]
  · rw [hsame.rateAfter, hkeys, hs.rateAfter]
  · rw [hsame.variations]
    exact hs.variations
  · intro pattern i hi
    have hmem : replaced i ∈ (s.improvementsOf pattern).map replaced := by
      rw [map_improvementsOf, ← hsame.improvements, ← map_improvementsOf]
      exact List.mem_map_of_mem hi
    obtain ⟨j, hj, heq⟩ := List.mem_map.mp hmem
    obtain ⟨horiginal, himproved⟩ : j.original = i.original ∧ j.improved = i.improved := by
      simpa using heq
    have hknown := hs.improvements pattern j hj
    unfold Improvement.MergesOne at hknown ⊢
    rw [← horiginal, ← himproved]
    unfold variationsOf at hknown ⊢
    rw [hsame.variations]
    exact hknown

theorem consistent_empty (now : Instant) : (empty now).Consistent := by
  refine ⟨rfl, rfl, rfl, rfl, rfl, rfl, nofun, ?_⟩
  intro pattern i hi
  cases hi

/-! ### Additions -/

theorem totalVariations_addVariation (s : Insights) (pattern variation : String) :
    (s.addVariation pattern variation).totalVariations =
      s.totalVariations + if s.isNew pattern variation then 1 else 0 := by
  unfold addVariation
  split
  · exact Dict.length_values_insert_concat s.variations pattern variation
  · rfl

/-- The number of variations grows by as many as are said to be new. -/
theorem totalVariations_addVariations (s : Insights) (pattern : String)
    (variations : List String) :
    (s.addVariations pattern variations).1.totalVariations =
      s.totalVariations + (s.addVariations pattern variations).2 := by
  induction variations generalizing s with
  | nil => rfl
  | cons v rest ih =>
      have hrest := ih (s.addVariation pattern v)
      rw [totalVariations_addVariation] at hrest
      simp only [addVariations]
      omega

/-- Of every pattern that has variations there is at least one, each of them is listed once, and none
is empty. -/
def Tidy (s : Insights) : Prop :=
  ∀ pattern vs, s.variations.get? pattern = some vs → vs ≠ [] ∧ vs.Nodup ∧ "" ∉ vs

theorem Tidy.of_variationsOf (hs : s.Tidy) (pattern : String) :
    (s.variationsOf pattern).Nodup ∧ "" ∉ s.variationsOf pattern := by
  unfold variationsOf
  cases hget : s.variations.get? pattern with
  | none => exact ⟨List.nodup_nil, List.not_mem_nil⟩
  | some vs => exact (hs pattern vs hget).2

theorem Tidy.addVariation (hs : s.Tidy) (pattern variation : String) :
    (s.addVariation pattern variation).Tidy := by
  unfold Insights.addVariation
  split
  · next hnew =>
      obtain ⟨hword, hother⟩ : variation ≠ "" ∧ variation ∉ s.variationsOf pattern := by
        simpa [isNew] using hnew
      intro other vs
      simp only [Dict.get?_insert]
      split
      · rintro ⟨⟩
        obtain ⟨hnodup, hempty⟩ := hs.of_variationsOf pattern
        refine ⟨by simp, ?_, ?_⟩
        · rw [List.nodup_append]
          refine ⟨hnodup, List.nodup_singleton _, ?_⟩
          rintro v hv w hw rfl
          exact hother (List.mem_singleton.mp hw ▸ hv)
        · simpa [hempty] using hword.symm
      · exact hs other vs
  · exact hs

/-- Whatever is known of variations, more of them leave the rest consistent. -/
theorem Consistent.addVariation (hs : s.Consistent) (pattern variation : String) :
    (s.addVariation pattern variation).Consistent := by
  have hmore : ∀ other, ∀ v ∈ s.variationsOf other,
      v ∈ (s.addVariation pattern variation).variationsOf other :=
    fun other v hv => mem_variationsOf_addVariation.mpr (Or.inl hv)
  have hrest := addVariation_eq s pattern variation
  have hlists : (s.addVariation pattern variation).Tidy :=
    Tidy.addVariation hs.variations pattern variation
  rw [hrest] at hmore hlists ⊢
  exact ⟨hs.trained, hs.analyzed, hs.patternsImproved, hs.ruleImprovements, hs.rateBefore,
    hs.rateAfter, hlists, fun other i hi => (hs.improvements other i hi).mono (hmore other)⟩

/-- An improvement is counted and its rates are noted together with its entry in the log. -/
theorem Consistent.addImprovement (hs : s.Consistent) {p : Pattern} {i : Improvement}
    (hmerges : i.MergesOne (s.variationsOf p.name)) :
    { s.addImprovement p.name i with
      metrics := countImprovement s.metrics p }.Consistent := by
  have htotal : (s.addImprovement p.name i).totalImprovements = s.totalImprovements + 1 :=
    Dict.length_values_insert_concat s.improvements p.name i
  refine ⟨hs.trained, hs.analyzed, ?_, ?_, ?_, ?_, hs.variations, ?_⟩
  · exact (congrArg (· + 1) hs.patternsImproved).trans htotal.symm
  · exact (congrArg (· + 1) hs.ruleImprovements).trans htotal.symm
  · exact Dict.keys_insert_congr hs.rateBefore ..
  · exact Dict.keys_insert_congr hs.rateAfter ..
  · intro other j hj
    have hlog : j ∈ s.improvementsOf other ∨ other = p.name ∧ j = i := by
      unfold improvementsOf Insights.addImprovement at hj
      simp only [Dict.get?_insert] at hj
      split at hj
      · next heq =>
          rw [heq]
          rcases List.mem_append.mp hj with hj | hj
          · exact Or.inl hj
          · exact Or.inr ⟨rfl, List.mem_singleton.mp hj⟩
      · exact Or.inl hj
    rcases hlog with hj | ⟨rfl, rfl⟩
    · exact hs.improvements other j hj
    · exact hmerges

end Insights

namespace Lesson

variable {settings : LearnerSettings} {known : Insights} {l : Lesson}

/-- A project that was not known is noted in all places at once. -/
theorem consistent_addTo (hknown : known.Consistent) (hnew : known.isTrained l.project = false)
    (settings : LearnerSettings) : (l.addTo settings known).1.Consistent := by
  have hgrown := LearningState.addDerived_keeps (P := Insights.Consistent)
    (fun _ pattern v hs => hs.addVariation pattern v) hknown settings l.found.entries
  have hvariations : (l.addTo settings known).1.variations =
      (ProjectLearning.addDerived settings known l.found.entries).1.variations := by
    have hwith := ProjectLearning.addDerived_with settings known
      (known.projects.insert l.project l.insight) known.saved l.found.entries
    exact congrArg (fun grown => grown.1.variations) hwith
  have hother : known.projects.get? l.project = none := by
    have hunknown : known.projects.contains l.project = false := by
      rw [← Dict.contains_congr hknown.trained]
      exact hnew
    simpa [Dict.contains] using hunknown
  have hmore : ∀ pattern, ∀ v ∈ known.variationsOf pattern,
      v ∈ (l.addTo settings known).1.variationsOf pattern :=
    fun pattern v hv => mem_variationsOf_addTo.mpr (Or.inl hv)
  have hlists := hgrown.variations
  rw [← hvariations] at hlists
  rw [addTo_eq] at hmore ⊢
  refine ⟨?_, ?_, hknown.patternsImproved, hknown.ruleImprovements, hknown.rateBefore,
    hknown.rateAfter, hlists, ?_⟩
  · exact Dict.keys_insert_congr hknown.trained ..
  · rw [Dict.size_insert_of_get?_eq_none _ hother, ← hknown.analyzed]
  · exact fun pattern i hi => (hknown.improvements pattern i hi).mono (hmore pattern)

end Lesson

/-! ### Stores that remember -/

/-- What is loaded after insights were saved are these, or what was loaded before; clearing the store
adds nothing to it. -/
structure StoreHandle.Remembers (h : StoreHandle) : Prop where
  load_save : ∀ {storage : Storage} {known found : Insights} {now : Instant},
    h.load now (h.save known storage).2 = .ok (some found) →
      found.SameContent known ∨ h.load now storage = .ok (some found)
  load_clear : ∀ {storage : Storage} {found : Insights} {now : Instant},
    h.load now (h.clear storage).2 = .ok (some found) → h.load now storage = .ok (some found)

theorem StoreHandle.memory_remembers : memory.Remembers := by
  refine ⟨?_, nofun⟩
  rintro storage known found now ⟨⟩
  exact Or.inl (Insights.SameContent.refl known)

theorem StoreHandle.broken_remembers : broken.Remembers := ⟨nofun, nofun⟩

/-- If the operation writes a file, it is not one of the store's. -/
def LearnerOperation.Spares (op : LearnerOperation) (s : LearningState) : Prop :=
  op.writesFile = true → ∀ now,
    s.learner.store.load now (s.perform op).storage = s.learner.store.load now s.storage

namespace LearningState

/-- What the learner knows is consistent, and so is what it can load. -/
structure Coherent (s : LearningState) : Prop where
  known : s.learner.insights.Consistent
  stored : ∀ now found, s.learner.store.load now s.storage = .ok (some found) → found.Consistent

variable {s t : LearningState}

theorem insights_noteImprovement (s : LearningState) (p : Pattern) (i : Improvement) :
    (s.noteImprovement p i).learner.insights = { s.learner.insights.addImprovement p.name i with
      metrics := countImprovement s.learner.insights.metrics p } := by
  obtain ⟨observers, hannounce⟩ := announce_eq (s.withLearner fun l =>
    { l with insights := { l.insights with metrics := countImprovement l.insights.metrics p } })
    (.patternImproved p.name i)
  exact congrArg (fun u : LearningState => u.learner.insights.addImprovement p.name i) hannounce

theorem consistent_noteImprovements (hknown : s.learner.insights.Consistent)
    {outcomes : List (Pattern × Option Improvement)}
    (hmerges : ∀ p i, (p, some i) ∈ outcomes →
      i.MergesOne (s.learner.insights.variationsOf p.name)) :
    (s.noteImprovements outcomes).learner.insights.Consistent := by
  induction outcomes generalizing s with
  | nil => exact hknown
  | cons o rest ih =>
      obtain ⟨p, entry⟩ := o
      have hrest : ∀ q i, (q, some i) ∈ rest →
          i.MergesOne (s.learner.insights.variationsOf q.name) :=
        fun q i hmem => hmerges q i (List.mem_cons_of_mem _ hmem)
      cases entry with
      | none => exact ih hknown hrest
      | some i =>
          have hfirst := hknown.addImprovement (hmerges p i List.mem_cons_self)
          rw [← insights_noteImprovement] at hfirst
          refine ih hfirst fun q j hmem => ?_
          rw [insights_noteImprovement]
          exact hrest q j hmem

theorem consistent_improved (hknown : s.learner.insights.Consistent)
    (names : Option (List String)) : (s.improved names).learner.insights.Consistent := by
  have hmerges : ∀ p i,
      (p, some i) ∈ (improvePatterns s.learner.insights s.now names s.learner.patterns).2 →
        i.MergesOne (s.learner.insights.variationsOf p.name) :=
    fun p i hmem => mergesOne_of_mem_outcomes hmem
  have hnoted := consistent_noteImprovements (s := s.withLearner fun l => { l with
    patterns := (improvePatterns s.learner.insights s.now names s.learner.patterns).1 })
    hknown hmerges
  exact ⟨hnoted.trained, hnoted.analyzed, hnoted.patternsImproved, hnoted.ruleImprovements,
    hnoted.rateBefore, hnoted.rateAfter, hnoted.variations, hnoted.improvements⟩

theorem Coherent.loaded (hs : s.Coherent) : s.loaded.Consistent := by
  unfold LearningState.loaded
  split
  · next found hload => exact hs.stored _ found hload
  · exact hs.known

theorem Quiet.consistent (hquiet : Quiet s t) (hs : s.Coherent) :
    t.learner.insights.Consistent := by
  cases hquiet with
  | search hsearch =>
      rw [hsearch.insights_eq]
      exact hs.known
  | begin =>
      by_cases hbegun : s.learner.initialized = true
      · rw [begin_of_initialized hbegun]
        exact hs.known
      · rw [insights_begin (by simpa using hbegun)]
        exact hs.loaded
  | note project files found _ hnew =>
      rw [(ProjectLearning.note_eq s project files found).1]
      exact Lesson.consistent_addTo hs.known hnew s.learner.settings
  | merge variations =>
      unfold merged
      rw [mergeAll_eq]
      exact addAll_keeps (fun _ pattern v hknown => hknown.addVariation pattern v) hs.known variations
  | stamp =>
      have hknown := hs.known
      exact ⟨hknown.trained, hknown.analyzed, hknown.patternsImproved, hknown.ruleImprovements,
        hknown.rateBefore, hknown.rateAfter, hknown.variations, hknown.improvements⟩
  | tick time => exact hs.known

theorem Coherent.of_move (hs : s.Coherent) (hmove : Move s t) : t.Coherent := by
  refine ⟨?_, ?_⟩
  · cases hmove with
    | quiet hquiet => exact hquiet.consistent hs
    | improve names => exact consistent_improved hs.known names
  · rw [hmove.frame.store, hmove.frame.storage]
    exact hs.stored

theorem Coherent.of_moves (hs : s.Coherent) (hmoves : Moves s t) : t.Coherent := by
  induction hmoves with
  | refl => exact hs
  | tail _ hlast ih => exact ih.of_move hlast

theorem Coherent.store (hremembers : s.learner.store.Remembers) (hs : s.Coherent) :
    s.store.Coherent := by
  refine ⟨hs.known, fun now found hload => ?_⟩
  rcases hremembers.load_save hload with hsame | hbefore
  · exact hs.known.of_sameContent hsame
  · exact hs.stored now found hbefore

theorem Coherent.reset (hremembers : s.learner.store.Remembers) (hs : s.Coherent) :
    s.reset.2.Coherent :=
  ⟨Insights.consistent_empty s.now,
    fun now found hload => hs.stored now found (hremembers.load_clear hload)⟩

theorem Coherent.perform (hremembers : s.learner.store.Remembers) (hs : s.Coherent)
    {op : LearnerOperation} (hspares : op.Spares s) : (s.perform op).Coherent := by
  by_cases hop : op = .reset
  · rw [hop]
    exact hs.reset hremembers
  · obtain ⟨t, hmoves, ⟨_, hend⟩ | ⟨_, hsaved⟩ | ⟨_, hwrites, files, hwritten⟩⟩ :=
      perform_cases s hop
    · rw [hend]
      exact hs.of_moves hmoves
    · rw [hsaved]
      rw [← (frame_of_moves hmoves).store] at hremembers
      exact (hs.of_moves hmoves).store hremembers
    · refine ⟨?_, ?_⟩
      · rw [hwritten]
        exact (hs.of_moves hmoves).known
      · intro now found
        rw [store_perform, hspares hwrites]
        exact hs.stored now found

end LearningState
end AdaptiveRules
