import AdaptiveRules.Proofs.BestVariations

/-!
# What is said of improvements

Improving the patterns answers for every name that is meant, puts new rules in place, makes entries
in the logs and counts them.  Where names differ, all of these agree: the answer is yes for those
patterns of which the rule was changed, each of them gets one entry, and nothing else changes.  This
goes by the rules that are in place when the improving begins.  A learner that has not begun first
installs again what was improved before, and that is not part of the answer.
-/

namespace AdaptiveRules

namespace LearningState

open RuleMerging

variable {s : LearningState} {names : Option (List String)} {p q : Pattern} {name : String}

/-- The entries of a name come from its patterns. -/
theorem entriesOf_improvePatterns (known : Insights) (now : Instant) (names : Option (List String))
    (name : String) (patterns : List Pattern) :
    entriesOf name (improvePatterns known now names patterns).2 =
      (namesakes names name patterns).filterMap fun q => (improvePattern known now q).2 := by
  rw [outcomes_improvePatterns]
  unfold entriesOf namesakes
  rw [List.filterMap_map, List.filterMap_filter, List.filterMap_filter]
  refine List.filterMap_congr fun q _ => ?_
  simp only [Function.comp_apply, name_improvePattern, Bool.and_eq_true, beq_iff_eq]
  by_cases htarget : isTarget names q = true <;> by_cases hname : q.name = name <;>
    simp [htarget, hname]

theorem namesakes_of_nodup {patterns : List Pattern} (hnames : (patterns.map Pattern.name).Nodup)
    (hp : p ∈ patterns) :
    namesakes names p.name patterns = if isTarget names p = true then [p] else [] := by
  induction patterns with
  | nil => cases hp
  | cons first rest ih =>
      obtain ⟨hother, hrest⟩ := List.nodup_cons.mp hnames
      unfold namesakes at ih ⊢
      rw [List.filter_cons]
      rcases List.mem_cons.mp hp with rfl | hp
      · have hnone : rest.filter (fun q => isTarget names q && q.name == p.name) = [] := by
          rw [List.filter_eq_nil_iff]
          intro q hq hmeant
          obtain ⟨_, hname⟩ := Bool.and_eq_true_iff.mp hmeant
          exact hother (beq_iff_eq.mp hname ▸ List.mem_map_of_mem hq)
        rw [hnone]
        simp
      · have hne : first.name ≠ p.name := fun heq => hother (heq ▸ List.mem_map_of_mem hp)
        rw [if_neg (by simp [hne])]
        exact ih hrest hp

theorem counts_noteImprovements (s : LearningState)
    (outcomes : List (Pattern × Option Improvement)) :
    let before := s.learner.insights.metrics
    let after := (s.noteImprovements outcomes).learner.insights.metrics
    after.patternsImproved = before.patternsImproved + outcomes.countP (·.2.isSome) ∧
      after.ruleImprovements = before.ruleImprovements + outcomes.countP (·.2.isSome) := by
  induction outcomes generalizing s with
  | nil => exact ⟨rfl, rfl⟩
  | cons o rest ih =>
      obtain ⟨p, entry⟩ := o
      cases entry with
      | none => exact ih s
      | some i =>
          obtain ⟨hpatterns, hrules⟩ := ih (s.noteImprovement p i)
          rw [insights_noteImprovement] at hpatterns hrules
          rw [List.countP_cons_of_pos rfl]
          constructor
          · refine hpatterns.trans ?_
            simp only [countImprovement]
            omega
          · refine hrules.trans ?_
            simp only [countImprovement]
            omega

theorem names_begin (s : LearningState) :
    s.begin.learner.patterns.map Pattern.name = s.learner.patterns.map Pattern.name := by
  cases hbegun : s.learner.initialized with
  | true => rw [begin_of_initialized hbegun]
  | false =>
      rw [patterns_begin hbegun, List.map_map]
      refine List.map_congr_left fun p _ => ?_
      exact (Pattern.name_perform _ (.offer _)).trans (p.name_perform (.restore s.loaded))

/-- The best of the variations known for the pattern can be taken up. -/
def TakesUp (known : Insights) (p : Pattern) : Prop :=
  ∃ v, IsBest (known.variationsOf p.name) p.textRule v ∧ Installable (merge p.textRule v)

/-- What comes of one of the patterns when they are improved: of its rule, its cache and its log, and
of the answer for its name. -/
structure Reported (names : Option (List String)) (now : Instant) (before after : Insights)
    (answers : Dict Bool) (p q : Pattern) : Prop where
  answer_iff : answers.get? p.name = some true ↔ q.textRule ≠ p.textRule
  changed_iff : q.textRule ≠ p.textRule ↔ isTarget names p = true ∧ TakesUp before p
  of_changed : q.textRule ≠ p.textRule →
    (∃ v, IsBest (before.variationsOf p.name) p.textRule v ∧ q.textRule = merge p.textRule v) ∧
      q = { p with core := { p.core with
        body := q.core.body
        cache := p.core.cache.map MatchCache.clear } } ∧
      after.improvementsOf p.name =
        before.improvementsOf p.name ++ [.ofRules p.textRule q.textRule now]
  of_kept : q.textRule = p.textRule →
    q = p ∧ after.improvementsOf p.name = before.improvementsOf p.name

theorem insights_improve (s : LearningState) (names : Option (List String)) :
    ∃ metrics saved, (s.improve names).2.learner.insights =
      { logged s.begin.learner.insights
          (improvePatterns s.begin.learner.insights s.begin.now names s.begin.learner.patterns).2 with
        metrics, saved } := by
  obtain ⟨observers, metrics, himproved⟩ := improved_eq s.begin names
  refine ⟨metrics, some (s.begin.improved names).now, ?_⟩
  calc
    (s.improve names).2.learner.insights =
        { (s.begin.improved names).learner.insights with
          saved := some (s.begin.improved names).now } := rfl
    _ = _ := by rw [himproved]

theorem improvementsOf_improve (s : LearningState) (names : Option (List String)) (name : String) :
    (s.improve names).2.learner.insights.improvementsOf name =
      s.begin.learner.insights.improvementsOf name ++
        (namesakes names name s.begin.learner.patterns).filterMap fun q =>
          (improvePattern s.begin.learner.insights s.begin.now q).2 := by
  obtain ⟨metrics, saved, hinsights⟩ := insights_improve s names
  rw [hinsights, ← entriesOf_improvePatterns]
  exact improvementsOf_logged ..

theorem contains_improve (s : LearningState) (names : Option (List String)) (name : String) :
    (s.improve names).1.contains name = true ↔
      ∃ p ∈ s.begin.learner.patterns, p.name = name ∧ isTarget names p = true := by
  rw [Dict.contains, get?_improve, Option.isSome_map, List.getLast?_isSome, ne_eq, namesakes,
    List.filter_eq_nil_iff]
  simp [and_comm]

/-- The pattern that is meant is the only one of its name, so the answer and the entries for the name
are its own. -/
theorem reported_improve (hnames : (s.begin.learner.patterns.map Pattern.name).Nodup)
    (hp : p ∈ s.begin.learner.patterns) (names : Option (List String)) :
    Reported names s.begin.now s.begin.learner.insights (s.improve names).2.learner.insights
      (s.improve names).1 p
      (if isTarget names p then
        (p.improve (s.begin.learner.insights.variationsOf p.name)).1 else p) := by
  have hanswer := get?_improve s names p.name
  have hlog := improvementsOf_improve s names p.name
  rw [namesakes_of_nodup hnames hp] at hanswer hlog
  cases htarget : isTarget names p with
  | false =>
      rw [htarget] at hanswer hlog
      simp only [Bool.false_eq_true, if_false] at hanswer hlog ⊢
      refine ⟨by simp [hanswer], by simp [htarget], fun hother => absurd rfl hother, fun _ => ?_⟩
      exact ⟨rfl, by simpa using hlog⟩
  | true =>
      rw [htarget] at hanswer hlog
      simp only [if_true] at hanswer hlog ⊢
      have hchanged := p.improve_iff_textRule_ne
        (s.begin.learner.insights.variationsOf p.name)
      simp only [List.filterMap_cons, List.filterMap_nil, entry_improvePattern] at hlog
      refine ⟨?_, ?_, fun hother => ?_, fun hsame => ?_⟩
      · rw [hanswer, ← hchanged]
        simp
      · rw [← hchanged, Pattern.improve_iff, htarget, TakesUp]
        simp
      · have hyes := hchanged.mpr hother
        obtain ⟨v, hbest, _, htext, hcore⟩ := Pattern.improve_of_change hyes
        rw [hyes] at hlog
        refine ⟨⟨v, hbest, htext⟩, ?_, by simpa using hlog⟩
        rw [← hcore]
        rfl
      · have hno : (p.improve (s.begin.learner.insights.variationsOf p.name)).2 = false := by
          simpa using fun hyes => hchanged.mp hyes hsame
        rw [hno] at hlog
        exact ⟨Pattern.improve_of_no_change hno, by simpa using hlog⟩

/-- As many answers are yes as there are entries. -/
theorem count_answers_improve (hnames : (s.begin.learner.patterns.map Pattern.name).Nodup)
    (names : Option (List String)) :
    (s.improve names).1.values.count true = s.begin.improvementCount names := by
  have hkeys : (((s.begin.learner.patterns.filter (isTarget names)).map fun q =>
      (q.name, (q.improve (s.begin.learner.insights.variationsOf q.name)).2)).map
        Prod.fst).Nodup := by
    rw [List.map_map]
    exact hnames.sublist (List.filter_sublist.map Pattern.name)
  have hvalues := (Dict.perm_ofList hkeys).map Prod.snd
  rw [← answers_improve] at hvalues
  calc
    (s.improve names).1.values.count true = _ := hvalues.count_eq true
    _ = (s.begin.learner.patterns.filter (isTarget names)).countP fun q =>
        (q.improve (s.begin.learner.insights.variationsOf q.name)).2 := by
      rw [List.map_map, List.count, List.countP_map]
      simp [Function.comp_def]
    _ = s.begin.improvementCount names := by
      rw [improvementCount, outcomes_improvePatterns, List.countP_map]
      simp only [Function.comp_def, isSome_improvePattern]

theorem counts_improve (s : LearningState) (names : Option (List String)) :
    let before := s.begin.learner.insights.metrics
    let after := (s.improve names).2.learner.insights.metrics
    after.patternsImproved = before.patternsImproved + s.begin.improvementCount names ∧
      after.ruleImprovements = before.ruleImprovements + s.begin.improvementCount names :=
  counts_noteImprovements
    (s.begin.withLearner fun l => { l with
      patterns := (improvePatterns l.insights s.begin.now names l.patterns).1 })
    (improvePatterns s.begin.learner.insights s.begin.now names s.begin.learner.patterns).2

theorem now_begin (s : LearningState) : s.begin.now = s.now := by
  unfold begin
  split <;> rfl

/-- Beginning changes a rule only by installing again what the log of its pattern tells. -/
theorem textRules_begin (hbefore : s.learner.initialized = false) :
    s.begin.textRules = s.learner.patterns.map fun p =>
      (Learner.restore p (s.loaded.improvementsOf p.name)).textRule := by
  unfold textRules
  rw [patterns_begin hbefore, List.map_map]
  refine List.map_congr_left fun p _ => ?_
  exact Pattern.textRule_perform _ (.offer _)

/-- Where the names of the patterns differ, what improving them answers, what it puts in place, and
what it notes agree, counted from when the learner has begun. -/
theorem improve_reports_changes (hnames : (s.learner.patterns.map Pattern.name).Nodup)
    (names : Option (List String)) :
    let answers := (s.improve names).1
    let before := s.begin.learner
    let after := (s.improve names).2.learner
    (s.learner.initialized = true → before = s.learner) ∧
      (s.learner.initialized = false → before.insights = s.loaded ∧
        s.begin.textRules = s.learner.patterns.map fun p =>
          (Learner.restore p (s.loaded.improvementsOf p.name)).textRule) ∧
      (∀ name, answers.contains name = true ↔
        ∃ p ∈ before.patterns, p.name = name ∧ isTarget names p = true) ∧
      List.Forall₂ (Reported names s.now before.insights after.insights answers)
        before.patterns after.patterns ∧
      after.insights.metrics.patternsImproved =
        before.insights.metrics.patternsImproved + answers.values.count true ∧
      after.insights.metrics.ruleImprovements =
        before.insights.metrics.ruleImprovements + answers.values.count true ∧
      (∀ name, answers.get? name ≠ some true →
        after.insights.improvementsOf name = before.insights.improvementsOf name) ∧
      after.insights.variations = before.insights.variations ∧
      after.insights.projects = before.insights.projects ∧
      after.insights.trained = before.insights.trained := by
  intro answers before after
  have hbegun : (before.patterns.map Pattern.name).Nodup := by rwa [names_begin]
  obtain ⟨metrics, saved, hinsights⟩ := insights_improve s names
  obtain ⟨hpatterns, hrules⟩ := counts_improve s names
  refine ⟨fun hdone => congrArg LearningState.learner (begin_of_initialized hdone),
    fun hopen => ⟨insights_begin hopen, textRules_begin hopen⟩, contains_improve s names, ?_, ?_, ?_,
    fun name hanswer => ?_, ?_, ?_, ?_⟩
  · rw [show after.patterns = _ from (learner_improve s names).1, patterns_improvePatterns,
      List.forall₂_map_right_iff, List.forall₂_same, ← now_begin]
    exact fun p hp => reported_improve hbegun hp names
  · rw [count_answers_improve hbegun]
    exact hpatterns
  · rw [count_answers_improve hbegun]
    exact hrules
  · by_cases hany : ∃ p ∈ before.patterns, p.name = name
    · obtain ⟨p, hp, rfl⟩ := hany
      have hreported := reported_improve hbegun hp names
      refine (hreported.of_kept ?_).2
      by_contra hother
      exact hanswer (hreported.answer_iff.mpr hother)
    · have hnone : namesakes names name before.patterns = [] := by
        rw [namesakes, List.filter_eq_nil_iff]
        intro p hp hmeant
        exact hany ⟨p, hp, beq_iff_eq.mp (Bool.and_eq_true_iff.mp hmeant).2⟩
      have hlog := improvementsOf_improve s names name
      rwa [hnone, List.filterMap_nil, List.append_nil] at hlog
  · exact (learner_improve s names).2.1
  · rw [show after.insights = _ from hinsights, logged_eq]
  · rw [show after.insights = _ from hinsights, logged_eq]

theorem improve_reports_changes_words :
    let t := (knowing ["(((", "[a-z]+"]).improve none
    t.1.get? "w" = some true ∧ t.2.textRules = ["[a-z]+"] ∧
      t.2.learner.insights.improvementsOf "w" = [.ofRules "" "[a-z]+" ⟨0, 0⟩] ∧
      t.2.learner.insights.metrics.patternsImproved = 1 := by
  obtain ⟨_, _, _, hall, hcounted, _⟩ := @improve_reports_changes (knowing ["(((", "[a-z]+"])
    (by decide) none
  have hbest : IsBest ((knowing ["(((", "[a-z]+"]).begin.learner.insights.variationsOf "w") ""
      "[a-z]+" := selectBest_eq_some_iff.mp (by decide)
  obtain ⟨q, _, hreported, hlast, hpatterns⟩ := List.forall₂_cons_left_iff.mp hall
  obtain rfl := List.forall₂_nil_left_iff.mp hlast
  have hother := hreported.changed_iff.mpr ⟨rfl, "[a-z]+", hbest, by decide +kernel⟩
  obtain ⟨⟨v, hv, htext⟩, _, hlog⟩ := hreported.of_changed hother
  obtain rfl : "[a-z]+" = v := Option.some.inj
    ((selectBest_eq_some_iff.mpr hbest).symm.trans (selectBest_eq_some_iff.mpr hv))
  rw [htext] at hlog
  refine ⟨hreported.answer_iff.mpr hother, ?_, hlog, ?_⟩
  · unfold textRules
    rw [hpatterns, List.map_singleton, htext]
    rfl
  · rw [hcounted]
    decide +kernel

/-- A learner that has not begun, with a store that holds an improvement made before. -/
def improvedBefore : LearningState :=
  inMemory [wordPattern]
    (some ((Insights.empty ⟨0, 0⟩).addImprovement "w" (.ofRules "" "b" ⟨0, 0⟩)))

/-- The rule is another one after the call, but it was only installed again. -/
theorem improve_restores_silently :
    (improvedBefore.learner.patterns.map Pattern.name).Nodup ∧
      improvedBefore.textRules = [""] ∧
      (improvedBefore.improve none).2.textRules = ["b"] ∧
      (improvedBefore.improve none).1.get? "w" = some false := by
  decide +kernel

end LearningState
end AdaptiveRules
