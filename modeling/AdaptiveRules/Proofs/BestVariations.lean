import AdaptiveRules.Proofs.ForgottenVariations

/-!
# Only the best variation counts

Of the variations known for a pattern, improving it looks at one alone: the first of those with the
highest score that its rule does not hold yet.  If the rule merged with it can be installed, the
pattern takes it up, whatever else is known.  If not, the pattern keeps its rule, and since improving
forgets no variation, it keeps it as often as it is improved again, whatever else is known.
-/

namespace AdaptiveRules

namespace RuleMerging

variable {variations : List String} {rule v : String}

/-- Of the variations that can still be merged into the rule this is the first of those with the
highest score. -/
def IsBest (variations : List String) (rule v : String) : Prop :=
  ∃ before after, candidates rule variations = before ++ v :: after ∧
    (∀ w ∈ before, score w < score v) ∧ ∀ w ∈ after, score w ≤ score v

theorem foldl_better_of_forall_le {vs : List String} (hle : ∀ w ∈ vs, score w ≤ score v) :
    vs.foldl better (some v) = some v := by
  induction vs with
  | nil => rfl
  | cons w rest ih =>
      obtain ⟨hw, hrest⟩ := List.forall_mem_cons.mp hle
      rw [List.foldl_cons, better, if_neg (by omega)]
      exact ih hrest

/-- The choice goes through the list once; the induction is on what is still to come. -/
theorem exists_split_of_foldl_better (b : String) (vs : List String) :
    ∃ before v after, b :: vs = before ++ v :: after ∧ vs.foldl better (some b) = some v ∧
      (∀ w ∈ before, score w < score v) ∧ ∀ w ∈ after, score w ≤ score v := by
  induction vs generalizing b with
  | nil => exact ⟨[], b, [], rfl, rfl, by simp, by simp⟩
  | cons w rest ih =>
      rw [List.foldl_cons, better]
      by_cases hless : score b < score w
      · rw [if_pos hless]
        obtain ⟨before, v, after, hsplit, hbest, hbefore, hafter⟩ := ih w
        have hv : score w ≤ score v := by
          cases before with
          | nil => rw [(List.cons.inj hsplit).1]
          | cons u before =>
              obtain ⟨rfl, _⟩ := List.cons.inj hsplit
              exact (hbefore w List.mem_cons_self).le
        exact ⟨b :: before, v, after, by rw [hsplit, List.cons_append], hbest,
          List.forall_mem_cons.mpr ⟨by omega, hbefore⟩, hafter⟩
      · rw [if_neg hless]
        obtain ⟨before, v, after, hsplit, hbest, hbefore, hafter⟩ := ih b
        cases before with
        | nil =>
            obtain ⟨rfl, rfl⟩ := List.cons.inj hsplit
            exact ⟨[], b, w :: rest, rfl, hbest, by simp,
              List.forall_mem_cons.mpr ⟨by omega, hafter⟩⟩
        | cons u before =>
            obtain ⟨rfl, rfl⟩ := List.cons.inj hsplit
            obtain ⟨hb, hbefore⟩ := List.forall_mem_cons.mp hbefore
            refine ⟨b :: w :: before, v, after, rfl, hbest, ?_, hafter⟩
            exact List.forall_mem_cons.mpr ⟨hb, List.forall_mem_cons.mpr ⟨by omega, hbefore⟩⟩

theorem selectBest_eq_some_iff : selectBest variations rule = some v ↔ IsBest variations rule v := by
  unfold selectBest IsBest
  constructor
  · intro hbest
    cases hopen : candidates rule variations with
    | nil =>
        rw [hopen] at hbest
        cases hbest
    | cons b rest =>
        obtain ⟨before, w, after, hsplit, hchosen, hrest⟩ := exists_split_of_foldl_better b rest
        rw [hopen, List.foldl_cons, better, hchosen] at hbest
        obtain rfl := Option.some.inj hbest
        exact ⟨before, after, hsplit, hrest⟩
  · rintro ⟨before, after, hsplit, hbefore, hafter⟩
    have hseen : better (before.foldl better none) v = some v := by
      cases before with
      | nil => rfl
      | cons b rest =>
          obtain ⟨first, w, others, hfirst, hchosen, _⟩ := exists_split_of_foldl_better b rest
          have hw : score w < score v := hbefore w (hfirst ▸ by simp)
          rw [List.foldl_cons, show better none b = some b from rfl, hchosen, better, if_pos hw]
    rw [hsplit, List.foldl_append, List.foldl_cons, hseen]
    exact foldl_better_of_forall_le hafter

end RuleMerging

namespace Pattern

open RuleMerging

variable {p : Pattern} {variations : List String} {v : String}

theorem improve_eq_of_improved {rule : String}
    (himproved : improved? variations p.textRule = some rule) :
    p.improve variations =
      match p.install rule with
      | .ok q => (q, true)
      | .error _ => (p, false) := by
  have hcore : improved? variations p.core.textRule = some rule := himproved
  unfold improve Adaptation.improve install
  rw [hcore]
  cases hinstall : p.core.install rule with
  | error e => simp only [hinstall, Except.map]
  | ok core => simp only [hinstall, Except.map]

/-- The pattern takes up the best variation if it can. -/
theorem improve_of_installable (hbest : IsBest variations p.textRule v)
    (hrule : Installable (merge p.textRule v)) :
    ∃ q, p.improve variations = (q, true) ∧ q.textRule = merge p.textRule v := by
  have himproved : improved? variations p.textRule = some (merge p.textRule v) := by
    rw [improved?_eq, selectBest_eq_some_iff.mpr hbest, Option.map_some]
  obtain ⟨q, hinstall⟩ := exists_install hrule p
  refine ⟨q, ?_, (of_install hinstall).2.1⟩
  rw [improve_eq_of_improved himproved, hinstall]

/-- If the best variation cannot be taken up, no other one is. -/
theorem improve_of_rejected
    (hrejected : ∀ v, IsBest variations p.textRule v → ¬ Installable (merge p.textRule v)) :
    p.improve variations = (p, false) := by
  cases hbest : selectBest variations p.textRule with
  | none =>
      have hnone : improved? variations p.core.textRule = none := by
        rw [improved?_eq, show selectBest variations p.core.textRule = none from hbest,
          Option.map_none]
      unfold improve Adaptation.improve
      rw [hnone]
  | some v =>
      have himproved : improved? variations p.textRule = some (merge p.textRule v) := by
        rw [improved?_eq, hbest, Option.map_some]
      rw [improve_eq_of_improved himproved]
      cases hinstall : p.install (merge p.textRule v) with
      | error e => rfl
      | ok q => exact absurd (of_install hinstall).1 (hrejected v (selectBest_eq_some_iff.mp hbest))

/-- A pattern that is improved takes up the best variation, with an empty cache, or stays as it is. -/
theorem improve_of_change (hchanged : (p.improve variations).2 = true) :
    ∃ v, IsBest variations p.textRule v ∧ Installable (merge p.textRule v) ∧
      (p.improve variations).1.textRule = merge p.textRule v ∧
      (p.improve variations).1.core =
        { p.core with
          body := (p.improve variations).1.core.body
          cache := p.core.cache.map MatchCache.clear } := by
  by_cases htakes : ∃ v, IsBest variations p.textRule v ∧ Installable (merge p.textRule v)
  · obtain ⟨v, hbest, hrule⟩ := htakes
    obtain ⟨q, himproved, htext⟩ := improve_of_installable hbest hrule
    refine ⟨v, hbest, hrule, by rw [himproved]; exact htext, ?_⟩
    have hselected : selectBest variations p.core.textRule = some v := selectBest_eq_some_iff.mpr hbest
    have hcore : (p.improve variations).1.core = p.core.installed (merge p.textRule v) := by
      show (Adaptation.improve p.core variations).1 = _
      rw [core_improve, improved?_eq, hselected]
      rfl
    obtain ⟨compiled, _, hinstalled⟩ := RulePattern.installed_of_installable (p := p.core) hrule
    rw [hcore, hinstalled]
  · have hkept : p.improve variations = (p, false) :=
      improve_of_rejected fun v hbest hrule => htakes ⟨v, hbest, hrule⟩
    rw [hkept] at hchanged
    cases hchanged

theorem improve_of_no_change (hkept : (p.improve variations).2 = false) :
    (p.improve variations).1 = p := by
  rcases p.improve_cases variations with hsame | ⟨q, hother, _⟩
  · rw [hsame]
  · rw [hother] at hkept
    cases hkept

theorem improve_iff :
    (p.improve variations).2 = true ↔
      ∃ v, IsBest variations p.textRule v ∧ Installable (merge p.textRule v) := by
  constructor
  · intro hchanged
    obtain ⟨v, hbest, hrule, _⟩ := improve_of_change hchanged
    exact ⟨v, hbest, hrule⟩
  · rintro ⟨v, hbest, hrule⟩
    obtain ⟨q, himproved, _⟩ := improve_of_installable hbest hrule
    rw [himproved]

/-- The answer says whether the rule is another one. -/
theorem improve_iff_textRule_ne (p : Pattern) (variations : List String) :
    (p.improve variations).2 = true ↔ (p.improve variations).1.textRule ≠ p.textRule := by
  constructor
  · intro hchanged
    obtain ⟨v, hbest, _, htext, _⟩ := improve_of_change hchanged
    obtain ⟨_, hword, hne, _⟩ := of_selectBest (selectBest_eq_some_iff.mpr hbest)
    rw [htext]
    exact merge_ne hword hne
  · intro hother
    by_contra hkept
    rw [improve_of_no_change (by simpa using hkept)] at hother
    exact hother rfl

end Pattern

namespace LearningState

open RuleMerging

variable {s : LearningState} {names : Option (List String)} {index : Nat} {p : Pattern}

theorem outcomes_improvePatterns (known : Insights) (now : Instant) (names : Option (List String))
    (patterns : List Pattern) :
    (improvePatterns known now names patterns).2 =
      (patterns.filter (isTarget names)).map (improvePattern known now) := by
  induction patterns with
  | nil => rfl
  | cons p rest ih =>
      rw [improvePatterns_cons, List.filter_cons]
      split
      · rw [List.map_cons, ← ih]
      · exact ih

/-- No other pattern has the name of the one at the index. -/
def NamedOnce (patterns : List Pattern) (index : Nat) : Prop :=
  ∀ i p q, patterns[index]? = some p → patterns[i]? = some q → q.name = p.name → i = index

theorem learner_improve (s : LearningState) (names : Option (List String)) :
    (s.improve names).2.learner.patterns =
        (improvePatterns s.begin.learner.insights s.begin.now names s.begin.learner.patterns).1 ∧
      (s.improve names).2.learner.insights.variations = s.begin.learner.insights.variations ∧
      (s.improve names).2.learner.initialized = true := by
  obtain ⟨observers, metrics, himproved⟩ := improved_eq s.begin names
  have hlearner := congrArg LearningState.learner himproved
  have hsaved : ∀ {α : Type} (read : Learner → α),
      (∀ l saved, read { l with insights := { l.insights with saved } } = read l) →
      read (s.improve names).2.learner = read (s.begin.improved names).learner :=
    fun read hread => hread _ _
  refine ⟨?_, ?_, ?_⟩
  · rw [hsaved Learner.patterns fun _ _ => rfl, hlearner]
  · rw [hsaved (fun l => l.insights.variations) fun _ _ => rfl, hlearner]
    exact variations_logged ..
  · rw [hsaved Learner.initialized fun _ _ => rfl, hlearner]
    exact initialized_begin s

/-- Improving puts the improved patterns in their places. -/
theorem getElem?_patterns_improve (hp : s.begin.learner.patterns[index]? = some p)
    (names : Option (List String)) :
    (s.improve names).2.learner.patterns[index]? =
      some (if isTarget names p then
        (p.improve (s.begin.learner.insights.variationsOf p.name)).1 else p) := by
  rw [(learner_improve s names).1, patterns_improvePatterns, List.getElem?_map, hp]
  rfl

theorem entry_improvePattern (known : Insights) (now : Instant) (p : Pattern) :
    (improvePattern known now p).2 =
      if (p.improve (known.variationsOf p.name)).2 then
        some (.ofRules p.textRule (p.improve (known.variationsOf p.name)).1.textRule now)
      else none := rfl

theorem isSome_improvePattern (known : Insights) (now : Instant) (p : Pattern) :
    (improvePattern known now p).2.isSome = (p.improve (known.variationsOf p.name)).2 := by
  rw [entry_improvePattern]
  cases (p.improve (known.variationsOf p.name)).2 <;> rfl

/-- The answers are those of the patterns that are meant, each under its name. -/
theorem answers_improve (s : LearningState) (names : Option (List String)) :
    (s.improve names).1 =
      Dict.ofList ((s.begin.learner.patterns.filter (isTarget names)).map fun q =>
        (q.name, (q.improve (s.begin.learner.insights.variationsOf q.name)).2)) := by
  unfold improve
  simp only [outcomes_improvePatterns, List.map_map]
  refine congrArg Dict.ofList (List.map_congr_left fun q _ => ?_)
  simp only [Function.comp_apply, name_improvePattern, isSome_improvePattern]

/-- The patterns of a name that are meant, in their order. -/
def namesakes (names : Option (List String)) (name : String) (patterns : List Pattern) :
    List Pattern :=
  patterns.filter fun q => isTarget names q && q.name == name

/-- The answer for a name is that of the last of its patterns. -/
theorem get?_improve (s : LearningState) (names : Option (List String)) (name : String) :
    (s.improve names).1.get? name =
      (namesakes names name s.begin.learner.patterns).getLast?.map fun q =>
        (q.improve (s.begin.learner.insights.variationsOf q.name)).2 := by
  rw [answers_improve, Dict.get?_ofList, List.filter_map, List.filter_filter, List.getLast?_map,
    Option.map_map]
  unfold namesakes
  simp only [Function.comp_def, Bool.and_comm]

theorem namesakes_of_namedOnce (hp : s.begin.learner.patterns[index]? = some p)
    (honce : NamedOnce s.begin.learner.patterns index) (names : Option (List String)) :
    ∀ q ∈ namesakes names p.name s.begin.learner.patterns, q = p := by
  intro q hq
  obtain ⟨hmem, hmeant⟩ := List.mem_filter.mp hq
  obtain ⟨_, hname⟩ := Bool.and_eq_true_iff.mp hmeant
  obtain ⟨i, hi⟩ := List.mem_iff_getElem?.mp hmem
  obtain rfl := honce i p q hp hi (beq_iff_eq.mp hname)
  exact Option.some.inj (hi.symm.trans hp)

/-- The answer for a name that is unique says whether the rule of its pattern was changed. -/
theorem get?_improve_of_namedOnce (hp : s.begin.learner.patterns[index]? = some p)
    (htarget : isTarget names p = true) (honce : NamedOnce s.begin.learner.patterns index) :
    (s.improve names).1.get? p.name =
      some (p.improve (s.begin.learner.insights.variationsOf p.name)).2 := by
  have hall := namesakes_of_namedOnce hp honce names
  have hmem : p ∈ namesakes names p.name s.begin.learner.patterns :=
    List.mem_filter.mpr ⟨List.mem_of_getElem? hp, by simp [htarget]⟩
  rw [get?_improve]
  cases hlast : (namesakes names p.name s.begin.learner.patterns).getLast? with
  | none =>
      rw [List.getLast?_eq_none_iff.mp hlast] at hmem
      cases hmem
  | some q => rw [hall q (List.mem_of_getLast? hlast), Option.map_some]

/-- A pattern that is improved takes up the best of the variations known for its name if the merged
rule can be installed, and none of them if not, whatever else is known. -/
theorem improve_tries_best_only (hp : s.begin.learner.patterns[index]? = some p)
    (htarget : isTarget names p = true) :
    ∃ q, (s.improve names).2.learner.patterns[index]? = some q ∧
      (∀ v, IsBest (s.begin.learner.insights.variationsOf p.name) p.textRule v →
        Installable (merge p.textRule v) →
        q.textRule = merge p.textRule v ∧
          (NamedOnce s.begin.learner.patterns index →
            (s.improve names).1.get? p.name = some true)) ∧
      ((∀ v, IsBest (s.begin.learner.insights.variationsOf p.name) p.textRule v →
          ¬ Installable (merge p.textRule v)) →
        q = p ∧
          (NamedOnce s.begin.learner.patterns index →
            (s.improve names).1.get? p.name = some false)) := by
  have hplace := getElem?_patterns_improve hp names
  rw [if_pos htarget] at hplace
  refine ⟨_, hplace, ?_, ?_⟩
  · intro v hbest hrule
    obtain ⟨q, himproved, htext⟩ := Pattern.improve_of_installable hbest hrule
    rw [himproved]
    refine ⟨htext, fun honce => ?_⟩
    rw [get?_improve_of_namedOnce hp htarget honce, himproved]
  · intro hrejected
    have hkept := Pattern.improve_of_rejected hrejected
    rw [hkept]
    refine ⟨rfl, fun honce => ?_⟩
    rw [get?_improve_of_namedOnce hp htarget honce, hkept]

/-- A learner that knows variations of the pattern for words. -/
def knowing (variations : List String) : LearningState :=
  (inMemory [wordPattern] none).withLearner fun l => { l with
    insights := (l.insights.addVariations "w" variations).1
    initialized := true }

theorem improve_tries_best_only_words :
    ∃ q, ((knowing ["(((", "[a-z]+"]).improve none).2.learner.patterns[0]? = some q ∧
      q.textRule = "[a-z]+" ∧
      ((knowing ["(((", "[a-z]+"]).improve none).1.get? "w" = some true := by
  obtain ⟨q, hplace, htaken, _⟩ :=
    @improve_tries_best_only (knowing ["(((", "[a-z]+"]) none 0 wordPattern rfl rfl
  have hbest : IsBest ((knowing ["(((", "[a-z]+"]).begin.learner.insights.variationsOf "w") ""
      "[a-z]+" := selectBest_eq_some_iff.mp (by decide)
  have honce : NamedOnce (knowing ["(((", "[a-z]+"]).begin.learner.patterns 0 := by
    intro i p q _ hq _
    have hi := (List.getElem?_eq_some_iff.mp hq).1
    exact Nat.lt_one_iff.mp hi
  obtain ⟨htext, hanswer⟩ := htaken "[a-z]+" hbest (by decide +kernel)
  exact ⟨q, hplace, htext, hanswer honce⟩

/-- The better variation cannot be read, so the one that could be taken up is passed over. -/
theorem improve_passes_over_usable :
    "b" ∈ (knowing ["(((((", "b"]).begin.learner.insights.variationsOf "w" ∧
      alreadyMerged wordPattern.textRule "b" = false ∧
      Installable (merge wordPattern.textRule "b") ∧
      ((knowing ["(((((", "b"]).improve none).2.textRules = [wordPattern.textRule] ∧
      ((knowing ["(((((", "b"]).improve none).1.get? "w" = some false := by
  decide +kernel

/-! ### Improving again and again -/

def improveAll (s : LearningState) (calls : List (Option (List String))) : LearningState :=
  calls.foldl (fun s names => (s.improve names).2) s

/-- The best of the variations known for the pattern at an index, if there is any, cannot be taken
up. -/
structure Blocked (s : LearningState) (index : Nat) (p : Pattern) : Prop where
  begun : s.learner.initialized = true
  place : s.learner.patterns[index]? = some p
  rejected : ∀ v, IsBest (s.learner.insights.variationsOf p.name) p.textRule v →
    ¬ Installable (merge p.textRule v)

theorem Blocked.improve (hblocked : Blocked s index p) (names : Option (List String)) :
    Blocked (s.improve names).2 index p := by
  have hbegin := begin_of_initialized hblocked.begun
  obtain ⟨_, hvariations, hbegun⟩ := learner_improve s names
  rw [hbegin] at hvariations
  have hknown : ∀ name, (s.improve names).2.learner.insights.variationsOf name =
      s.learner.insights.variationsOf name := by
    intro name
    unfold Insights.variationsOf
    rw [hvariations]
  refine ⟨hbegun, ?_, fun v hbest => hblocked.rejected v (by rwa [hknown] at hbest)⟩
  rw [getElem?_patterns_improve (hbegin.symm ▸ hblocked.place), hbegin,
    Pattern.improve_of_rejected hblocked.rejected, ite_self]

/-- However often it is improved, the pattern stays as it is. -/
theorem Blocked.improveAll (hblocked : Blocked s index p) (calls : List (Option (List String))) :
    Blocked (s.improveAll calls) index p := by
  induction calls generalizing s with
  | nil => exact hblocked
  | cons names rest ih => exact ih (hblocked.improve names)

end LearningState
end AdaptiveRules
