import AdaptiveRules.InsightsExchange
import AdaptiveRules.ProjectLearning
import Mathlib.Tactic

/-!
# What the learner can do at once

Whatever the learner is asked for, its state changes by a few kinds of moves, and at most once what
it knows is saved.  Learning a project may stop wherever it waits for something; what it has done up
to there is a row of moves as well.  Nothing is saved after that but by a learner that has loaded
before.
-/

namespace AdaptiveRules

open Relation

namespace LearningState

/-- The patterns that are meant improved, and all that is noted about it. -/
def improved (s : LearningState) (names : Option (List String)) : LearningState :=
  let (patterns, outcomes) := improvePatterns s.learner.insights s.now names s.learner.patterns
  ((s.withLearner fun l => { l with patterns }).noteImprovements outcomes).touchMetrics

def merged (s : LearningState) (variations : List (String × List String)) : LearningState :=
  { s with learner := (mergeAll s.learner variations).1 }

/-- A change while patterns are applied to a file. -/
inductive Search : LearningState → LearningState → Prop
  /-- Observers are told, or the patience wears off. -/
  | attend (s : LearningState) (observers : Observers) (patience : Option Nat) :
      Search s { s with observers, patience }
  | apply (s : LearningState) (index : Nat) (p : Pattern) (file : SourceFile)
      (context : MatchContext) (hp : s.learner.patterns[index]? = some p) :
      Search s (s.withLearner fun l => { l with
        patterns :=
          l.patterns.set index (ProjectLearning.matchPattern p file context s.time).pattern })

/-- A change of the learner that saves nothing and improves no pattern. -/
inductive Quiet : LearningState → LearningState → Prop
  | search {s t : LearningState} (hsearch : Search s t) : Quiet s t
  | begin (s : LearningState) : Quiet s s.begin
  | note (s : LearningState) (project : String) (files : List SourceFile)
      (found : ProjectLearning.Found) (hbegun : s.learner.initialized = true)
      (hnew : s.learner.insights.isTrained project = false) :
      Quiet s (ProjectLearning.note s project files found).1
  | merge (s : LearningState) (variations : List (String × List String))
      (hbegun : s.learner.initialized = true) : Quiet s (s.merged variations)
  | stamp (s : LearningState) : Quiet s s.stamp
  | tick (s : LearningState) (time : MatchTime) : Quiet s { s with time }

/-- A change of the learner that saves nothing. -/
inductive Move : LearningState → LearningState → Prop
  | quiet {s t : LearningState} (hquiet : Quiet s t) : Move s t
  | improve (s : LearningState) (names : Option (List String))
      (hbegun : s.learner.initialized = true) : Move s (s.improved names)

abbrev Searches : LearningState → LearningState → Prop := ReflTransGen Search

abbrev QuietMoves : LearningState → LearningState → Prop := ReflTransGen Quiet

abbrev Moves : LearningState → LearningState → Prop := ReflTransGen Move

theorem Searches.quietMoves {s t : LearningState} (hsearches : Searches s t) : QuietMoves s t :=
  hsearches.lift id fun _ _ hsearch => .search hsearch

theorem QuietMoves.moves {s t : LearningState} (hquiet : QuietMoves s t) : Moves s t :=
  hquiet.lift id fun _ _ hquiet => .quiet hquiet

theorem quietMoves_attend (s : LearningState) (observers : Observers) (patience : Option Nat) :
    QuietMoves s { s with observers, patience } :=
  .single (.search (.attend s observers patience))

theorem initialized_begin (s : LearningState) : s.begin.learner.initialized = true := by
  unfold begin
  split
  · assumption
  · rfl

theorem begin_of_initialized {s : LearningState} (hbegun : s.learner.initialized = true) :
    s.begin = s := if_pos hbegun

theorem insights_begin {s : LearningState} (hbefore : s.learner.initialized = false) :
    s.begin.learner.insights = s.loaded := by
  unfold begin
  rw [hbefore]
  rfl

theorem frame_of_searches {s t : LearningState} (hsearches : Searches s t) :
    t.learner = { s.learner with patterns := t.learner.patterns } ∧ t.storage = s.storage ∧
      t.time = s.time := by
  induction hsearches with
  | refl => exact ⟨rfl, rfl, rfl⟩
  | tail _ hlast ih =>
      cases hlast with
      | attend => exact ih
      | apply index p file context hp =>
          obtain ⟨hlearner, hstorage, htime⟩ := ih
          refine ⟨?_, hstorage, htime⟩
          simp only [withLearner]
          rw [hlearner]

theorem Search.insights_eq {s t : LearningState} (hsearch : Search s t) :
    t.learner.insights = s.learner.insights := by
  rw [(frame_of_searches (.single hsearch)).1]

/-! ### What moves leave alone -/

/-- The log entries of improved patterns taken over. -/
def logged (known : Insights) (outcomes : List (Pattern × Option Improvement)) : Insights :=
  outcomes.foldl
    (fun known o =>
      match o.2 with
      | some i => known.addImprovement o.1.name i
      | none => known)
    known

theorem logged_with_metrics (known : Insights) (metrics : LearningMetrics)
    (outcomes : List (Pattern × Option Improvement)) :
    logged { known with metrics } outcomes = { logged known outcomes with metrics } := by
  unfold logged
  induction outcomes generalizing known with
  | nil => rfl
  | cons o rest ih =>
      obtain ⟨p, entry⟩ := o
      cases entry with
      | none => exact ih known
      | some i => exact ih (known.addImprovement p.name i)

theorem logged_eq (known : Insights) (outcomes : List (Pattern × Option Improvement)) :
    logged known outcomes = { known with improvements := (logged known outcomes).improvements } := by
  refine List.foldlRecOn (motive := fun u : Insights =>
    u = { known with improvements := u.improvements }) outcomes _ rfl fun u hu o _ => ?_
  cases o.2 with
  | none => exact hu
  | some i =>
      rw [hu]
      rfl

/-- The entries that an improvement of the patterns comes to. -/
def improvementCount (s : LearningState) (names : Option (List String)) : Nat :=
  (improvePatterns s.learner.insights s.now names s.learner.patterns).2.countP (·.2.isSome)

def countImprovement (m : LearningMetrics) (p : Pattern) : LearningMetrics :=
  { m with
    patternsImproved := m.patternsImproved + 1
    ruleImprovements := m.ruleImprovements + 1
    rateBefore := m.rateBefore.insert p.name p.core.metrics.successRate
    rateAfter := m.rateAfter.insert p.name p.core.metrics.successRate }

theorem announce_eq (s : LearningState) (event : Event) :
    ∃ observers, s.announce event = { s with observers } := by
  unfold announce
  split
  · exact ⟨_, rfl⟩
  · exact ⟨s.observers, rfl⟩

theorem noteImprovement_eq (s : LearningState) (p : Pattern) (i : Improvement) :
    ∃ observers metrics, s.noteImprovement p i =
      { s with
        observers
        learner := { s.learner with
          insights := { s.learner.insights.addImprovement p.name i with metrics } } } := by
  obtain ⟨observers, hannounce⟩ := announce_eq (s.withLearner fun l =>
    { l with insights := { l.insights with metrics := countImprovement l.insights.metrics p } })
    (.patternImproved p.name i)
  refine ⟨observers, countImprovement s.learner.insights.metrics p, ?_⟩
  exact congrArg
    (withLearner · fun l => { l with insights := l.insights.addImprovement p.name i }) hannounce

theorem noteImprovements_eq (s : LearningState) (outcomes : List (Pattern × Option Improvement)) :
    ∃ observers metrics, s.noteImprovements outcomes =
      { s with
        observers
        learner := { s.learner with
          insights := { logged s.learner.insights outcomes with metrics } } } := by
  induction outcomes generalizing s with
  | nil => exact ⟨s.observers, s.learner.insights.metrics, rfl⟩
  | cons o rest ih =>
      obtain ⟨p, entry⟩ := o
      cases entry with
      | none => exact ih s
      | some i =>
          obtain ⟨_, _, hfirst⟩ := noteImprovement_eq s p i
          obtain ⟨observers, metrics, hrest⟩ := ih (s.noteImprovement p i)
          refine ⟨observers, metrics, ?_⟩
          calc
            s.noteImprovements ((p, some i) :: rest) =
                (s.noteImprovement p i).noteImprovements rest := rfl
            _ = _ := by
              rw [hrest, hfirst]
              simp only [logged_with_metrics]
              rfl

/-- Improving the patterns changes them, the log and the metrics. -/
theorem improved_eq (s : LearningState) (names : Option (List String)) :
    ∃ observers metrics, s.improved names =
      { s with
        observers
        learner := { s.learner with
          patterns := (improvePatterns s.learner.insights s.now names s.learner.patterns).1
          insights := { logged s.learner.insights
            (improvePatterns s.learner.insights s.now names s.learner.patterns).2 with
            metrics } } } := by
  obtain ⟨observers, metrics, hnoted⟩ := noteImprovements_eq
    (s.withLearner fun l => { l with
      patterns := (improvePatterns s.learner.insights s.now names s.learner.patterns).1 })
    (improvePatterns s.learner.insights s.now names s.learner.patterns).2
  refine ⟨observers, { metrics with lastUpdate := s.now }, ?_⟩
  exact congrArg touchMetrics hnoted

theorem merge_eq (l : Learner) (pattern : String) (variations : List String) :
    (l.merge pattern variations).1 =
      { l with
        patterns := (l.merge pattern variations).1.patterns
        insights := (l.insights.addVariations pattern variations).1 } := by
  simp only [Learner.merge]
  split <;> rfl

def addAll (known : Insights) (variations : List (String × List String)) : Insights :=
  variations.foldl (fun known v => (known.addVariations v.1 v.2).1) known

/-- Taking over variations adds them and changes what the patterns hold. -/
theorem mergeAll_eq (l : Learner) (variations : List (String × List String)) :
    (mergeAll l variations).1 =
      { l with
        patterns := (mergeAll l variations).1.patterns
        insights := addAll l.insights variations } := by
  induction variations generalizing l with
  | nil => rfl
  | cons v rest ih =>
      obtain ⟨pattern, vs⟩ := v
      have hrest := ih (l.merge pattern vs).1
      rw [merge_eq l pattern vs] at hrest
      simp only [mergeAll]
      rw [merge_eq l pattern vs]
      exact hrest

/-- A move keeps to the storage and to the store, and what has begun stays begun. -/
structure Frame (s t : LearningState) : Prop where
  storage : t.storage = s.storage
  store : t.learner.store = s.learner.store
  begun : s.learner.initialized = true → t.learner.initialized = true

theorem Frame.refl (s : LearningState) : Frame s s := ⟨rfl, rfl, id⟩

theorem Frame.trans {s t u : LearningState} (hst : Frame s t) (htu : Frame t u) : Frame s u :=
  ⟨htu.storage.trans hst.storage, htu.store.trans hst.store, htu.begun ∘ hst.begun⟩

theorem Quiet.frame {s t : LearningState} (hquiet : Quiet s t) : Frame s t := by
  cases hquiet with
  | search hsearch =>
      obtain ⟨hlearner, hstorage, _⟩ := frame_of_searches (.single hsearch)
      refine ⟨hstorage, ?_, ?_⟩
      · rw [hlearner]
      · rw [hlearner]
        exact id
  | begin =>
      refine ⟨?_, ?_, fun _ => initialized_begin s⟩
      · unfold LearningState.begin
        split <;> rfl
      · unfold LearningState.begin
        split <;> rfl
  | note project files found hbegun hnew => exact ⟨rfl, rfl, id⟩
  | merge variations hbegun =>
      unfold merged
      rw [mergeAll_eq]
      exact ⟨rfl, rfl, id⟩
  | stamp => exact ⟨rfl, rfl, id⟩
  | tick time => exact ⟨rfl, rfl, id⟩

theorem Move.frame {s t : LearningState} (hmove : Move s t) : Frame s t := by
  cases hmove with
  | quiet hquiet => exact hquiet.frame
  | improve names hbegun =>
      obtain ⟨observers, metrics, heq⟩ := improved_eq s names
      rw [heq]
      exact ⟨rfl, rfl, id⟩

theorem frame_of_moves {s t : LearningState} (hmoves : Moves s t) : Frame s t := by
  induction hmoves with
  | refl => exact Frame.refl s
  | tail _ hlast ih => exact ih.trans hlast.frame

/-- Nothing but loading makes a learner begin. -/
theorem Move.eq_begin {s t : LearningState} (hmove : Move s t)
    (hbefore : s.learner.initialized = false) (hafter : t.learner.initialized = true) :
    t = s.begin := by
  have hguard : s.learner.initialized ≠ true := by simp [hbefore]
  cases hmove with
  | improve names hbegun => exact absurd hbegun hguard
  | quiet hquiet =>
      cases hquiet with
      | search hsearch =>
          obtain ⟨hlearner, _⟩ := frame_of_searches (.single hsearch)
          rw [hlearner] at hafter
          exact absurd hafter hguard
      | begin => rfl
      | note project files found hbegun => exact absurd hbegun hguard
      | merge variations hbegun => exact absurd hbegun hguard
      | stamp => exact absurd hafter hguard
      | tick time => exact absurd hafter hguard

end LearningState

namespace ProjectLearning

open LearningState

variable {α β : Type} {R : LearningState → LearningState → Prop}

/-! ### Runs of work that may be interrupted -/

section Runs

variable {ε σ : Type}

theorem run_bind (m : ExceptT ε (StateM σ) α) (f : α → ExceptT ε (StateM σ) β) (s : σ) :
    (m >>= f).run.run s =
      match m.run.run s with
      | (.ok a, t) => (f a).run.run t
      | (.error i, t) => (.error i, t) := by
  simp only [ExceptT.run_bind, StateT.run_bind]
  rcases m.run.run s with ⟨r, t⟩
  cases r <;> rfl

theorem run_get (s : σ) : (get : ExceptT ε (StateM σ) σ).run.run s = (.ok s, s) := rfl

theorem run_modify (f : σ → σ) (s : σ) :
    (modify f : ExceptT ε (StateM σ) PUnit).run.run s = (.ok (), f s) := rfl

theorem run_set (t s : σ) : (set t : ExceptT ε (StateM σ) PUnit).run.run s = (.ok (), t) := rfl

end Runs

/-- Work that goes on by steps of one kind, however it ends. -/
def Along (R : LearningState → LearningState → Prop) (m : Learning α) : Prop :=
  ∀ s, ReflTransGen R s (m.run.run s).2

theorem along_pure (a : α) : Along R (pure a : Learning α) := fun _ => .refl

theorem along_bind {m : Learning α} {f : α → Learning β} (hfirst : Along R m)
    (hrest : ∀ a, Along R (f a)) : Along R (m >>= f) := by
  intro s
  have hreach := hfirst s
  rw [run_bind]
  cases hrun : m.run.run s with
  | mk outcome t =>
      rw [hrun] at hreach
      cases outcome with
      | error i => exact hreach
      | ok a => exact hreach.trans (hrest a t)

theorem along_get_bind {f : LearningState → Learning β} (hrest : ∀ s, Along R (f s)) :
    Along R (get >>= f) := along_bind (fun _ => .refl) hrest

theorem along_foldlM {f : β → α → Learning β} (hstep : ∀ b a, Along R (f b a)) (xs : List α)
    (b : β) : Along R (xs.foldlM f b) := by
  induction xs generalizing b with
  | nil => exact along_pure b
  | cons x rest ih =>
      rw [List.foldlM_cons]
      exact along_bind (hstep b x) ih

/-! ### Learning a project -/

/-- A pause goes on or ends the work, and changes the patience at most. -/
theorem pause_cases (s : LearningState) : ∃ patience,
    pause.run.run s = (.ok (), { s with patience }) ∨
      ∃ i, pause.run.run s = (.error i, { s with patience }) := by
  unfold pause
  simp only [run_bind, run_get]
  cases hpatience : s.patience with
  | none => exact ⟨s.patience, Or.inl rfl⟩
  | some n =>
      cases n with
      | zero => exact ⟨s.patience, Or.inr ⟨_, rfl⟩⟩
      | succ n => exact ⟨some n, Or.inl rfl⟩

theorem along_matchAt (index : Nat) (file : SourceFile) (context : MatchContext) (found : Found) :
    Along Search (matchAt index file context found) := by
  intro s
  unfold matchAt
  rw [run_bind, run_get]
  simp only
  cases hp : s.learner.patterns[index]? with
  | none => exact .refl
  | some p =>
      simp only [run_bind]
      obtain ⟨patience, hpause | ⟨i, hpause⟩⟩ := pause_cases s
      · have hwait : Search s { s with patience } := .attend s s.observers patience
        have happly := Search.apply { s with patience } index p file context hp
        have htold := (ReflTransGen.single hwait).tail happly |>.tail
          (.attend _ (s.observers.emitAll (matchPattern p file context s.time).events) patience)
        simp only [hpause, setAt, run_modify]
        rcases (matchPattern p file context s.time).answer with i | _ | _
        · exact htold
        · exact htold
        · exact htold
      · rw [hpause]
        exact .single (.attend s s.observers patience)

theorem along_extract (files : List SourceFile) : Along Search (extract files) := by
  apply along_foldlM
  intro found file
  unfold matchFile
  split
  · exact along_pure found
  · apply along_get_bind
    intro s
    exact along_foldlM (fun found index => along_matchAt index file _ found) _ _

theorem begin_cases (s : LearningState) : ∃ patience,
    begin.run.run s = (.ok (), { s with patience }.begin) ∨
      ∃ i, begin.run.run s = (.error i, { s with patience }) := by
  unfold begin
  simp only [run_bind, run_get]
  by_cases hbegun : s.learner.initialized = true
  · refine ⟨s.patience, Or.inl ?_⟩
    rw [if_pos hbegun, begin_of_initialized hbegun]
    rfl
  · simp only [if_neg hbegun, run_bind]
    obtain ⟨patience, hpause | ⟨i, hpause⟩⟩ := pause_cases s
    · exact ⟨patience, Or.inl (by rw [hpause]; rfl)⟩
    · exact ⟨patience, Or.inr ⟨i, by rw [hpause]⟩⟩

theorem persist_cases (s : LearningState) : ∃ patience,
    persist.run.run s = (.ok (), LearningState.store { s.stamp with patience }) ∨
      ∃ i, persist.run.run s = (.error i, { s.stamp with patience }) := by
  unfold persist
  simp only [run_bind, run_modify]
  obtain ⟨patience, hpause | ⟨i, hpause⟩⟩ := pause_cases s.stamp
  · exact ⟨patience, Or.inl (by rw [hpause])⟩
  · exact ⟨patience, Or.inr ⟨i, by rw [hpause]⟩⟩

theorem announce_cases (s : LearningState) (event : Event) : ∃ observers patience,
    ((announce event).run.run s).2 = { s with observers, patience } := by
  unfold announce
  simp only [run_bind, run_get]
  by_cases hannounces : s.learner.announces = true
  · simp only [if_pos hannounces, run_bind]
    obtain ⟨patience, hpause | ⟨i, hpause⟩⟩ := pause_cases s
    · refine ⟨s.observers.emitAll [event], patience, ?_⟩
      simp only [hpause, run_modify, LearningState.announce, if_pos hannounces]
      rfl
    · exact ⟨s.observers, patience, by rw [hpause]⟩
  · exact ⟨s.observers, s.patience, by rw [if_neg hannounces]; rfl⟩

/-- What is noted is saved, unless the work stops right before that. -/
theorem finish_cases (s : LearningState) (event : Event) (report : LearnReport) :
    ∃ t, QuietMoves s t ∧ t.learner.initialized = s.learner.initialized ∧
      (((do persist; announce event; return report : Learning LearnReport).run.run s).2 = t ∨
        ((do persist; announce event; return report : Learning LearnReport).run.run s).2 =
          t.store) := by
  have hstamped : QuietMoves s s.stamp := .single (.stamp s)
  obtain ⟨patience, hpersist | ⟨i, hpersist⟩⟩ := persist_cases s
  · obtain ⟨observers, patience', hannounce⟩ :=
      announce_cases (LearningState.store { s.stamp with patience }) event
    refine ⟨_, hstamped.trans (quietMoves_attend _ observers patience'), rfl, Or.inr ?_⟩
    rw [run_bind, hpersist]
    simp only
    rw [run_bind]
    cases hrun : (announce event).run.run (LearningState.store { s.stamp with patience }) with
    | mk outcome t =>
        rw [hrun] at hannounce
        simp only at hannounce
        subst hannounce
        cases outcome <;> rfl
  · refine ⟨_, hstamped.trans (quietMoves_attend _ s.observers patience), rfl, Or.inl ?_⟩
    rw [run_bind, hpersist]
    rfl

/-- Learning a project, complete or not, is a row of moves, of which the last may save. -/
theorem learn_cases (s : LearningState) (project : String) (files : List SourceFile) :
    ∃ t, QuietMoves s t ∧ ((s.learn project files).2 = t ∨
      t.learner.initialized = true ∧ (s.learn project files).2 = t.store) := by
  unfold LearningState.learn learn
  obtain ⟨patience, hbegin | ⟨i, hbegin⟩⟩ := begin_cases s
  · rw [run_bind, hbegin]
    simp only
    rw [run_bind, run_get]
    simp only
    have hbegun := initialized_begin { s with patience }
    have hmoves : QuietMoves s { s with patience }.begin :=
      (quietMoves_attend s s.observers patience).tail (.begin _)
    split
    · exact ⟨_, hmoves, Or.inl rfl⟩
    · next hnew =>
        have hsearches := along_extract files { s with patience }.begin
        obtain ⟨hlearner, _⟩ := frame_of_searches hsearches
        rw [run_bind]
        cases hextract : (extract files).run.run { s with patience }.begin with
        | mk outcome t =>
            rw [hextract] at hsearches hlearner
            simp only at hsearches hlearner
            cases outcome with
            | error i => exact ⟨t, hmoves.trans (Searches.quietMoves hsearches), Or.inl rfl⟩
            | ok found =>
                have hready : t.learner.initialized = true := by rw [hlearner, hbegun]
                have hnoted : Quiet t (note t project files found).1 := by
                  apply Quiet.note _ _ _ _ hready
                  rw [hlearner]
                  simpa using hnew
                simp only
                rw [run_bind, run_get]
                simp only
                rw [run_bind, run_set]
                obtain ⟨u, hmore, hinit, hfinish⟩ := finish_cases (note t project files found).1
                  (.projectLearned project (note t project files found).2)
                  (note t project files found).2
                refine ⟨u, (hmoves.trans (Searches.quietMoves hsearches)).trans
                  (hmore.head hnoted), hfinish.imp_right fun hsaved => ⟨?_, hsaved⟩⟩
                rw [hinit]
                exact hready
  · rw [run_bind, hbegin]
    exact ⟨_, quietMoves_attend s s.observers patience, Or.inl rfl⟩

end ProjectLearning
end AdaptiveRules
