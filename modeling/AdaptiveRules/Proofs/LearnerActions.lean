import AdaptiveRules.Proofs.InsightsConsistency
import AdaptiveRules.Proofs.PatternRuns

/-!
# What a learner does to its patterns

All that happens to a learner is a row of small actions: those of its own work, those of whoever uses
its patterns directly, and writing, clearing and saving.  For a pattern each of these actions comes
down to some operations of the pattern, which follow from the state of the learner.  Every operation
of the learner is such a row.
-/

namespace AdaptiveRules

inductive LearnerAction
  | begin
  | search (index : Nat) (file : SourceFile) (context : MatchContext)
  | note (project : String) (files : List SourceFile) (found : ProjectLearning.Found)
  | merge (pattern : String) (variations : List String)
  | improve (names : Option (List String))
  /-- Somebody else uses a pattern of the learner. -/
  | use (index : Nat) (op : PatternOperation)
  | reset
  | stamp
  | save
  | tick (time : MatchTime)
  | attend (observers : Observers) (patience : Option Nat)
  | write (files : FileTree)

namespace LearningState

variable {s t : LearningState}

def act (s : LearningState) : LearnerAction → LearningState
  | .begin => s.begin
  | .search index file context => s.withLearner fun l => { l with
      patterns := l.patterns.modify index fun p =>
        (ProjectLearning.matchPattern p file context s.time).pattern }
  | .note project files found => (ProjectLearning.note s project files found).1
  | .merge pattern variations => s.withLearner fun l => (l.merge pattern variations).1
  | .improve names => s.improved names
  | .use index op => s.withLearner fun l => { l with
      patterns := l.patterns.modify index (·.perform op) }
  | .reset => s.reset.2
  | .stamp => s.stamp
  | .save => s.store
  | .tick time => { s with time }
  | .attend observers patience => { s with observers, patience }
  | .write files => { s with storage := { s.storage with files } }

def actAll (s : LearningState) (actions : List LearnerAction) : LearningState :=
  actions.foldl act s

theorem actAll_append (s : LearningState) (first rest : List LearnerAction) :
    s.actAll (first ++ rest) = (s.actAll first).actAll rest := List.foldl_append

/-! ### What an action makes a pattern do -/

/-- The operations that an action makes the pattern at an index perform. -/
def doings (s : LearningState) (index : Nat) (p : Pattern) :
    LearnerAction → List PatternOperation
  | .begin =>
      if s.learner.initialized then []
      else [.restore s.loaded, .offer (s.loaded.variationsOf p.name)]
  | .search i file context =>
      if i = index ∧ FileLanguage.applies p.language context.language = true then
        [.search file.content (some context) s.time]
      else []
  | .note project files found =>
      [.offer ((s.act (.note project files found)).learner.insights.variationsOf p.name)]
  | .merge pattern variations =>
      if (s.learner.insights.addVariations pattern variations).2 = 0 then []
      else [.offer ((s.act (.merge pattern variations)).learner.insights.variationsOf p.name)]
  | .improve names => if isTarget names p then [.improve s.learner.insights s.now] else []
  | .use i op => if i = index then [op] else []
  | _ => []

theorem patterns_improvePatterns (known : Insights) (now : Instant) (names : Option (List String))
    (patterns : List Pattern) :
    (improvePatterns known now names patterns).1 =
      patterns.map fun p => if isTarget names p then p.perform (.improve known now) else p := by
  induction patterns with
  | nil => rfl
  | cons p rest ih =>
      rw [List.map_cons, ← ih, improvePatterns_cons]
      split <;> rfl

theorem pattern_matchPattern (p : Pattern) (file : SourceFile) (context : MatchContext)
    (time : MatchTime) :
    (ProjectLearning.matchPattern p file context time).pattern =
      p.performAll (if FileLanguage.applies p.language context.language then
        [.search file.content (some context) time] else []) := by
  unfold ProjectLearning.matchPattern
  split <;> rfl

/-- The pattern at an index after an action is the one before it with its operations performed. -/
theorem getElem?_patterns_act (s : LearningState) (a : LearnerAction) (index : Nat) :
    (s.act a).learner.patterns[index]? =
      s.learner.patterns[index]?.map fun p => p.performAll (s.doings index p a) := by
  have hsame : ∀ {p? : Option Pattern}, p? = p?.map fun p => p.performAll [] := by
    intro p?
    cases p? <;> rfl
  cases a with
  | begin =>
      simp only [act, doings]
      cases hbegun : s.learner.initialized with
      | true =>
          rw [begin_of_initialized hbegun]
          exact hsame
      | false =>
          rw [patterns_begin hbegun, List.getElem?_map]
          congr 1
          funext p
          simp only [Bool.false_eq_true, if_false]
          have hname : (Learner.restore p (s.loaded.improvementsOf p.name)).name = p.name :=
            Pattern.name_perform p (.restore s.loaded)
          rw [hname]
          rfl
  | search i file context =>
      simp only [act, withLearner, List.getElem?_modify, doings]
      cases s.learner.patterns[index]? with
      | none => rfl
      | some p =>
          by_cases hi : i = index
          · simp only [hi, true_and, pattern_matchPattern, Option.map_some, Option.map_eq_map,
              if_true]
          · simp [hi, Pattern.performAll]
  | note project files found =>
      simp only [act, doings, ProjectLearning.note, Learner.offerKnown, withLearner,
        List.getElem?_map]
      rfl
  | merge pattern variations =>
      simp only [act, withLearner, doings, Learner.merge]
      split
      · exact hsame
      · rw [Learner.offerKnown, List.getElem?_map]
        rfl
  | improve names =>
      obtain ⟨observers, metrics, himproved⟩ := improved_eq s names
      simp only [act, doings, himproved, patterns_improvePatterns, List.getElem?_map]
      congr 1
      funext p
      split <;> rfl
  | use i op =>
      simp only [act, withLearner, List.getElem?_modify, doings]
      cases s.learner.patterns[index]? with
      | none => rfl
      | some p =>
          by_cases hi : i = index
          · simp [hi, Pattern.performAll]
          · simp [hi, Pattern.performAll]
  | _ => exact hsame

end LearningState

/-! ### Operations of the learner -/

def PatternOperation.isOwn : PatternOperation → Bool
  | improve .. => false
  | restore .. => false
  | _ => true

/-- A pattern is used as its owner can, and the files that are written are not those of the store. -/
def LearnerAction.Admits (s : LearningState) : LearnerAction → Prop
  | use _ op => op.isOwn = true
  | write files => ∀ now,
      s.learner.store.load now { s.storage with files } = s.learner.store.load now s.storage
  | _ => True

namespace LearningState

variable {s t : LearningState}

def AdmitsAll : LearningState → List LearnerAction → Prop
  | _, [] => True
  | s, a :: rest => a.Admits s ∧ (s.act a).AdmitsAll rest

theorem admitsAll_append {first rest : List LearnerAction} :
    s.AdmitsAll (first ++ rest) ↔ s.AdmitsAll first ∧ (s.actAll first).AdmitsAll rest := by
  induction first generalizing s with
  | nil => exact (and_iff_right trivial).symm
  | cons a more ih =>
      rw [List.cons_append, AdmitsAll, AdmitsAll, ih, and_assoc]
      rfl

def ByActions (s t : LearningState) : Prop := ∃ actions, s.AdmitsAll actions ∧ s.actAll actions = t

theorem ByActions.refl (s : LearningState) : ByActions s s := ⟨[], trivial, rfl⟩

theorem byActions_act (a : LearnerAction) (hadmits : a.Admits s) : ByActions s (s.act a) :=
  ⟨[a], ⟨hadmits, trivial⟩, rfl⟩

theorem ByActions.trans {u : LearningState} (hst : ByActions s t) (htu : ByActions t u) :
    ByActions s u := by
  obtain ⟨first, hfirst, rfl⟩ := hst
  obtain ⟨rest, hrest, rfl⟩ := htu
  exact ⟨first ++ rest, admitsAll_append.mpr ⟨hfirst, hrest⟩, actAll_append ..⟩

theorem byActions_of_search (hsearch : Search s t) : ByActions s t := by
  cases hsearch with
  | attend observers patience => exact byActions_act (.attend observers patience) trivial
  | apply index p file context hp =>
      have hset : s.learner.patterns.set index
          (ProjectLearning.matchPattern p file context s.time).pattern =
            s.learner.patterns.modify index fun p =>
              (ProjectLearning.matchPattern p file context s.time).pattern := by
        rw [List.modify_eq_set_getElem?, hp]
        rfl
      simp only [withLearner, hset]
      exact byActions_act (.search index file context) trivial

theorem byActions_merged (s : LearningState) (variations : List (String × List String)) :
    ByActions s (s.merged variations) := by
  induction variations generalizing s with
  | nil => exact ByActions.refl s
  | cons v rest ih =>
      obtain ⟨pattern, vs⟩ := v
      exact (byActions_act (.merge pattern vs) trivial).trans (ih _)

theorem byActions_of_move (hmove : Move s t) : ByActions s t := by
  cases hmove with
  | improve names _ => exact byActions_act (.improve names) trivial
  | quiet hquiet =>
      cases hquiet with
      | search hsearch => exact byActions_of_search hsearch
      | begin => exact byActions_act .begin trivial
      | note project files found _ _ => exact byActions_act (.note project files found) trivial
      | merge variations _ => exact byActions_merged s variations
      | stamp => exact byActions_act .stamp trivial
      | tick time => exact byActions_act (.tick time) trivial

theorem byActions_of_moves (hmoves : Moves s t) : ByActions s t := by
  induction hmoves with
  | refl => exact ByActions.refl s
  | tail _ hlast ih => exact ih.trans (byActions_of_move hlast)

/-- An operation of the learner is a row of actions. -/
theorem byActions_perform {op : LearnerOperation} (hspares : op.Spares s) :
    ByActions s (s.perform op) := by
  by_cases hop : op = .reset
  · rw [hop]
    exact byActions_act .reset trivial
  obtain ⟨t, hmoves, ⟨_, hend⟩ | ⟨_, hend⟩ | ⟨_, hwrites, files, hend⟩⟩ := perform_cases s hop
  · exact hend ▸ byActions_of_moves hmoves
  · exact hend ▸ (byActions_of_moves hmoves).trans (byActions_act .save trivial)
  · have hframe := frame_of_moves hmoves
    have hload := hspares hwrites
    rw [hend] at hload ⊢
    refine (byActions_of_moves hmoves).trans (byActions_act (.write files) fun now => ?_)
    rw [hframe.storage, hframe.store]
    simpa only [hframe.storage] using hload now

end LearningState
end AdaptiveRules
