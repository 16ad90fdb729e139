import AdaptiveRules.Proofs.KnowledgeGrowth

/-!
# When a store keeps what it held

A learner is opened on a store that holds some insights.  What is saved later replaces them, so they
must have been loaded before.  Most operations load first; saving at once, closing, and with it the
shutdown of a scheduler of which no task has run, do not.  In a run without resets the store goes on
to hold what it held exactly if no such action comes before the learner has begun, unless there was
nothing to lose.
-/

namespace AdaptiveRules

open Insights LearningState

namespace StoreHandle

/-- The store holds insights of a kind. -/
def Loads (h : StoreHandle) (P : Insights → Prop) (storage : Storage) : Prop :=
  ∀ now, ∃ known, h.load now storage = .ok (some known) ∧ P known

/-- Saving and loading work: where the storage is sound and the insights fit, what was saved is what
the store holds afterwards. -/
structure Works (h : StoreHandle) (sound : Storage → Prop) (fit : Insights → Prop) : Prop where
  sound_save : ∀ {storage : Storage} {known : Insights}, sound storage → fit known →
    sound (h.save known storage).2
  load_save : ∀ {storage : Storage} {known : Insights}, sound storage → fit known →
    h.Loads (SameKnowledge · known) (h.save known storage).2

theorem memory_works : memory.Works (fun _ => True) fun _ => True :=
  ⟨fun _ _ => trivial, fun _ _ _ => ⟨_, rfl, SameKnowledge.refl _⟩⟩

theorem Loads.mono {h : StoreHandle} {P Q : Insights → Prop} {storage : Storage}
    (hloads : h.Loads P storage) (himp : ∀ known, P known → Q known) : h.Loads Q storage := by
  intro now
  obtain ⟨known, hload, hknown⟩ := hloads now
  exact ⟨known, hload, himp known hknown⟩

end StoreHandle

/-- The operation asks of the store what it can do: the insights that it leaves can be saved, and
files are written elsewhere only. -/
structure LearnerOperation.Suits (op : LearnerOperation) (sound : Storage → Prop)
    (fit : Insights → Prop) (s : LearningState) : Prop where
  keeps : op ≠ .reset
  fit : fit (s.perform op).learner.insights
  elsewhere : op.writesFile = true → sound (s.perform op).storage ∧
    ∀ now, s.learner.store.load now (s.perform op).storage = s.learner.store.load now s.storage

namespace LearningState

variable {sound : Storage → Prop} {fit : Insights → Prop} {s t : LearningState} {held : Insights}
  {op : LearnerOperation}

/-- The storage is sound, and a learner that has not begun knows nothing. -/
structure Steady (sound : Storage → Prop) (s : LearningState) : Prop where
  sound : sound s.storage
  blank : s.learner.initialized = false → s.learner.insights.IsBlank

/-- The store holds what it held, and a learner that has begun knows it. -/
structure Keeps (held : Insights) (s : LearningState) : Prop where
  stored : s.learner.store.Loads (Extends · held) s.storage
  known : s.learner.initialized = true → Extends s.learner.insights held

theorem Steady.of_fresh {patterns : List Pattern} {h : StoreHandle} {settings : LearnerSettings}
    {cutter : Option BlockCutter} {announces : Bool} {now : Instant}
    (hfresh : s.learner = Learner.fresh patterns h settings cutter announces now)
    (hsound : sound s.storage) : Steady sound s := by
  refine ⟨hsound, fun _ => ?_⟩
  rw [hfresh]
  exact isBlank_empty now

theorem Keeps.of_fresh {patterns : List Pattern} {h : StoreHandle} {settings : LearnerSettings}
    {cutter : Option BlockCutter} {announces : Bool} {now : Instant}
    (hfresh : s.learner = Learner.fresh patterns h settings cutter announces now)
    (hheld : h.Loads (SameKnowledge · held) s.storage) : Keeps held s := by
  rw [← show s.learner.store = h by rw [hfresh]; rfl] at hheld
  refine ⟨hheld.mono fun _ hsame => hsame.extends, fun hbegun => ?_⟩
  rw [hfresh] at hbegun
  cases hbegun

theorem Steady.of_moves (hsteady : Steady sound s) (hmoves : Moves s t) : Steady sound t := by
  refine ⟨?_, ?_⟩
  · rw [(frame_of_moves hmoves).storage]
    exact hsteady.sound
  · intro hbegun
    obtain ⟨hbefore, hsame⟩ := sameKnowledge_of_moves hmoves hbegun
    exact hsame.isBlank (hsteady.blank hbefore)

theorem Keeps.loaded (hkeeps : Keeps held s) : Extends s.loaded held := by
  obtain ⟨known, hload, hextends⟩ := hkeeps.stored s.now
  unfold LearningState.loaded
  rw [hload]
  exact hextends

theorem Keeps.of_move (hkeeps : Keeps held s) (hmove : Move s t) : Keeps held t := by
  have hframe := hmove.frame
  refine ⟨?_, ?_⟩
  · rw [hframe.storage, hframe.store]
    exact hkeeps.stored
  · intro hbegun
    by_cases hbefore : s.learner.initialized = true
    · exact (hmove.extends hbefore).trans (hkeeps.known hbefore)
    · have hnot : s.learner.initialized = false := by simpa using hbefore
      rw [hmove.eq_begin hnot hbegun, insights_begin hnot]
      exact hkeeps.loaded

theorem Keeps.of_moves (hkeeps : Keeps held s) (hmoves : Moves s t) : Keeps held t := by
  induction hmoves with
  | refl => exact hkeeps
  | tail _ hlast ih => exact ih.of_move hlast

/-- An operation that saves although the learner has not begun. -/
def IsPremature (s : LearningState) (op : LearnerOperation) : Prop :=
  op.savesAtOnce = true ∧ s.learner.initialized = false

theorem Steady.perform (hworks : s.learner.store.Works sound fit) (hsteady : Steady sound s)
    (hsuits : op.Suits sound fit s) : Steady sound (s.perform op) := by
  obtain ⟨t, hmoves, ⟨_, hend⟩ | ⟨_, hsaved⟩ | ⟨_, hwrites, files, hwritten⟩⟩ :=
    perform_cases s hsuits.keeps
  · rw [hend]
    exact hsteady.of_moves hmoves
  · have hfit := hsuits.fit
    have hthere := hsteady.of_moves hmoves
    rw [hsaved] at hfit ⊢
    refine ⟨?_, hthere.blank⟩
    rw [← (frame_of_moves hmoves).store] at hworks
    exact hworks.sound_save hthere.sound hfit
  · refine ⟨(hsuits.elsewhere hwrites).1, ?_⟩
    rw [hwritten]
    exact (hsteady.of_moves hmoves).blank

theorem Keeps.perform (hworks : s.learner.store.Works sound fit) (hsteady : Steady sound s)
    (hkeeps : Keeps held s) (hsuits : op.Suits sound fit s)
    (hready : held.IsBlank ∨ ¬ IsPremature s op) : Keeps held (s.perform op) := by
  obtain ⟨t, hmoves, ⟨_, hend⟩ | ⟨hbegun, hsaved⟩ | ⟨_, hwrites, files, hwritten⟩⟩ :=
    perform_cases s hsuits.keeps
  · rw [hend]
    exact hkeeps.of_moves hmoves
  · have hthere := hkeeps.of_moves hmoves
    have hknown : Extends t.learner.insights held := by
      rcases hready with hblank | hready
      · exact hblank.extends _
      · rcases hbegun with hbegun | hat
        · exact hthere.known hbegun
        · apply hthere.known
          apply (frame_of_moves hmoves).begun
          by_contra hnot
          exact hready ⟨hat, by simpa using hnot⟩
    have hfit := hsuits.fit
    rw [hsaved] at hfit ⊢
    rw [← (frame_of_moves hmoves).store] at hworks
    refine ⟨?_, fun _ => hknown⟩
    exact (hworks.load_save (hsteady.of_moves hmoves).sound hfit).mono
      fun known hsame => hsame.extends.trans hknown
  · have hthere := hkeeps.of_moves hmoves
    refine ⟨?_, ?_⟩
    · intro now
      obtain ⟨known, hload, hextends⟩ := hkeeps.stored now
      have hstore : (s.perform op).learner.store = s.learner.store := by
        rw [hwritten]
        exact (frame_of_moves hmoves).store
      rw [hstore, (hsuits.elsewhere hwrites).2]
      exact ⟨known, hload, hextends⟩
    · rw [hwritten]
      exact hthere.known

theorem store_perform (s : LearningState) (op : LearnerOperation) :
    (s.perform op).learner.store = s.learner.store := by
  by_cases hop : op = .reset
  · rw [hop]
    rfl
  · obtain ⟨t, hmoves, ⟨_, hend⟩ | ⟨_, hsaved⟩ | ⟨_, _, files, hwritten⟩⟩ := perform_cases s hop
    · rw [hend, (frame_of_moves hmoves).store]
    · rw [hsaved]
      exact (frame_of_moves hmoves).store
    · rw [hwritten]
      exact (frame_of_moves hmoves).store

end LearningState

/-! ### Runs -/

namespace LearningScheduler

def Suits (s : LearningScheduler) (a : SchedulerAction) (sound : Storage → Prop)
    (fit : Insights → Prop) : Prop := ∀ op, s.effect a = some op → op.Suits sound fit s.state

def IsPremature (s : LearningScheduler) (a : SchedulerAction) : Prop :=
  ∃ op, s.effect a = some op ∧ s.state.IsPremature op

variable {sound : Storage → Prop} {fit : Insights → Prop} {h : StoreHandle} {held : Insights}
  {s : LearningScheduler} {a : SchedulerAction}

end LearningScheduler

/-! ### Insights in memory -/

/-- A learner that was just opened on a store in memory. -/
def LearningState.inMemory (patterns : List Pattern) (kept : Option Insights) : LearningState where
  learner := .fresh patterns .memory ⟨⟨0, 0, 0⟩, 1, 1, false⟩ none false ⟨0, 0⟩
  storage := { Storage.ofFiles ⟨.empty, []⟩ with kept }
  observers := .none
  time := ⟨⟨0, 0⟩, 0⟩
  patience := none

theorem LearnerOperation.suits_memory {op : LearnerOperation} (hop : op ≠ .reset)
    {s : LearningState} (hstore : s.learner.store = .memory) :
    op.Suits (fun _ => True) (fun _ => True) s := by
  refine ⟨hop, trivial, fun hwrites => ⟨trivial, fun now => ?_⟩⟩
  have hkept : (s.perform op).storage.kept = s.storage.kept := by
    have hbegin : s.begin.storage = s.storage := (Move.quiet (.begin s)).frame.storage
    cases op with
    | exportTo path =>
        simp only [perform, LearningState.exportTo]
        split <;> rw [hbegin]
    | place path text =>
        simp only [perform, placed]
        split <;> rfl
    | _ => cases hwrites
  rw [hstore]
  exact congrArg Except.ok hkept

namespace LearningScheduler

def onceTrained : Insights :=
  { Insights.empty ⟨0, 0⟩ with trained := Dict.empty.insert "p" () }

end LearningScheduler
end AdaptiveRules
