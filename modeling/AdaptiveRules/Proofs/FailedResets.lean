import AdaptiveRules.Proofs.KnowledgeRetention

/-!
# Resets that fail

A reset first forgets what the learner knows and then asks the store to forget it too.  A store that
cannot be cleared stays as it was, and the patterns keep what they hold.  But the learner has
forgotten: it has begun, so it does not load again what the store may still hold, and as soon as
saving works, what is saved next makes the store forget as well.
-/

namespace AdaptiveRules

open Insights

variable {problem : Problem}

theorem Storage.change_of_error {s : Storage} {r : Except FileProblem FileTree}
    (hfailed : (s.change r).1 = .error problem) : (s.change r).2 = s := by
  cases r with
  | ok files => cases hfailed
  | error p => rfl

namespace StoreHandle

variable {storage : Storage}

theorem writeRows_of_error {path : String} {rows : List String}
    (hfailed : (writeRows path rows storage).1 = .error problem) :
    (writeRows path rows storage).2 = storage := by
  unfold writeRows at hfailed ⊢
  split at hfailed
  next => cases hfailed
  next hfile =>
    rw [if_neg hfile]
    exact Storage.change_of_error hfailed

theorem clear_of_error {h : StoreHandle} (hfailed : (h.clear storage).1 = .error problem) :
    (h.clear storage).2 = storage := by
  cases h with
  | memory => cases hfailed
  | broken => rfl
  | jsonFile path =>
      simp only [clear] at hfailed ⊢
      cases hfound : storage.files.tryContains path with
      | error p => rfl
      | ok found =>
          rw [hfound] at hfailed
          cases found with
          | false => rfl
          | true => exact Storage.change_of_error hfailed
  | database path =>
      simp only [clear, changeRows] at hfailed ⊢
      cases hrows : rowsAt path storage with
      | error p => rfl
      | ok rows =>
          rw [hrows] at hfailed
          exact writeRows_of_error hfailed

end StoreHandle

namespace LearningState

variable {s : LearningState}

/-- Of all that the learner and its store consist of, a reset that fails changes what the learner
knows. -/
theorem reset_of_error (hfailed : s.reset.1 = .error problem) :
    s.reset.2 = s.withLearner fun l => { l with insights := .empty s.now } := by
  have hclear : (s.learner.store.clear s.storage).1 = .error problem := hfailed
  have hkept : s.reset.2.storage = s.storage := StoreHandle.clear_of_error hclear
  calc
    s.reset.2 = { s.withLearner fun l => { l with insights := .empty s.now } with
      storage := s.reset.2.storage } := rfl
    _ = s.withLearner fun l => { l with insights := .empty s.now } := by
      rw [hkept]
      rfl

/-- A reset that fails leaves the store and the patterns with the variations they hold as they were.
The learner forgets all it knew and does not load it again, so nothing is changed exactly if nothing
was known, and nothing is lost exactly if there was nothing to lose. -/
theorem reset_failed_keeps_iff (hfailed : s.reset.1 = .error problem) :
    let t := s.reset.2
    t.storage = s.storage ∧
      (∀ now, t.learner.store.load now t.storage = s.learner.store.load now s.storage) ∧
      t.learner.patterns = s.learner.patterns ∧
      t.learner.insights.IsBlank ∧
      (s.learner.initialized = true → t.begin = t) ∧
      (t = s ↔ s.learner.insights = .empty s.now) ∧
      (Extends t.learner.insights s.learner.insights ↔ s.learner.insights.IsBlank) := by
  intro t
  have ht : t = s.withLearner fun l => { l with insights := .empty s.now } :=
    reset_of_error hfailed
  have hblank : t.learner.insights.IsBlank := isBlank_empty s.now
  refine ⟨by rw [ht]; rfl, fun now => by rw [ht]; rfl, rfl, hblank, ?_, ?_, ?_⟩
  · intro hbegun
    apply begin_of_initialized
    exact hbegun
  · constructor
    · intro hsame
      have hinsights : t.learner.insights = s.learner.insights := by rw [hsame]
      exact hinsights.symm
    · intro hempty
      rw [ht, ← hempty]
      rfl
  · constructor
    · intro hextends
      exact hextends.isBlank hblank
    · intro hnothing
      exact hnothing.extends _

/-- However a reset ends, what is saved next leaves nothing in the store, once saving works. -/
theorem loads_isBlank_persist_reset {sound : Storage → Prop} {fit : Insights → Prop}
    (hworks : s.learner.store.Works sound fit) {storage : Storage} (hsound : sound storage)
    (hfit : fit { Insights.empty s.now with saved := some s.now }) :
    s.learner.store.Loads IsBlank ({ s.reset.2 with storage } : LearningState).persist.storage := by
  have hblank : { Insights.empty s.now with saved := some s.now }.IsBlank :=
    ⟨fun _ => rfl, fun _ => rfl, fun _ => rfl⟩
  exact (hworks.load_save hsound hfit).mono fun known hsame => hsame.isBlank hblank

/-- A learner that has learned a project and whose file for insights is a directory. -/
def obstructed : LearningState :=
  { inMemory [] none with
    storage := .ofFiles ⟨Dict.empty.insert "/d" .directory, []⟩
    learner := { (inMemory [] none).learner with
      store := .jsonFile "/d"
      insights := LearningScheduler.onceTrained
      initialized := true } }

theorem reset_failed_keeps_iff_obstructed :
    obstructed.reset.1 = .error (.file .isDirectory) ∧
      obstructed.learner.insights.isTrained "p" = true ∧
      obstructed.reset.2.learner.insights.isTrained "p" = false ∧
      ¬ Extends obstructed.reset.2.learner.insights obstructed.learner.insights ∧
      obstructed.reset.2.storage = obstructed.storage := by
  have hfailed : obstructed.reset.1 = .error (.file .isDirectory) := by rfl
  obtain ⟨hstorage, _, _, hblank, _, _, hkept⟩ := reset_failed_keeps_iff hfailed
  have htrained : obstructed.learner.insights.isTrained "p" = true := by decide
  refine ⟨hfailed, htrained, hblank.trained "p", ?_, hstorage⟩
  intro hextends
  have hnothing := (hkept.mp hextends).trained "p"
  rw [htrained] at hnothing
  cases hnothing

end LearningState
end AdaptiveRules
