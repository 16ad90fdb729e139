import AdaptiveRules.Proofs.Lessons

/-!
# What is loaded, and when

A store gives the same insights at all times but for one thing: where what was kept does not say when
its metrics changed last, it is the time of loading.  Nothing that a learner does when it begins
depends on that.
-/

namespace AdaptiveRules

/-- Of two values that look the same through `c`, the rest makes what looks the same through `d`. -/
theorem map_bind_congr {α β γ δ : Type} {x y : Option α} {f g : α → Option β} {c : α → γ}
    {d : β → δ} (hxy : x.map c = y.map c) (hfg : ∀ a b, c a = c b → (f a).map d = (g b).map d) :
    (x.bind f).map d = (y.bind g).map d := by
  rcases x with _ | a <;> rcases y with _ | b
  · rfl
  · cases hxy
  · cases hxy
  · exact hfg a b (Option.some.inj hxy)

theorem map_bind_of_forall {α β δ : Type} {x : Option α} {f g : α → Option β} {d : β → δ}
    (hfg : ∀ a, (f a).map d = (g a).map d) : (x.bind f).map d = (x.bind g).map d := by
  cases x with
  | none => rfl
  | some a => exact hfg a

theorem Json.Fields.map_orElse {α γ : Type} (fs : Fields) (name : String) {f g : Json → Option α}
    {c : α → γ} (hfg : ∀ j, (f j).map c = (g j).map c) {a b : α} (hab : c a = c b) :
    (fs.orElse name f a).map c = (fs.orElse name g b).map c := by
  unfold orElse
  cases fs.lookup name with
  | none => exact congrArg some hab
  | some j => exact hfg j

/-- The metrics as if they had changed last at one time. -/
def LearningMetrics.undated (m : LearningMetrics) : LearningMetrics :=
  { m with lastUpdate := ⟨0, 0⟩ }

theorem LearningMetrics.undated_ofJson? (now later : Instant) (j : Json) :
    (ofJson? later j).map undated = (ofJson? now j).map undated := by
  refine map_bind_of_forall fun fs => ?_
  iterate 5 refine map_bind_of_forall fun _ => ?_
  exact map_bind_congr (c := fun _ => ()) (fs.map_orElse _ (fun _ => rfl) rfl) fun _ _ _ => rfl

namespace Insights

def undated (known : Insights) : Insights := { known with metrics := known.metrics.undated }

theorem undated_ofJson? (now later : Instant) (j : Json) :
    (ofJson? later j).map undated = (ofJson? now j).map undated := by
  refine map_bind_of_forall fun fs => ?_
  iterate 4 refine map_bind_of_forall fun _ => ?_
  have hmetrics := LearningMetrics.undated_ofJson? now later
  refine map_bind_congr (fs.map_orElse _ hmetrics rfl) fun m n hmn => ?_
  refine map_bind_of_forall fun saved => ?_
  simp only [pure, Option.map_some, undated, hmn]

theorem undated_ofText? (now later : Instant) (text : String) :
    (ofText? later text).map undated = (ofText? now text).map undated :=
  map_bind_of_forall (undated_ofJson? now later)

end Insights

/-- Texts that are read as the same insights, or both not read, lead to the same answer. -/
theorem StoreHandle.undated_read {x y : Option Insights}
    (hxy : x.map Insights.undated = y.map Insights.undated) :
    (match x with
      | some known => Except.ok (some known)
      | none => .error Problem.jsonUnreadable).map (Option.map Insights.undated) =
    (match y with
      | some known => Except.ok (some known)
      | none => .error Problem.jsonUnreadable).map (Option.map Insights.undated) := by
  rcases x with _ | known <;> rcases y with _ | others
  · rfl
  · cases hxy
  · cases hxy
  · exact congrArg Except.ok hxy

theorem StoreHandle.undated_load (h : StoreHandle) (now later : Instant) (storage : Storage) :
    (h.load later storage).map (Option.map Insights.undated) =
      (h.load now storage).map (Option.map Insights.undated) := by
  unfold load
  cases h with
  | memory => rfl
  | broken => rfl
  | jsonFile path =>
      simp only
      split
      · rfl
      · rfl
      · split
        · exact undated_read (Insights.undated_ofText? now later _)
        · rfl
  | database path =>
      simp only
      split
      · rfl
      · split
        · exact undated_read (Insights.undated_ofText? now later _)
        · rfl

namespace LearningState

theorem undated_loaded (s : LearningState) (time : MatchTime) :
    { s with time }.loaded.undated = s.loaded.undated := by
  have hload := s.learner.store.undated_load s.now time.now s.storage
  unfold loaded
  simp only [now] at hload ⊢
  generalize s.learner.store.load time.now s.storage = x,
    s.learner.store.load s.time.now s.storage = y at hload ⊢
  rcases x with i | _ | known <;> rcases y with j | _ | others
  · rfl
  · cases hload
  · cases hload
  · cases hload
  · rfl
  · cases hload
  · cases hload
  · cases hload
  · exact Option.some.inj (Except.ok.inj hload)

/-- A learner that begins at another time gets the same patterns, and the same insights but for the
time of their last change. -/
theorem learner_begin_of_time (s : LearningState) (time : MatchTime) :
    ∃ known, known.undated = s.knownAtFirst.undated ∧
      { s with time }.begin.learner = { s.begin.learner with insights := known } := by
  unfold knownAtFirst begin
  by_cases hbegun : s.learner.initialized = true
  · simp only [if_pos hbegun]
    exact ⟨s.learner.insights, rfl, rfl⟩
  · simp only [if_neg hbegun]
    have hloaded := s.undated_loaded time
    refine ⟨{ s with time }.loaded, hloaded, ?_⟩
    obtain ⟨_, himprovements, _, hvariations, _, _⟩ := Insights.mk.inj hloaded
    simp only [withLearner, Learner.offerKnown, Learner.restoreAll, Insights.improvementsOf,
      Insights.variationsOf, himprovements, hvariations]

end LearningState
end AdaptiveRules
