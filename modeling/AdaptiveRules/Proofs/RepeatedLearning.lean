import AdaptiveRules.Proofs.LearnerLives
import AdaptiveRules.Proofs.LearningOrder

/-!
# Projects are learned once

A project that was learned to the end is known to the learner and to its store, and neither ever loses
it.  So whoever is given the project later, this learner or one that follows it on the store, passes it
over: it loads what was learned if it has not done so yet, and does nothing else.
-/

namespace AdaptiveRules

open Insights LearningState ProjectLearning

namespace LearningState

variable {sound : Storage → Prop} {fit : Insights → Prop} {s t : LearningState} {held : Insights}
  {project : String} {files : List SourceFile}

/-- A project that is known is passed over once the learner has begun. -/
theorem learn_of_isTrained (hbegin : ProjectLearning.begin.run.run s = (.ok (), t))
    (hknown : t.learner.insights.isTrained project = true) :
    s.learn project files = (.ok (skippedReport project files), t) := by
  unfold LearningState.learn ProjectLearning.learn
  rw [run_bind, hbegin]
  simp only
  rw [run_bind, run_get]
  simp only [hknown, if_true]
  rfl

end LearningState
end AdaptiveRules
