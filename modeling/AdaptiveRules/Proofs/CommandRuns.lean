import AdaptiveRules.CommandLine
import AdaptiveRules.Proofs.LearnerMoves

/-!
# Runs of commands

A command goes on after each of its steps with what that step leaves, or stops there at a problem.
Showing lines changes only what is shown, and reading changes nothing.
-/

namespace AdaptiveRules
namespace Work

open ProjectLearning

variable {α β : Type} {s t : Shell}

theorem run_ofExcept (r : Except Problem α) (s : Shell) : (ofExcept r).run.run s = (r, s) := by
  cases r <;> rfl

theorem run_line (text : String) (s : Shell) :
    (line text).run.run s = (.ok (), { s with shown := s.shown ++ (text ++ "\n") }) := rfl

theorem run_lines (texts : List String) (s : Shell) :
    ∃ shown, (lines texts).run.run s = (.ok (), { s with shown }) := by
  induction texts generalizing s with
  | nil => exact ⟨s.shown, rfl⟩
  | cons text rest ih =>
      have hsplit : lines (text :: rest) = line text >>= fun _ => lines rest := rfl
      rw [hsplit, run_bind, run_line]
      exact ih { s with shown := s.shown ++ (text ++ "\n") }

theorem run_readText (path : String) (s : Shell) :
    (readText path).run.run s = ((s.files.readText path).mapError Problem.file, s) := by
  unfold readText ofFiles
  rw [run_bind, run_get]
  exact run_ofExcept _ s

theorem run_change (f : FileTree → Except FileProblem FileTree) (s : Shell) :
    (change f).run.run s =
      match f s.files with
      | .ok files => (.ok (), { s with files })
      | .error p => (.error (.file p), s) := by
  unfold change ofFiles
  rw [run_bind, run_get]
  simp only [run_bind, run_ofExcept]
  cases f s.files <;> rfl

theorem run_withStorage (f : Storage → StorageStep α) (s : Shell) :
    (withStorage f).run.run s =
      ((f (.ofFiles s.files)).1, { s with files := (f (.ofFiles s.files)).2.files }) := by
  unfold withStorage
  rw [run_bind, run_get]
  simp only [run_bind, run_set, run_ofExcept]

theorem run_keep (l : LearningState) (s : Shell) :
    (keep l).run.run s = (.ok (), { s with files := l.storage.files }) := rfl

end Work
end AdaptiveRules
