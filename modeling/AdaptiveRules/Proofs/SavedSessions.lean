import AdaptiveRules.Proofs.SessionTurns
import AdaptiveRules.Proofs.WrittenRules

/-!
# Saved sessions

Configuring starts a session with the configuration in the file, and concludes what the session ends
with.  Only if that is to save is anything written, and then it is the file alone, with what the visits
have made of the configuration.
-/

namespace AdaptiveRules

open ConfigurationSession

variable {c d : Configuration} {path : String} {s : Shell} {visits : Visits} {ending : SessionEnd}

namespace FileTree

variable {t u : FileTree} {old : String}

end FileTree

open ProjectLearning

namespace CommandLine

end CommandLine
end AdaptiveRules
