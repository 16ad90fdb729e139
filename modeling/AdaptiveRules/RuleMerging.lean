import AdaptiveRules.TextLines

/-!
# Variations of a rule

A variation is merged into a rule as an alternative to it.  Among the variations that a rule does not
hold yet the one with the highest score is chosen, the first of equals; the score counts bytes, and
brackets and bars once more.
-/

namespace AdaptiveRules
namespace RuleMerging

def score (variation : String) : Nat :=
  let cs := variation.toList
  TextLines.byteSize cs + (cs.filter fun c => c == '(' || c == '[' || c == '|').length

/-- The rule is the variation, or the variation stands in it as the last alternative of a group. -/
def alreadyMerged (current variation : String) : Bool :=
  current == variation ||
    TextLines.occursIn ('|' :: (variation.toList ++ [')'])) current.toList

/-- The rule with the variation as an alternative. -/
def merge (original variation : String) : String :=
  if original = variation then original
  else if original.isEmpty then variation
  else "(?:" ++ original ++ "|" ++ variation ++ ")"

/-- The variations that can still be merged into the rule. -/
def candidates (current : String) (variations : List String) : List String :=
  variations.filter fun v => !v.isEmpty && !alreadyMerged current v

/-- The better of two by score, the first if they are equal. -/
def better (best : Option String) (v : String) : Option String :=
  match best with
  | none => some v
  | some b => if score b < score v then some v else some b

def selectBest (variations : List String) (current : String) : Option String :=
  (candidates current variations).foldl better none

/-- The rule with the best variation merged into it, if that is another rule. -/
def improved? (variations : List String) (current : String) : Option String :=
  ((selectBest variations current).map (merge current)).filter (· != current)

end RuleMerging
end AdaptiveRules
