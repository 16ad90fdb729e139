import AdaptiveRules.UnicodeProperties

/-!
# Similar texts

Two texts are similar if their lengths are close and they share enough of their characters or of
their words.  Texts are grouped around seeds: the first text that no earlier seed has taken becomes
a seed and takes the later free texts that are similar to it.  Similarity is not transitive, so what
counts is the seed.
-/

namespace AdaptiveRules

structure SimilarityThresholds where
  lengthTolerance : Float
  charSimilarity : Float
  wordSimilarity : Float

namespace Similarity

def floatOfNat (n : Nat) : Float := Float.ofScientific n false 0

/-- The share of the common elements among all elements of two lists without repetitions. -/
def jaccard [BEq α] (as bs : List α) : Float :=
  let common := (as.filter bs.contains).length
  let total := as.length + (bs.filter fun b => !as.contains b).length
  if total = 0 then 0 else floatOfNat common / floatOfNat total

def isWordPart (c : Char) : Bool := UnicodeProperties.isAlphanumeric c || c == '_'

/-- The maximal runs of letters, numbers and underscores. -/
def words : List Char → List Char → List (List Char)
  | taken, [] => if taken.isEmpty then [] else [taken.reverse]
  | taken, c :: rest =>
      if isWordPart c then words (c :: taken) rest
      else if taken.isEmpty then words [] rest
      else taken.reverse :: words [] rest

def charSimilarity (a b : String) : Float :=
  jaccard a.toList.eraseDups b.toList.eraseDups

def wordSimilarity (a b : String) : Float :=
  jaccard (words [] a.toList).eraseDups (words [] b.toList).eraseDups

/-- The difference of the lengths relative to the longer one. -/
def lengthDifference (a b : String) : Float :=
  let m := a.toList.length
  let n := b.toList.length
  floatOfNat (max m n - min m n) / floatOfNat (max m n)

def similar (t : SimilarityThresholds) (a b : String) : Bool :=
  if a.isEmpty || b.isEmpty then false
  else if t.lengthTolerance ≤ lengthDifference a b then false
  else
    decide (t.charSimilarity < charSimilarity a b) ||
      decide (t.wordSimilarity < wordSimilarity a b)

/-- Groups numbered texts around seeds.  The fuel bounds the number of seeds. -/
def groupFrom (t : SimilarityThresholds) : Nat → List (Nat × String) → List (List (Nat × String))
  | 0, _ => []
  | _ + 1, [] => []
  | fuel + 1, seed :: free =>
      let (taken, left) := free.partition fun x => similar t seed.2 x.2
      (seed :: taken) :: groupFrom t fuel left

/-- The groups with at least the given number of members, and at least one. -/
def groups (t : SimilarityThresholds) (least : Nat) (texts : List String) :
    List (List (Nat × String)) :=
  let numbered := (List.range texts.length).zip texts
  (groupFrom t numbered.length numbered).filter fun g => max least 1 ≤ g.length

end Similarity
end AdaptiveRules
