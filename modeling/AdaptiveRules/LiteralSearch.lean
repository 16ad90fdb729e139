import AdaptiveRules.MatchInstance

/-!
# Plain searches

Two searches that need no rule language: the occurrences of a literal text, from left to right and
without overlap, and the maximal runs of lower case ASCII letters.  Engines for simple queries are
made of them.
-/

namespace AdaptiveRules
namespace LiteralSearch

/-- The occurrences of a word in the rest of a text that starts at a byte offset, once so many
characters are passed over. -/
def occurrencesFrom (word : List Char) : Nat → Nat → List Char → List MatchInstance
  | pos, skip, [] => if skip = 0 ∧ word = [] then [.plain "" pos pos] else []
  | pos, skip, c :: rest =>
      if skip = 0 ∧ word.isPrefixOf (c :: rest) then
        .plain (String.ofList word) pos (pos + TextLines.byteSize word) ::
          occurrencesFrom word (pos + c.utf8Size) (word.length - 1) rest
      else occurrencesFrom word (pos + c.utf8Size) (skip - 1) rest

def occurrences (word source : String) : List MatchInstance :=
  occurrencesFrom word.toList 0 0 source.toList

/-- The match of a run, given its characters, last first, and where it stops. -/
def runBefore (stop : Nat) (taken : List Char) : MatchInstance :=
  .plain (String.ofList taken.reverse) (stop - TextLines.byteSize taken) stop

/-- The runs of lower case letters, given what was taken of the run under way, last first. -/
def runsFrom : Nat → List Char → List Char → List MatchInstance
  | pos, taken, [] => if taken.isEmpty then [] else [runBefore pos taken]
  | pos, taken, c :: rest =>
      if c.isLower then runsFrom (pos + 1) (c :: taken) rest
      else if taken.isEmpty then runsFrom (pos + c.utf8Size) [] rest
      else runBefore pos taken :: runsFrom (pos + c.utf8Size) [] rest

def lowercaseRuns (source : String) : List MatchInstance := runsFrom 0 [] source.toList

end LiteralSearch
end AdaptiveRules
