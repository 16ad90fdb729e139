import AdaptiveRules.JsonDecoding
import AdaptiveRules.TextLines

/-!
# Failures of a match

A failed match carries a message.  What kind of failure it is follows from the words that occur in
the message, whatever their case; the kinds are tried in the order of `FailureKind.all`.
-/

namespace AdaptiveRules

inductive FailureKind
  | syntaxError
  | timeout
  | memory
  | matchLimit
  | partialMatch
  | ambiguous
  | recursion
  | unknown
  deriving DecidableEq

namespace FailureKind

def all : List FailureKind :=
  [syntaxError, timeout, memory, matchLimit, partialMatch, ambiguous, recursion, unknown]

def name : FailureKind → String
  | syntaxError => "syntax_error"
  | timeout => "timeout_error"
  | memory => "memory_error"
  | matchLimit => "match_limit_error"
  | partialMatch => "partial_match_error"
  | ambiguous => "ambiguous_match_error"
  | recursion => "recursion_error"
  | unknown => "unknown_error"

/-- The place in `all`. -/
def priority : FailureKind → Nat
  | syntaxError => 0
  | timeout => 1
  | memory => 2
  | matchLimit => 3
  | partialMatch => 4
  | ambiguous => 5
  | recursion => 6
  | unknown => 7

/-- The words that mark a kind. -/
def words : FailureKind → List String
  | syntaxError => ["syntax", "unexpected token", "parse error"]
  | timeout => ["timeout", "time limit"]
  | memory => ["memory"]
  | matchLimit => ["match limit"]
  | partialMatch => ["partial"]
  | ambiguous => ["ambiguous"]
  | recursion => ["recursion"]
  | unknown => []

/-- Lower case as far as it yields ASCII letters: the ASCII capitals and the Kelvin sign. -/
def lowered (c : Char) : Char :=
  if c.toNat = 0x212A then 'k' else c.toLower

def marks (kind : FailureKind) (message : List Char) : Bool :=
  kind.words.any fun w => TextLines.occursIn w.toList message

def classify (message : String) : FailureKind :=
  let cs := message.toList.map lowered
  (all.find? fun kind => kind.marks cs).getD unknown

end FailureKind

structure MatchError where
  message : String
  deriving DecidableEq

namespace MatchError

def kind (e : MatchError) : FailureKind := .classify e.message

def matchLimit (limit : Nat) : MatchError :=
  ⟨"match limit exceeded (" ++ toString limit ++ " instances)"⟩

end MatchError
end AdaptiveRules
