import AdaptiveRules.TextRule

/-!
# Rules from examples

A rule is made from what the examples start with in common, a class for what lies between, and what
they end with in common.  Only the first examples are used to make it, but it has to match every one
of them as a whole.
-/

namespace AdaptiveRules
namespace Generalization

/-- The longest list that both start with. -/
def commonStart : List Char → List Char → List Char
  | a :: as, b :: bs => if a = b then a :: commonStart as bs else []
  | _, _ => []

/-- The longest list that all start with. -/
def commonStartOf : List (List Char) → List Char
  | [] => []
  | first :: rest => rest.foldl commonStart first

/-- The longest list that all end with. -/
def commonEndOf (items : List (List Char)) : List Char :=
  (commonStartOf (items.map List.reverse)).reverse

/-- What is left without a start and an end of the given lengths; nothing if they overlap. -/
def middle (front back : Nat) (item : List Char) : List Char :=
  (item.take (item.length - back)).drop front

def letters : String := "[a-zA-Z]+"
def digits : String := "\\d+"
def wordCharacters : String := "\\w+"
def anythingSolid : String := "[^\\s]*"

/-- The class for the middles.  The narrow ones ask that no middle is empty. -/
def classOf (middles : List (List Char)) : String :=
  let every (p : Char → Bool) : Bool := middles.all fun m => !m.isEmpty && m.all p
  if every UnicodeProperties.isAlphanumeric then
    if every UnicodeProperties.isAlphabetic then letters
    else if every Char.isDigit then digits
    else wordCharacters
  else anythingSolid

/-- The text as a regular expression that matches it alone. -/
def escape (cs : List Char) : List Char :=
  cs.flatMap fun c => if Regex.isMeta c then ['\\', c] else [c]

/-- The rule that the sample suggests. -/
def candidate (sample : List (List Char)) : String :=
  let front := commonStartOf sample
  let back := commonEndOf sample
  String.ofList (escape front) ++
    classOf (sample.map (middle front.length back.length)) ++
    String.ofList (escape back)

/-- The rule matches the text from end to end. -/
def matchesWhole (rule text : String) : Bool :=
  match TextRule.compileWith .standard ("^(?:" ++ rule ++ ")$") with
  | .ok compiled => compiled.isMatch text
  | .error _ => false

/-- A rule that matches all examples, made from at most so many of them, and at least two. -/
def generalize (examples : List String) (maxExamples : Nat) : Option String :=
  if examples.length < 2 then none
  else
    let rule := candidate ((examples.take (max maxExamples 2)).map String.toList)
    if examples.all (matchesWhole rule) then some rule else none

end Generalization
end AdaptiveRules
