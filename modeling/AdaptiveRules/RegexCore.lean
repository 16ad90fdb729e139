import AdaptiveRules.CharSet
import AdaptiveRules.UnicodeProperties

/-!
# Regular expressions as terms

A regular expression is a term over sets of characters and assertions about the place between two
characters.  Alternatives are ordered: the first that leads to a match wins.  Counted repetition is
unrolled into copies, nested options and one loop.

`alternation` shares what all its branches begin with.  The shared beginning is then matched once,
before a branch is chosen, so a way through it is preferred to another one whatever branch follows.
-/

namespace AdaptiveRules
namespace Regex

inductive WordEdge
  | boundary
  | inside
  | start
  | finish
  | startHalf
  | finishHalf
  deriving DecidableEq

/-- A condition on the characters before and after a place.  Lines end at a line feed; in the `crlf`
forms, at a carriage return, a line feed, or one followed by the other. -/
inductive Assertion
  | textStart
  | textEnd
  | lineStart
  | lineEnd
  | crlfLineStart
  | crlfLineEnd
  | word (edge : WordEdge) (chars : CharSet)
  deriving DecidableEq

def WordEdge.holds : WordEdge → Bool → Bool → Bool
  | .boundary, before, after => before != after
  | .inside, before, after => before == after
  | .start, before, after => !before && after
  | .finish, before, after => before && !after
  | .startHalf, before, _ => !before
  | .finishHalf, _, after => !after

def Assertion.holds (a : Assertion) (before after : Option Char) : Bool :=
  match a with
  | .textStart => before.isNone
  | .textEnd => after.isNone
  | .lineStart => before.isNone || before == some '\n'
  | .lineEnd => after.isNone || after == some '\n'
  | .crlfLineStart =>
      before.isNone || before == some '\n' || (before == some '\r' && after != some '\n')
  | .crlfLineEnd =>
      after.isNone || after == some '\r' || (after == some '\n' && before != some '\r')
  | .word edge chars => edge.holds (before.any chars.contains) (after.any chars.contains)

inductive Core
  | empty
  | set (chars : CharSet)
  | look (assertion : Assertion)
  | seq (first second : Core)
  | alt (first second : Core)
  | opt (greedy : Bool) (body : Core)
  | star (greedy : Bool) (body : Core)
  | plus (greedy : Bool) (body : Core)
  | group (index : Nat) (name : Option String) (body : Core)
  deriving DecidableEq

namespace Core

def char (c : Char) : Core := set (.singleton c)

/-- Some match of the term takes no character. -/
def canBeEmpty : Core → Bool
  | empty => true
  | set _ => false
  | look _ => true
  | seq a b => a.canBeEmpty && b.canBeEmpty
  | alt a b => a.canBeEmpty || b.canBeEmpty
  | opt _ _ => true
  | star _ _ => true
  | plus _ a => a.canBeEmpty
  | group _ _ a => a.canBeEmpty

/-- No match of the term takes a character. -/
def onlyEmpty : Core → Bool
  | empty => true
  | set _ => false
  | look _ => true
  | seq a b => a.onlyEmpty && b.onlyEmpty
  | alt a b => a.onlyEmpty && b.onlyEmpty
  | opt _ a => a.onlyEmpty
  | star _ a => a.onlyEmpty
  | plus _ a => a.onlyEmpty
  | group _ _ a => a.onlyEmpty

/-- The capture groups of the term with their names, as they are met from the left. -/
def groups : Core → List (Nat × Option String)
  | empty => []
  | set _ => []
  | look _ => []
  | seq a b => a.groups ++ b.groups
  | alt a b => a.groups ++ b.groups
  | opt _ a => a.groups
  | star _ a => a.groups
  | plus _ a => a.groups
  | group i n a => (i, n) :: a.groups

/-- What the term is a sequence of. -/
def parts : Core → List Core
  | empty => []
  | seq a b => a.parts ++ b.parts
  | r => [r]

def ofParts : List Core → Core
  | [] => empty
  | [r] => r
  | r :: rest => seq r (ofParts rest)

def concat (items : List Core) : Core :=
  ofParts (items.flatMap parts)

/-- What the term is a choice of. -/
def branches : Core → List Core
  | alt a b => a.branches ++ b.branches
  | r => [r]

def ofBranches : List Core → Core
  | [] => empty
  | [r] => r
  | r :: rest => alt r (ofBranches rest)

/-- The longest list that both lists start with. -/
def sharedStart : List Core → List Core → List Core
  | a :: as, b :: bs => if a = b then a :: sharedStart as bs else []
  | _, _ => []

/-- What all branches begin with, if each of them is a sequence of two parts or more. -/
def sharedBeginning : List (List Core) → List Core
  | [] => []
  | [_] => []
  | first :: rest =>
      if (first :: rest).all (fun ps => 2 ≤ ps.length) then rest.foldl sharedStart first
      else []

def alternation (items : List Core) : Core :=
  let bs := items.flatMap branches
  let shared := sharedBeginning (bs.map parts)
  if shared.isEmpty then ofBranches bs
  else
    let rests := bs.map fun b => ofParts (b.parts.drop shared.length)
    ofParts (shared ++ [ofBranches (rests.flatMap branches)])

def nestedOptions (greedy : Bool) (body : Core) : Nat → Core
  | 0 => empty
  | n + 1 => opt greedy (concat [body, nestedOptions greedy body n])

/-- At least `least` and at most `most` copies; `none` is no upper limit.  A body that takes no
character is matched at most once. -/
def repeated (least : Nat) (most : Option Nat) (greedy : Bool) (body : Core) : Core :=
  let low := if body.onlyEmpty then min least 1 else least
  let high := if body.onlyEmpty then some (min (most.getD 1) 1) else most
  match high with
  | some m => concat (List.replicate low body ++ [nestedOptions greedy body (m - low)])
  | none =>
      match low with
      | 0 => star greedy body
      | n + 1 => concat (List.replicate n body ++ [plus greedy body])

end Core
end Regex
end AdaptiveRules
