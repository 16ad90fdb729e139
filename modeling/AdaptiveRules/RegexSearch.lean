import AdaptiveRules.RegexProgram

/-!
# Leftmost search

A search tries the places of the text from the left; the first place where the program accepts is
where the match starts.  From one place, `explore` follows the program depth first, preferred ways
first, and never enters the same address at the same place twice: the second time could only fail
again.  So the first acceptance is the preferred one.  What failed from one place fails from the next
ones too, so a whole search is bounded by addresses times places.

Places are counted in bytes of UTF-8.
-/

namespace AdaptiveRules
namespace Regex

/-- A place in a text: the character before it, the text after it, and its distance in bytes from
the start. -/
structure Cursor where
  before : Option Char
  rest : List Char
  offset : Nat
  deriving DecidableEq

namespace Cursor

def start (text : List Char) : Cursor := ⟨none, text, 0⟩

def after (cur : Cursor) : Option Char := cur.rest.head?

/-- The next place, if there is one. -/
def advance (cur : Cursor) : Option Cursor :=
  match cur.rest with
  | [] => none
  | c :: rest => some ⟨some c, rest, cur.offset + c.utf8Size⟩

end Cursor

/-- Marks set on the way, the latest first. -/
abbrev Slots := List (Nat × Nat)

structure Thread where
  address : Nat
  cursor : Cursor
  slots : Slots

/-- Which combinations of address and place have been entered.  It grows as places further from the
start of the search are reached. -/
abbrev Visited := Array Bool

def Visited.has (v : Visited) (key : Nat) : Bool := v.getD key false

def Visited.add (v : Visited) (key : Nat) : Visited :=
  if key < v.size then v.setIfInBounds key true
  else (v ++ Array.replicate (key - v.size) false).push true

/-- Runs the threads in order until one accepts; if none does, answers what was entered.  Keys count
from the place `origin`, and the fuel bounds the number of threads taken from the list. -/
def explore (p : Program) (origin : Nat) :
    Nat → List Thread → Visited → Except Visited (Cursor × Slots)
  | 0, _, seen => .error seen
  | _ + 1, [], seen => .error seen
  | fuel + 1, t :: waiting, seen =>
      let key := (t.cursor.offset - origin) * p.size + t.address
      if seen.has key then explore p origin fuel waiting seen
      else
        let seen := seen.add key
        match p.instructions[t.address]? with
        | none => explore p origin fuel waiting seen
        | some .accept => .ok (t.cursor, t.slots)
        | some (.jump next) =>
            explore p origin fuel ({ t with address := next } :: waiting) seen
        | some (.mark slot next) =>
            explore p origin fuel
              (⟨next, t.cursor, (slot, t.cursor.offset) :: t.slots⟩ :: waiting) seen
        | some (.fork first second) =>
            explore p origin fuel
              ({ t with address := first } :: { t with address := second } :: waiting) seen
        | some (.check a next) =>
            if a.holds t.cursor.before t.cursor.after then
              explore p origin fuel ({ t with address := next } :: waiting) seen
            else explore p origin fuel waiting seen
        | some (.take chars next) =>
            match t.cursor.rest with
            | [] => explore p origin fuel waiting seen
            | c :: rest =>
                if chars.contains c then
                  explore p origin fuel
                    (⟨next, ⟨some c, rest, t.cursor.offset + c.utf8Size⟩, t.slots⟩ :: waiting)
                    seen
                else explore p origin fuel waiting seen

structure Found where
  start : Cursor
  stop : Cursor
  slots : Slots

/-- The match at the first place, from the given one on, where there is a match.  What was entered
from earlier places is not entered again, as no way on from there accepts; it is dropped when it lies
behind. -/
def firstFrom (p : Program) (fuel origin : Nat) (seen : Visited) :
    Option Char → List Char → Nat → Option Found
  | before, [], offset =>
      let cur : Cursor := ⟨before, [], offset⟩
      match explore p origin fuel [⟨0, cur, []⟩] seen with
      | .ok (stop, slots) => some ⟨cur, stop, slots⟩
      | .error _ => none
  | before, c :: rest, offset =>
      let cur : Cursor := ⟨before, c :: rest, offset⟩
      match explore p origin fuel [⟨0, cur, []⟩] seen with
      | .ok (stop, slots) => some ⟨cur, stop, slots⟩
      | .error seen =>
          let next := offset + c.utf8Size
          if seen.size ≤ (next - origin) * p.size then firstFrom p fuel next #[] (some c) rest next
          else firstFrom p fuel origin seen (some c) rest next

def firstAt (p : Program) (fuel : Nat) (cur : Cursor) : Option Found :=
  firstFrom p fuel cur.offset #[] cur.before cur.rest cur.offset

/-- More threads than any search in a text of so many bytes takes from its list. -/
def searchFuel (p : Program) (bytes : Nat) : Nat :=
  2 * (p.size * (bytes + 1)) + 2

/-- The next match from a place on.  An empty match is not reported where the last one ended; the
search then goes on one character further. -/
def nextFrom (p : Program) (fuel : Nat) (cur : Cursor) (last : Option Nat) : Option Found :=
  match firstAt p fuel cur with
  | none => none
  | some found =>
      if found.start.offset = found.stop.offset && some found.stop.offset = last then
        cur.advance.bind (firstAt p fuel)
      else some found

/-- All matches from left to right, each starting where the one before it ended or later.  `none` if
there are more than `limit`. -/
def allFrom (p : Program) (fuel : Nat) : Nat → Cursor → Option Nat → Option (List Found)
  | 0, cur, last =>
      match nextFrom p fuel cur last with
      | none => some []
      | some _ => none
  | limit + 1, cur, last =>
      match nextFrom p fuel cur last with
      | none => some []
      | some found =>
          (allFrom p fuel limit found.stop (some found.stop.offset)).map (found :: ·)

/-- How many characters lie within the first `n` bytes, added to a count. -/
def countWithin : Nat → Nat → List Char → Nat
  | count, _, [] => count
  | count, n, c :: rest =>
      if c.utf8Size ≤ n then countWithin (count + 1) (n - c.utf8Size) rest else count

/-- The characters that make up the first `n` bytes. -/
def takeBytes (n : Nat) (cs : List Char) : List Char := cs.take (countWithin 0 n cs)

/-- What is left after the first `n` bytes. -/
def dropBytes : Nat → List Char → List Char
  | _, [] => []
  | n, c :: rest => if c.utf8Size ≤ n then dropBytes (n - c.utf8Size) rest else c :: rest

namespace Found

/-- The characters between two places of the match, given as distances from the start of the
text. -/
def slice (found : Found) (start stop : Nat) : String :=
  String.ofList
    (takeBytes (stop - start) (dropBytes (start - found.start.offset) found.start.rest))

def text (found : Found) : String :=
  found.slice found.start.offset found.stop.offset

/-- What a capture group took last, if it took part in the match. -/
def group (found : Found) (index : Nat) : Option String := do
  let start ← found.slots.lookup (2 * index)
  let stop ← found.slots.lookup (2 * index + 1)
  return found.slice start stop

end Found
end Regex
end AdaptiveRules
