import AdaptiveRules.TextLines

/-!
# Overlapping windows of a text

A text is cut into windows of a given number of bytes whose starts advance by the size less the
overlap.  A start inside a character moves back to where the character starts, a stop inside one
moves on to where it ends.  The first window that reaches the end of the text is the last.
-/

namespace AdaptiveRules

structure Window where
  start : Nat
  stop : Nat
  text : String
  deriving DecidableEq

namespace TextWindows

/-- Walks from one place to the last one that is not beyond the target. -/
def walkTo (target : Nat) : Nat → List Char → Nat × List Char
  | pos, [] => (pos, [])
  | pos, c :: rest =>
      if pos + c.utf8Size ≤ target then walkTo target (pos + c.utf8Size) rest
      else (pos, c :: rest)

/-- How many characters, added to a count, it takes to reach or pass the target, and where that is. -/
def reach (target : Nat) : Nat → Nat → List Char → Nat × Nat
  | count, pos, [] => (count, pos)
  | count, pos, c :: rest =>
      if target ≤ pos then (count, pos) else reach target (count + 1) (pos + c.utf8Size) rest

/-- Takes characters until the target is reached or passed, and says where that is. -/
def takeTo (target pos : Nat) (cs : List Char) : List Char × Nat :=
  let (count, stop) := reach target 0 pos cs
  (cs.take count, stop)

/-- The windows whose starts aim at `aim`, `aim + step` and so on, in the rest of a text of `length`
bytes that begins at `pos`. -/
def windowsFrom (size step length : Nat) : Nat → Nat → Nat → List Char → List Window
  | 0, _, _, _ => []
  | fuel + 1, aim, pos, cs =>
      if aim < length then
        let (start, rest) := walkTo aim pos cs
        let (taken, stop) := takeTo (min (aim + size) length) start rest
        let window : Window := ⟨start, stop, String.ofList taken⟩
        if stop = length then [window]
        else window :: windowsFrom size step length fuel (aim + step) start rest
      else []

/-- The windows of a text.  No size means one window. -/
def split (source : String) (size overlap : Nat) : List Window :=
  let cs := source.toList
  let length := TextLines.byteSize cs
  if length = 0 then []
  else if size = 0 then [⟨0, length, source⟩]
  else windowsFrom size (max (size - overlap) 1) length length 0 0 cs

end TextWindows
end AdaptiveRules
