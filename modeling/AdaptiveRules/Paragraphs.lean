import AdaptiveRules.MatchInstance

/-!
# Paragraphs

A paragraph is a maximal run of lines that are not blank.  Its block starts in the first column of
its first line and stops after the last byte of its last line.
-/

namespace AdaptiveRules
namespace Paragraphs

/-- The lines joined by line feeds. -/
def joinLines : List (List Char) → List Char
  | [] => []
  | [l] => l
  | l :: rest => l ++ '\n' :: joinLines rest

/-- The block of the lines, which are not none, that start at a row. -/
def blockOf (row : Nat) (lines : List (List Char)) : Block :=
  { content := String.ofList (joinLines lines)
    nodeType := "paragraph"
    start := ⟨row, 0⟩
    stop := ⟨row + lines.length - 1, TextLines.byteSize (lines.getLast?.getD [])⟩
    confidence := 1 }

/-- The blocks of the lines from a row on, given the lines of the paragraph under way, last first,
and the row it starts at. -/
def blocksFrom : Nat → List (List Char) → Nat → List (List Char) → List Block
  | _, taken, first, [] => if taken.isEmpty then [] else [blockOf first taken.reverse]
  | row, taken, first, line :: rest =>
      if TextLines.isBlankList line then
        if taken.isEmpty then blocksFrom (row + 1) [] first rest
        else blockOf first taken.reverse :: blocksFrom (row + 1) [] first rest
      else
        blocksFrom (row + 1) (line :: taken) (if taken.isEmpty then row else first) rest

def extract (source : String) : List Block :=
  blocksFrom 0 [] 0 (TextLines.lines source.toList)

end Paragraphs
end AdaptiveRules
