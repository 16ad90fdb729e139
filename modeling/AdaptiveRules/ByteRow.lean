import AdaptiveRules.CharSet

/-!
# Characters as rows of bytes

In UTF-8 a range of characters is a list of rows.  A row holds, for each byte of a character, a range
to choose it from, and every choice is a character of the range.  Rows stand in ascending order, so
rows that begin alike stand together; `distinctStarts` counts what is left of a list of rows when
each beginning is written once.
-/

namespace AdaptiveRules

/-- A range for each byte of a character, the first byte first. -/
abbrev ByteRow := List (Nat × Nat)

namespace ByteRow

/-- The rows of the numbers from `lo` to `hi`.  A number is written as a first byte, which is its
first digit to the base 64 added to `mark`, and `more` bytes that go on. -/
def between (mark : Nat) : Nat → Nat → Nat → List ByteRow
  | 0, lo, hi => [[(mark + lo, mark + hi)]]
  | more + 1, lo, hi =>
      let base := 1 <<< (6 * (more + 1))
      let starting (digit lo hi : Nat) : List ByteRow :=
        (between 128 more lo hi).map ((mark + digit, mark + digit) :: ·)
      if lo / base = hi / base then starting (lo / base) (lo % base) (hi % base)
      else
        let first := if lo % base = 0 then lo / base else lo / base + 1
        let next := if hi % base = base - 1 then hi / base + 1 else hi / base
        (if first = lo / base then [] else starting (lo / base) (lo % base) (base - 1)) ++
          (if first < next then
            [(mark + first, mark + next - 1) :: List.replicate (more + 1) (128, 191)]
          else []) ++
          (if next = hi / base then starting (hi / base) 0 (hi % base) else [])

/-- The characters that take equally many bytes: their ends, the mark of the first byte, and the
number of bytes after it.  Surrogates are no characters. -/
def blocks : List ((Nat × Nat) × Nat × Nat) :=
  [((0, 0x7F), 0, 0), ((0x80, 0x7FF), 0xC0, 1), ((0x800, 0xD7FF), 0xE0, 2),
    ((0xE000, 0xFFFF), 0xE0, 2), ((0x10000, maxCodePoint), 0xF0, 3)]

def ofRange (range : Nat × Nat) : List ByteRow :=
  blocks.flatMap fun ((lo, hi), mark, more) =>
    let lo := max lo range.1
    let hi := min hi range.2
    if lo ≤ hi then between mark more lo hi else []

def ofSet (s : CharSet) : List ByteRow := s.ranges.flatMap ofRange

/-- What a row adds to the one before it. -/
def newPart : ByteRow → ByteRow → ByteRow
  | a :: before, b :: row => if a = b then newPart before row else b :: row
  | _, row => row

/-- How many ranges there are when rows that begin alike share their beginning. -/
def distinctStarts (before : ByteRow) : List ByteRow → Nat
  | [] => 0
  | row :: rest => (newPart before row).length + distinctStarts row rest

end ByteRow
end AdaptiveRules
