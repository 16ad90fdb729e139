/-!
# Globs for paths

A glob describes paths byte by byte.  `?` stands for one byte and `*` for any number of them, none of
which is a slash; `**` next to slashes stands for any number of directories.  Brackets hold ranges of
characters, braces hold alternatives that commas separate, and a backslash takes the next character as
it is.  A bracket that is not closed stands for itself.

A glob is read into a shape, and a path is matched by what is left of the shape after each byte.
-/

namespace AdaptiveRules

/-- The bytes in some ranges, or those in none of them. -/
structure ByteClass where
  ranges : List (Nat × Nat)
  negated : Bool
  deriving DecidableEq

namespace ByteClass

def contains (c : ByteClass) (b : UInt8) : Bool :=
  (c.ranges.any fun r => r.1 ≤ b.toNat && b.toNat ≤ r.2) != c.negated

def any : ByteClass := ⟨[], true⟩

def ofByte (b : UInt8) : ByteClass := ⟨[(b.toNat, b.toNat)], false⟩

def slash : ByteClass := ofByte 47

def notSlash : ByteClass := { slash with negated := true }

/-- The bytes of a range of characters: those of both ends, and what lies between the last byte of
the first and the first byte of the last. -/
def rangeBytes (r : Char × Char) : List (Nat × Nat) :=
  let bytes (c : Char) : List Nat := (String.singleton c).toUTF8.toList.map UInt8.toNat
  let single (n : Nat) : Nat × Nat := (n, n)
  if r.1 = r.2 then (bytes r.1).map single
  else
    (bytes r.1).dropLast.map single ++
      [((bytes r.1).getLast?.getD 0, (bytes r.2).head?.getD 0)] ++ (bytes r.2).tail.map single

def ofRanges (ranges : List (Char × Char)) (negated : Bool) : ByteClass :=
  ⟨ranges.flatMap rangeBytes, negated⟩

end ByteClass

inductive GlobShape
  /-- Matches no path. -/
  | nothing
  /-- Matches the empty path. -/
  | done
  | byte (c : ByteClass)
  /-- Any number of bytes. -/
  | many (c : ByteClass)
  | seq (first second : GlobShape)
  | either (first second : GlobShape)
  deriving DecidableEq

namespace GlobShape

def matchesEmpty : GlobShape → Bool
  | nothing => false
  | done => true
  | byte _ => false
  | many _ => true
  | seq a b => a.matchesEmpty && b.matchesEmpty
  | either a b => a.matchesEmpty || b.matchesEmpty

/-- One after the other, without what cannot match or adds nothing. -/
def join : GlobShape → GlobShape → GlobShape
  | nothing, _ => nothing
  | done, b => b
  | a, b => seq a b

/-- One or the other, each once. -/
def union : GlobShape → GlobShape → GlobShape
  | nothing, b => b
  | a, nothing => a
  | either a b, c => union a (union b c)
  | a, either b c => if a = b then either b c else either b (union a c)
  | a, b => if a = b then a else either a b

/-- What has to follow after a byte. -/
def after (x : UInt8) : GlobShape → GlobShape
  | nothing => nothing
  | done => nothing
  | byte c => if c.contains x then done else nothing
  | many c => if c.contains x then many c else nothing
  | seq a b =>
      let rest := join (a.after x) b
      if a.matchesEmpty then union rest (b.after x) else rest
  | either a b => union (a.after x) (b.after x)

def matchesPath (s : GlobShape) (path : String) : Bool :=
  (path.toUTF8.toList.foldl (fun s x => s.after x) s).matchesEmpty

def ofChar (c : Char) : GlobShape :=
  (String.singleton c).toUTF8.toList.foldr (fun b s => join (byte (.ofByte b)) s) done

def concat (shapes : List GlobShape) : GlobShape := shapes.foldr join done

/-- Everything. -/
def anything : GlobShape := many .any

/-- Any number of directories, with the slash after each. -/
def directories : GlobShape := union done (seq anything (byte .slash))

end GlobShape

/-- A part of a glob. -/
inductive GlobPart
  | shape (s : GlobShape)
  /-- Any number of directories at the start. -/
  | leading
  /-- A slash and anything after it. -/
  | trailing
  /-- Alternatives that are all empty; no part of the shape. -/
  | blank

namespace GlobPart

def slash : GlobShape := .byte .slash

def toShape : GlobPart → GlobShape
  | shape s => s
  | leading => .directories
  | trailing => .seq slash .anything
  | blank => .done

def isBlank : GlobPart → Bool
  | blank => true
  | _ => false

def star : GlobPart := shape (.many .notSlash)

/-- The shape of parts that follow each other. -/
def shapeOf (parts : List GlobPart) : GlobShape := .concat (parts.map toShape)

end GlobPart

/-- What was read of a glob.  Parts stand last first. -/
structure GlobReading where
  parts : List GlobPart
  /-- The alternatives of the open group before this one. -/
  earlier : List (List GlobPart)
  /-- The same for the groups around. -/
  around : List (List GlobPart × List (List GlobPart))

namespace GlobReading

def start : GlobReading := ⟨[], [], []⟩

def isInGroup (r : GlobReading) : Bool := !r.around.isEmpty

def push (r : GlobReading) (p : GlobPart) : GlobReading := { r with parts := p :: r.parts }

def openGroup (r : GlobReading) : GlobReading := ⟨[], [], (r.parts, r.earlier) :: r.around⟩

def nextAlternative (r : GlobReading) : GlobReading :=
  { r with parts := [], earlier := r.parts :: r.earlier }

/-- Alternatives in which nothing is written do not count. -/
def closeGroup (r : GlobReading) : Option GlobReading :=
  match r.around with
  | [] => none
  | (parts, earlier) :: around =>
      let written := (r.parts :: r.earlier).filter fun ps => !ps.all GlobPart.isBlank
      let group := match written.map fun ps => GlobPart.shapeOf ps.reverse with
        | [] => GlobPart.blank
        | s :: rest => .shape (rest.foldl (fun a b => .union b a) s)
      some ⟨group :: parts, earlier, around⟩

/-- Two stars that stand between slashes or ends, in place of the slash before them. -/
def pushDirectories (r : GlobReading) (ends : Bool) : GlobReading :=
  match r.parts with
  | .leading :: _ => r
  | .trailing :: _ => r
  | _ :: parts =>
      { r with parts :=
        (if ends then .trailing else .shape (.seq GlobPart.slash .directories)) :: parts }
  | [] => r

/-- Reads on after a star: what was read with it, the last character of that, and the rest. -/
def readStar (r : GlobReading) (before : Option Char) (rest : List Char) :
    GlobReading × Char × List Char :=
  match rest with
  | '*' :: rest =>
      if r.parts.isEmpty then
        match rest with
        | [] => (r.push .leading, '*', [])
        | '/' :: rest => (r.push .leading, '/', rest)
        | rest => (r.push .star, '*', rest)
      else if before ≠ some '/' ∧ (!r.isInGroup ∨ (before ≠ some ',' ∧ before ≠ some '\x7b')) then
        (r.push .star, '*', rest)
      else
        match rest with
        | [] => (r.pushDirectories true, '*', [])
        | '/' :: rest => (r.pushDirectories false, '/', rest)
        | c :: rest =>
            if r.isInGroup ∧ (c = ',' ∨ c = '\x7d') then (r.pushDirectories true, '*', c :: rest)
            else (r.push .star, '*', c :: rest)
  | rest => (r.push .star, '*', rest)

end GlobReading

namespace PathGlob

inductive BracketReading
  | closed (ranges : List (Char × Char)) (rest : List Char)
  | unclosed
  /-- A range ends before it starts. -/
  | backwards

/-- Reads ranges up to the closing bracket.  `isOpen` says that a dash waits for the end of the last
range; ranges stand last first. -/
def readRanges (isFirst isOpen : Bool) (ranges : List (Char × Char)) : List Char → BracketReading
  | [] => .unclosed
  | c :: rest =>
      if c = ']' ∧ !isFirst then
        .closed (if isOpen then ('-', '-') :: ranges else ranges) rest
      else if c = '-' ∧ !isFirst ∧ !isOpen then readRanges false true ranges rest
      else if isOpen ∧ c ≠ ']' then
        match ranges with
        | (low, _) :: more =>
            if c < low then .backwards else readRanges false false ((low, c) :: more) rest
        | [] => .backwards
      else readRanges false false ((c, c) :: ranges) rest

def readBracket : List Char → Bool × BracketReading
  | '!' :: rest => (true, readRanges true false [] rest)
  | '^' :: rest => (true, readRanges true false [] rest)
  | rest => (false, readRanges true false [] rest)

/-- Reads a glob on.  `brackets` is false after a bracket that is not closed.  The fuel bounds the
number of steps. -/
def readFrom (brackets : Bool) : Nat → Option Char → List Char → GlobReading → Option GlobReading
  | _, _, [], r => some r
  | 0, _, _, r => some r
  | fuel + 1, before, c :: rest, r =>
      let next (r : GlobReading) : Option GlobReading := readFrom brackets fuel (some c) rest r
      match c with
      | '?' => next (r.push (.shape (.byte .notSlash)))
      | '*' =>
          let (r, last, rest) := r.readStar before rest
          readFrom brackets fuel (some last) rest r
      | '[' =>
          if brackets then
            match readBracket rest with
            | (negated, .closed ranges rest) =>
                readFrom brackets fuel (some ']') rest
                  (r.push (.shape (.byte (.ofRanges ranges negated))))
            | (_, .unclosed) => readFrom false fuel (some c) rest (r.push (.shape (.ofChar c)))
            | (_, .backwards) => none
          else next (r.push (.shape (.ofChar c)))
      | '\x7b' => next r.openGroup
      | '\x7d' => r.closeGroup.bind next
      | ',' => next (if r.isInGroup then r.nextAlternative else r.push (.shape (.ofChar c)))
      | '\\' =>
          match rest with
          | [] => none
          | d :: rest => readFrom brackets fuel (some d) rest (r.push (.shape (.ofChar d)))
      | c => next (r.push (.shape (.ofChar c)))

/-- The shape of a glob.  Two stars alone stand for everything. -/
def parse? (glob : List Char) : Option GlobShape := do
  let r ← readFrom true glob.length none glob .start
  if r.isInGroup then none
  match r.parts with
  | [.leading] => return .anything
  | parts => return GlobPart.shapeOf parts.reverse

end PathGlob
end AdaptiveRules
