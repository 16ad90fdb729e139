import AdaptiveRules.ByteRow
import AdaptiveRules.RegexCore

/-!
# Reading regular expressions

The text is read once from the left.  The reader keeps the pieces of the branch it is in, the
finished branches of the group it is in, and the groups around it.  Flags set inside a group last to
its end, across its branches, and give way to the earlier ones where the group closes.

With every piece the reader keeps how deep it nests and how much room its program takes, so that an
expression that nests too deep or grows too large is refused before it is unrolled.
-/

namespace AdaptiveRules
namespace Regex

inductive RegexError
  | groupUnopened
  | groupUnclosed
  | groupNameInvalid
  | groupNameDuplicate
  | lookAround
  | flagUnknown
  | flagRepeated
  | flagDangling
  | flagUnclosed
  | repetitionMissing
  | countUnclosed
  | countMissing
  | countTooLarge
  | countReversed
  | escapeUnfinished
  | escapeUnknown
  | backreference
  | hexInvalid
  | propertyUnknown
  | propertyNeedsUnicode
  | wordBoundaryUnknown
  | classUnclosed
  | classEscape
  | classRange
  | invalidUtf8
  | tooDeep
  | tooLarge
  deriving DecidableEq

/-- What is wrong, in words. -/
def RegexError.message : RegexError → String
  | groupUnopened => "unopened group"
  | groupUnclosed => "unclosed group"
  | groupNameInvalid => "invalid capture group name"
  | groupNameDuplicate => "duplicate capture group name"
  | lookAround => "look-around is not supported"
  | flagUnknown => "unrecognized flag"
  | flagRepeated => "repeated flag"
  | flagDangling => "dangling flag negation"
  | flagUnclosed => "unclosed flags"
  | repetitionMissing => "repetition operator missing expression"
  | countUnclosed => "unclosed counted repetition"
  | countMissing => "missing repetition count"
  | countTooLarge => "repetition count too large"
  | countReversed => "invalid repetition count range"
  | escapeUnfinished => "incomplete escape sequence"
  | escapeUnknown => "unrecognized escape sequence"
  | backreference => "backreferences are not supported"
  | hexInvalid => "invalid hexadecimal escape"
  | propertyUnknown => "Unicode property not found"
  | propertyNeedsUnicode => "Unicode not allowed here"
  | wordBoundaryUnknown => "unrecognized word boundary"
  | classUnclosed => "unclosed character class"
  | classEscape => "invalid escape sequence in character class"
  | classRange => "invalid character class range"
  | invalidUtf8 => "pattern can match invalid UTF-8"
  | tooDeep => "nesting too deep"
  | tooLarge => "compiled expression too large"

structure Flags where
  caseless : Bool
  multiLine : Bool
  dotAll : Bool
  swapGreed : Bool
  unicode : Bool
  crlf : Bool
  spaced : Bool
  deriving DecidableEq

/-- All flags off, except that classes follow Unicode. -/
def Flags.standard : Flags := ⟨false, false, false, false, true, false, false⟩

/-- As `standard`, and `^` and `$` match at lines and `.` matches line ends too. -/
def Flags.multiLineDotAll : Flags := { Flags.standard with multiLine := true, dotAll := true }

/-- The deepest nesting of groups, repetitions, sequences and choices that is accepted. -/
def nestLimit : Nat := 250

/-- The room, in bytes, that a program may take. -/
def roomLimit : Nat := 10 * (1 <<< 20)

/-! ### Blanks and comments -/

/-- Drops a comment up to and with its line feed. -/
def dropComment : List Char → List Char
  | [] => []
  | c :: rest => if c = '\n' then rest else dropComment rest

/-- Drops blanks and comments.  The fuel bounds the number of steps. -/
def dropSpace : Nat → List Char → List Char
  | 0, cs => cs
  | _ + 1, [] => []
  | fuel + 1, c :: rest =>
      if UnicodeProperties.isWhiteSpace c then dropSpace fuel rest
      else if c = '#' then dropSpace fuel (dropComment rest)
      else c :: rest

/-- Drops blanks and comments where the flags ask for it. -/
def Flags.skip (flags : Flags) (cs : List Char) : List Char :=
  if flags.spaced then dropSpace (cs.length + 1) cs else cs

/-- The character after the first one, past blanks where the flags ask for it.  One `#` among the
blanks is passed over as well. -/
def Flags.peek (flags : Flags) (cs : List Char) : Option Char :=
  let rest := cs.drop 1
  if flags.spaced then
    let past := rest.dropWhile UnicodeProperties.isWhiteSpace
    match past with
    | '#' :: more =>
        match more.dropWhile UnicodeProperties.isWhiteSpace with
        | [] => rest.head?
        | c :: _ => some c
    | [] => rest.head?
    | c :: _ => some c
  else rest.head?

/-! ### Sets under the flags -/

def asciiCaseClasses : List (List Nat) :=
  (List.range 26).map fun i => [65 + i, 97 + i]

def Flags.closeUnderCase (flags : Flags) (s : CharSet) : CharSet :=
  if flags.caseless then
    if flags.unicode then UnicodeProperties.closeUnderCase s else s.closeUnder asciiCaseClasses
  else s

/-- Closes a set under case if the flags ask for it and then complements it if it is negated.
Without Unicode a set holds bytes, and one that is not ASCII could split a character. -/
def Flags.finishSet (flags : Flags) (s : CharSet) (negated : Bool) : Except RegexError CharSet :=
  let closed := flags.closeUnderCase s
  if flags.unicode then
    return if negated then closed.complement else closed
  else if negated || !closed.isAscii then throw .invalidUtf8
  else return closed

/-- The term for one character.  A byte form above 127 is a lone byte without Unicode. -/
def Flags.literal (flags : Flags) (c : Char) (byteForm : Bool) : Except RegexError Core :=
  if !flags.unicode && byteForm && c.toNat > 127 then throw .invalidUtf8
  else return .set (flags.closeUnderCase (.singleton c))

/-- The member of a set that a character stands for. -/
def Flags.member (flags : Flags) (c : Char) (byteForm : Bool) : Except RegexError Nat :=
  if flags.unicode || c.toNat ≤ 127 then return c.toNat
  else if byteForm then throw .invalidUtf8
  else throw .propertyNeedsUnicode

def asciiDigit : CharSet := .range 48 57
def asciiSpace : CharSet := ⟨[(9, 13), (32, 32)]⟩
def asciiWord : CharSet := ⟨[(48, 57), (65, 90), (95, 95), (97, 122)]⟩

def Flags.digit (flags : Flags) : CharSet :=
  if flags.unicode then UnicodeProperties.digit else asciiDigit

def Flags.space (flags : Flags) : CharSet :=
  if flags.unicode then UnicodeProperties.whiteSpace else asciiSpace

def Flags.word (flags : Flags) : CharSet :=
  if flags.unicode then UnicodeProperties.word else asciiWord

/-- A shorthand set or its complement. -/
def Flags.shorthand (flags : Flags) (s : CharSet) (negated : Bool) : Except RegexError CharSet :=
  if !negated then return s
  else if flags.unicode then return s.complement
  else throw .invalidUtf8

/-- The sets with names of the form `[:alpha:]`. -/
def posixSet (name : String) : Option CharSet :=
  match name with
  | "alnum" => some ⟨[(48, 57), (65, 90), (97, 122)]⟩
  | "alpha" => some ⟨[(65, 90), (97, 122)]⟩
  | "ascii" => some ⟨[(0, 127)]⟩
  | "blank" => some ⟨[(9, 9), (32, 32)]⟩
  | "cntrl" => some ⟨[(0, 31), (127, 127)]⟩
  | "digit" => some asciiDigit
  | "graph" => some ⟨[(33, 126)]⟩
  | "lower" => some ⟨[(97, 122)]⟩
  | "print" => some ⟨[(32, 126)]⟩
  | "punct" => some ⟨[(33, 47), (58, 64), (91, 96), (123, 126)]⟩
  | "space" => some asciiSpace
  | "upper" => some ⟨[(65, 90)]⟩
  | "word" => some asciiWord
  | "xdigit" => some ⟨[(48, 57), (65, 70), (97, 102)]⟩
  | _ => none

/-! ### Escapes -/

inductive Escape
  | literal (char : Char) (byteForm : Bool)
  | set (chars : CharSet)
  | look (assertion : Assertion)

def hexValue (c : Char) : Option Nat :=
  let n := c.toNat
  if 48 ≤ n ∧ n ≤ 57 then some (n - 48)
  else if 65 ≤ n ∧ n ≤ 70 then some (n - 55)
  else if 97 ≤ n ∧ n ≤ 102 then some (n - 87)
  else none

def charOfNat? (n : Nat) : Option Char :=
  if h : n.isValidChar then some (Char.ofNatAux n h) else none

/-- Reads exactly so many hexadecimal digits. -/
def readHexDigits (flags : Flags) : Nat → Nat → List Char → Except RegexError (Nat × List Char)
  | 0, value, cs => return (value, cs)
  | _ + 1, _, [] => throw .escapeUnfinished
  | n + 1, value, c :: rest =>
      match hexValue c with
      | some d => readHexDigits flags n (value * 16 + d) (flags.skip rest)
      | none => throw .hexInvalid

/-- Reads hexadecimal digits up to a closing brace. -/
def readHexBraced (flags : Flags) :
    Nat → Nat → Bool → List Char → Except RegexError (Nat × List Char)
  | 0, _, _, _ => throw .escapeUnfinished
  | _ + 1, _, _, [] => throw .escapeUnfinished
  | fuel + 1, value, any, c :: rest =>
      if c = '}' then
        if any then return (value, flags.skip rest) else throw .hexInvalid
      else
        match hexValue c with
        | some d => readHexBraced flags fuel (value * 16 + d) true (flags.skip rest)
        | none => throw .hexInvalid

/-- Reads what follows `\x`, `\u` or `\U`. -/
def readHex (flags : Flags) (digits : Nat) (cs : List Char) :
    Except RegexError (Escape × List Char) := do
  match flags.skip cs with
  | [] => throw .escapeUnfinished
  | '{' :: rest =>
      let (value, rest) ← readHexBraced flags (rest.length + 1) 0 false (flags.skip rest)
      match charOfNat? value with
      | some c => return (.literal c false, rest)
      | none => throw .hexInvalid
  | cs =>
      let (value, rest) ← readHexDigits flags digits 0 cs
      match charOfNat? value with
      | some c => return (.literal c (digits == 2), rest)
      | none => throw .hexInvalid

/-- Reads up to a closing brace. -/
def readBraced (flags : Flags) : Nat → List Char → List Char → Except RegexError (String × List Char)
  | 0, _, _ => throw .escapeUnfinished
  | _ + 1, _, [] => throw .escapeUnfinished
  | fuel + 1, taken, c :: rest =>
      if c = '}' then return (String.ofList taken.reverse, rest)
      else readBraced flags fuel (c :: taken) (flags.skip rest)

/-- The part before the first occurrence of the separator and the part after it. -/
def splitAtFirst (sep : List Char) : List Char → Option (List Char × List Char)
  | [] => if sep.isEmpty then some ([], []) else none
  | c :: rest =>
      if sep.isPrefixOf (c :: rest) then some ([], (c :: rest).drop sep.length)
      else (splitAtFirst sep rest).map fun p => (c :: p.1, p.2)

/-- The set a property query stands for: a bare name, or a name and a value joined by `=`, `:` or
`!=`; the last means all other characters. -/
def propertySet (query : String) : Option (CharSet × Bool) :=
  let cs := query.toList
  let valued (p : List Char × List Char) : Option CharSet :=
    UnicodeProperties.byValue (String.ofList p.1) (String.ofList p.2)
  match splitAtFirst ['!', '='] cs with
  | some p => (valued p).map (·, true)
  | none =>
      match splitAtFirst [':'] cs with
      | some p => (valued p).map (·, false)
      | none =>
          match splitAtFirst ['='] cs with
          | some p => (valued p).map (·, false)
          | none => (UnicodeProperties.byName query).map (·, false)

/-- Reads what follows `\p` or `\P`. -/
def readProperty (flags : Flags) (negated : Bool) (cs : List Char) :
    Except RegexError (Escape × List Char) := do
  let (query, rest) ←
    match flags.skip cs with
    | [] => throw .escapeUnfinished
    | '{' :: rest => readBraced flags (rest.length + 1) [] (flags.skip rest)
    | '\\' :: _ => throw .propertyUnknown
    | c :: rest => pure (String.singleton c, flags.skip rest)
  if !flags.unicode then throw .propertyNeedsUnicode
  match propertySet query with
  | none => throw .propertyUnknown
  | some (s, other) => return (.set (← flags.finishSet s (negated != other)), rest)

def isBoundaryNameChar (c : Char) : Bool :=
  ('A' ≤ c && c ≤ 'Z') || ('a' ≤ c && c ≤ 'z') || c == '-'

/-- Reads the name of a boundary up to its closing brace. -/
def readBoundaryName (flags : Flags) :
    Nat → List Char → List Char → Except RegexError (String × List Char)
  | 0, _, _ => throw .wordBoundaryUnknown
  | _ + 1, _, [] => throw .wordBoundaryUnknown
  | fuel + 1, taken, c :: rest =>
      if isBoundaryNameChar c then readBoundaryName flags fuel (c :: taken) (flags.skip rest)
      else if c = '}' then return (String.ofList taken.reverse, rest)
      else throw .wordBoundaryUnknown

/-- Reads what follows `\b`.  A brace that does not open a name is left for a count. -/
def readBoundary (flags : Flags) (cs : List Char) : Except RegexError (Escape × List Char) := do
  let look (edge : WordEdge) : Escape := .look (.word edge flags.word)
  match cs with
  | '{' :: rest =>
      match flags.skip rest with
      | [] => throw .wordBoundaryUnknown
      | c :: more =>
          if !isBoundaryNameChar c then return (look .boundary, cs)
          else
            let (name, rest) ← readBoundaryName flags (more.length + 2) [] (c :: more)
            match name with
            | "start" => return (look .start, rest)
            | "end" => return (look .finish, rest)
            | "start-half" => return (look .startHalf, rest)
            | "end-half" => return (look .finishHalf, rest)
            | _ => throw .wordBoundaryUnknown
  | _ => return (look .boundary, cs)

def isMeta (c : Char) : Bool :=
  ['\\', '.', '+', '*', '?', '(', ')', '|', '[', ']', '{', '}', '^', '$', '#', '&', '-', '~'].contains c

/-- A character that stands for itself after a backslash: any ASCII character that is not a letter,
a digit or an angle bracket. -/
def isEscapable (c : Char) : Bool :=
  isMeta c || (c.toNat < 128 && !c.isAlphanum && c != '<' && c != '>')

/-- Reads what follows a backslash. -/
def readEscape (flags : Flags) (cs : List Char) : Except RegexError (Escape × List Char) := do
  match cs with
  | [] => throw .escapeUnfinished
  | c :: rest =>
      if c.isDigit then throw .backreference
      match c with
      | 'x' => readHex flags 2 rest
      | 'u' => readHex flags 4 rest
      | 'U' => readHex flags 8 rest
      | 'p' => readProperty flags false rest
      | 'P' => readProperty flags true rest
      | 'd' => return (.set (← flags.shorthand flags.digit false), rest)
      | 'D' => return (.set (← flags.shorthand flags.digit true), rest)
      | 's' => return (.set (← flags.shorthand flags.space false), rest)
      | 'S' => return (.set (← flags.shorthand flags.space true), rest)
      | 'w' => return (.set (← flags.shorthand flags.word false), rest)
      | 'W' => return (.set (← flags.shorthand flags.word true), rest)
      | 'a' => return (.literal '\x07' false, rest)
      | 'f' => return (.literal '\x0c' false, rest)
      | 't' => return (.literal '\t' false, rest)
      | 'n' => return (.literal '\n' false, rest)
      | 'r' => return (.literal '\r' false, rest)
      | 'v' => return (.literal '\x0b' false, rest)
      | 'A' => return (.look .textStart, rest)
      | 'z' => return (.look .textEnd, rest)
      | 'b' => readBoundary flags rest
      | 'B' => return (.look (.word .inside flags.word), rest)
      | '<' => return (.look (.word .start flags.word), rest)
      | '>' => return (.look (.word .finish flags.word), rest)
      | c => if isEscapable c then return (.literal c false, rest) else throw .escapeUnknown

/-! ### Bracketed sets -/

inductive SetOperation
  | inter
  | difference
  | symmetricDifference
  deriving DecidableEq

def SetOperation.apply : SetOperation → CharSet → CharSet → CharSet
  | .inter, s, t => s.inter t
  | .difference, s, t => s.difference t
  | .symmetricDifference, s, t => s.symmetricDifference t

/-- What is under way around the set being read: a bracket, with what was collected before it, or an
operation, with its left operand. -/
inductive SetFrame
  | bracket (outer : CharSet) (negated : Bool)
  | operation (op : SetOperation) (left : CharSet)

/-- Applies an operation that waits for its right operand. -/
def applyPending (flags : Flags) (s : CharSet) : List SetFrame → CharSet × List SetFrame
  | .operation op left :: frames =>
      (op.apply (flags.closeUnderCase left) (flags.closeUnderCase s), frames)
  | frames => (s, frames)

/-- Reads hyphens at the start of a bracket; they stand for themselves. -/
def readHyphens (flags : Flags) : Nat → CharSet → List Char → CharSet × List Char
  | 0, s, cs => (s, cs)
  | fuel + 1, s, '-' :: rest => readHyphens flags fuel (s.union (.singleton '-')) (flags.skip rest)
  | _ + 1, s, cs => (s, cs)

/-- Reads the start of a bracket after its `[`: a negation, hyphens, and a first `]`. -/
def readBracketStart (flags : Flags) (cs : List Char) :
    Except RegexError (Bool × CharSet × List Char) := do
  let cs := flags.skip cs
  let (negated, cs) :=
    match cs with
    | '^' :: rest => (true, flags.skip rest)
    | cs => (false, cs)
  let (s, cs) := readHyphens flags (cs.length + 1) .empty cs
  match cs with
  | [] => throw .classUnclosed
  | ']' :: rest =>
      if s.isEmpty then
        let rest := flags.skip rest
        if rest.isEmpty then throw .classUnclosed
        else return (negated, .singleton ']', rest)
      else return (negated, s, cs)
  | cs => return (negated, s, cs)

/-- Reads a set such as `[:alpha:]`, if there is one after the `[`. -/
def readPosix (cs : List Char) : Option (CharSet × Bool × List Char) := do
  match cs with
  | ':' :: rest =>
      let (negated, rest) :=
        match rest with
        | '^' :: more => (true, more)
        | rest => (false, rest)
      let name := rest.takeWhile (· != ':')
      match rest.dropWhile (· != ':') with
      | ':' :: ']' :: more =>
          let s ← posixSet (String.ofList name)
          return (s, negated, more)
      | _ => none
  | _ => none

/-- Reads one member of a set, which may be an escape. -/
def readSetItem (flags : Flags) (cs : List Char) : Except RegexError (Escape × List Char) :=
  match cs with
  | [] => throw .classUnclosed
  | '\\' :: rest => readEscape flags rest
  | c :: rest => return (.literal c false, rest)

/-- Reads one member or a range of members. -/
def readSetRange (flags : Flags) (cs : List Char) : Except RegexError (CharSet × List Char) := do
  let (first, rest) ← readSetItem flags cs
  let rest := flags.skip rest
  match rest with
  | [] => throw .classUnclosed
  | c :: more =>
      if c != '-' || flags.peek rest = some ']' || flags.peek rest = some '-' then
        match first with
        | .literal ch byteForm =>
            let n ← flags.member ch byteForm
            return (.range n n, rest)
        | .set s => return (s, rest)
        | .look _ => throw .classEscape
      else
        let more := flags.skip more
        if more.isEmpty then throw .classUnclosed
        let (last, rest) ← readSetItem flags more
        match first, last with
        | .literal a aByte, .literal b bByte =>
            let lo ← flags.member a aByte
            let hi ← flags.member b bByte
            if hi < lo then throw .classRange else return (.range lo hi, rest)
        | _, _ => throw .classRange

/-- Reads a bracketed set from its first `[` on, and says how deep it nests. -/
def readSet (flags : Flags) :
    Nat → Nat → Nat → CharSet → List SetFrame → List Char →
      Except RegexError (CharSet × Nat × List Char)
  | 0, _, _, _, _, _ => throw .classUnclosed
  | fuel + 1, depth, deepest, s, frames, cs => do
      let operation (op : SetOperation) (rest : List Char) :=
        let (left, frames) := applyPending flags s frames
        readSet flags fuel depth deepest .empty (.operation op left :: frames) rest
      match flags.skip cs with
      | [] => throw .classUnclosed
      | '[' :: rest =>
          match (if frames.isEmpty then none else readPosix rest) with
          | some (named, negated, more) =>
              let named ← flags.finishSet named negated
              readSet flags fuel depth deepest (s.union named) frames more
          | none =>
              let (negated, first, rest) ← readBracketStart flags rest
              readSet flags fuel (depth + 1) (max deepest (depth + 1)) first
                (.bracket s negated :: frames) rest
      | ']' :: rest =>
          let (whole, frames) := applyPending flags s frames
          match frames with
          | .bracket outer negated :: frames =>
              let done ← flags.finishSet whole negated
              if frames.isEmpty then return (done, deepest, rest)
              else readSet flags fuel (depth - 1) deepest (outer.union done) frames rest
          | _ => throw .classUnclosed
      | '&' :: '&' :: rest => operation .inter rest
      | '-' :: '-' :: rest => operation .difference rest
      | '~' :: '~' :: rest => operation .symmetricDifference rest
      | cs =>
          let (item, rest) ← readSetRange flags cs
          readSet flags fuel depth deepest (s.union item) frames rest

/-! ### Pieces -/

/-- A term with how deep it nests, the room its program takes, and whether it may be repeated. -/
structure Piece where
  core : Core
  depth : Nat
  room : Nat
  repeatable : Bool

namespace Piece

/-- Room for one instruction. -/
def unit : Nat := 32

/-- Room for an instruction that forks to so many places. -/
def forkRoom (places : Nat) : Nat := unit + 4 * places

/-- Room for a set of characters: one instruction for every byte of a single one; a table of the
ranges if all are ASCII; otherwise a choice among the rows of bytes, where beginnings are shared. -/
def setRoom (s : CharSet) : Nat :=
  let rows := ByteRow.ofSet s
  let bytes := ByteRow.distinctStarts [] rows
  if s.isSingle then unit * bytes
  else if s.isAscii then 2 * unit + 8 * s.ranges.length
  else unit + forkRoom rows.length + unit * bytes

def leaf (core : Core) : Piece :=
  let room :=
    match core with
    | .set s => setRoom s
    | _ => unit
  ⟨core, 0, room, true⟩

/-- A directive: it stands for nothing and cannot be repeated. -/
def directive : Piece := ⟨.empty, 0, unit, false⟩

def maxDepth (items : List Piece) : Nat :=
  items.foldl (fun acc p => max acc p.depth) 0

def totalRoom (items : List Piece) : Nat :=
  items.foldl (fun acc p => acc + p.room) 0

/-- Pieces in a row, given last first. -/
def branch (items : List Piece) : Piece :=
  match items with
  | [] => leaf .empty
  | [p] => p
  | _ =>
      ⟨.concat (items.reverse.map (·.core)), maxDepth items + 1, totalRoom items, true⟩

/-- A choice of branches, given last first. -/
def choice (branches : List Piece) : Piece :=
  match branches with
  | [] => leaf .empty
  | [p] => p
  | _ =>
      ⟨.alternation (branches.reverse.map (·.core)), maxDepth branches + 1,
        totalRoom branches + forkRoom branches.length + unit, true⟩

/-- Room for a repetition: copies of the piece, and forks that leave them out or go round again. -/
def repeatedRoom (p : Piece) (least : Nat) (most : Option Nat) : Nat :=
  match least, most with
  | 0, none =>
      if p.core.canBeEmpty then p.room + 2 * forkRoom 2 + unit else p.room + forkRoom 2
  | n, none => n * p.room + forkRoom 2
  | 0, some m => if m = 1 then p.room + forkRoom 2 + unit else m * (p.room + forkRoom 2) + 2 * unit
  | n, some m => if m ≤ n then n * p.room else n * p.room + (m - n) * (p.room + forkRoom 2) + unit

def repeated (p : Piece) (least : Nat) (most : Option Nat) (greedy : Bool) :
    Except RegexError Piece :=
  let room := if p.core.onlyEmpty then p.room else p.repeatedRoom least most
  if room > roomLimit then throw .tooLarge
  else return ⟨.repeated least most greedy p.core, p.depth + 1, room, true⟩

end Piece

/-! ### Groups and flags -/

inductive GroupKind
  | plain
  | capture (index : Nat) (name : Option String)

/-- A group that is open: what was read before it, and the flags from before it. -/
structure OpenGroup where
  kind : GroupKind
  branches : List Piece
  items : List Piece
  flags : Flags

structure Reading where
  flags : Flags
  captures : Nat
  names : List String
  branches : List Piece
  items : List Piece
  enclosing : List OpenGroup

/-- The flags that the letter sets or clears. -/
def Flags.assign (flags : Flags) (letter : Char) (value : Bool) : Option Flags :=
  match letter with
  | 'i' => some { flags with caseless := value }
  | 'm' => some { flags with multiLine := value }
  | 's' => some { flags with dotAll := value }
  | 'U' => some { flags with swapGreed := value }
  | 'u' => some { flags with unicode := value }
  | 'R' => some { flags with crlf := value }
  | 'x' => some { flags with spaced := value }
  | _ => none

/-- Reads flag letters up to `:` or `)` and returns the flags with what ended them. -/
def readFlags : Flags → Bool → List Char → Option Char → List Char →
    Except RegexError (Flags × Char × Bool × List Char)
  | _, _, _, _, [] => throw .flagUnclosed
  | flags, value, seen, last, c :: rest =>
      if c = ':' ∨ c = ')' then
        if last = some '-' then throw .flagDangling
        else return (flags, c, seen.isEmpty, rest)
      else if c = '-' then
        if seen.contains '-' then throw .flagRepeated
        else readFlags flags false ('-' :: seen) (some '-') rest
      else
        match flags.assign c value with
        | none => throw .flagUnknown
        | some flags' =>
            if seen.contains c then throw .flagRepeated
            else readFlags flags' value (c :: seen) (some c) rest

def isNameChar (first : Bool) (c : Char) : Bool :=
  if first then c == '_' || UnicodeProperties.isAlphabetic c
  else c == '_' || c == '.' || c == '[' || c == ']' || UnicodeProperties.isAlphanumeric c

/-- Reads the name of a group up to its `>`. -/
def readGroupName (cs : List Char) : Except RegexError (String × List Char) :=
  let name := cs.takeWhile (· != '>')
  match cs.dropWhile (· != '>') with
  | _ :: rest =>
      match name with
      | [] => throw .groupNameInvalid
      | c :: more =>
          if isNameChar true c && more.all (isNameChar false) then
            return (String.ofList name, rest)
          else throw .groupNameInvalid
  | [] => throw .groupNameInvalid

def Reading.push (r : Reading) (p : Piece) : Reading := { r with items := p :: r.items }

def Reading.enter (r : Reading) (kind : GroupKind) (flags : Flags) : Reading :=
  { r with
    flags := flags
    branches := []
    items := []
    enclosing := ⟨kind, r.branches, r.items, r.flags⟩ :: r.enclosing }

/-- Opens a group or obeys a directive, after the `(`. -/
def Reading.openGroup (r : Reading) (cs : List Char) : Except RegexError (Reading × List Char) := do
  let named (rest : List Char) : Except RegexError (Reading × List Char) := do
    let (name, rest) ← readGroupName rest
    if r.names.contains name then throw .groupNameDuplicate
    let index := r.captures + 1
    let r := { r with captures := index, names := name :: r.names }
    return (r.enter (.capture index (some name)) r.flags, rest)
  match r.flags.skip cs with
  | '?' :: '=' :: _ => throw .lookAround
  | '?' :: '!' :: _ => throw .lookAround
  | '?' :: '<' :: '=' :: _ => throw .lookAround
  | '?' :: '<' :: '!' :: _ => throw .lookAround
  | '?' :: 'P' :: '<' :: rest => named rest
  | '?' :: '<' :: rest => named rest
  | '?' :: rest =>
      let (flags, stop, bare, rest) ← readFlags r.flags true [] none rest
      if stop = ':' then return (r.enter .plain flags, rest)
      else if bare then throw .repetitionMissing
      else return ({ r with flags := flags }.push .directive, rest)
  | rest =>
      let index := r.captures + 1
      return ({ r with captures := index }.enter (.capture index none) r.flags, rest)

/-- The piece for everything in the group that is open. -/
def Reading.whole (r : Reading) : Piece :=
  Piece.choice (Piece.branch r.items :: r.branches)

def Reading.closeGroup (r : Reading) : Except RegexError Reading :=
  match r.enclosing with
  | [] => throw .groupUnopened
  | g :: enclosing =>
      let body := r.whole
      let piece : Piece :=
        match g.kind with
        | .plain => ⟨body.core, body.depth + 1, body.room, true⟩
        | .capture index name =>
            ⟨.group index name body.core, body.depth + 1, body.room + 2 * Piece.unit, true⟩
      return { r with
        flags := g.flags
        branches := g.branches
        items := piece :: g.items
        enclosing := enclosing }

/-! ### Repetition -/

/-- Repeats the last piece. -/
def Reading.repeatLast (r : Reading) (least : Nat) (most : Option Nat) (greedy : Bool) :
    Except RegexError Reading :=
  match r.items with
  | [] => throw .repetitionMissing
  | p :: items =>
      if !p.repeatable then throw .repetitionMissing
      else do
        let p ← p.repeated least most (greedy != r.flags.swapGreed)
        return { r with items := p :: items }

/-- The digits at the start, and the rest. -/
def readDigits (flags : Flags) : Nat → List Char → List Char → List Char × List Char
  | 0, taken, cs => (taken.reverse, cs)
  | _ + 1, taken, [] => (taken.reverse, [])
  | fuel + 1, taken, c :: rest =>
      if c.isDigit then readDigits flags fuel (c :: taken) (flags.skip rest)
      else (taken.reverse, c :: rest)

def natOfDigits (ds : List Char) : Nat :=
  ds.foldl (fun acc d => acc * 10 + (d.toNat - 48)) 0

/-- Reads a number, with blanks around it; `none` if there are no digits. -/
def readCount (flags : Flags) (cs : List Char) : Except RegexError (Option Nat × List Char) :=
  let cs := cs.dropWhile UnicodeProperties.isWhiteSpace
  let (ds, rest) := readDigits flags (cs.length + 1) [] cs
  let rest := rest.dropWhile UnicodeProperties.isWhiteSpace
  if ds.isEmpty then return (none, rest)
  else if natOfDigits ds < UInt32.size then return (some (natOfDigits ds), rest)
  else throw .countTooLarge

/-- Reads the end of a count: its brace, and a `?` that makes it lazy. -/
def readCountEnd (flags : Flags) (cs : List Char) : Except RegexError (Bool × List Char) :=
  match cs with
  | '}' :: rest =>
      match flags.skip rest with
      | '?' :: rest => return (false, rest)
      | rest => return (true, rest)
  | _ => throw .countUnclosed

/-- Reads a counted repetition after its `{`. -/
def Reading.readCounted (r : Reading) (cs : List Char) :
    Except RegexError (Reading × List Char) := do
  if !(r.items.head?.any (·.repeatable)) then throw .repetitionMissing
  let cs := r.flags.skip cs
  if cs.isEmpty then throw .countUnclosed
  let (least, rest) ← readCount r.flags cs
  match rest with
  | [] => throw .countUnclosed
  | ',' :: rest =>
      let rest := r.flags.skip rest
      match rest with
      | [] => throw .countUnclosed
      | '}' :: _ =>
          let some n := least | throw .countMissing
          let (greedy, rest) ← readCountEnd r.flags rest
          return (← r.repeatLast n none greedy, rest)
      | _ =>
          let some n := least | throw .countMissing
          let (most, rest) ← readCount r.flags rest
          let some m := most | throw .countMissing
          let (greedy, rest) ← readCountEnd r.flags rest
          if m < n then throw .countReversed
          return (← r.repeatLast n (some m) greedy, rest)
  | _ =>
      let some n := least | throw .countMissing
      let (greedy, rest) ← readCountEnd r.flags rest
      return (← r.repeatLast n (some n) greedy, rest)

/-- Reads `?`, `*` or `+`, whose count is given, and a `?` that makes it lazy. -/
def Reading.readSimple (r : Reading) (least : Nat) (most : Option Nat) (rest : List Char) :
    Except RegexError (Reading × List Char) := do
  match rest with
  | '?' :: rest => return (← r.repeatLast least most false, rest)
  | rest => return (← r.repeatLast least most true, rest)

/-! ### The whole expression -/

/-- The set that `.` stands for. -/
def Flags.dot (flags : Flags) : Except RegexError CharSet :=
  if !flags.unicode then throw .invalidUtf8
  else if flags.dotAll then return CharSet.empty.complement
  else if flags.crlf then return (CharSet.complement ⟨[(10, 10), (13, 13)]⟩)
  else return (CharSet.complement ⟨[(10, 10)]⟩)

def Flags.lineStart (flags : Flags) : Assertion :=
  if !flags.multiLine then .textStart else if flags.crlf then .crlfLineStart else .lineStart

def Flags.lineEnd (flags : Flags) : Assertion :=
  if !flags.multiLine then .textEnd else if flags.crlf then .crlfLineEnd else .lineEnd

/-- Reads the next piece, group bracket, bar or repetition. -/
def Reading.step (r : Reading) (c : Char) (rest : List Char) :
    Except RegexError (Reading × List Char) := do
  match c with
  | '(' => r.openGroup rest
  | ')' => return (← r.closeGroup, rest)
  | '|' =>
      return ({ r with branches := Piece.branch r.items :: r.branches, items := [] }, rest)
  | '[' =>
      let (s, depth, rest) ← readSet r.flags (rest.length + 2) 0 0 .empty [] (c :: rest)
      return (r.push { Piece.leaf (.set s) with depth := depth }, rest)
  | '?' => r.readSimple 0 (some 1) rest
  | '*' => r.readSimple 0 none rest
  | '+' => r.readSimple 1 none rest
  | '{' => r.readCounted rest
  | '.' => return (r.push (.leaf (.set (← r.flags.dot))), rest)
  | '^' => return (r.push (.leaf (.look r.flags.lineStart)), rest)
  | '$' => return (r.push (.leaf (.look r.flags.lineEnd)), rest)
  | '\\' =>
      let (escape, rest) ← readEscape r.flags rest
      match escape with
      | .literal ch byteForm => return (r.push (.leaf (← r.flags.literal ch byteForm)), rest)
      | .set s => return (r.push (.leaf (.set s)), rest)
      | .look a => return (r.push (.leaf (.look a)), rest)
  | c => return (r.push (.leaf (← r.flags.literal c false)), rest)

/-- Reads to the end of the text; every step takes a character or more. -/
def Reading.run : Nat → Reading → List Char → Except RegexError Piece
  | 0, _, _ => throw .groupUnclosed
  | fuel + 1, r, cs =>
      match r.flags.skip cs with
      | [] => if r.enclosing.isEmpty then return r.whole else throw .groupUnclosed
      | c :: rest => do
          let (r, rest) ← r.step c rest
          r.run fuel rest

def parse (flags : Flags) (source : String) : Except RegexError Core := do
  let cs := source.toList
  let piece ← Reading.run (cs.length + 1) ⟨flags, 0, [], [], [], []⟩ cs
  if piece.depth > nestLimit then throw .tooDeep
  else if piece.room > roomLimit then throw .tooLarge
  else return piece.core

end Regex
end AdaptiveRules
