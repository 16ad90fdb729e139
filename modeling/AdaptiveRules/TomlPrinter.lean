import AdaptiveRules.Decimal
import AdaptiveRules.Instant
import AdaptiveRules.Json
import AdaptiveRules.TomlScalars

/-!
# Writing TOML

An object is written as sections: its own values first, then one section with a header for each
object in it, and one with a doubled header for each element of an array of objects.  A section that
holds other sections and nothing of its own has no header.  Inside an array, objects are written
inline.  Strings are written in the plainest form that needs no escapes.  There is no text for `null`
and for whole numbers that do not fit into 64 bits with a sign.
-/

namespace AdaptiveRules
namespace Toml

/-- The length of the longest run of a character. -/
def longestRun (c : Char) (cs : List Char) : Nat :=
  (cs.foldl (fun (best, run) d => if d = c then (max best (run + 1), run + 1) else (best, 0))
    (0, 0)).1

/-- A character that has to be escaped wherever it stands. -/
def isControl (c : Char) : Bool := (c.toNat < 32 && c != '\t' && c != '\n') || c.toNat == 127

def hexUpper (n : Nat) : Char := (Nat.digitChar n).toUpper

/-- A character inside quotes.  In a string of several lines, line ends stand for themselves. -/
def escapeChar (several : Bool) (c : Char) : List Char :=
  if c = '\x08' then ['\\', 'b']
  else if c = '\t' then ['\\', 't']
  else if c = '\n' then (if several then ['\n'] else ['\\', 'n'])
  else if c = '\x0c' then ['\\', 'f']
  else if c = '\r' then ['\\', 'r']
  else if c = '\\' then ['\\', '\\']
  else if isControl c then
    ['\\', 'u', '0', '0', hexUpper (c.toNat / 16), hexUpper (c.toNat % 16)]
  else [c]

/-- The characters inside quotes, of which at most so many may stand side by side unescaped.  The
first number counts those before. -/
def escapeChars (several : Bool) (most : Nat) : Nat → List Char → List Char
  | _, [] => []
  | run, c :: rest =>
      if c = '"' then
        if run = most then '\\' :: '"' :: escapeChars several most 0 rest
        else '"' :: escapeChars several most (run + 1) rest
      else escapeChar several c ++ escapeChars several most 0 rest

def basicText (cs : List Char) : String :=
  "\"" ++ String.ofList (escapeChars false 0 0 cs) ++ "\""

def literalText (cs : List Char) : String := "'" ++ String.ofList cs ++ "'"

/-- A text with line ends starts on a line of its own. -/
def leadingLine (cs : List Char) : String := if cs.contains '\n' then "\n" else ""

def basicLinesText (cs : List Char) : String :=
  "\"\"\"" ++ leadingLine cs ++ String.ofList (escapeChars true 2 0 cs) ++ "\"\"\""

def literalLinesText (cs : List Char) : String :=
  "'''" ++ leadingLine cs ++ String.ofList cs ++ "'''"

def stringText (s : String) : String :=
  let cs := s.toList
  let controls := cs.any isControl
  let escapes := controls || cs.contains '\\'
  let several := cs.contains '\n'
  if !escapes && !several && !cs.contains '"' then basicText cs
  else if !controls && !several && !cs.contains '\'' then literalText cs
  else if !escapes && longestRun '"' cs ≤ 2 then basicLinesText cs
  else if !controls && longestRun '\'' cs ≤ 2 then literalLinesText cs
  else if several then basicLinesText cs
  else basicText cs

def keyText (s : String) : String :=
  let cs := s.toList
  let controls := cs.any fun c => isControl c || c == '\n'
  if !cs.isEmpty && cs.all isBareKey then s
  else if !controls && !cs.contains '\\' && !cs.contains '"' then basicText cs
  else if !controls && !cs.contains '\'' then literalText cs
  else basicText cs

def floatText (x : Float) : String :=
  if x.isNaN then "nan" else if x.isInf then Decimal.plain x else Decimal.pointed x

/-- The items of an array, each on a line of its own unless there is only one. -/
def arrayText : List String → String
  | [] => "[]"
  | [item] => "[" ++ item ++ "]"
  | items => "[" ++ String.join (items.map fun item => "\n    " ++ item ++ ",") ++ "\n]"

mutual

/-- A value on the right of an equals sign. -/
def valueText : Json → Option String
  | .null => none
  | .bool b => some (if b then "true" else "false")
  | .int n => if fitsWord n then some (toString n) else none
  | .float x => some (floatText x)
  | .str s => some (stringText s)
  | .arr items => (itemTexts items).map arrayText
  | .obj [] => some "\x7b\x7d"
  | .obj members =>
      (memberTexts members).map fun ts => "\x7b " ++ ", ".intercalate ts ++ " \x7d"

def itemTexts : List Json → Option (List String)
  | [] => some []
  | j :: rest => do
      let text ← valueText j
      let texts ← itemTexts rest
      return text :: texts

def memberTexts : List (String × Json) → Option (List String)
  | [] => some []
  | (k, j) :: rest => do
      let text ← valueText j
      let texts ← memberTexts rest
      return (keyText k ++ " = " ++ text) :: texts

end

def isObject : Json → Bool
  | .obj _ => true
  | _ => false

/-- The value is written as sections of its own. -/
def hasSections : Json → Bool
  | .obj _ => true
  | .arr items => !items.isEmpty && items.all isObject
  | _ => false

/-- The lines of the values that an object holds itself. -/
def bodyText (members : List (String × Json)) : Option String := do
  let texts ← memberTexts (members.filter fun m => !hasSections m.2)
  return String.join (texts.map (· ++ "\n"))

def pathText (path : List String) : String := ".".intercalate (path.map keyText)

inductive SectionKind
  | root
  | table
  | element
  deriving DecidableEq

/-- A section with its header. -/
def sectionText (kind : SectionKind) (path : List String) (isEmpty : Bool) (body : String) :
    List String :=
  match kind with
  | .root => if body.isEmpty then [] else [body]
  | .table => if body.isEmpty && !isEmpty then [] else ["[" ++ pathText path ++ "]\n" ++ body]
  | .element => ["[[" ++ pathText path ++ "]]\n" ++ body]

mutual

/-- The sections of an object at a path. -/
def sections (kind : SectionKind) (path : List String) : Json → Option (List String)
  | .obj members => do
      let body ← bodyText members
      let inner ← innerSections path members
      return sectionText kind path members.isEmpty body ++ inner
  | _ => none

def innerSections (path : List String) : List (String × Json) → Option (List String)
  | [] => some []
  | (k, .obj members) :: rest => do
      let first ← sections .table (path ++ [k]) (.obj members)
      let others ← innerSections path rest
      return first ++ others
  | (k, .arr items) :: rest => do
      let first ← if hasSections (.arr items) then elementSections (path ++ [k]) items else some []
      let others ← innerSections path rest
      return first ++ others
  | _ :: rest => innerSections path rest

def elementSections (path : List String) : List Json → Option (List String)
  | [] => some []
  | j :: rest => do
      let first ← sections .element path j
      let others ← elementSections path rest
      return first ++ others

end

/-- The text of an object. -/
def print? (j : Json) : Option String :=
  (sections .root [] j).map "\n".intercalate

end Toml
end AdaptiveRules
