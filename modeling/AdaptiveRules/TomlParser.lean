import AdaptiveRules.TomlScalars
import AdaptiveRules.TomlTables

/-!
# Reading TOML

A document is read line by line into a tree of tables: a line holds a key with its value, a header,
or nothing, and may end in a comment.  Arrays may run over several lines, inline tables may not.
Values nest less than 80 deep.  Dates and times are read as objects with one member.
-/

namespace AdaptiveRules
namespace Toml

/-- Drops a comment up to the end of its line; none if it holds a forbidden character. -/
def dropComment : List Char → Option (List Char)
  | [] => some []
  | c :: rest =>
      if (lineEnd? (c :: rest)).isSome then some (c :: rest)
      else if isPlain c then dropComment rest
      else none

/-- Drops blanks, line ends and comments. -/
def dropFiller : Nat → List Char → Option (List Char)
  | 0, cs => some cs
  | fuel + 1, cs =>
      match dropSpace cs with
      | '#' :: rest => (dropComment rest).bind (dropFiller fuel)
      | cs => some cs

/-- What is left when a line has ended: blanks, a comment, and the line end or the end of all. -/
def endLine (cs : List Char) : Option (List Char) := do
  let cs ←
    match dropBlanks cs with
    | '#' :: rest => dropComment rest
    | cs => some cs
  if cs.isEmpty then return [] else lineEnd? cs

/-- A key with its parts, separated by points with blanks around them. -/
def readKey : Nat → List Char → Option (List String × List Char)
  | 0, _ => none
  | fuel + 1, cs => do
      let (part, rest) ← readKeyPart (dropBlanks cs)
      match dropBlanks rest with
      | '.' :: rest =>
          let (parts, rest) ← readKey fuel rest
          return (part :: parts, rest)
      | rest => return ([part], rest)

/-- Nesting of values and dotted keys stays below this. -/
def maxDepth : Nat := 80

/-- Splits a key into the path before the last part and the last part. -/
def splitKey (parts : List String) : Option (List String × String) :=
  if maxDepth ≤ parts.length - 1 then none
  else parts.getLast?.map fun last => (parts.dropLast, last)

mutual

/-- A value.  The fuel bounds the number of calls. -/
def readValue (depth : Nat) : Nat → List Char → Option (Json × List Char)
  | 0, _ => none
  | fuel + 1, cs =>
      match cs with
      | '[' :: rest =>
          if maxDepth ≤ depth + 1 then none
          else readItems (depth + 1) fuel [] rest
      | '\x7b' :: rest =>
          if maxDepth ≤ depth + 1 then none
          else
            match dropBlanks rest with
            | '\x7d' :: rest => some (.obj [], rest)
            | rest => readPairs (depth + 1) fuel [] rest
      | '"' :: _ => (readString cs).map fun p => (.str p.1, p.2)
      | '\'' :: _ => (readString cs).map fun p => (.str p.1, p.2)
      | 't' :: 'r' :: 'u' :: 'e' :: rest => some (.bool true, rest)
      | 'f' :: 'a' :: 'l' :: 's' :: 'e' :: rest => some (.bool false, rest)
      | cs => readNumeric cs

/-- The rest of an array, given the items before. -/
def readItems (depth : Nat) : Nat → List Json → List Char → Option (Json × List Char)
  | 0, _, _ => none
  | fuel + 1, taken, cs => do
      let cs ← dropFiller cs.length cs
      match cs with
      | ']' :: rest => return (.arr taken.reverse, rest)
      | cs =>
          let (item, rest) ← readValue depth fuel cs
          let rest ← dropFiller rest.length rest
          match rest with
          | ',' :: rest => readItems depth fuel (item :: taken) rest
          | ']' :: rest => return (.arr (item :: taken).reverse, rest)
          | _ => none

/-- The rest of an inline table that is not empty, given the members before. -/
def readPairs (depth : Nat) : Nat → Members → List Char → Option (Json × List Char)
  | 0, _, _ => none
  | fuel + 1, members, cs => do
      let (parts, rest) ← readKey cs.length cs
      let (path, name) ← splitKey parts
      let rest ← readMark '=' rest
      let (value, rest) ← readValue depth fuel (dropBlanks rest)
      let members ← addKeyed path name value .named members
      match dropBlanks rest with
      | ',' :: rest => readPairs depth fuel members rest
      | '\x7d' :: rest => return (.obj (membersToJson members), rest)
      | _ => none

end

/-- A document read so far and the path of the table that keys go to. -/
structure Reading where
  root : Members
  path : List String

namespace Reading

/-- Adds a value under a key of the table that is being read. -/
def addPair (r : Reading) (parts : List String) (value : Json) : Option Reading := do
  let (path, name) ← splitKey parts
  let root ← changeAt false (addKeyed path name value) r.path .named r.root
  return { r with root }

/-- Goes on to the table of a header; with doubled brackets, to a new element of an array. -/
def enter (r : Reading) (isArray : Bool) (parts : List String) : Option Reading := do
  let (path, name) ← splitKey parts
  let add := fun (_ : TableKind) => if isArray then addElement name else addTable name
  let root ← changeAt false add path .named r.root
  return ⟨root, parts⟩

/-- Reads a header, after its opening bracket. -/
def readHeader (r : Reading) (cs : List Char) : Option (Reading × List Char) := do
  match cs with
  | '[' :: rest =>
      let (parts, rest) ← readKey rest.length rest
      let rest ← readMark ']' rest
      let rest ← readMark ']' rest
      return (← r.enter true parts, ← endLine rest)
  | rest =>
      let (parts, rest) ← readKey rest.length rest
      let rest ← readMark ']' rest
      return (← r.enter false parts, ← endLine rest)

/-- Reads one line. -/
def readLine (r : Reading) (cs : List Char) : Option (Reading × List Char) := do
  match dropBlanks cs with
  | [] => return (r, [])
  | '[' :: rest => r.readHeader rest
  | c :: rest =>
      if c = '#' ∨ (lineEnd? (c :: rest)).isSome then return (r, ← endLine (c :: rest))
      else
        let (parts, rest) ← readKey (rest.length + 1) (c :: rest)
        let rest ← readMark '=' rest
        let rest := dropBlanks rest
        let (value, rest) ← readValue 0 (rest.length + 1) rest
        return (← r.addPair parts value, ← endLine rest)

/-- Reads line after line.  The fuel bounds the number of lines. -/
def readAll : Nat → Reading → List Char → Option Reading
  | _, r, [] => some r
  | 0, _, _ :: _ => none
  | fuel + 1, r, c :: cs =>
      match r.readLine (c :: cs) with
      | some (r, rest) => readAll fuel r rest
      | none => none

end Reading

def dropByteOrderMark : List Char → List Char
  | c :: rest => if c.toNat = 0xFEFF then rest else c :: rest
  | [] => []

/-- The object that a document stands for. -/
def parse? (text : String) : Option Json :=
  let cs := dropByteOrderMark text.toList
  (Reading.readAll (cs.length + 1) ⟨[], []⟩ cs).map fun r => .obj (membersToJson r.root)

end Toml
end AdaptiveRules
