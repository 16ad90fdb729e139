import AdaptiveRules.Problems
import AdaptiveRules.TextLines

/-!
# A tree of files

The tree says what is found under each absolute path.  A path is followed name by name from the root
or from the working directory, and every name on the way has to be that of a directory.  An operation
answers with the changed tree or with the problem that keeps it from being done, in which case
nothing is changed.
-/

namespace AdaptiveRules

inductive FileEntry
  | directory
  | text (content : String)
  /-- A file whose bytes are not text. -/
  | bytes (size : Nat)
  /-- A database with one table of texts, the oldest row first. -/
  | rows (rows : List String)
  deriving DecidableEq

structure FileTree where
  /-- What is found under the text of a path; the root is a directory without an entry. -/
  entries : Dict FileEntry
  /-- The names that lead from the root to the working directory. -/
  working : List String

namespace FileTree

/-- The text of an absolute path, empty for the root. -/
def pathText (names : List String) : String := String.join (names.map ("/" ++ ·))

def entryAt (t : FileTree) (names : List String) : Option FileEntry :=
  if names.isEmpty then some .directory else t.entries.get? (pathText names)

def isDirectoryAt (t : FileTree) (names : List String) : Bool :=
  t.entryAt names = some .directory

/-- Why the names below cannot be followed; none for a directory. -/
def obstacle (t : FileTree) (names : List String) : Option FileProblem :=
  match t.entryAt names with
  | none => some .notFound
  | some .directory => none
  | some _ => some .notDirectory

/-- Follows the parts of a path from a place.  An empty part and a dot stay, two dots go up. -/
def follow (t : FileTree) : List String → List String → Except FileProblem (List String)
  | place, [] => .ok place
  | place, part :: rest =>
      match t.obstacle place with
      | some p => .error p
      | none =>
          if part = "" ∨ part = "." then t.follow place rest
          else if part = ".." then t.follow place.dropLast rest
          else t.follow (place ++ [part]) rest

/-- The parts of a text between slashes. -/
def splitParts : List Char → List Char → List String
  | taken, [] => [String.ofList taken.reverse]
  | taken, c :: rest =>
      if c = '/' then String.ofList taken.reverse :: splitParts [] rest
      else splitParts (c :: taken) rest

def parts (path : String) : List String := splitParts [] path.toList

def isAbsolute (path : String) : Bool := path.toList.head? == some '/'

/-- Where the parts of a path start. -/
def startOf (t : FileTree) (path : String) : List String :=
  if isAbsolute path then [] else t.working

/-- The names from the root to what a path leads to, which need not be there. -/
def resolve (t : FileTree) (path : String) : Except FileProblem (List String) :=
  if path.isEmpty then .error .notFound else t.follow (t.startOf path) (parts path)

/-- What a path leads to. -/
def entry (t : FileTree) (path : String) : Except FileProblem FileEntry := do
  let names ← t.resolve path
  match t.entryAt names with
  | some e => return e
  | none => throw .notFound

def contains (t : FileTree) (path : String) : Bool :=
  match t.entry path with
  | .ok _ => true
  | .error _ => false

/-- Whether a path leads to something; that a file stands in its way is a problem. -/
def tryContains (t : FileTree) (path : String) : Except FileProblem Bool :=
  match t.entry path with
  | .ok _ => .ok true
  | .error .notFound => .ok false
  | .error p => .error p

def isDirectory (t : FileTree) (path : String) : Bool :=
  match t.entry path with
  | .ok .directory => true
  | _ => false

/-- The text of the absolute path of something that is there. -/
def canonicalPath (t : FileTree) (path : String) : Except FileProblem String := do
  let names ← t.resolve path
  match t.entryAt names with
  | some _ => return (if names.isEmpty then "/" else pathText names)
  | none => throw .notFound

def readText (t : FileTree) (path : String) : Except FileProblem String := do
  match ← t.entry path with
  | .text content => return content
  | .directory => throw .isDirectory
  | _ => throw .notText

def put (t : FileTree) (names : List String) (e : FileEntry) : FileTree :=
  { t with entries := t.entries.insert (pathText names) e }

/-- Puts a file at a path, over a file that is there. -/
def writeEntry (t : FileTree) (path : String) (e : FileEntry) : Except FileProblem FileTree := do
  let names ← t.resolve path
  match t.entryAt names with
  | some .directory => throw .isDirectory
  | _ => return t.put names e

def write (t : FileTree) (path content : String) : Except FileProblem FileTree :=
  t.writeEntry path (.text content)

def remove (t : FileTree) (path : String) : Except FileProblem FileTree := do
  let names ← t.resolve path
  match t.entryAt names with
  | none => throw .notFound
  | some .directory => throw .isDirectory
  | some _ => return { t with entries := t.entries.erase (pathText names) }

/-- Moves a file to another path, over a file that is there. -/
def rename (t : FileTree) (source target : String) : Except FileProblem FileTree := do
  let e ← t.entry source
  let moved ← t.writeEntry target e
  let removed ← t.resolve source
  let kept ← t.resolve target
  if removed = kept then return t
  else return { moved with entries := moved.entries.erase (pathText removed) }

/-- Makes the directories along the parts of a path. -/
def makeAlong (t : FileTree) : List String → List String → Except FileProblem FileTree
  | _, [] => .ok t
  | place, part :: rest =>
      if part = "" ∨ part = "." then t.makeAlong place rest
      else if part = ".." then t.makeAlong place.dropLast rest
      else
        match t.entryAt (place ++ [part]) with
        | some .directory => t.makeAlong (place ++ [part]) rest
        | none => (t.put (place ++ [part]) .directory).makeAlong (place ++ [part]) rest
        | some _ => .error (if rest.isEmpty then .alreadyExists else .notDirectory)

/-- Makes a directory and those above it that are not there. -/
def makeDirectories (t : FileTree) (path : String) : Except FileProblem FileTree :=
  t.makeAlong (t.startOf path) (parts path)

/-- The last name of a path that is given as text; none for one that ends in two dots. -/
def lastName (path : String) : Option String :=
  match ((parts path).filter fun p => p ≠ "" ∧ p ≠ ".").getLast? with
  | some ".." => none
  | name => name

/-- Drops slashes and dots that stand alone from the end of a reversed path. -/
def dropTrailing : List Char → List Char
  | '/' :: rest => dropTrailing rest
  | ['.'] => ['.']
  | '.' :: '/' :: rest => dropTrailing rest
  | cs => cs

/-- The text of a path without its last name; none if there is no name in it. -/
def parentText (path : String) : Option String :=
  let cs := dropTrailing path.toList.reverse
  if cs.isEmpty then none
  else
    let above := dropTrailing (cs.dropWhile (· != '/'))
    some (if above.isEmpty && isAbsolute path then "/" else String.ofList above.reverse)

/-- The path with another last name. -/
def withLastName (path name : String) : String :=
  match lastName path, parentText path with
  | some _, some "" => name
  | some _, some "/" => "/" ++ name
  | some _, some parent => parent ++ "/" ++ name
  | _, _ => if path.isEmpty then name else path ++ "/" ++ name

/-- A path below another one. -/
def join (path name : String) : String :=
  if isAbsolute name || path.isEmpty then name
  else if path.toList.getLast? = some '/' then path ++ name
  else path ++ "/" ++ name

/-- The names in a directory with what they stand for, in ascending order. -/
def children (t : FileTree) (names : List String) : List (String × FileEntry) :=
  let above := (pathText names ++ "/").toList
  t.entries.entries.filterMap fun e =>
    let path := e.1.toList
    if above.isPrefixOf path && !(path.drop above.length).contains '/' then
      some (String.ofList (path.drop above.length), e.2)
    else none

end FileTree
end AdaptiveRules
