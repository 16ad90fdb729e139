import AdaptiveRules.Invocation
import AdaptiveRules.JsonParser
import AdaptiveRules.JsonPrinter
import AdaptiveRules.Shell

/-!
# Files outside

A file outside is a sequence of bytes.  If they are text, that is its content; a text that starts with
a mark holds the rows of a database, one on a line.  A command looks at few places outside: those on
the way to the files it names and to those of its configuration, and a whole directory when it learns.
-/

namespace AdaptiveRules

namespace FileEntry

/-- The first line of a file that holds the rows of a database. -/
def rowsMark : String := "adaptive-rules database"

def ofContent (content : String) : FileEntry :=
  match content.splitOn "\n" with
  | first :: rest =>
      if first = rowsMark then
        FileEntry.rows (rest.filterMap fun line => (Json.parse? line).bind Json.asString?)
      else .text content
  | [] => .text content

def ofBytes (bytes : ByteArray) : FileEntry :=
  match String.fromUTF8? bytes with
  | some content => ofContent content
  | none => .bytes bytes.size

/-- The text that a file is written as; none if it is not written. -/
def image? : FileEntry → Option String
  | .text content => some content
  | .rows texts =>
      some (rowsMark ++ String.join (texts.map fun text => "\n" ++ (Json.str text).compress))
  | _ => none

end FileEntry

namespace FileTree

/-- The places on the way along the parts of a path, the start among them. -/
def places : List String → List String → List (List String)
  | place, [] => [place]
  | place, part :: rest =>
      if part = "" ∨ part = "." then places place rest
      else if part = ".." then place :: places place.dropLast rest
      else place :: places (place ++ [part]) rest

/-- The places on the way to the place of a path, from the root on. -/
def placesTo (t : FileTree) (path : String) : List (List String) :=
  places [] (t.startOf path ++ parts path)

end FileTree

namespace Command

/-- The paths that a command looks at besides those of its configuration. -/
def paths : Command → List String
  | setUp directory =>
      [Invocation.standardPath, ".padrao", ".gitignore"].map (FileTree.join (directory.getD "."))
  | learn directory _ => [directory]
  | apply file _ => [file]
  | exportTo file => [file]
  | importFrom file => [file]
  | _ => []

/-- The directory that a command looks through. -/
def tree? : Command → Option String
  | learn directory _ => some directory
  | _ => none

/-- Whether a command asks for keys. -/
def asks : Command → Bool
  | reset confirmed => !confirmed
  | configure => true
  | _ => false

end Command

namespace Configuration

/-- The paths of the store. -/
def storePaths (c : Configuration) : List String :=
  [c.learning.insightsPath, StoreHandle.draftPath c.learning.insightsPath]

end Configuration
end AdaptiveRules
