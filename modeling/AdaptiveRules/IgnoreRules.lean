import AdaptiveRules.PathGlob
import AdaptiveRules.TextLines

/-!
# Rules on what to ignore

Every line of an ignore file is a rule.  An empty line, one that starts with a number sign, and one
that is no glob say nothing.  Blanks at the end do not count unless the last one is escaped.  An
exclamation mark in front keeps what the glob describes, a slash at the end restricts the rule to
directories, and a glob without any other slash describes names at any depth.  Of several rules that
describe a path the last one decides.
-/

namespace AdaptiveRules

structure IgnoreRule where
  shape : GlobShape
  keeps : Bool
  onlyDirectories : Bool
  deriving DecidableEq

namespace IgnoreRule

def endsWith (line ending : List Char) : Bool := ending.isSuffixOf line

/-- Whether the rule keeps, whether its glob starts in the directory of the file, and the glob. -/
def readMarks : List Char → Bool × Bool × List Char
  | '\\' :: '!' :: rest => (false, false, '!' :: rest)
  | '\\' :: '#' :: rest => (false, false, '#' :: rest)
  | '!' :: '/' :: rest => (true, true, rest)
  | '!' :: rest => (true, false, rest)
  | '/' :: rest => (false, true, rest)
  | rest => (false, false, rest)

/-- The glob without a slash at its end, and whether there was one. -/
def readEnd (glob : List Char) : Bool × List Char :=
  match glob.reverse with
  | '/' :: '\\' :: rest => (true, rest.reverse)
  | '/' :: rest => (true, rest.reverse)
  | _ => (false, glob)

/-- The glob for names at any depth, if it describes names. -/
def atAnyDepth (glob : List Char) : List Char :=
  if glob.contains '/' || glob == "**".toList then glob else "**/".toList ++ glob

/-- A glob that ends in two stars describes what is inside a directory, and not the directory. -/
def insideOnly (glob : List Char) : List Char :=
  if endsWith glob "/**".toList then glob ++ "/*".toList else glob

def ofLine? (line : List Char) : Option IgnoreRule := do
  if line.head? = some '#' then none
  let line := if endsWith line "\\ ".toList then line else TextLines.trimEnd line
  if line.isEmpty then none
  let (keeps, isAnchored, glob) := readMarks line
  let (onlyDirectories, glob) := readEnd glob
  let shape ← PathGlob.parse? (insideOnly (if isAnchored then glob else atAnyDepth glob))
  return ⟨shape, keeps, onlyDirectories⟩

def dropByteOrderMark : List Char → List Char
  | '\ufeff' :: rest => dropByteOrderMark rest
  | cs => cs

/-- The rules of an ignore file. -/
def ofText (text : String) : List IgnoreRule :=
  (TextLines.lines (dropByteOrderMark text.toList)).filterMap ofLine?

/-- Whether the rules ignore a path, which is given from the directory of their file; none if they do
not say. -/
def verdict (rules : List IgnoreRule) (path : String) (isDirectory : Bool) : Option Bool :=
  (rules.reverse.find? fun r => (!r.onlyDirectories || isDirectory) && r.shape.matchesPath path).map
    fun r => !r.keeps

end IgnoreRule
end AdaptiveRules
