/-!
# Languages of files

The language of a file follows from the extension of its name: what comes after the last dot, unless
that dot starts the name.  Case does not count.  A pattern for `*` applies to every language.
-/

namespace AdaptiveRules
namespace FileLanguage

def unknown : String := "unknown"

/-- The language that stands for any language. -/
def any : String := "*"

def extensions : List (String × String) :=
  [("py", "python"), ("pyi", "python"), ("js", "javascript"), ("jsx", "javascript"),
    ("mjs", "javascript"), ("ts", "typescript"), ("tsx", "typescript"), ("rs", "rust"),
    ("go", "go"), ("java", "java"), ("kt", "kotlin"), ("rb", "ruby"), ("php", "php"), ("c", "c"),
    ("h", "c"), ("cpp", "cpp"), ("cc", "cpp"), ("hpp", "cpp"), ("cs", "csharp"),
    ("swift", "swift"), ("scala", "scala"), ("sh", "bash"), ("md", "markdown"), ("rst", "rst"),
    ("html", "html"), ("css", "css"), ("json", "json"), ("yaml", "yaml"), ("yml", "yaml"),
    ("toml", "toml"), ("ini", "ini"), ("xml", "xml"), ("sql", "sql")]

/-- The parts of a path between slashes. -/
def segments : List Char → List Char → List (List Char)
  | taken, [] => [taken.reverse]
  | taken, c :: rest => if c = '/' then taken.reverse :: segments [] rest else segments (c :: taken) rest

/-- The last part of a path that names something: not empty and not a single dot.  None if that part
is the parent directory. -/
def fileName (path : List Char) : Option (List Char) :=
  match ((segments [] path).filter fun s => !s.isEmpty && s != ['.']).getLast? with
  | some ['.', '.'] => none
  | name => name

/-- What follows the last dot, if something comes before it. -/
def extension (name : List Char) : Option (List Char) :=
  let rev := name.reverse
  match rev.dropWhile (· != '.') with
  | _ :: _ :: _ => some (rev.takeWhile (· != '.')).reverse
  | _ => none

def ofPath (path : String) : String :=
  match (fileName path.toList).bind extension with
  | some ext => (extensions.lookup (String.ofList (ext.map Char.toLower))).getD unknown
  | none => unknown

def applies (patternLanguage fileLanguage : String) : Bool :=
  patternLanguage == any || patternLanguage == fileLanguage

end FileLanguage
end AdaptiveRules
