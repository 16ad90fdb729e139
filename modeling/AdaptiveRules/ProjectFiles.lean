import AdaptiveRules.FileTree
import AdaptiveRules.IgnoreRules
import AdaptiveRules.ProjectLearning

/-!
# The files of a project

The files of a project are the texts below its directory, those that are hidden, ignored or too large
left out.  Ignore files count from the directory they stand in, also those above the project.  Of the
files of one kind the nearest that says something decides, and then the kinds in their order.  What is
ignored or hidden is not entered; a rule that keeps something keeps it although it is hidden.
-/

namespace AdaptiveRules
namespace ProjectFiles

/-- Where the rules of a directory stand, from what counts first to what counts last. -/
def ruleFiles : List (List String) := [[".ignore"], [".gitignore"], [".git", "info", "exclude"]]

/-- The most bytes a file may have. -/
def sizeLimit : Nat := 1024 * 1024

def rulesAt (t : FileTree) (directory : List String) (file : List String) : List IgnoreRule :=
  match t.entryAt (directory ++ file) with
  | some (.text content) => IgnoreRule.ofText content
  | _ => []

/-- A place and the directories above it, the nearest first, each with the way from there. -/
def ways (directory : List String) : List (List String × List String) :=
  ((List.range (directory.length + 1)).map fun n => (directory.take n, directory.drop n)).reverse

/-- Whether a name in a directory is ignored; none if no rule says so or not. -/
def verdict (t : FileTree) (directory : List String) (name : String) (isDirectory : Bool) :
    Option Bool :=
  ruleFiles.findSome? fun file =>
    (ways directory).findSome? fun (above, way) =>
      IgnoreRule.verdict (rulesAt t above file) ("/".intercalate (way ++ [name])) isDirectory

def isHidden (name : String) : Bool := name.toList.head? == some '.'

/-- A name in a directory is left out. -/
def isSkipped (t : FileTree) (directory : List String) (name : String) (isDirectory : Bool) : Bool :=
  (verdict t directory name isDirectory).getD (isHidden name)

/-- Nothing on the way from a directory to a file is left out. -/
def isReached (t : FileTree) (directory : List String) : List String → Bool
  | [] => true
  | [name] => !isSkipped t directory name false
  | name :: rest => !isSkipped t directory name true && isReached t (directory ++ [name]) rest

/-- The file at a path, as one of the project in a directory. -/
def source? (t : FileTree) (root : List String) (path : String) : FileEntry → Option SourceFile
  | .text content =>
      let names := (FileTree.parts path).drop 1
      let way := names.drop root.length
      if root.isPrefixOf names && content.utf8ByteSize ≤ sizeLimit && isReached t root way then
        some ⟨"/".intercalate way, content⟩
      else none
  | _ => none

/-- The files of the project in a directory. -/
def collect (t : FileTree) (root : List String) : List SourceFile :=
  t.entries.entries.filterMap fun e => source? t root e.1 e.2

end ProjectFiles
end AdaptiveRules
