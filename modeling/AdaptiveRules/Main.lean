import AdaptiveRules.CommandLine
import AdaptiveRules.FileImage
import Std.Time.DateTime.Timestamp

/-!
# The command line

Reads the files that a command looks at, carries the command out, shows what it shows, and writes the
files that it changed.  Keys are read from standard input when the command asks for them.
-/

namespace AdaptiveRules
namespace CommandLine

def present : IO Instant := do
  let nanos := (← Std.Time.Timestamp.now).toNanosecondsSinceUnixEpoch.val
  return ⟨nanos.fdiv 1000000000, (nanos.fmod 1000000000).toNat⟩

/-- What stands at a place, if anything. -/
def entryAt (place : List String) : IO (Option FileEntry) := do
  let path := (← IO.currentDir) / FileTree.pathText place
  if ← path.isDir then return some .directory
  if !(← path.pathExists) then return none
  try return some (.ofBytes (← IO.FS.readBinFile path))
  catch _ => return some (.bytes 0)

def loadPlace (t : FileTree) (place : List String) : IO FileTree := do
  if place.isEmpty then return t
  match ← entryAt place with
  | some e => return t.put place e
  | none => return t

def loadPath (t : FileTree) (path : String) : IO FileTree := (t.placesTo path).foldlM loadPlace t

/-- Loads the ignore files of a directory. -/
def loadRules (t : FileTree) (place : List String) : IO FileTree :=
  ProjectFiles.ruleFiles.foldlM (fun t file => loadPlace t (place ++ file)) t

/-- Loads all that is below a directory; links are not followed. -/
partial def loadBelow (t : FileTree) (place : List String) : IO FileTree := do
  let path := (← IO.currentDir) / FileTree.pathText place
  (← path.readDir).foldlM
    (fun t e => do
      match (← e.path.symlinkMetadata).type with
      | .dir => loadBelow (t.put (place ++ [e.fileName]) .directory) (place ++ [e.fileName])
      | .file => loadPlace t (place ++ [e.fileName])
      | _ => return t)
    t

/-- Loads a directory with the ignore files that count in it. -/
def loadDirectory (t : FileTree) (path : String) : IO FileTree := do
  match t.resolve path with
  | .ok place =>
      if t.isDirectoryAt place then
        let t ← loadBelow t place
        (ProjectFiles.ways place).foldlM (fun t way => loadRules t way.1) t
      else return t
  | .error _ => return t

def load (i : Invocation) : IO FileTree := do
  let t : FileTree := ⟨.empty, (FileTree.parts (← IO.currentDir).toString).filter (· != "")⟩
  let t ← (i.configurationPath :: i.command.paths).foldlM loadPath t
  let c := Configuration.readOrStandard t i.configurationPath
  let t ← c.storePaths.foldlM loadPath t
  match i.command.tree? with
  | some path => loadDirectory t path
  | none => return t

/-- Writes what is different in the second tree. -/
def write (before after : FileTree) : IO Unit := do
  for (path, e) in after.entries.entries do
    if before.entries.get? path ≠ some e then
      match e.image? with
      | some text => IO.FS.writeFile path text
      | none => if e = .directory then IO.FS.createDirAll path
  for path in before.entries.keys do
    if !after.entries.contains path then IO.FS.removeFile path

partial def readAll (input : IO.FS.Stream) (text : String) : IO String := do
  let line ← input.getLine
  if line.isEmpty then return text else readAll input (text ++ line)

def keys (c : Command) : IO (List Key) := do
  if c.asks then return Key.ofText (← readAll (← IO.getStdin) "").toList else return []

def usage : String :=
  "usage: padrao [-c FILE] [-v] [-q] COMMAND\n" ++
  "commands: init, learn, improve, match, insights, export, import, reset, config, doctor, version"

def carryOutOutside (i : Invocation) : IO UInt32 := do
  let files ← load i
  let (r, s) := (run i).run.run ⟨files, "", ← keys i.command, ← present⟩
  write files s.files
  IO.print s.shown
  match r with
  | .ok () => return 0
  | .error p =>
      IO.eprintln p.message
      return 1

end CommandLine
end AdaptiveRules

def main (arguments : List String) : IO UInt32 := do
  match AdaptiveRules.Invocation.ofArguments? arguments with
  | some i => AdaptiveRules.CommandLine.carryOutOutside i
  | none =>
      IO.eprintln AdaptiveRules.CommandLine.usage
      return 2
