import AdaptiveRules.Learner
import AdaptiveRules.Paragraphs
import AdaptiveRules.Prompt

/-!
# What commands work on

A command reads and writes files, shows lines, and may ask for keys.  When it stops at a problem, what
it wrote and showed before stays.
-/

namespace AdaptiveRules

structure Shell where
  files : FileTree
  /-- What was shown. -/
  shown : String
  /-- The keys that are going to be typed. -/
  keys : List Key
  now : Instant

/-- A command at work. -/
abbrev Work (α : Type) := ExceptT Problem (StateM Shell) α

namespace Work

def ofExcept (r : Except Problem α) : Work α :=
  match r with
  | .ok a => return a
  | .error p => throw p

def ofFiles (r : Except FileProblem α) : Work α := ofExcept (r.mapError Problem.file)

def text (content : String) : Work Unit := modify fun s => { s with shown := s.shown ++ content }

def line (text : String) : Work Unit := Work.text (text ++ "\n")

def lines (texts : List String) : Work Unit := texts.forM line

/-- Replaces the files, unless there is a problem. -/
def change (f : FileTree → Except FileProblem FileTree) : Work Unit := do
  let s ← get
  let files ← ofFiles (f s.files)
  set { s with files }

def readText (path : String) : Work String := do
  ofFiles ((← get).files.readText path)

/-- Works on what stores keep things in.  The files are kept even if there is a problem. -/
def withStorage (f : Storage → StorageStep α) : Work α := do
  let s ← get
  let (r, storage) := f (.ofFiles s.files)
  set { s with files := storage.files }
  ofExcept r

end Work

/-- The configuration at a path. -/
def Configuration.read (t : FileTree) (path : String) : Except Problem Configuration := do
  let text ← (t.readText path).mapError Problem.file
  match ofToml? text with
  | some c => return c
  | none => throw .tomlUnreadable

/-- The configuration at a path, the standard one if there is none that can be read. -/
def Configuration.readOrStandard (t : FileTree) (path : String) : Configuration :=
  match Configuration.read t path with
  | .ok c => c
  | .error _ => .standard

def Configuration.write (c : Configuration) (path : String) : Work Unit := do
  match c.toToml? with
  | some text => Work.change fun t => t.write path text
  | none => throw .tomlUnwritable

namespace StoreHandle

/-- The store that the settings name. -/
def ofSettings (s : LearningSettings) : StoreHandle :=
  match s.store with
  | .json => jsonFile s.insightsPath
  | .sqlite => database s.insightsPath

/-- Makes a store ready for use. -/
def ready (h : StoreHandle) (s : Storage) : StorageStep Unit :=
  match h with
  | database path => openDatabase path s
  | _ => (.ok (), s)

/-- The insights of a store that is made ready for this. -/
def readReady (h : StoreHandle) (now : Instant) (s : Storage) :
    StorageStep (Option Insights) :=
  match h.ready s with
  | (.ok (), s) => (h.load now s, s)
  | (.error p, s) => (.error p, s)

end StoreHandle

namespace Work

/-- A learner for the patterns of a configuration, on its store. -/
def learner (c : Configuration) : Work LearningState := do
  let now := (← get).now
  let patterns ← ofExcept (Catalog.patterns c .none now)
  let store := StoreHandle.ofSettings c.learning
  withStorage store.ready
  let cutter : BlockCutter := fun _ => Paragraphs.extract
  return ⟨.fresh patterns store (.ofConfiguration c.learning) (some cutter) true now,
    .ofFiles (← get).files, .standard, ⟨now, 0⟩, none⟩

/-- Keeps the files as a learner leaves them. -/
def keep (s : LearningState) : Work Unit := modify fun w => { w with files := s.storage.files }

end Work
end AdaptiveRules
