import AdaptiveRules.FileTree
import AdaptiveRules.Insights

/-!
# Where insights are kept

Insights are kept in memory, in a JSON file, or as rows of a database of which the newest counts.  A
JSON file is written under another name first and then renamed, so that it is never half written.
A broken store answers every request with a problem.
-/

namespace AdaptiveRules

inductive StoreHandle
  | memory
  | jsonFile (path : String)
  | database (path : String)
  | broken
  deriving DecidableEq

/-- All that stores keep things in. -/
structure Storage where
  files : FileTree
  /-- The insights in memory. -/
  kept : Option Insights
  /-- How often insights were saved in memory. -/
  saves : Nat
  /-- The rows of a database that has no file. -/
  privateRows : List String

/-- What an operation on a store leads to. -/
abbrev StorageStep (α : Type) := Except Problem α × Storage

namespace Storage

def ofFiles (files : FileTree) : Storage := ⟨files, none, 0, []⟩

/-- Replaces the files, or leaves all as it is where there is a problem. -/
def change (s : Storage) (r : Except FileProblem FileTree) : StorageStep Unit :=
  match r with
  | .ok files => (.ok (), { s with files })
  | .error p => (.error (.file p), s)

/-- Two changes, the second only after the first. -/
def andThen (first : StorageStep Unit) (second : Storage → StorageStep Unit) : StorageStep Unit :=
  match first with
  | (.ok (), s) => second s
  | (.error p, s) => (.error p, s)

end Storage

namespace StoreHandle

def describe : StoreHandle → String
  | memory => "memory"
  | jsonFile path => "json:" ++ path
  | database path => "sqlite:" ++ path
  | broken => "broken"

/-- The name under which a JSON file is written first. -/
def draftPath (path : String) : String :=
  FileTree.withLastName path ((FileTree.lastName path).getD "insights" ++ ".tmp")

/-- Such a database lives as long as it is open. -/
def isPrivate (path : String) : Bool := path == "" || path == ":memory:"

def makeParent (path : String) (s : Storage) : StorageStep Unit :=
  match FileTree.parentText path with
  | none => (.ok (), s)
  | some "" => (.ok (), s)
  | some parent => s.change (s.files.makeDirectories parent)

def unopened (path : String) : Problem := .database ("unable to open database file: " ++ path)

/-- The rows of the database at a path. -/
def rowsAt (path : String) (s : Storage) : Except Problem (List String) :=
  if isPrivate path then .ok s.privateRows
  else
    match s.files.entry path with
    | .ok (.rows rows) => .ok rows
    | .ok (.text "") => .ok []
    | .ok .directory => .error (unopened path)
    | .ok _ => .error (.database "file is not a database")
    | .error .notFound => .ok []
    | .error _ => .error (unopened path)

def writeRows (path : String) (rows : List String) (s : Storage) : StorageStep Unit :=
  if isPrivate path then (.ok (), { s with privateRows := rows })
  else s.change (s.files.writeEntry path (.rows rows))

/-- Changes the rows of the database at a path. -/
def changeRows (path : String) (f : List String → List String) (s : Storage) : StorageStep Unit :=
  match rowsAt path s with
  | .ok rows => writeRows path (f rows) s
  | .error p => (.error p, s)

/-- The last insights that were saved, if any are kept. -/
def load (h : StoreHandle) (now : Instant) (s : Storage) : Except Problem (Option Insights) :=
  let read (text : String) : Except Problem (Option Insights) :=
    match Insights.ofText? now text with
    | some insights => .ok (some insights)
    | none => .error .jsonUnreadable
  match h with
  | memory => .ok s.kept
  | jsonFile path =>
      match s.files.tryContains path with
      | .error p => .error (.file p)
      | .ok false => .ok none
      | .ok true =>
          match s.files.readText path with
          | .ok text => read text
          | .error p => .error (.file p)
  | database path =>
      match rowsAt path s with
      | .error p => .error p
      | .ok rows =>
          match rows.getLast? with
          | some text => read text
          | none => .ok none
  | broken => .error (.persistence "unreadable")

def save (h : StoreHandle) (insights : Insights) (s : Storage) : StorageStep Unit :=
  match h with
  | memory => (.ok (), { s with kept := some insights, saves := s.saves + 1 })
  | jsonFile path =>
      Storage.andThen (makeParent path s) fun s =>
        Storage.andThen (s.change (s.files.write (draftPath path) insights.toText)) fun s =>
          s.change (s.files.rename (draftPath path) path)
  | database path => changeRows path (· ++ [insights.toJson.compress]) s
  | broken => (.error (.persistence "read-only"), s)

/-- Forgets all that was saved. -/
def clear (h : StoreHandle) (s : Storage) : StorageStep Unit :=
  match h with
  | memory => (.ok (), { s with kept := none })
  | jsonFile path =>
      match s.files.tryContains path with
      | .error p => (.error (.file p), s)
      | .ok false => (.ok (), s)
      | .ok true => s.change (s.files.remove path)
  | database path => changeRows path (fun _ => []) s
  | broken => (.error (.persistence "read-only"), s)

/-- Makes a database ready at a path. -/
def openDatabase (path : String) (s : Storage) : StorageStep Unit :=
  Storage.andThen (makeParent path s) fun s =>
    match rowsAt path s with
    | .ok rows => writeRows path rows s
    | .error p => (.error p, s)

end StoreHandle
end AdaptiveRules
