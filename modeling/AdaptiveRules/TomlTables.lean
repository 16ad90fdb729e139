import AdaptiveRules.Json

/-!
# Tables of a TOML document

A document is a tree of tables.  A table is there because a header names it, because a header names
one below it, or because a dotted key runs through it.  Which of these decides whether it may still
be named by a header or reached by a dotted key.  A value is closed: nothing can be added to it.
-/

namespace AdaptiveRules
namespace Toml

inductive TableKind
  /-- Named by a header of its own, or written as an element of an array of tables. -/
  | named
  /-- Only named on the way to another table. -/
  | passed
  | dotted
  deriving DecidableEq

inductive Node
  | value (json : Json)
  | table (kind : TableKind) (members : List (String × Node))
  | tables (elements : List (List (String × Node)))

abbrev Members := List (String × Node)

/-- Puts a node under a name, in the place of the one there. -/
def putNode (name : String) (node : Node) : Members → Members
  | [] => [(name, node)]
  | (k, n) :: rest => if k = name then (k, node) :: rest else (k, n) :: putNode name node rest

/-- Changes the members of the table at the end of a path.  Tables on the way are made as needed; of
an array of tables the last element is entered.  A dotted path does not enter named tables. -/
def changeAt (dotted : Bool) (change : TableKind → Members → Option Members) :
    List String → TableKind → Members → Option Members
  | [], kind, members => change kind members
  | name :: path, _, members =>
      match members.lookup name with
      | none => do
          let kind := if dotted then TableKind.dotted else .passed
          let inner ← changeAt dotted change path kind []
          return putNode name (.table kind inner) members
      | some (.value _) => none
      | some (.table kind inner) =>
          if dotted && kind == .named then none
          else do
            let inner ← changeAt dotted change path kind inner
            return putNode name (.table kind inner) members
      | some (.tables elements) =>
          match elements.getLast? with
          | none => none
          | some last => do
              let last ← changeAt dotted change path .named last
              return putNode name (.tables (elements.dropLast ++ [last])) members

/-- Adds the table of a header; one that was only passed on the way to others becomes named. -/
def addTable (name : String) (members : Members) : Option Members :=
  match members.lookup name with
  | none => some (putNode name (.table .named []) members)
  | some (.table .passed inner) => some (putNode name (.table .named inner) members)
  | some _ => none

/-- Adds one more element to an array of tables. -/
def addElement (name : String) (members : Members) : Option Members :=
  match members.lookup name with
  | none => some (putNode name (.tables [[]]) members)
  | some (.tables elements) => some (putNode name (.tables (elements ++ [[]])) members)
  | some _ => none

/-- Adds a value under a new name. -/
def addValue (name : String) (value : Json) (members : Members) : Option Members :=
  match members.lookup name with
  | none => some (putNode name (.value value) members)
  | some _ => none

/-- Adds a value under a key whose parts before the last lead to a table of dotted keys. -/
def addKeyed (path : List String) (name : String) (value : Json) (kind : TableKind)
    (members : Members) : Option Members :=
  changeAt true
    (fun reached members =>
      if (reached == .dotted) == path.isEmpty then none else addValue name value members)
    path kind members

mutual

def Node.toJson : Node → Json
  | .value json => json
  | .table _ members => .obj (membersToJson members)
  | .tables elements => .arr (elementsToJson elements)

def membersToJson : List (String × Node) → List (String × Json)
  | [] => []
  | (k, n) :: rest => (k, n.toJson) :: membersToJson rest

def elementsToJson : List (List (String × Node)) → List Json
  | [] => []
  | members :: rest => .obj (membersToJson members) :: elementsToJson rest

end

end Toml
end AdaptiveRules
