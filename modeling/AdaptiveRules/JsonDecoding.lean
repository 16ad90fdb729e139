import AdaptiveRules.Dict
import AdaptiveRules.Json

/-!
# Typed data in JSON documents

A record is written as an object, where unknown members are ignored and a known one may not be
repeated, or as an array with its fields in their fixed order.  A choice among names is written as a
string or as an object with one member that is `null`.  Every reader answers `none` for a document
that does not have the form it asks for.
-/

namespace AdaptiveRules
namespace Json

def asBool? : Json → Option Bool
  | bool b => some b
  | _ => none

def asString? : Json → Option String
  | str s => some s
  | _ => none

/-- A natural number of at most so many bits. -/
def asNat? (bits : Nat) : Json → Option Nat
  | int n => if 0 ≤ n ∧ n.toNat < 1 <<< bits then some n.toNat else none
  | _ => none

def floatOfInt (n : Int) : Float :=
  let x := Float.ofScientific n.natAbs false 0
  if n < 0 then -x else x

/-- Any number, as a floating-point number. -/
def asFloat? : Json → Option Float
  | int n => some (floatOfInt n)
  | float x => some x
  | _ => none

def asList? (f : Json → Option α) : Json → Option (List α)
  | arr items => items.mapM f
  | _ => none

def asDict? (f : Json → Option α) : Json → Option (Dict α)
  | obj members => (members.mapM fun m => (f m.2).map (m.1, ·)).map Dict.ofList
  | _ => none

/-- `null` stands for no value. -/
def asOption? (f : Json → Option α) : Json → Option (Option α)
  | null => some none
  | j => (f j).map some

/-- One of a fixed set of names. -/
def asName? : Json → Option String
  | str s => some s
  | obj [(k, null)] => some k
  | _ => none

/-- The named parts of a record. -/
abbrev Fields := List (String × Json)

/-- The fields of a record with the given field names. -/
def asRecord? (names : List String) : Json → Option Fields
  | obj members =>
      if names.all fun n => (members.filter fun m => m.1 == n).length ≤ 1 then some members
      else none
  | arr items => if items.length ≤ names.length then some (names.zip items) else none
  | _ => none

namespace Fields

def required (fs : Fields) (name : String) (f : Json → Option α) : Option α :=
  (fs.lookup name).bind f

/-- A field that may be missing. -/
def orElse (fs : Fields) (name : String) (f : Json → Option α) (fallback : α) : Option α :=
  match fs.lookup name with
  | none => some fallback
  | some j => f j

/-- A field that may be missing or `null`. -/
def optional (fs : Fields) (name : String) (f : Json → Option α) : Option (Option α) :=
  match fs.lookup name with
  | none => some none
  | some j => asOption? f j

end Fields

def ofDict (f : α → Json) (d : Dict α) : Json :=
  obj (d.entries.map fun e => (e.1, f e.2))

def ofList (f : α → Json) (l : List α) : Json := arr (l.map f)

end Json
end AdaptiveRules
