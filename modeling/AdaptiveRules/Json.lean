/-!
# JSON values

A document keeps the members of an object as they are written, repetitions included.  `canonical`
is the value the document stands for: members in ascending order, of equal names the last one, and
`null` for a number that is not finite.  Whole numbers are kept apart from fractional ones.
-/

namespace AdaptiveRules

inductive Json
  | null
  | bool (value : Bool)
  | int (value : Int)
  | float (value : Float)
  | str (value : String)
  | arr (items : List Json)
  | obj (members : List (String × Json))

namespace Json

instance : Inhabited Json := ⟨null⟩

mutual

/-- Equality of values; numbers that are not whole are compared as floating point does. -/
def equal : Json → Json → Bool
  | null, null => true
  | bool a, bool b => a == b
  | int a, int b => a == b
  | float a, float b => a == b
  | str a, str b => a == b
  | arr as, arr bs => equalItems as bs
  | obj as, obj bs => equalMembers as bs
  | _, _ => false

def equalItems : List Json → List Json → Bool
  | [], [] => true
  | a :: as, b :: bs => equal a b && equalItems as bs
  | _, _ => false

def equalMembers : List (String × Json) → List (String × Json) → Bool
  | [], [] => true
  | (k, a) :: as, (j, b) :: bs => k == j && equal a b && equalMembers as bs
  | _, _ => false

end

instance : BEq Json := ⟨equal⟩

def isFinite (x : Float) : Bool := !x.isNaN && !x.isInf

/-- Puts a member in its place, over a member of the same name. -/
def putMember (k : String) (v : Json) : List (String × Json) → List (String × Json)
  | [] => [(k, v)]
  | (a, w) :: rest =>
      if k < a then (k, v) :: (a, w) :: rest
      else if a < k then (a, w) :: putMember k v rest
      else (k, v) :: rest

/-- Members in ascending order; of equal names the last one stays. -/
def sortMembers (members : List (String × Json)) : List (String × Json) :=
  members.foldl (fun acc m => putMember m.1 m.2 acc) []

mutual

def canonical : Json → Json
  | null => null
  | bool b => bool b
  | int n => int n
  | float x => if isFinite x then float x else null
  | str s => str s
  | arr items => arr (canonicalItems items)
  | obj members => obj (sortMembers (canonicalMembers members))

def canonicalItems : List Json → List Json
  | [] => []
  | j :: rest => canonical j :: canonicalItems rest

def canonicalMembers : List (String × Json) → List (String × Json)
  | [] => []
  | (k, v) :: rest => (k, canonical v) :: canonicalMembers rest

end

/-- The value of the first member of that name. -/
def member? : Json → String → Option Json
  | obj members, k => members.lookup k
  | _, _ => none

def ofNat (n : Nat) : Json := int n

def ofStrings (l : List String) : Json := arr (l.map str)

/-- `null` where there is no value. -/
def ofOption (f : α → Json) : Option α → Json
  | none => null
  | some a => f a

end Json
end AdaptiveRules
