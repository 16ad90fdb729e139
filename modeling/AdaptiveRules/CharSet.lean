/-!
# Sets of characters

A set of characters is a list of ranges of code points, both ends included.  The operations keep
the ranges in ascending order, apart from each other, and as few as possible, so two sets with the
same members are the same list.  `inRanges` stops at the first range that starts after the code
point it looks for.
-/

namespace AdaptiveRules

/-- The largest code point. -/
def maxCodePoint : Nat := 0x10FFFF

structure CharSet where
  ranges : List (Nat × Nat)
  deriving DecidableEq

namespace CharSet

def inRanges : List (Nat × Nat) → Nat → Bool
  | [], _ => false
  | (lo, hi) :: rest, c =>
      if c < lo then false else if c ≤ hi then true else inRanges rest c

def contains (s : CharSet) (c : Char) : Bool :=
  inRanges s.ranges c.toNat

def empty : CharSet := ⟨[]⟩

def isEmpty (s : CharSet) : Bool := s.ranges.isEmpty

/-- Adds one range, merging it with the ranges it meets or touches. -/
def insertRange : Nat → Nat → List (Nat × Nat) → List (Nat × Nat)
  | lo, hi, [] => [(lo, hi)]
  | lo, hi, (a, b) :: rest =>
      if hi + 1 < a then (lo, hi) :: (a, b) :: rest
      else if b + 1 < lo then (a, b) :: insertRange lo hi rest
      else insertRange (min lo a) (max hi b) rest

def range (lo hi : Nat) : CharSet := ⟨[(lo, hi)]⟩

/-- There is one member. -/
def isSingle (s : CharSet) : Bool :=
  match s.ranges with
  | [(lo, hi)] => lo == hi
  | _ => false

def singleton (c : Char) : CharSet := range c.toNat c.toNat

def union (s t : CharSet) : CharSet :=
  ⟨s.ranges.foldr (fun r acc => insertRange r.1 r.2 acc) t.ranges⟩

def ofRanges (rs : List (Nat × Nat)) : CharSet :=
  union ⟨rs⟩ empty

/-- The code points from `next` upwards that the ranges leave out. -/
def gapsFrom (next : Nat) : List (Nat × Nat) → List (Nat × Nat)
  | [] => if next ≤ maxCodePoint then [(next, maxCodePoint)] else []
  | (lo, hi) :: rest =>
      if next < lo then (next, lo - 1) :: gapsFrom (hi + 1) rest
      else gapsFrom (hi + 1) rest

def complement (s : CharSet) : CharSet := ⟨gapsFrom 0 s.ranges⟩

def inter (s t : CharSet) : CharSet :=
  complement (union (complement s) (complement t))

def difference (s t : CharSet) : CharSet := inter s (complement t)

def symmetricDifference (s t : CharSet) : CharSet :=
  difference (union s t) (inter s t)

/-- Every member is an ASCII character. -/
def isAscii (s : CharSet) : Bool := s.ranges.all fun r => r.2 < 128

/-- The set with the members of every class that it meets. -/
def closeUnder (classes : List (List Nat)) (s : CharSet) : CharSet :=
  ⟨classes.foldr
    (fun cls acc =>
      if cls.any (inRanges s.ranges) then
        cls.foldr (fun c acc => if inRanges s.ranges c then acc else insertRange c c acc) acc
      else acc)
    s.ranges⟩

@[simp] theorem contains_empty (c : Char) : empty.contains c = false := rfl

theorem contains_singleton (c d : Char) :
    (singleton c).contains d = decide (d = c) := by
  have h : (d = c) = (d.toNat = c.toNat) :=
    propext ⟨fun e => e ▸ rfl, fun e => Char.toNat_inj.1 e⟩
  simp only [contains, singleton, range, inRanges, h]
  by_cases hlt : d.toNat < c.toNat
  · have hne : d.toNat ≠ c.toNat := by omega
    simp [hlt, hne]
  · by_cases hle : d.toNat ≤ c.toNat
    · have heq : d.toNat = c.toNat := by omega
      simp [heq]
    · have hne : d.toNat ≠ c.toNat := by omega
      simp [hlt, hle, hne]

end CharSet
end AdaptiveRules
