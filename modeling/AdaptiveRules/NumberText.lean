import AdaptiveRules.Decimal
import AdaptiveRules.Instant

/-!
# Numbers that are typed in

A natural number is typed as digits, with or without a plus sign, and has to fit into its bits.  A
floating-point number has digits before or after a point, or both, and may have an exponent; infinity
and what is no number are typed as words.  Nothing may stand before or after a number.
-/

namespace AdaptiveRules
namespace NumberText

/-- The value of some digits, of which there has to be one. -/
def natOfDigits? (digits : List Char) : Option Nat :=
  if digits.isEmpty ∨ !digits.all Char.isDigit then none else some (Instant.digitsValue digits)

def dropPlus : List Char → List Char
  | '+' :: rest => rest
  | cs => cs

/-- A natural number of at most so many bits. -/
def nat? (bits : Nat) (text : String) : Option Nat := do
  let n ← natOfDigits? (dropPlus text.toList)
  if n < 1 <<< bits then return n else none

/-- A whole number with or without a sign. -/
def int? : List Char → Option Int
  | '-' :: digits => (natOfDigits? digits).map fun n => -(n : Int)
  | digits => (natOfDigits? (dropPlus digits)).map Int.ofNat

def isExponentMark (c : Char) : Bool := c == 'e' || c == 'E'

/-- The exponent after its mark, zero if there is none. -/
def exponent? (cs : List Char) : Option Int :=
  match cs.dropWhile fun c => !isExponentMark c with
  | [] => some 0
  | _ :: rest => int? rest

/-- The part before an exponent as whole number, and how many of its digits follow the point. -/
def significand? (cs : List Char) : Option (Nat × Nat) := do
  let cs := cs.takeWhile fun c => !isExponentMark c
  let whole := cs.takeWhile (· != '.')
  let places := (cs.dropWhile (· != '.')).drop 1
  let n ← natOfDigits? (whole ++ places)
  return (n, places.length)

def unsigned? (cs : List Char) : Option Float :=
  match String.ofList (cs.map Char.toLower) with
  | "inf" => some (1.0 / 0.0)
  | "infinity" => some (1.0 / 0.0)
  | "nan" => some (0.0 / 0.0)
  | _ => do
      let (n, places) ← significand? cs
      let e ← exponent? cs
      return Decimal.nearest n (e - places)

def float? (text : String) : Option Float :=
  match text.toList with
  | '-' :: rest => (unsigned? rest).map fun x => -x
  | '+' :: rest => unsigned? rest
  | rest => unsigned? rest

end NumberText
end AdaptiveRules
