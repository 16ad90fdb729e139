/-!
# Decimal text of binary fractions

`shortest` gives the fewest decimal digits that read back as the same floating-point number, and of
those the nearest ones.  A positive number is decoded as `m * 2 ^ q`.  The reals that round to it
form an interval around it, ends included when `m` is even.  For one digit, two digits and so on the
two decimals next to the number are tried; the first count of digits for which one of them lies in
the interval is the answer.  All of this is exact arithmetic on natural numbers.
-/

namespace AdaptiveRules
namespace Decimal

/-- The number `digits * 10 ^ exponent`. -/
structure Scaled where
  digits : Nat
  exponent : Int
  deriving DecidableEq

/-- Strips zeros from the end of the digits. -/
def Scaled.trim : Nat → Scaled → Scaled
  | 0, s => s
  | fuel + 1, s =>
      if s.digits ≠ 0 ∧ s.digits % 10 = 0 then
        Scaled.trim fuel ⟨s.digits / 10, s.exponent + 1⟩
      else s

/-- The interval of the reals that round to a number, and the number itself, over one denominator:
`low / den`, `mid / den` and `high / den`. -/
structure Interval where
  low : Nat
  mid : Nat
  high : Nat
  den : Nat
  closed : Bool

/-- The interval of `m * 2 ^ q`; it is narrower below when `m` is the least of its exponent. -/
def Interval.ofBinary (m : Nat) (q : Int) (narrow : Bool) : Interval :=
  let up := 1 <<< (q - 2).toNat
  let down := 1 <<< (2 - q).toNat
  { low := (4 * m - (if narrow then 1 else 2)) * up
    mid := 4 * m * up
    high := (4 * m + 2) * up
    den := down
    closed := m % 2 == 0 }

/-- Whether `k * 10 ^ e` lies in the interval. -/
def Interval.holds (i : Interval) (k : Nat) (e : Int) : Bool :=
  let x := k * Nat.pow 10 e.toNat * i.den
  let scale := Nat.pow 10 (-e).toNat
  if i.closed then i.low * scale ≤ x && x ≤ i.high * scale
  else i.low * scale < x && x < i.high * scale

/-- The number of decimal digits; at least one. -/
def digitCount (n : Nat) : Nat := (Nat.toDigits 10 n).length

/-- How many zeros follow the point before the first digit that is not zero. -/
def leadingZeros : Nat → Nat → Nat → Nat
  | 0, _, _ => 0
  | fuel + 1, num, den => if num * 10 ≥ den then 0 else leadingZeros fuel (num * 10) den + 1

/-- The exponent `e` with `10 ^ (e - 1) ≤ num / den < 10 ^ e`. -/
def decimalExponent (num den : Nat) : Int :=
  if num ≥ den then digitCount (num / den) else -(leadingZeros 400 num den : Int)

/-- The nearer of the two decimals with `n` digits next to the number that lies in the interval. -/
def Interval.withDigits (i : Interval) (top : Int) (n : Nat) : Option Scaled :=
  let e := top - n
  let num := i.mid * Nat.pow 10 (-e).toNat
  let den := i.den * Nat.pow 10 e.toNat
  let k := num / den
  let rest := num % den
  match i.holds k e && k != 0, i.holds (k + 1) e with
  | true, true =>
      if 2 * rest < den || (2 * rest == den && k % 2 == 0) then some ⟨k, e⟩ else some ⟨k + 1, e⟩
  | true, false => some ⟨k, e⟩
  | false, true => some ⟨k + 1, e⟩
  | false, false => none

def Interval.shortestFrom (i : Interval) (top : Int) : Nat → Nat → Scaled
  | 0, n => (i.withDigits top n).getD ⟨i.mid / i.den, 0⟩
  | more + 1, n =>
      match i.withDigits top n with
      | some s => s
      | none => i.shortestFrom top more (n + 1)

/-- The shortest decimal for the positive finite number whose bits are given. -/
def ofBits (bits : Nat) : Scaled :=
  let fraction : Nat := bits % (1 <<< 52)
  let biased : Nat := (bits >>> 52) % (1 <<< 11)
  let m := if biased = 0 then fraction else fraction + (1 <<< 52)
  let q : Int := if biased = 0 then -1074 else (biased : Int) - 1075
  let i := Interval.ofBinary m q (fraction == 0 && biased > 1)
  (i.shortestFrom (decimalExponent i.mid i.den) 17 1).trim 20

def shortest (x : Float) : Scaled :=
  if x == 0 then ⟨0, 0⟩ else ofBits (x.abs.toBits.toNat)

def isNegative (x : Float) : Bool := x.toBits.toNat ≥ 1 <<< 63

def signed (x : Float) (body : String) : String :=
  if isNegative x then "-" ++ body else body

def zeros (n : Nat) : String := String.ofList (List.replicate n '0')

/-- Digits with a point where the exponent puts it, and no point where nothing follows it. -/
def Scaled.positional (s : Scaled) : String :=
  let ds := Nat.toDigits 10 s.digits
  if s.exponent ≥ 0 then String.ofList ds ++ zeros s.exponent.toNat
  else
    let places := (-s.exponent).toNat
    if ds.length > places then
      String.ofList (ds.take (ds.length - places)) ++ "." ++
        String.ofList (ds.drop (ds.length - places))
    else "0." ++ zeros (places - ds.length) ++ String.ofList ds

/-- Positional notation, without a point for a whole number. -/
def plain (x : Float) : String :=
  if x.isNaN then "NaN"
  else if x.isInf then signed x "inf"
  else signed x (shortest x).positional

def isWhole (s : Scaled) : Bool := s.exponent ≥ 0

/-- Positional notation that always has a point. -/
def pointed (x : Float) : String :=
  let s := shortest x
  signed x (s.positional ++ if isWhole s then ".0" else "")

/-- One digit, the other digits after a point, and the power of ten. -/
def Scaled.scientific (s : Scaled) : String :=
  let ds := Nat.toDigits 10 s.digits
  let e := s.exponent + (ds.length - 1 : Nat)
  let mantissa :=
    match ds with
    | [d] => String.singleton d
    | d :: rest => String.singleton d ++ "." ++ String.ofList rest
    | [] => "0"
  mantissa ++ "e" ++ toString e

/-- Positional notation with a point for numbers from 0.00001 up to 16 digits, else scientific. -/
def compact (x : Float) : String :=
  let s := shortest x
  let top := s.exponent + digitCount s.digits
  if x == 0 || (-5 < top && top ≤ 16) then pointed x else signed x s.scientific

/-- The power of ten as a floating-point number. -/
def powerOfTen (n : Nat) : Float := Float.ofScientific 1 false n

/-- `digits * 10 ^ exponent` with one rounding for the digits and one for each multiplication or
division.  `none` if that overflows. -/
def scaleSteps : Nat → Float → Int → Option Float
  | 0, x, _ => some x
  | fuel + 1, x, e =>
      if e.natAbs ≤ 308 then
        if e ≥ 0 then
          let y := x * powerOfTen e.toNat
          if y.isInf then none else some y
        else some (x / powerOfTen e.natAbs)
      else if x == 0 then some x
      else if e ≥ 0 then none
      else scaleSteps fuel (x / powerOfTen 308) (e + 308)

def scaled (digits : Nat) (exponent : Int) : Option Float :=
  scaleSteps 40 (Float.ofScientific digits false 0) exponent

/-- The floating-point number nearest to `digits * 10 ^ exponent`. -/
def nearest (digits : Nat) (exponent : Int) : Float :=
  if digits = 0 then 0
  else if exponent + digitCount digits > 400 then 1.0 / 0.0
  else if exponent + digitCount digits < -400 then 0
  else if exponent ≥ 0 then Float.ofScientific digits false exponent.toNat
  else Float.ofScientific digits true exponent.natAbs

end Decimal
end AdaptiveRules
