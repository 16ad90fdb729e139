import AdaptiveRules.UnicodeProperties

/-!
# Instants

An instant is a number of seconds since 1970-01-01T00:00:00Z and a part of a second in nanoseconds.
In a leap second the nanoseconds exceed one thousand million.  Instants are written as RFC 3339 times
in UTC, with as few groups of three decimal places as the nanoseconds need.  Reading is generous:
fields may be short, blanks may stand before them, and any offset is allowed.
-/

namespace AdaptiveRules

structure Instant where
  seconds : Int
  nanos : Nat
  deriving DecidableEq

namespace Instant

def toNanos (t : Instant) : Int := t.seconds * 1000000000 + t.nanos

/-- The nanoseconds from an earlier instant to this one; none if it is not earlier. -/
def since (t earlier : Instant) : Nat := (t.toNanos - earlier.toNanos).toNat

def addNanos (t : Instant) (n : Nat) : Instant :=
  let total := t.nanos + n
  ⟨t.seconds + (total / 1000000000 : Nat), total % 1000000000⟩

def isBefore (t u : Instant) : Bool := t.toNanos < u.toNanos

/-! ### Calendar -/

/-- Days from 1970-01-01 to a date of the proleptic Gregorian calendar. -/
def daysOfDate (year : Int) (month day : Nat) : Int :=
  let y := if month ≤ 2 then year - 1 else year
  let era := y.fdiv 400
  let yoe := y - era * 400
  let m : Int := if month > 2 then (month : Int) - 3 else (month : Int) + 9
  let doy := (153 * m + 2).fdiv 5 + day - 1
  let doe := yoe * 365 + yoe.fdiv 4 - yoe.fdiv 100 + doy
  era * 146097 + doe - 719468

/-- The date that lies so many days after 1970-01-01. -/
def dateOfDays (days : Int) : Int × Nat × Nat :=
  let z := days + 719468
  let era := z.fdiv 146097
  let doe := z - era * 146097
  let yoe := (doe - doe.fdiv 1460 + doe.fdiv 36524 - doe.fdiv 146096).fdiv 365
  let doy := doe - (365 * yoe + yoe.fdiv 4 - yoe.fdiv 100)
  let mp := (5 * doy + 2).fdiv 153
  let day := doy - (153 * mp + 2).fdiv 5 + 1
  let month := if mp < 10 then mp + 3 else mp - 9
  let year := yoe + era * 400 + (if month ≤ 2 then 1 else 0)
  (year, month.toNat, day.toNat)

def isLeapYear (year : Int) : Bool :=
  year % 4 == 0 && (year % 100 != 0 || year % 400 == 0)

def daysInMonth (year : Int) (month : Nat) : Nat :=
  if month = 2 then (if isLeapYear year then 29 else 28)
  else if month ∈ [4, 6, 9, 11] then 30
  else 31

/-! ### Writing -/

def padNat (width n : Nat) : String :=
  let ds := Nat.toDigits 10 n
  String.ofList (List.replicate (width - ds.length) '0' ++ ds)

/-- Four digits; a sign in front and at least four digits for years beyond. -/
def yearText (year : Int) : String :=
  if 0 ≤ year ∧ year ≤ 9999 then padNat 4 year.toNat
  else (if year < 0 then "-" else "+") ++ padNat 4 year.natAbs

def fractionText (nanos : Nat) : String :=
  if nanos = 0 then ""
  else if nanos % 1000000 = 0 then "." ++ padNat 3 (nanos / 1000000)
  else if nanos % 1000 = 0 then "." ++ padNat 6 (nanos / 1000)
  else "." ++ padNat 9 nanos

def dateText (t : Instant) : String :=
  let (year, month, day) := dateOfDays (t.seconds.fdiv 86400)
  yearText year ++ "-" ++ padNat 2 month ++ "-" ++ padNat 2 day

def secondsOfDay (t : Instant) : Nat := (t.seconds - t.seconds.fdiv 86400 * 86400).toNat

def hourMinuteText (t : Instant) : String :=
  padNat 2 (t.secondsOfDay / 3600) ++ ":" ++ padNat 2 (t.secondsOfDay / 60 % 60)

def toRfc3339 (t : Instant) : String :=
  let leap := t.nanos ≥ 1000000000
  let second := t.secondsOfDay % 60 + (if leap then 1 else 0)
  let nanos := if leap then t.nanos - 1000000000 else t.nanos
  t.dateText ++ "T" ++ t.hourMinuteText ++ ":" ++ padNat 2 second ++ fractionText nanos ++ "Z"

/-- Date, hour and minute. -/
def toMinuteText (t : Instant) : String := t.dateText ++ " " ++ t.hourMinuteText

/-! ### Reading -/

def dropBlanks (cs : List Char) : List Char := cs.dropWhile UnicodeProperties.isWhiteSpace

def digitsValue (ds : List Char) : Nat :=
  ds.foldl (fun acc d => acc * 10 + (d.toNat - 48)) 0

/-- At least one digit and at most so many, after blanks. -/
def readNumber (width : Nat) (cs : List Char) : Option (Nat × List Char) :=
  let cs := dropBlanks cs
  let ds := (cs.take width).takeWhile Char.isDigit
  if ds.isEmpty then none else some (digitsValue ds, cs.drop ds.length)

/-- A year: four digits at most, or a sign and any number of digits. -/
def readYear (cs : List Char) : Option (Int × List Char) :=
  match dropBlanks cs with
  | '+' :: rest =>
      let ds := rest.takeWhile Char.isDigit
      if ds.isEmpty then none else some ((digitsValue ds : Int), rest.drop ds.length)
  | '-' :: rest =>
      let ds := rest.takeWhile Char.isDigit
      if ds.isEmpty then none else some (-(digitsValue ds : Int), rest.drop ds.length)
  | cs => (readNumber 4 cs).map fun p => ((p.1 : Int), p.2)

/-- One character, after blanks. -/
def readMark (c : Char) (cs : List Char) : Option (List Char) :=
  match dropBlanks cs with
  | d :: rest => if c = d then some rest else none
  | [] => none

/-- A point and digits, of which nine count; nothing is zero. -/
def readFraction (cs : List Char) : Option (Nat × List Char) :=
  match cs with
  | '.' :: rest =>
      let ds := rest.takeWhile Char.isDigit
      if ds.isEmpty then none
      else
        let kept := ds.take 9
        some (digitsValue kept * Nat.pow 10 (9 - kept.length), rest.drop ds.length)
  | cs => some (0, cs)

/-- `Z`, `UTC`, or a sign with hours and minutes. -/
def readOffset (cs : List Char) : Option (Int × List Char) :=
  let digits (sign : Int) (rest : List Char) : Option (Int × List Char) :=
    match rest with
    | a :: b :: rest =>
        match rest.dropWhile fun c => c == ':' || UnicodeProperties.isWhiteSpace c with
        | c :: d :: rest =>
            if a.isDigit && b.isDigit && c.isDigit && d.isDigit && c < '6' then
              some (sign * ((digitsValue [a, b] * 3600 + digitsValue [c, d] * 60 : Nat) : Int), rest)
            else none
        | _ => none
    | _ => none
  match cs with
  | 'z' :: rest => some (0, rest)
  | 'Z' :: rest => some (0, rest)
  | '+' :: rest => digits 1 rest
  | '-' :: rest => digits (-1) rest
  | '−' :: rest => digits (-1) rest
  | a :: b :: c :: rest =>
      if [a, b, c].map Char.toUpper = ['U', 'T', 'C'] then some (0, rest) else none
  | _ => none

def ofRfc3339? (text : String) : Option Instant := do
  let (year, cs) ← readYear text.toList
  let cs ← readMark '-' cs
  let (month, cs) ← readNumber 2 cs
  let cs ← readMark '-' cs
  let (day, cs) ← readNumber 2 cs
  let cs ←
    match cs with
    | 'T' :: rest => some rest
    | 't' :: rest => some rest
    | ' ' :: rest => some rest
    | _ => none
  let (hour, cs) ← readNumber 2 cs
  let cs ← readMark ':' cs
  let (minute, cs) ← readNumber 2 cs
  let cs ← readMark ':' cs
  let (second, cs) ← readNumber 2 cs
  let (nanos, cs) ← readFraction cs
  let (offset, cs) ← readOffset (dropBlanks cs)
  if !(dropBlanks cs).isEmpty then none
  if month < 1 ∨ 12 < month ∨ day < 1 ∨ daysInMonth year month < day then none
  if 23 < hour ∨ 59 < minute ∨ 60 < second ∨ 86400 ≤ offset.natAbs then none
  if 262142 < year.natAbs then none
  let leap := second = 60
  let clock : Int := ((hour * 3600 + minute * 60 + (if leap then 59 else second) : Nat) : Int)
  let nanos := if leap then nanos + 1000000000 else nanos
  return ⟨daysOfDate year month day * 86400 + clock - offset, nanos⟩

end Instant
end AdaptiveRules
