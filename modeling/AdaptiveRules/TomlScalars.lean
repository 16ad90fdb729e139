import AdaptiveRules.Decimal
import AdaptiveRules.Instant
import AdaptiveRules.JsonParser

/-!
# Strings, numbers and times of TOML

Every reader takes the characters that are left and answers with a value and what is left after it,
or with nothing if no such value stands there.  Whole numbers fit into 64 bits with a sign; fractions
are rounded to the nearest floating-point number, and one that would overflow upwards is refused.
-/

namespace AdaptiveRules
namespace Toml

def isBlank (c : Char) : Bool := c == ' ' || c == '\t'

def dropBlanks (cs : List Char) : List Char := cs.dropWhile isBlank

/-- What follows a line end. -/
def lineEnd? : List Char → Option (List Char)
  | '\n' :: rest => some rest
  | '\r' :: '\n' :: rest => some rest
  | _ => none

/-- A character that may stand for itself in strings and comments. -/
def isPlain (c : Char) : Bool := c == '\t' || (32 ≤ c.toNat && c.toNat != 127)

/-! ### Strings -/

def hexValue (ds : List Char) : Option Nat :=
  ds.foldlM (fun acc d => (JsonParser.hexDigit d).map (acc * 16 + ·)) 0

/-- The character whose number is given by so many hexadecimal digits. -/
def readHex (width : Nat) (cs : List Char) : Option (Char × List Char) := do
  let ds := cs.take width
  if ds.length < width then none
  let n ← hexValue ds
  if n < 0xD800 ∨ (0xDFFF < n ∧ n < 0x110000) then return (Char.ofNat n, cs.drop width)
  else none

/-- What follows a backslash. -/
def readEscape : List Char → Option (Char × List Char)
  | 'b' :: rest => some ('\x08', rest)
  | 't' :: rest => some ('\t', rest)
  | 'n' :: rest => some ('\n', rest)
  | 'f' :: rest => some ('\x0c', rest)
  | 'r' :: rest => some ('\r', rest)
  | '"' :: rest => some ('"', rest)
  | '\\' :: rest => some ('\\', rest)
  | 'u' :: rest => readHex 4 rest
  | 'U' :: rest => readHex 8 rest
  | _ => none

/-- The rest of a string on one line; only the basic kind has escapes.  The fuel bounds the number of
characters. -/
def readLine (basic : Bool) : Nat → List Char → List Char → Option (List Char × List Char)
  | 0, _, _ => none
  | _ + 1, _, [] => none
  | fuel + 1, taken, c :: rest =>
      if c = (if basic then '"' else '\'') then some (taken.reverse, rest)
      else if basic && c == '\\' then
        match readEscape rest with
        | some (d, rest) => readLine basic fuel (d :: taken) rest
        | none => none
      else if isPlain c then readLine basic fuel (c :: taken) rest
      else none

/-- Drops blanks and line ends. -/
def dropSpace : List Char → List Char
  | '\r' :: '\n' :: rest => dropSpace rest
  | c :: rest => if isBlank c || c == '\n' then dropSpace rest else c :: rest
  | [] => []

/-- The rest of a string over several lines.  Up to two quotes may stand next to each other inside
it, and right before its end.  A backslash at the end of a line joins it to the next text. -/
def readLines (basic : Bool) : Nat → List Char → List Char → Option (List Char × List Char)
  | 0, _, _ => none
  | _ + 1, _, [] => none
  | fuel + 1, taken, c :: rest =>
      let quote := if basic then '"' else '\''
      if c = quote then
        let run := (c :: rest).takeWhile (· == quote)
        let after := rest.drop (run.length - 1)
        if run.length ≤ 2 then readLines basic fuel (run ++ taken) after
        else if run.length ≤ 5 then some ((run.drop 3 ++ taken).reverse, after)
        else none
      else if basic && c == '\\' then
        match lineEnd? (dropBlanks rest) with
        | some after => readLines basic fuel taken (dropSpace after)
        | none =>
            match readEscape rest with
            | some (d, rest) => readLines basic fuel (d :: taken) rest
            | none => none
      else
        match lineEnd? (c :: rest) with
        | some after => readLines basic fuel ('\n' :: taken) after
        | none => if isPlain c then readLines basic fuel (c :: taken) rest else none

/-- The text of a string of several lines; a line end right after the opening quotes is no part of it. -/
def readLinesFrom (basic : Bool) (cs : List Char) : Option (List Char × List Char) :=
  let cs := (lineEnd? cs).getD cs
  readLines basic (cs.length + 1) [] cs

def readString (cs : List Char) : Option (String × List Char) :=
  let found :=
    match cs with
    | '"' :: '"' :: '"' :: rest => readLinesFrom true rest
    | '\'' :: '\'' :: '\'' :: rest => readLinesFrom false rest
    | '"' :: rest => readLine true (rest.length + 1) [] rest
    | '\'' :: rest => readLine false (rest.length + 1) [] rest
    | _ => none
  found.map fun p => (String.ofList p.1, p.2)

def isBareKey (c : Char) : Bool := c.isAlphanum || c == '_' || c == '-'

/-- One part of a key: bare, or a string on one line. -/
def readKeyPart (cs : List Char) : Option (String × List Char) :=
  match cs with
  | '"' :: rest => (readLine true (rest.length + 1) [] rest).map fun p => (String.ofList p.1, p.2)
  | '\'' :: rest => (readLine false (rest.length + 1) [] rest).map fun p => (String.ofList p.1, p.2)
  | cs =>
      let name := cs.takeWhile isBareKey
      if name.isEmpty then none else some (String.ofList name, cs.drop name.length)

/-! ### Numbers -/

/-- Digits that follow a digit; single underscores may stand between digits. -/
def moreDigits (p : Char → Bool) : List Char → List Char × List Char
  | '_' :: d :: rest =>
      if p d then
        let (ds, rest) := moreDigits p rest
        (d :: ds, rest)
      else ([], '_' :: d :: rest)
  | d :: rest =>
      if p d then
        let (ds, rest) := moreDigits p rest
        (d :: ds, rest)
      else ([], d :: rest)
  | [] => ([], [])

/-- At least one digit. -/
def readDigits (p : Char → Bool) : List Char → Option (List Char × List Char)
  | d :: rest =>
      if p d then
        let (ds, rest) := moreDigits p rest
        some (d :: ds, rest)
      else none
  | [] => none

def readSign : List Char → Bool × List Char
  | '+' :: rest => (false, rest)
  | '-' :: rest => (true, rest)
  | cs => (false, cs)

/-- The digits of a whole number without a superfluous zero in front. -/
def readDecimal : List Char → Option (List Char × List Char)
  | '0' :: rest => some (['0'], rest)
  | cs => readDigits Char.isDigit cs

def fitsWord (n : Int) : Bool := Int64.minValue.toInt ≤ n && n ≤ Int64.maxValue.toInt

def readRadix (radix : Nat) (cs : List Char) : Option (Json × List Char) := do
  let isDigit (c : Char) : Bool := (JsonParser.hexDigit c).any (· < radix)
  let (ds, rest) ← readDigits isDigit cs
  let n := ds.foldl (fun acc d => acc * radix + (JsonParser.hexDigit d).getD 0) 0
  if fitsWord n then return (.int n, rest) else none

def readInteger (cs : List Char) : Option (Json × List Char) :=
  match cs with
  | '0' :: 'x' :: rest => readRadix 16 rest
  | '0' :: 'o' :: rest => readRadix 8 rest
  | '0' :: 'b' :: rest => readRadix 2 rest
  | cs => do
      let (negative, cs) := readSign cs
      let (ds, rest) ← readDecimal cs
      let m : Int := Instant.digitsValue ds
      let n := if negative then -m else m
      if fitsWord n then return (.int n, rest) else none

/-- The exponent, if one stands there. -/
def readExponent : List Char → Option (Int × List Char)
  | c :: rest =>
      if c = 'e' ∨ c = 'E' then do
        let (negative, cs) := readSign rest
        let (ds, rest) ← readDigits Char.isDigit cs
        let n : Int := Instant.digitsValue ds
        return (if negative then -n else n, rest)
      else none
  | [] => none

/-- The digits after a point, if one stands there. -/
def readPlaces : List Char → Option (List Char × List Char)
  | '.' :: rest => readDigits Char.isDigit rest
  | _ => none

def signedFloat (negative : Bool) (x : Float) : Float := if negative then -x else x

/-- A number with a point, an exponent, or both. -/
def readFraction (cs : List Char) : Option (Json × List Char) := do
  let (negative, cs) := readSign cs
  let (whole, rest) ← readDecimal cs
  let value (places : List Char) (exponent : Int) (rest : List Char) : Option (Json × List Char) :=
    let x := signedFloat negative
      (Decimal.nearest (Instant.digitsValue (whole ++ places)) (exponent - places.length))
    if x.isInf && !negative then none else some (.float x, rest)
  match readPlaces rest with
  | some (places, rest) =>
      match readExponent rest with
      | some (e, rest) => value places e rest
      | none => value places 0 rest
  | none =>
      let (e, rest) ← readExponent rest
      value [] e rest

/-- Infinity and what is no number, with or without a sign. -/
def readSpecial (cs : List Char) : Option (Json × List Char) :=
  let (negative, cs) := readSign cs
  match cs with
  | 'i' :: 'n' :: 'f' :: rest => some (.float (signedFloat negative (1.0 / 0.0)), rest)
  | 'n' :: 'a' :: 'n' :: rest => some (.float (0.0 / 0.0), rest)
  | _ => none

/-! ### Times -/

def exactDigits (width : Nat) (cs : List Char) : Option (Nat × List Char) :=
  let ds := cs.take width
  if ds.length = width ∧ ds.all Char.isDigit then some (Instant.digitsValue ds, cs.drop width)
  else none

def readMark (c : Char) : List Char → Option (List Char)
  | d :: rest => if c = d then some rest else none
  | [] => none

def readDate (cs : List Char) : Option (String × List Char) := do
  let (year, cs) ← exactDigits 4 cs
  let cs ← readMark '-' cs
  let (month, cs) ← exactDigits 2 cs
  let cs ← readMark '-' cs
  let (day, cs) ← exactDigits 2 cs
  if month < 1 ∨ 12 < month ∨ day < 1 ∨ Instant.daysInMonth year month < day then none
  return (Instant.padNat 4 year ++ "-" ++ Instant.padNat 2 month ++ "-" ++ Instant.padNat 2 day, cs)

/-- The part of a second: nine places count, and zeros at the end are not written. -/
def secondPart (ds : List Char) : String :=
  let kept := ((ds.take 9).reverse.dropWhile (· == '0')).reverse
  if kept.isEmpty then "" else "." ++ String.ofList kept

def readTime (cs : List Char) : Option (String × List Char) := do
  let (hour, cs) ← exactDigits 2 cs
  let cs ← readMark ':' cs
  let (minute, cs) ← exactDigits 2 cs
  let cs ← readMark ':' cs
  let (second, cs) ← exactDigits 2 cs
  if 23 < hour ∨ 59 < minute ∨ 60 < second then none
  let text := Instant.padNat 2 hour ++ ":" ++ Instant.padNat 2 minute ++ ":" ++ Instant.padNat 2 second
  match cs with
  | '.' :: rest =>
      let ds := rest.takeWhile Char.isDigit
      if ds.isEmpty then none else return (text ++ secondPart ds, rest.drop ds.length)
  | cs => return (text, cs)

def readOffset (cs : List Char) : Option (String × List Char) :=
  let custom (sign : String) (cs : List Char) : Option (String × List Char) := do
    let (hour, cs) ← exactDigits 2 cs
    let cs ← readMark ':' cs
    let (minute, cs) ← exactDigits 2 cs
    if 23 < hour ∨ 59 < minute then none
    let sign := if hour = 0 ∧ minute = 0 then "+" else sign
    return (sign ++ Instant.padNat 2 hour ++ ":" ++ Instant.padNat 2 minute, cs)
  match cs with
  | 'Z' :: rest => some ("Z", rest)
  | 'z' :: rest => some ("Z", rest)
  | '+' :: rest => custom "+" rest
  | '-' :: rest => custom "-" rest
  | _ => none

/-- What follows the mark between date and time. -/
def dropTimeMark? : List Char → Option (List Char)
  | 'T' :: rest => some rest
  | 't' :: rest => some rest
  | ' ' :: rest => some rest
  | _ => none

/-- The text of a date, a time, or both with or without an offset. -/
def readMoment (cs : List Char) : Option (String × List Char) :=
  match readDate cs with
  | none => readTime cs
  | some (date, rest) =>
      match (dropTimeMark? rest).bind readTime with
      | none => some (date, rest)
      | some (time, rest) =>
          match readOffset rest with
          | none => some (date ++ "T" ++ time, rest)
          | some (offset, rest) => some (date ++ "T" ++ time ++ offset, rest)

/-- The name of the one member of the object that stands for a date or time. -/
def momentMember : String := "$__toml_private_datetime"

def readNumeric (cs : List Char) : Option (Json × List Char) :=
  match readMoment cs with
  | some (text, rest) => some (.obj [(momentMember, .str text)], rest)
  | none => readFraction cs <|> readSpecial cs <|> readInteger cs

end Toml
end AdaptiveRules
