import AdaptiveRules.Decimal
import AdaptiveRules.Json

/-!
# Reading JSON text

The reader takes one value with blanks around it and refuses anything after it.  Arrays and objects
nest less than 128 deep.  A number without point and exponent is whole if it fits into 64 bits;
any other number is the digits that fit into 64 bits, scaled by its power of ten.
-/

namespace AdaptiveRules
namespace JsonParser

def dropBlanks : List Char → List Char
  | [] => []
  | c :: rest =>
      if c = ' ' ∨ c = '\n' ∨ c = '\t' ∨ c = '\r' then dropBlanks rest else c :: rest

/-! ### Strings -/

def hexDigit (c : Char) : Option Nat :=
  let n := c.toNat
  if 48 ≤ n ∧ n ≤ 57 then some (n - 48)
  else if 65 ≤ n ∧ n ≤ 70 then some (n - 55)
  else if 97 ≤ n ∧ n ≤ 102 then some (n - 87)
  else none

/-- A unit of four hexadecimal digits. -/
def readUnit : List Char → Option (Nat × List Char)
  | a :: b :: c :: d :: rest => do
      let a ← hexDigit a
      let b ← hexDigit b
      let c ← hexDigit c
      let d ← hexDigit d
      return (a * 4096 + b * 256 + c * 16 + d, rest)
  | _ => none

/-- What follows `\u`: a character, or the two units of a surrogate pair. -/
def readUnicode (cs : List Char) : Option (Char × List Char) := do
  let (first, rest) ← readUnit cs
  if 0xD800 ≤ first ∧ first < 0xDC00 then
    match rest with
    | '\\' :: 'u' :: rest =>
        let (second, rest) ← readUnit rest
        if 0xDC00 ≤ second ∧ second < 0xE000 then
          return (Char.ofNat (0x10000 + (first - 0xD800) * 1024 + (second - 0xDC00)), rest)
        else none
    | _ => none
  else if 0xDC00 ≤ first ∧ first < 0xE000 then none
  else return (Char.ofNat first, rest)

/-- What follows a backslash. -/
def readEscape : List Char → Option (Char × List Char)
  | '"' :: rest => some ('"', rest)
  | '\\' :: rest => some ('\\', rest)
  | '/' :: rest => some ('/', rest)
  | 'b' :: rest => some ('\x08', rest)
  | 'f' :: rest => some ('\x0c', rest)
  | 'n' :: rest => some ('\n', rest)
  | 'r' :: rest => some ('\r', rest)
  | 't' :: rest => some ('\t', rest)
  | 'u' :: rest => readUnicode rest
  | _ => none

/-- The characters of a string up to its closing quote. -/
def readChars : Nat → List Char → List Char → Option (List Char × List Char)
  | 0, _, _ => none
  | _ + 1, _, [] => none
  | fuel + 1, taken, c :: rest =>
      if c = '"' then some (taken.reverse, rest)
      else if c = '\\' then
        match readEscape rest with
        | some (d, rest) => readChars fuel (d :: taken) rest
        | none => none
      else if c.toNat < 32 then none
      else readChars fuel (c :: taken) rest

def readString (fuel : Nat) (cs : List Char) : Option (String × List Char) :=
  (readChars fuel [] cs).map fun p => (String.ofList p.1, p.2)

/-! ### Numbers -/

def digitsOf (cs : List Char) : List Char × List Char :=
  (cs.takeWhile Char.isDigit, cs.dropWhile Char.isDigit)

/-- Adds digits as long as the number fits into 64 bits; also says how many were added. -/
def gather : Nat → Nat → List Char → Nat × Nat
  | n, taken, [] => (n, taken)
  | n, taken, c :: rest =>
      let next := n * 10 + (c.toNat - 48)
      if next < UInt64.size then gather next (taken + 1) rest else (n, taken)

/-- What follows `e`: a sign and digits. -/
def readExponent (cs : List Char) : Option (Int × List Char) :=
  let (negative, cs) :=
    match cs with
    | '+' :: rest => (false, rest)
    | '-' :: rest => (true, rest)
    | cs => (false, cs)
  match digitsOf cs with
  | ([], _) => none
  | (ds, rest) =>
      let n : Nat := (ds.dropWhile (· == '0')).foldl
        (fun acc d => if acc < 1 <<< 31 then acc * 10 + (d.toNat - 48) else acc) 0
      some (if negative then -(n : Int) else n, rest)

/-- The exponent part, if there is one. -/
def readExponentPart (cs : List Char) : Option (Int × Bool × List Char) :=
  match cs with
  | 'e' :: rest => (readExponent rest).map fun p => (p.1, true, p.2)
  | 'E' :: rest => (readExponent rest).map fun p => (p.1, true, p.2)
  | cs => some (0, false, cs)

def signedFloat (negative : Bool) (x : Float) : Json :=
  .float (if negative then -x else x)

/-- A number after its sign. -/
def readUnsigned (negative : Bool) (cs : List Char) : Option (Json × List Char) := do
  let (whole, rest) := digitsOf cs
  if whole.isEmpty || (whole.head? == some '0' && whole.length > 1) then none
  let (n, taken) := gather 0 0 whole
  let dropped := whole.length - taken
  match rest with
  | '.' :: rest =>
      let (places, rest) := digitsOf rest
      if places.isEmpty then none
      let (n, extra) := if dropped = 0 then gather n 0 places else (n, 0)
      let (e, _, rest) ← readExponentPart rest
      let x ← Decimal.scaled n ((dropped : Int) - extra + e)
      return (signedFloat negative x, rest)
  | rest =>
      let (e, any, rest) ← readExponentPart rest
      if any || dropped > 0 then
        let x ← Decimal.scaled n ((dropped : Int) + e)
        return (signedFloat negative x, rest)
      else if !negative then return (.int n, rest)
      else if n = 0 || n > 1 <<< 63 then
        return (signedFloat true (Float.ofScientific n false 0), rest)
      else return (.int (-(n : Int)), rest)

def readNumber (cs : List Char) : Option (Json × List Char) :=
  match cs with
  | '-' :: rest => readUnsigned true rest
  | cs => readUnsigned false cs

/-! ### Values -/

/-- Reads one value.  The fuel bounds the number of values and members, `depth` the nesting. -/
def readValue (long : Nat) : Nat → Nat → List Char → Option (Json × List Char)
  | 0, _, _ => none
  | fuel + 1, depth, cs =>
      match dropBlanks cs with
      | 'n' :: 'u' :: 'l' :: 'l' :: rest => some (.null, rest)
      | 't' :: 'r' :: 'u' :: 'e' :: rest => some (.bool true, rest)
      | 'f' :: 'a' :: 'l' :: 's' :: 'e' :: rest => some (.bool false, rest)
      | '"' :: rest => (readString long rest).map fun p => (.str p.1, p.2)
      | '[' :: rest =>
          match depth with
          | 0 => none
          | depth + 1 =>
              match dropBlanks rest with
              | ']' :: rest => some (.arr [], rest)
              | rest => readItems fuel depth [] rest
      | '{' :: rest =>
          match depth with
          | 0 => none
          | depth + 1 =>
              match dropBlanks rest with
              | '}' :: rest => some (.obj [], rest)
              | rest => readMembers fuel depth [] rest
      | cs => readNumber cs
where
  /-- The items of an array, after its bracket or a comma. -/
  readItems : Nat → Nat → List Json → List Char → Option (Json × List Char)
    | 0, _, _, _ => none
    | fuel + 1, depth, taken, cs =>
        match readValue long fuel depth cs with
        | none => none
        | some (item, rest) =>
            match dropBlanks rest with
            | ',' :: rest => readItems fuel depth (item :: taken) rest
            | ']' :: rest => some (.arr (item :: taken).reverse, rest)
            | _ => none
  /-- The members of an object, after its brace or a comma. -/
  readMembers : Nat → Nat → List (String × Json) → List Char → Option (Json × List Char)
    | 0, _, _, _ => none
    | fuel + 1, depth, taken, cs =>
        match dropBlanks cs with
        | '"' :: rest =>
            match readString long rest with
            | none => none
            | some (name, rest) =>
                match dropBlanks rest with
                | ':' :: rest =>
                    match readValue long fuel depth rest with
                    | none => none
                    | some (item, rest) =>
                        match dropBlanks rest with
                        | ',' :: rest => readMembers fuel depth ((name, item) :: taken) rest
                        | '}' :: rest => some (.obj ((name, item) :: taken).reverse, rest)
                        | _ => none
                | _ => none
        | _ => none

/-- The deepest nesting of arrays and objects. -/
def depthLimit : Nat := 127

end JsonParser

/-- The document that the text writes. -/
def Json.parse? (text : String) : Option Json :=
  let cs := text.toList
  match JsonParser.readValue (cs.length + 1) (2 * cs.length + 2) JsonParser.depthLimit cs with
  | some (j, rest) => if (JsonParser.dropBlanks rest).isEmpty then some j else none
  | none => none

end AdaptiveRules
