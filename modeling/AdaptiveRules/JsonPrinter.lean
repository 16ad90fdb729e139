import AdaptiveRules.Decimal
import AdaptiveRules.Json

/-!
# Writing JSON text

`compress` writes a value on one line without blanks.  `pretty` writes every item and member on a
line of its own, indented by two blanks for each level; an empty array or object stays on its line.
-/

namespace AdaptiveRules
namespace Json

def hexLower (n : Nat) : Char := Nat.digitChar n

def quoteChar (c : Char) : List Char :=
  if c = '"' then ['\\', '"']
  else if c = '\\' then ['\\', '\\']
  else if c = '\n' then ['\\', 'n']
  else if c = '\r' then ['\\', 'r']
  else if c = '\t' then ['\\', 't']
  else if c.toNat = 8 then ['\\', 'b']
  else if c.toNat = 12 then ['\\', 'f']
  else if c.toNat < 32 then
    ['\\', 'u', '0', '0', hexLower (c.toNat / 16), hexLower (c.toNat % 16)]
  else [c]

def quote (s : String) : String :=
  String.ofList ('"' :: (s.toList.flatMap quoteChar ++ ['"']))

def numberText (x : Float) : String :=
  if isFinite x then Decimal.compact x else "null"

mutual

def compress : Json → String
  | null => "null"
  | bool b => if b then "true" else "false"
  | int n => toString n
  | float x => numberText x
  | str s => quote s
  | arr items => "[" ++ ",".intercalate (compressItems items) ++ "]"
  | obj members => "\x7b" ++ ",".intercalate (compressMembers members) ++ "\x7d"

def compressItems : List Json → List String
  | [] => []
  | j :: rest => compress j :: compressItems rest

def compressMembers : List (String × Json) → List String
  | [] => []
  | (k, v) :: rest => (quote k ++ ":" ++ compress v) :: compressMembers rest

end

def indent (level : Nat) : String := String.ofList (List.replicate (2 * level) ' ')

mutual

def prettyAt (level : Nat) : Json → String
  | arr [] => "[]"
  | arr items =>
      "[\n" ++ ",\n".intercalate (prettyItems (level + 1) items) ++ "\n" ++ indent level ++ "]"
  | obj [] => "\x7b\x7d"
  | obj members =>
      "\x7b\n" ++ ",\n".intercalate (prettyMembers (level + 1) members) ++ "\n" ++
        indent level ++ "\x7d"
  | null => "null"
  | bool b => if b then "true" else "false"
  | int n => toString n
  | float x => numberText x
  | str s => quote s

def prettyItems (level : Nat) : List Json → List String
  | [] => []
  | j :: rest => (indent level ++ prettyAt level j) :: prettyItems level rest

def prettyMembers (level : Nat) : List (String × Json) → List String
  | [] => []
  | (k, v) :: rest =>
      (indent level ++ quote k ++ ": " ++ prettyAt level v) :: prettyMembers level rest

end

def pretty (j : Json) : String := prettyAt 0 j

end Json
end AdaptiveRules
