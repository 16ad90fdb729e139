import AdaptiveRules.CharSet
import AdaptiveRules.UnicodeBinaryProperties
import AdaptiveRules.UnicodeCaseFolding
import AdaptiveRules.UnicodeCategories
import AdaptiveRules.UnicodeScriptExtensions
import AdaptiveRules.UnicodeScripts
import AdaptiveRules.UnicodeWords

/-!
# Character properties by name

Properties are looked up under loose names: case, blanks, hyphens and underscores do not count, nor
does a leading `is`.  A bare name is a yes-or-no property, else a general category, else a script.
With a value, the property has to be the general category, the script or the script extensions.
-/

namespace AdaptiveRules
namespace UnicodeProperties

open UnicodeCategories

/-- The base categories, each under its names. -/
def baseCategories : List (List String × List (Nat × Nat)) :=
  [(["cc", "control", "cntrl"], control),
   (["cf", "format"], format),
   (["co", "privateuse"], privateUse),
   (["cs", "surrogate"], [(0xD800, 0xDFFF)]),
   (["ll", "lowercaseletter"], lowercaseLetter),
   (["lm", "modifierletter"], modifierLetter),
   (["lo", "otherletter"], otherLetter),
   (["lt", "titlecaseletter"], titlecaseLetter),
   (["lu", "uppercaseletter"], uppercaseLetter),
   (["mc", "spacingmark"], spacingMark),
   (["me", "enclosingmark"], enclosingMark),
   (["mn", "nonspacingmark"], nonspacingMark),
   (["nd", "decimalnumber", "digit"], decimalNumber),
   (["nl", "letternumber"], letterNumber),
   (["no", "othernumber"], otherNumber),
   (["pc", "connectorpunctuation"], connectorPunctuation),
   (["pd", "dashpunctuation"], dashPunctuation),
   (["pe", "closepunctuation"], closePunctuation),
   (["pf", "finalpunctuation"], finalPunctuation),
   (["pi", "initialpunctuation"], initialPunctuation),
   (["po", "otherpunctuation"], otherPunctuation),
   (["ps", "openpunctuation"], openPunctuation),
   (["sc", "currencysymbol"], currencySymbol),
   (["sk", "modifiersymbol"], modifierSymbol),
   (["sm", "mathsymbol"], mathSymbol),
   (["so", "othersymbol"], otherSymbol),
   (["zl", "lineseparator"], lineSeparator),
   (["zp", "paragraphseparator"], paragraphSeparator),
   (["zs", "spaceseparator"], spaceSeparator)]

def named (name : String) (table : List (List String × List (Nat × Nat))) : Option CharSet :=
  (table.find? fun entry => entry.1.contains name).map fun entry => ⟨entry.2⟩

/-- The union of the base categories with the given short names. -/
def unionOf (names : List String) : CharSet :=
  names.foldl (fun acc name => ((named name baseCategories).getD .empty).union acc) .empty

/-- Everything that some base category lists. -/
def assigned : CharSet :=
  baseCategories.foldl (fun acc entry => CharSet.union ⟨entry.2⟩ acc) .empty

def groupedCategory (name : String) : Option CharSet :=
  if name ∈ ["l", "letter"] then some (unionOf ["ll", "lm", "lo", "lt", "lu"])
  else if name ∈ ["lc", "casedletter"] then some (unionOf ["ll", "lt", "lu"])
  else if name ∈ ["m", "mark", "combiningmark"] then some (unionOf ["mc", "me", "mn"])
  else if name ∈ ["n", "number"] then some (unionOf ["nd", "nl", "no"])
  else if name ∈ ["p", "punctuation", "punct"] then
    some (unionOf ["pc", "pd", "pe", "pf", "pi", "po", "ps"])
  else if name ∈ ["s", "symbol"] then some (unionOf ["sc", "sk", "sm", "so"])
  else if name ∈ ["z", "separator"] then some (unionOf ["zl", "zp", "zs"])
  else if name ∈ ["cn", "unassigned"] then some assigned.complement
  else if name ∈ ["c", "other"] then
    some ((unionOf ["cc", "cf", "co", "cs"]).union assigned.complement)
  else if name = "any" then some (CharSet.empty.complement)
  else if name = "assigned" then some assigned
  else if name = "ascii" then some (CharSet.range 0 127)
  else none

def category (name : String) : Option CharSet :=
  (groupedCategory name).orElse fun _ => named name baseCategories

def script (name : String) : Option CharSet :=
  named name UnicodeScripts.table

def scriptExtension (name : String) : Option CharSet :=
  named name UnicodeScriptExtensions.table

/-- A name in lower case, without blanks, hyphens, underscores and characters beyond ASCII.  A
leading `is` falls away, except in `isc`, which is a name of its own. -/
def looseName (name : String) : String :=
  let lowered := name.toList.map Char.toLower
  let bare (cs : List Char) : List Char :=
    cs.filter fun c => c.toNat < 128 && c != ' ' && c != '_' && c != '-'
  match lowered with
  | 'i' :: 's' :: rest =>
      if bare rest == ['c'] then "isc" else String.ofList (bare rest)
  | _ => String.ofList (bare lowered)

/-- Names of properties that have a value other than yes or no. -/
def valuedNames : List String :=
  ["age", "blk", "block", "ccc", "canonicalcombiningclass", "gc", "generalcategory", "gcb",
    "graphemeclusterbreak", "script", "scx", "scriptextensions", "wb", "wordbreak", "sb",
    "sentencebreak", "na", "name", "nt", "nv", "bc", "dt", "ea", "jt", "jg", "lb", "hst"]

/-- The characters that answer to a bare name. -/
def byName (name : String) : Option CharSet :=
  let n := looseName name
  match named n UnicodeBinaryProperties.table with
  | some s => some s
  | none =>
      if n ∈ valuedNames then none
      else (category n).orElse fun _ => script n

/-- The characters for which the property has the value. -/
def byValue (property value : String) : Option CharSet :=
  let p := looseName property
  let v := looseName value
  if p ∈ ["gc", "generalcategory"] then category v
  else if p ∈ ["sc", "script"] then script v
  else if p ∈ ["scx", "scriptextensions"] then scriptExtension v
  else none

def word : CharSet := ⟨UnicodeWords.word⟩
def digit : CharSet := ⟨decimalNumber⟩
def whiteSpace : CharSet := ⟨UnicodeBinaryProperties.whiteSpace⟩
def alphabetic : CharSet := ⟨UnicodeBinaryProperties.alphabetic⟩

/-- Decimal digits, letter-like numbers and all other numbers. -/
def numeric : CharSet := unionOf ["nd", "nl", "no"]

/-- Adds, for each member, the characters that differ from it only in case. -/
def closeUnderCase (s : CharSet) : CharSet :=
  s.closeUnder UnicodeCaseFolding.classes

def isWhiteSpace (c : Char) : Bool := whiteSpace.contains c
def isAlphabetic (c : Char) : Bool := alphabetic.contains c
def isNumeric (c : Char) : Bool := numeric.contains c
def isAlphanumeric (c : Char) : Bool := isAlphabetic c || isNumeric c
def isWordChar (c : Char) : Bool := word.contains c

end UnicodeProperties
end AdaptiveRules
