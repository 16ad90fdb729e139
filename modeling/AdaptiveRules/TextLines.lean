import AdaptiveRules.UnicodeProperties

/-!
# Blanks and lines

A text is blank if all its characters have the white space property.  Lines end at a line feed,
which is not part of the line, nor is a carriage return right before it.  Text after the last line
feed is a line if there is any.
-/

namespace AdaptiveRules
namespace TextLines

def isBlankList (cs : List Char) : Bool := cs.all UnicodeProperties.isWhiteSpace

def isBlank (s : String) : Bool := isBlankList s.toList

/-- Drops one carriage return at the head. -/
def dropReturn : List Char → List Char
  | '\r' :: rest => rest
  | cs => cs

/-- The lines of a text, given what was read of the first one, last character first. -/
def linesFrom : List Char → List Char → List (List Char)
  | taken, [] => if taken.isEmpty then [] else [taken.reverse]
  | taken, c :: rest =>
      if c = '\n' then (dropReturn taken).reverse :: linesFrom [] rest
      else linesFrom (c :: taken) rest

def lines (cs : List Char) : List (List Char) := linesFrom [] cs

/-- The number of bytes of UTF-8 that the characters take. -/
def byteSize (cs : List Char) : Nat := cs.foldr (fun c size => c.utf8Size + size) 0

def trimEnd (cs : List Char) : List Char :=
  (cs.reverse.dropWhile UnicodeProperties.isWhiteSpace).reverse

def trimStart (cs : List Char) : List Char := cs.dropWhile UnicodeProperties.isWhiteSpace

def trim (cs : List Char) : List Char := trimEnd (trimStart cs)

/-- The word occurs in the text. -/
def occursIn (word : List Char) : List Char → Bool
  | [] => word.isEmpty
  | c :: rest => word.isPrefixOf (c :: rest) || occursIn word rest

/-- Replaces every occurrence of a word from left to right.  The fuel bounds the number of steps. -/
def replaceFrom (word by_ : List Char) : Nat → List Char → List Char
  | 0, cs => cs
  | _ + 1, [] => []
  | fuel + 1, c :: rest =>
      if word.isPrefixOf (c :: rest) then
        by_ ++ replaceFrom word by_ fuel ((c :: rest).drop word.length)
      else c :: replaceFrom word by_ fuel rest

/-- Replaces every occurrence of a word, which is not empty, from left to right. -/
def replace (word by_ : List Char) (cs : List Char) : List Char :=
  replaceFrom word by_ cs.length cs

end TextLines
end AdaptiveRules
