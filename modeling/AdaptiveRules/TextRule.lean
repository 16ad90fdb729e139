import AdaptiveRules.MatchFailure
import AdaptiveRules.MatchInstance
import AdaptiveRules.RegexParser
import AdaptiveRules.RegexSearch

/-!
# Text rules

A text rule is a regular expression that has been read, together with its source.  Lines are
anchored one by one and `.` takes line ends too.  `relaxed` and `moreSpecific` rewrite the source of
a rule, character for character, into one meant to take more or less.
-/

namespace AdaptiveRules

structure TextRule where
  source : String
  core : Regex.Core
  program : Regex.Program

namespace TextRule

def ofCore (source : String) (core : Regex.Core) : TextRule :=
  ⟨source, core, .ofCore core⟩

def compileWith (flags : Regex.Flags) (source : String) : Except Regex.RegexError TextRule := do
  return ofCore source (← Regex.parse flags source)

def compile (source : String) : Except Regex.RegexError TextRule :=
  compileWith .multiLineDotAll source

/-- The number of the last capture group. -/
def groupCount (rule : TextRule) : Nat :=
  rule.core.groups.foldl (fun acc g => max acc g.1) 0

/-- The groups that have names, with their numbers. -/
def names (rule : TextRule) : List (String × Nat) :=
  rule.core.groups.filterMap fun g => g.2.map (·, g.1)

def instanceOf (rule : TextRule) (found : Regex.Found) : MatchInstance :=
  { MatchInstance.plain found.text found.start.offset found.stop.offset with
    groups := (List.range rule.groupCount).map fun i => found.group (i + 1)
    namedGroups := Dict.ofList
      (rule.names.filterMap fun n => (found.group n.2).map (n.1, ·)) }

/-- All matches in a text, or a failure if there are more than `limit`. -/
def findAll (rule : TextRule) (text : String) (limit : Nat) :
    Except MatchError (List MatchInstance) :=
  let cs := text.toList
  let fuel := Regex.searchFuel rule.program (TextLines.byteSize cs)
  match Regex.allFrom rule.program fuel limit (.start cs) none with
  | some found => .ok (found.map rule.instanceOf)
  | none => .error (.matchLimit limit)

def isMatch (rule : TextRule) (text : String) : Bool :=
  let cs := text.toList
  let fuel := Regex.searchFuel rule.program (TextLines.byteSize cs)
  (Regex.firstAt rule.program fuel (.start cs)).isSome

/-- A rule without anchors that may repeat things any number of times. -/
def relaxed (rule : String) : String :=
  let cs := TextLines.replace "\x7b2,\x7d".toList ['*'] rule.toList
  let cs := cs.map fun c => if c = '+' then '*' else c
  String.ofList (cs.filter fun c => c != '^' && c != '$')

/-- A rule whose greedy wildcards stay on their line and whose words are identifiers. -/
def moreSpecific (rule : String) : String :=
  let cs := TextLines.replace ".*".toList "[^\\n]*".toList rule.toList
  let cs := TextLines.replace ".+".toList "[^\\n]+".toList cs
  String.ofList (TextLines.replace "\\w+".toList "[a-zA-Z_][a-zA-Z0-9_]*".toList cs)

end TextRule
end AdaptiveRules
