import AdaptiveRules.MatchInstance
import AdaptiveRules.Sha256

/-!
# Where a rule is applied

A context says which file a source comes from and what is known about it.  Its key names the group of
calls that are counted together; the file, which may hold any characters, stands first in it.
-/

namespace AdaptiveRules

inductive ParserKind
  | treeSitter
  | custom
  | unknown
  deriving DecidableEq

namespace ParserKind

def name : ParserKind → String
  | treeSitter => "tree_sitter"
  | custom => "custom"
  | unknown => "unknown"

def ofName? : String → Option ParserKind
  | "tree_sitter" => some treeSitter
  | "custom" => some custom
  | "unknown" => some unknown
  | _ => none

def all : List ParserKind := [treeSitter, custom, unknown]

end ParserKind

structure MatchContext where
  file : String
  dependencies : List String
  projectPatterns : List String
  parser : ParserKind
  language : String
  blocks : List Block
  metadata : Dict Json

namespace MatchContext

def ofFile (file language : String) (parser : ParserKind) : MatchContext :=
  ⟨file, [], [], parser, language, [], .empty⟩

/-- How many different dependencies there are. -/
def dependencyCount (c : MatchContext) : Nat := c.dependencies.eraseDups.length

def key (c : MatchContext) : String :=
  c.file ++ ":" ++ toString c.dependencyCount ++ ":" ++ toString c.projectPatterns.length ++ ":" ++
    c.parser.name ++ ":" ++ c.language

def setMetadata (c : MatchContext) (name : String) (value : Json) : MatchContext :=
  { c with metadata := c.metadata.insert name value }

/-- The key under which the matches of a source are kept: digest, context and parser. -/
def cacheKey (source contextKey : String) (parser : ParserKind) : String :=
  Sha256.hex source ++ ":" ++ contextKey ++ ":" ++ parser.name

end MatchContext
end AdaptiveRules
