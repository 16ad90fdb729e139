import AdaptiveRules.Learner

/-!
# Writing rules back

What patterns have learned is written into the configuration they were made from.  An entry belongs to
the first pattern of its name if it has the language of that pattern too.  Structural patterns keep
their queries; the text rule they learned only helps those out.
-/

namespace AdaptiveRules

/-- A configuration into which some rules were written. -/
structure WriteBack where
  configuration : Configuration
  written : Nat

namespace WriteBack

/-- An entry that is to have the rule of a pattern and has another one. -/
def isStale (p : Pattern) (e : CatalogEntry) : Bool :=
  e.name == p.name && e.language == p.language && e.rule != p.textRule

/-- Replaces the rule of the first stale entry; none if there is no such entry. -/
def replaceRule (p : Pattern) : List CatalogEntry → Option (List CatalogEntry)
  | [] => none
  | e :: rest =>
      if isStale p e then some ({ e with rule := p.textRule } :: rest)
      else (replaceRule p rest).map (e :: ·)

def add (w : WriteBack) (p : Pattern) : WriteBack :=
  if p.core.body.isStructural then w
  else
    match replaceRule p w.configuration.patterns with
    | some patterns => ⟨{ w.configuration with patterns }, w.written + 1⟩
    | none => w

/-- Writes the rules of the first patterns of some names. -/
def ofNames (c : Configuration) (l : Learner) (names : List String) : WriteBack :=
  (names.filterMap l.pattern?).foldl add ⟨c, 0⟩

end WriteBack
end AdaptiveRules
