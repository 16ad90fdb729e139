import AdaptiveRules.Insights

/-!
# A report on what was learned

The report lists the totals and then, where there are any, the variations of each pattern, the
improvements with their time, and the projects with the number of matches in them.
-/

namespace AdaptiveRules
namespace InsightsReport

def totals (s : Insights) : String :=
  "**Projects Analyzed:** " ++ toString s.metrics.projectsAnalyzed ++
    "\n**Patterns Improved:** " ++ toString s.metrics.patternsImproved ++
    "\n**Known Variations:** " ++ toString s.totalVariations ++ "\n\n"

def variationLines (pattern : String) (variations : List String) : String :=
  "### " ++ pattern ++ "\n" ++ String.join (variations.map fun v => "- `" ++ v ++ "`\n") ++ "\n"

def improvementLine (pattern : String) (i : Improvement) : String :=
  "- **" ++ pattern ++ "** (" ++ i.time.toMinuteText ++ "): `" ++
    (if i.original.isEmpty then "(none)" else i.original) ++ "` → `" ++ i.improved ++ "`\n"

def projectLine (project : String) (p : ProjectInsight) : String :=
  "- **" ++ project ++ "**: " ++ toString p.fileCount ++ " files, " ++
    toString (p.patternCounts.values.foldl Nat.add 0) ++ " matches\n"

/-- A section with a text for each entry; nothing if there are no entries. -/
def part (title : String) (d : Dict α) (f : String → α → String) (close : String) : String :=
  if d.isEmpty then ""
  else "## " ++ title ++ "\n\n" ++ String.join (d.entries.map fun e => f e.1 e.2) ++ close

def text (s : Insights) : String :=
  "# Padrão Insights\n\n" ++ totals s ++
    part "Variations" s.variations variationLines "" ++
    part "Improvements" s.improvements
      (fun pattern log => String.join (log.map (improvementLine pattern))) "\n" ++
    part "Projects" s.projects projectLine ""

end InsightsReport
end AdaptiveRules
