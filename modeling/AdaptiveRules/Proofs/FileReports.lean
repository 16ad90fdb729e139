import AdaptiveRules.Proofs.BestVariations
import AdaptiveRules.Proofs.CatalogPatterns
import AdaptiveRules.Proofs.CommandRuns
import AdaptiveRules.Proofs.InsightsConsistency

/-!
# Reports on files

A report has one list for each name.  Patterns of one name that apply to a file are one for its
language and one for any language, and the list holds what the later of them finds.  What the earlier
one finds is missing unless the later one finds it too.
-/

namespace AdaptiveRules

namespace MatchReport

variable {patterns : List Pattern} {source name language : String} {context : MatchContext}
  {now : Instant} {m : MatchInstance} {p q : Pattern}

/-- The patterns that apply to files of a language. -/
def applied (patterns : List Pattern) (language : String) : List Pattern :=
  patterns.filter fun p => FileLanguage.applies p.language language

/-- The last pattern of a name among those that apply to files of a language. -/
def lastNamed? (patterns : List Pattern) (language name : String) : Option Pattern :=
  ((applied patterns language).filter fun p => p.name == name).getLast?

/-- The report has the match in its list for the name. -/
def Shows (report : Json) (name : String) (m : MatchInstance) : Prop :=
  ∃ items, report.member? name = some (.arr items) ∧ m.toJson.canonical ∈ items

theorem mem_applied :
    p ∈ applied patterns language ↔
      p ∈ patterns ∧ (p.language = FileLanguage.any ∨ p.language = language) := by
  simp [applied, FileLanguage.applies]

theorem ofPatterns_eq (patterns : List Pattern) (source : String) (context : MatchContext)
    (now : Instant) :
    ofPatterns patterns source context now =
      Dict.ofList ((applied patterns context.language).map fun p =>
        (p.name, found p source context now)) := by
  unfold ofPatterns Dict.ofList applied
  rw [List.foldl_map, List.foldl_filter]
  rfl

theorem get?_ofPatterns (patterns : List Pattern) (source : String) (context : MatchContext)
    (now : Instant) (name : String) :
    (ofPatterns patterns source context now).get? name =
      (lastNamed? patterns context.language name).map fun p => found p source context now := by
  rw [ofPatterns_eq, Dict.get?_ofList, List.filter_map, List.getLast?_map, Option.map_map]
  rfl

theorem member?_toJson (report : Dict (List MatchInstance)) (name : String) :
    (toJson report).member? name =
      (report.get? name).map (Json.ofList fun m => m.toJson.canonical) :=
  Dict.get?_map _ report name

theorem shows_iff :
    Shows (toJson (ofPatterns patterns source context now)) name m ↔
      ∃ last, lastNamed? patterns context.language name = some last ∧
        ∃ m' ∈ found last source context now, m'.toJson.canonical = m.toJson.canonical := by
  unfold Shows
  rw [member?_toJson, get?_ofPatterns]
  cases lastNamed? patterns context.language name with
  | none => simp
  | some last => simp [Json.ofList]

theorem of_lastNamed? (hlast : lastNamed? patterns language name = some q) :
    q ∈ applied patterns language ∧ q.name = name := by
  have hmem := List.mem_of_getLast? hlast
  simpa using List.mem_filter.mp hmem

theorem exists_lastNamed? (hp : p ∈ applied patterns language) :
    ∃ last, lastNamed? patterns language p.name = some last := by
  cases hlast : lastNamed? patterns language p.name with
  | some last => exact ⟨last, rfl⟩
  | none =>
      have hnone := List.getLast?_eq_none_iff.mp hlast
      have hmem : p ∈ (applied patterns language).filter fun q => q.name == p.name := by
        simp [hp]
      rw [hnone] at hmem
      cases hmem

/-- Applied patterns of one name and one language are one pattern. -/
theorem eq_of_identity (hnodup : (patterns.map Pattern.identity).Nodup)
    (hp : p ∈ applied patterns language) (hq : q ∈ applied patterns language)
    (hname : q.name = p.name) (hlanguage : q.language = p.language) : q = p := by
  have hidentity : q.identity = p.identity := Prod.ext hname hlanguage
  exact List.inj_on_of_nodup_map hnodup (mem_applied.mp hq).1 (mem_applied.mp hp).1 hidentity

/-- A report has all that is found exactly if a pattern that stands for its name finds all that the
pattern of the other language finds. -/
theorem shows_all_iff (hnodup : (patterns.map Pattern.identity).Nodup) (source : String)
    (context : MatchContext) (now : Instant) :
    (∀ p ∈ applied patterns context.language, ∀ m ∈ found p source context now,
        Shows (toJson (ofPatterns patterns source context now)) p.name m) ↔
      ∀ p ∈ applied patterns context.language, ∀ last,
        lastNamed? patterns context.language p.name = some last → last.language ≠ p.language →
        ∀ m ∈ found p source context now, ∃ m' ∈ found last source context now,
          m'.toJson.canonical = m.toJson.canonical := by
  constructor
  · intro hall p hp last hlast _ m hm
    rcases shows_iff.mp (hall p hp m hm) with ⟨q, hq, m', hm', hsame⟩
    rw [hlast] at hq
    cases hq
    exact ⟨m', hm', hsame⟩
  · intro hothers p hp m hm
    rcases exists_lastNamed? hp with ⟨last, hlast⟩
    apply shows_iff.mpr
    by_cases hlanguage : last.language = p.language
    · have hlastOf := of_lastNamed? hlast
      have heq := eq_of_identity hnodup hp hlastOf.1 hlastOf.2 hlanguage
      exact ⟨last, hlast, m, heq ▸ hm, rfl⟩
    · exact ⟨last, hlast, hothers p hp last hlast hlanguage m hm⟩

end MatchReport

namespace CommandLine

open ProjectLearning

variable {c : Configuration} {file source : String} {name : Option String} {s : Shell}
  {patterns chosen : List Pattern}

theorem sublist_of_selected (hchosen : selected patterns name = .ok chosen) :
    chosen.Sublist patterns := by
  unfold selected at hchosen
  split at hchosen
  · cases hchosen
    exact .refl _
  · split at hchosen
    · cases hchosen
    · cases hchosen
      exact List.filter_sublist

theorem run_apply (hsource : s.files.readText file = .ok source)
    (hpatterns : Catalog.patterns c .none s.now = .ok patterns)
    (hchosen : selected patterns name = .ok chosen) :
    (apply c file name).run.run s =
      (.ok (), { s with shown := s.shown ++ ((MatchReport.toJson (MatchReport.ofPatterns chosen source
        (MatchContext.ofFile file (FileLanguage.ofPath file) .custom) s.now)).pretty ++ "\n") }) := by
  unfold apply
  rw [run_bind, Work.run_readText, hsource]
  simp only [Except.mapError]
  rw [run_bind, run_get]
  simp only [run_bind, Work.run_ofExcept, hpatterns, hchosen]
  exact Work.run_line _ s

/-- The match command prints, under the name of each pattern that applies to the file, what the last
pattern of that name finds, and nothing else.  So it loses no match exactly if, where a pattern for
the language of the file and one for any language share a name, the later one finds what the earlier
one finds. -/
theorem apply_shows_last (hsource : s.files.readText file = .ok source)
    (hpatterns : Catalog.patterns c .none s.now = .ok patterns)
    (hchosen : selected patterns name = .ok chosen) :
    let language := FileLanguage.ofPath file
    let found := fun p =>
      MatchReport.found p source (MatchContext.ofFile file language .custom) s.now
    ∃ report : Json,
      (apply c file name).run.run s =
          (.ok (), { s with shown := s.shown ++ (report.pretty ++ "\n") }) ∧
      (∀ p ∈ MatchReport.applied chosen language, ∃ last,
        MatchReport.lastNamed? chosen language p.name = some last ∧
          report.member? p.name = some (.ofList (fun m => m.toJson.canonical) (found last))) ∧
      ((∀ p ∈ MatchReport.applied chosen language, ∀ m ∈ found p,
          MatchReport.Shows report p.name m) ↔
        ∀ p ∈ MatchReport.applied chosen language, ∀ last,
          MatchReport.lastNamed? chosen language p.name = some last → last.language ≠ p.language →
          ∀ m ∈ found p, ∃ m' ∈ found last, m'.toJson.canonical = m.toJson.canonical) := by
  intro language found
  have hidentities : (chosen.map Pattern.identity).Nodup := by
    have hall := Catalog.nodup_identities hpatterns
    rw [← CatalogEntry.map_identity_of_owns (Catalog.owns_of_patterns hpatterns)] at hall
    exact hall.sublist ((sublist_of_selected hchosen).map _)
  have hcomplete := MatchReport.shows_all_iff hidentities source
    (MatchContext.ofFile file language .custom) s.now
  refine ⟨_, run_apply hsource hpatterns hchosen, ?_, hcomplete⟩
  intro p hp
  rcases MatchReport.exists_lastNamed? hp with ⟨last, hlast⟩
  have hlist := MatchReport.get?_ofPatterns chosen source
    (MatchContext.ofFile file language .custom) s.now p.name
  refine ⟨last, hlast, ?_⟩
  rw [MatchReport.member?_toJson, hlist]
  simp only [MatchContext.ofFile, hlast, Option.map_some]
  rfl

/-- A pattern for any language and one for a single language, both of one name. -/
def overlapping : Configuration :=
  { Configuration.standard with patterns :=
    [{ CatalogEntry.ofRule "w" "a" with mode := .base },
      { CatalogEntry.ofRule "w" "b" with language := "rust", mode := .base }] }

def shellWith (path content : String) : Shell :=
  ⟨⟨Dict.empty.insert path (.text content), []⟩, "", [], ⟨0, 0⟩⟩

/-- What the pattern for any language finds is not in the report. -/
theorem apply_shows_last_overlapping :
    ∃ (p q : Pattern) (report : Json),
      Catalog.patterns overlapping .none ⟨0, 0⟩ = .ok [p, q] ∧
      p.name = "w" ∧ FileLanguage.applies p.language "rust" = true ∧
      MatchReport.found p "ab" (MatchContext.ofFile "x.rs" "rust" .custom) ⟨0, 0⟩ =
        [MatchInstance.plain "a" 0 1] ∧
      (apply overlapping "x.rs" none).run.run (shellWith "/x.rs" "ab") =
        (.ok (), { shellWith "/x.rs" "ab" with shown := "" ++ (report.pretty ++ "\n") }) ∧
      ¬ MatchReport.Shows report "w" (MatchInstance.plain "a" 0 1) := by
  obtain ⟨report, hrun, hlists, _⟩ :=
    @apply_shows_last overlapping "x.rs" "ab" none (shellWith "/x.rs" "ab") _ _ rfl rfl rfl
  refine ⟨_, _, report, rfl, rfl, rfl, rfl, hrun, ?_⟩
  rintro ⟨items, hitems, hmem⟩
  obtain ⟨last, hlast, hlist⟩ := hlists _ (List.mem_of_mem_head? rfl)
  cases hlast
  have hfound : report.member? "w" =
      some (.arr [(MatchInstance.plain "b" 1 2).toJson.canonical]) := hlist
  rw [hitems] at hfound
  cases hfound
  have htexts : some (Json.str "a") = some (Json.str "b") :=
    congrArg (fun j : Json => j.member? "text") (List.mem_singleton.mp hmem)
  simp at htexts

end CommandLine
end AdaptiveRules
