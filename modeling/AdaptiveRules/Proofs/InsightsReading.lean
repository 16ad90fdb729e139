import AdaptiveRules.Proofs.ExportReading

/-!
# Insights are read back

Insights are written with indentation into files and without blanks into rows of a database.  From
either text they are read back as they were, field by field, whatever names, rules and times they
hold.  Only the rates depend on whether the texts of numbers are read back as those numbers.
-/

namespace AdaptiveRules

open JsonParser Json

variable {f : Float → Float} {depth : Nat}

namespace ProjectInsight

/-- The counters fit into 64 bits, and the time is in the calendar. -/
structure Bounded (p : ProjectInsight) : Prop where
  fileCount : p.fileCount < UInt64.size
  patternCounts : ∀ n ∈ p.patternCounts.values, n < UInt64.size
  time : p.time.InCalendar

variable {p : ProjectInsight}

theorem legible_toJson (hp : p.Bounded) (hdepth : 1 < depth) : p.toJson.Legible f depth := by
  have hcounter : ∀ {depth n}, n < UInt64.size → (Json.ofNat n).Legible f depth :=
    fun hn => ⟨Int.natCast_nonneg _, hn⟩
  refine ⟨by omega, hcounter hp.fileCount, ?_, trivial, trivial⟩
  exact legible_ofDict (by omega) fun n hn => hcounter (hp.patternCounts n hn)

theorem mapFloats_toJson (p : ProjectInsight) : p.toJson.mapFloats f = p.toJson := by
  have hcounts : (Json.ofDict .ofNat p.patternCounts).mapFloats f =
      .ofDict .ofNat p.patternCounts := mapFloats_ofDict ..
  simp only [toJson, mapFloats, mapMembers, hcounts]
  rfl

theorem ofJson?_toJson (hp : p.Bounded) : ofJson? p.toJson = some p := by
  have hfields : p.toJson.asRecord? ["file_count", "pattern_counts", "timestamp"] =
      some [("file_count", .ofNat p.fileCount), ("pattern_counts", .ofDict .ofNat p.patternCounts),
        ("timestamp", p.time.toJson)] := rfl
  have hcounts : (Json.ofDict .ofNat p.patternCounts).asDict? (·.asNat? 64) =
      some p.patternCounts :=
    asDict?_ofDict fun n hn => asNat?_ofNat (hp.patternCounts n hn)
  unfold ofJson?
  refine (bind_of_eq_some hfields _).trans ?_
  refine (bind_of_eq_some (Fields.required_eq (by rfl) (asNat?_ofNat hp.fileCount)) _).trans ?_
  refine (bind_of_eq_some (Fields.required_eq (by rfl) hcounts) _).trans ?_
  refine (bind_of_eq_some
    (Fields.required_eq (by rfl) (Instant.ofJson?_toJson hp.time)) _).trans ?_
  rfl

end ProjectInsight

namespace Insights

variable {s : Insights}

/-- The counters fit into 64 bits, and all times are in the calendar. -/
structure Bounded (s : Insights) : Prop where
  projects : ∀ p ∈ s.projects.values, p.Bounded
  improvements : ∀ log ∈ s.improvements.values, ∀ i ∈ log, i.time.InCalendar
  metrics : s.metrics.Bounded
  saved : ∀ t ∈ s.saved, t.InCalendar

theorem legible_toJson (hs : s.Bounded) (hrates : s.metrics.ReadsRates f) (hdepth : 3 < depth) :
    s.toJson.Legible f depth := by
  have hprojects : (Json.ofDict ProjectInsight.toJson s.projects).Legible f (depth - 1) :=
    legible_ofDict (by omega) fun p hp => ProjectInsight.legible_toJson (hs.projects p hp) (by omega)
  have himprovements : (Json.ofDict (.ofList Improvement.toJson) s.improvements).Legible f
      (depth - 1) :=
    legible_ofDict (by omega) fun _ _ => legible_ofList (by omega) fun _ _ =>
      ⟨by omega, trivial, trivial, trivial, trivial, trivial⟩
  have hvariations : (Json.ofDict .ofStrings s.variations).Legible f (depth - 1) :=
    legible_ofDict (by omega) fun _ _ => legible_ofStrings (by omega)
  have hsaved : (Json.ofOption Instant.toJson s.saved).Legible f (depth - 1) := by
    cases s.saved <;> exact trivial
  exact ⟨by omega, hprojects, himprovements, legible_ofStrings (by omega), hvariations,
    LearningMetrics.legible_toJson hs.metrics hrates (by omega), hsaved, trivial⟩

theorem mapFloats_toJson (f : Float → Float) (s : Insights) :
    s.toJson.mapFloats f = { s with metrics := s.metrics.mapRates f }.toJson := by
  have hprojects : (Json.ofDict ProjectInsight.toJson s.projects).mapFloats f =
      .ofDict ProjectInsight.toJson s.projects := by
    rw [mapFloats_ofDict]
    simp only [ProjectInsight.mapFloats_toJson]
  have himprovements : (Json.ofDict (.ofList Improvement.toJson) s.improvements).mapFloats f =
      .ofDict (.ofList Improvement.toJson) s.improvements := by
    rw [mapFloats_ofDict]
    simp only [mapFloats_ofList]
    rfl
  have hvariations : (Json.ofDict .ofStrings s.variations).mapFloats f =
      .ofDict .ofStrings s.variations := by
    rw [mapFloats_ofDict]
    simp only [mapFloats_ofStrings]
  have hsaved : (Json.ofOption Instant.toJson s.saved).mapFloats f =
      .ofOption Instant.toJson s.saved := by
    cases s.saved <;> rfl
  simp only [toJson, mapFloats, mapMembers, hprojects, himprovements, mapFloats_ofStrings,
    hvariations, LearningMetrics.mapFloats_toJson, hsaved]

theorem names?_ofStrings (names : Dict Unit) : names? (.ofStrings names.keys) = some names := by
  have htexts : texts? (.ofStrings names.keys) = some names.keys := asList?_ofList fun _ _ => rfl
  have hentries : names.keys.map (·, ()) = names.entries := by
    rw [Dict.keys, List.map_map]
    exact List.map_id _
  rw [names?, htexts, Option.map_some, hentries, Dict.ofList_entries]

theorem ofJson?_toJson (hs : s.Bounded) (now : Instant) :
    ofJson? now { s with metrics := s.metrics.mapRates f }.toJson =
      some { s with metrics := s.metrics.mapRates f } := by
  have hfields : { s with metrics := s.metrics.mapRates f }.toJson.asRecord? fieldNames =
      some [("project_insights", .ofDict ProjectInsight.toJson s.projects),
        ("pattern_improvements", .ofDict (.ofList Improvement.toJson) s.improvements),
        ("training_projects", .ofStrings s.trained.keys),
        ("pattern_variations", .ofDict .ofStrings s.variations),
        ("metrics", (s.metrics.mapRates f).toJson),
        ("timestamp", .ofOption Instant.toJson s.saved)] := rfl
  have hprojects : (Json.ofDict ProjectInsight.toJson s.projects).asDict? ProjectInsight.ofJson? =
      some s.projects :=
    asDict?_ofDict fun p hp => ProjectInsight.ofJson?_toJson (hs.projects p hp)
  have himprovements : improvements? (.ofDict (.ofList Improvement.toJson) s.improvements) =
      some s.improvements :=
    asDict?_ofDict fun log hlog => asList?_ofList fun i hi =>
      Improvement.ofJson?_toJson (hs.improvements log hlog i hi)
  have hvariations : (Json.ofDict .ofStrings s.variations).asDict? texts? = some s.variations :=
    asDict?_ofDict fun _ _ => asList?_ofList fun _ _ => rfl
  have hsaved : Json.asOption? Instant.ofJson? (.ofOption Instant.toJson s.saved) =
      some s.saved := by
    cases htime : s.saved with
    | none => rfl
    | some t =>
        have hread : Instant.ofJson? t.toJson = some t := Instant.ofJson?_toJson (hs.saved t htime)
        show (Instant.ofJson? t.toJson).map some = some (some t)
        rw [hread, Option.map_some]
  unfold ofJson?
  refine (bind_of_eq_some hfields _).trans ?_
  refine (bind_of_eq_some (Fields.orElse_eq (by rfl) hprojects _) _).trans ?_
  refine (bind_of_eq_some (Fields.orElse_eq (by rfl) himprovements _) _).trans ?_
  refine (bind_of_eq_some (Fields.orElse_eq (by rfl) (names?_ofStrings s.trained) _) _).trans ?_
  refine (bind_of_eq_some (Fields.orElse_eq (by rfl) hvariations _) _).trans ?_
  refine (bind_of_eq_some
    (Fields.orElse_eq (by rfl) (LearningMetrics.ofJson?_toJson hs.metrics now) _) _).trans ?_
  refine (bind_of_eq_some (Fields.optional_eq (by rfl) hsaved) _).trans ?_
  rfl

theorem mapRates_id (s : Insights) : { s with metrics := s.metrics.mapRates id } = s := by
  have hkept : ∀ d : Dict Float, d.map id = d := fun d => Dict.ext_entries (List.map_id _)
  rw [LearningMetrics.mapRates, hkept, hkept]

/-- What is written into a file is read back from it, but for what becomes of the rates. -/
theorem ofText?_toText_mapRates (hs : s.Bounded) (hrates : s.metrics.ReadsRates f)
    (now : Instant) : ofText? now s.toText = some { s with metrics := s.metrics.mapRates f } := by
  rw [ofText?, toText, parse?_pretty (legible_toJson hs hrates (by decide)), Option.bind_some,
    mapFloats_toJson, ofJson?_toJson hs]

/-- What is written into a row is read back from it, but for what becomes of the rates. -/
theorem ofText?_compress_mapRates (hs : s.Bounded) (hrates : s.metrics.ReadsRates f)
    (now : Instant) :
    ofText? now s.toJson.compress = some { s with metrics := s.metrics.mapRates f } := by
  rw [ofText?, parse?_compress (legible_toJson hs hrates (by decide)), Option.bind_some,
    mapFloats_toJson, ofJson?_toJson hs]

theorem ofText?_toText (hs : s.Bounded) (hrates : s.metrics.ReadsRates id) (now : Instant) :
    ofText? now s.toText = some s := by
  rw [ofText?_toText_mapRates hs hrates, mapRates_id]

theorem ofText?_compress (hs : s.Bounded) (hrates : s.metrics.ReadsRates id) (now : Instant) :
    ofText? now s.toJson.compress = some s := by
  rw [ofText?_compress_mapRates hs hrates, mapRates_id]

end Insights
end AdaptiveRules
