import AdaptiveRules.InsightsExchange
import AdaptiveRules.Proofs.JsonWriting
import AdaptiveRules.Proofs.TimeReading

/-!
# Exports are read back

An export whose counters fit into 64 bits, whose times are in the calendar and whose rates are shares
is read back from its text.  Only the rates may be a little off.
-/

namespace AdaptiveRules

open JsonParser Json

variable {f : Float → Float} {depth : Nat}

namespace Json.Fields

variable {α : Type} {fs : Fields} {name : String} {j : Json} {read : Json → Option α} {a : α}

theorem required_eq (hfield : fs.lookup name = some j) (hread : read j = some a) :
    fs.required name read = some a := by
  rw [required, hfield, Option.bind_some, hread]

theorem orElse_eq (hfield : fs.lookup name = some j) (hread : read j = some a) (fallback : α) :
    fs.orElse name read fallback = some a := by
  rw [orElse, hfield]
  exact hread

theorem optional_eq {a? : Option α} (hfield : fs.lookup name = some j)
    (hread : asOption? read j = some a?) : fs.optional name read = some a? := by
  rw [optional, hfield]
  exact hread

/-- A field that one reader accepts is accepted by every reader that accepts as much. -/
theorem exists_orElse {other : Json → Option α} {fallback : α}
    (hother : ∀ j a, read j = some a → ∃ b, other j = some b)
    (hread : fs.orElse name read fallback = some a) (otherFallback : α) :
    ∃ b, fs.orElse name other otherFallback = some b := by
  unfold orElse at hread ⊢
  cases hfield : fs.lookup name with
  | none => exact ⟨otherFallback, rfl⟩
  | some j =>
      rw [hfield] at hread
      exact hother j a hread

end Json.Fields

/-- What the text of a floating-point number is read as. -/
def readBack (x : Float) : Float :=
  match readNumber (numberText x).toList with
  | some (.float y, _) => y
  | _ => x

theorem writesNumber_readBack {x : Float} (hx : Decimal.IsShare x) :
    WritesNumber (.float (readBack x)) (numberText x).toList := by
  obtain ⟨y, hy⟩ := Decimal.exists_writesNumber_share hx
  have hread := hy.reads [] (by rintro _ ⟨⟩)
  rw [List.append_nil] at hread
  have hback : readBack x = y := by
    unfold readBack
    rw [hread]
  rwa [hback]

theorem Instant.ofJson?_toJson {t : Instant} (ht : t.InCalendar) :
    Instant.ofJson? t.toJson = some t := by
  rw [Instant.ofJson?, Instant.toJson, asString?, Option.bind_some,
    Instant.ofRfc3339?_toRfc3339 ht]

namespace Improvement

theorem ofJson?_toJson {i : Improvement} (hi : i.time.InCalendar) :
    ofJson? i.toJson = some i := by
  have hfields : i.toJson.asRecord? ["type", "original", "improved", "timestamp"] =
      some [("type", .str i.kind), ("original", .str i.original), ("improved", .str i.improved),
        ("timestamp", i.time.toJson)] := rfl
  unfold ofJson?
  refine (bind_of_eq_some hfields _).trans ?_
  refine (bind_of_eq_some (Fields.required_eq (by rfl) (by rfl)) _).trans ?_
  refine (bind_of_eq_some (Fields.required_eq (by rfl) (by rfl)) _).trans ?_
  refine (bind_of_eq_some (Fields.required_eq (by rfl) (by rfl)) _).trans ?_
  refine (bind_of_eq_some (Fields.required_eq (by rfl) (Instant.ofJson?_toJson hi)) _).trans ?_
  rfl

end Improvement

theorem asNat?_ofNat {n : Nat} (hn : n < UInt64.size) : (Json.ofNat n).asNat? 64 = some n := by
  have hsmall : 0 ≤ (n : Int) ∧ (n : Int).toNat < 1 <<< 64 := ⟨Int.natCast_nonneg n, hn⟩
  rw [Json.ofNat, asNat?, if_pos hsmall, Int.toNat_natCast]

namespace LearningMetrics

/-- The counters fit into 64 bits, and the time is in the calendar. -/
structure Bounded (m : LearningMetrics) : Prop where
  projectsAnalyzed : m.projectsAnalyzed < UInt64.size
  patternsImproved : m.patternsImproved < UInt64.size
  ruleImprovements : m.ruleImprovements < UInt64.size
  lastUpdate : m.lastUpdate.InCalendar

/-- The counters fit into 64 bits, the time is in the calendar, and the rates are shares. -/
structure Representable (m : LearningMetrics) : Prop where
  projectsAnalyzed : m.projectsAnalyzed < UInt64.size
  patternsImproved : m.patternsImproved < UInt64.size
  ruleImprovements : m.ruleImprovements < UInt64.size
  rateBefore : ∀ x ∈ m.rateBefore.values, Decimal.IsShare x
  rateAfter : ∀ x ∈ m.rateAfter.values, Decimal.IsShare x
  lastUpdate : m.lastUpdate.InCalendar

theorem Representable.bounded {m : LearningMetrics} (hm : m.Representable) : m.Bounded :=
  ⟨hm.projectsAnalyzed, hm.patternsImproved, hm.ruleImprovements, hm.lastUpdate⟩

/-- Each rate is read as the number that replaces it, wherever it stands. -/
def ReadsRates (f : Float → Float) (m : LearningMetrics) : Prop :=
  ∀ x ∈ m.rateBefore.values ++ m.rateAfter.values,
    WritesNumber (.float (f x)) (numberText x).toList

theorem Representable.readsRates {m : LearningMetrics} (hm : m.Representable) :
    m.ReadsRates readBack := fun x hx =>
  writesNumber_readBack ((List.mem_append.mp hx).elim (hm.rateBefore x) (hm.rateAfter x))

def mapRates (f : Float → Float) (m : LearningMetrics) : LearningMetrics :=
  { m with rateBefore := m.rateBefore.map f, rateAfter := m.rateAfter.map f }

theorem mapFloats_toJson (f : Float → Float) (m : LearningMetrics) :
    m.toJson.mapFloats f = (m.mapRates f).toJson := by
  have hrates : ∀ d : Dict Float,
      (Json.ofDict .float d).mapFloats f = .ofDict .float (d.map f) := by
    intro d
    rw [mapFloats_ofDict, Json.ofDict, Json.ofDict, Dict.map, List.map_map]
    rfl
  simp only [toJson, mapFloats, mapMembers, hrates]
  rfl

theorem legible_toJson {m : LearningMetrics} (hm : m.Bounded) (hrates : m.ReadsRates f)
    (hdepth : 1 < depth) : m.toJson.Legible f depth := by
  have hdict : ∀ d : Dict Float, (∀ x ∈ d.values, x ∈ m.rateBefore.values ++ m.rateAfter.values) →
      (Json.ofDict .float d).Legible f (depth - 1) := fun d hd =>
    legible_ofDict (by omega) fun x hx => hrates x (hd x hx)
  have hcounter : ∀ n, n < UInt64.size → (Json.ofNat n).Legible f (depth - 1) :=
    fun n hn => ⟨Int.natCast_nonneg n, hn⟩
  exact ⟨by omega, hcounter _ hm.projectsAnalyzed, hcounter _ hm.patternsImproved,
    hcounter _ hm.ruleImprovements, hdict _ fun _ => List.mem_append_left _,
    hdict _ fun _ => List.mem_append_right _, trivial, trivial⟩

theorem ofJson?_toJson {m : LearningMetrics} (hm : m.Bounded) (now : Instant) :
    ofJson? now (m.mapRates f).toJson = some (m.mapRates f) := by
  have hfields : (m.mapRates f).toJson.asRecord? fieldNames =
      some [("projects_analyzed", .ofNat m.projectsAnalyzed),
        ("patterns_improved", .ofNat m.patternsImproved),
        ("regex_improvements", .ofNat m.ruleImprovements),
        ("success_rate_before", .ofDict .float (m.rateBefore.map f)),
        ("success_rate_after", .ofDict .float (m.rateAfter.map f)),
        ("last_update", m.lastUpdate.toJson)] := rfl
  have hrates : ∀ d : Dict Float, (Json.ofDict .float d).asDict? asFloat? = some d :=
    fun d => asDict?_ofDict fun _ _ => rfl
  unfold ofJson?
  refine (bind_of_eq_some hfields _).trans ?_
  refine (bind_of_eq_some (Fields.orElse_eq (by rfl) (asNat?_ofNat hm.projectsAnalyzed) 0) _).trans ?_
  refine (bind_of_eq_some (Fields.orElse_eq (by rfl) (asNat?_ofNat hm.patternsImproved) 0) _).trans ?_
  refine (bind_of_eq_some (Fields.orElse_eq (by rfl) (asNat?_ofNat hm.ruleImprovements) 0) _).trans ?_
  refine (bind_of_eq_some (Fields.orElse_eq (by rfl) (hrates _) .empty) _).trans ?_
  refine (bind_of_eq_some (Fields.orElse_eq (by rfl) (hrates _) .empty) _).trans ?_
  refine (bind_of_eq_some
    (Fields.orElse_eq (by rfl) (Instant.ofJson?_toJson hm.lastUpdate) now) _).trans ?_
  rfl

theorem exists_ofJson?_at {now : Instant} {j : Json} {m : LearningMetrics}
    (hread : ofJson? now j = some m) (later : Instant) : ∃ m', ofJson? later j = some m' := by
  unfold ofJson? at hread ⊢
  simp only [Option.bind_eq_bind, Option.bind_eq_some_iff, Option.pure_def,
    Option.some.injEq] at hread ⊢
  obtain ⟨fs, hfs, projects, hprojects, patterns, hpatterns, rules, hrules, before, hbefore, after,
    hafter, time, htime, _⟩ := hread
  obtain ⟨time', htime'⟩ := Fields.exists_orElse (fun _ a ha => ⟨a, ha⟩) htime later
  exact ⟨_, fs, hfs, projects, hprojects, patterns, hpatterns, rules, hrules, before, hbefore,
    after, hafter, time', htime', rfl⟩

end LearningMetrics

namespace InsightsExport

/-- What is exported can be written and read back. -/
structure Representable (e : InsightsExport) : Prop where
  time : e.time.InCalendar
  improvements : ∀ log ∈ e.improvements.values, ∀ i ∈ log, i.time.InCalendar
  metrics : e.metrics.Representable

variable {e : InsightsExport}

theorem mapFloats_toJson (f : Float → Float) (e : InsightsExport) :
    e.toJson.mapFloats f = { e with metrics := e.metrics.mapRates f }.toJson := by
  have hvariations : (Json.ofDict .ofStrings e.variations).mapFloats f =
      .ofDict .ofStrings e.variations := by
    rw [mapFloats_ofDict]
    simp only [mapFloats_ofStrings]
  have himprovements : (Json.ofDict (.ofList Improvement.toJson) e.improvements).mapFloats f =
      .ofDict (.ofList Improvement.toJson) e.improvements := by
    rw [mapFloats_ofDict]
    simp only [mapFloats_ofList]
    rfl
  simp only [toJson, mapFloats, mapMembers, hvariations, himprovements,
    LearningMetrics.mapFloats_toJson]
  rfl

theorem legible_toJson (he : e.Representable) (hdepth : 3 < depth) :
    e.toJson.Legible readBack depth := by
  have hvariations : (Json.ofDict .ofStrings e.variations).Legible readBack (depth - 1) :=
    legible_ofDict (by omega) fun _ _ => legible_ofStrings (by omega)
  have himprovements : (Json.ofDict (.ofList Improvement.toJson) e.improvements).Legible readBack
      (depth - 1) :=
    legible_ofDict (by omega) fun _ _ => legible_ofList (by omega) fun _ _ =>
      ⟨by omega, trivial, trivial, trivial, trivial, trivial⟩
  exact ⟨by omega, trivial, trivial, hvariations, himprovements,
    LearningMetrics.legible_toJson he.metrics.bounded he.metrics.readsRates (by omega), trivial⟩

theorem ofJson?_toJson (he : e.Representable) (now : Instant) :
    ofJson? now { e with metrics := e.metrics.mapRates f }.toJson =
      some { e with metrics := e.metrics.mapRates f } := by
  have hfields : { e with metrics := e.metrics.mapRates f }.toJson.asRecord? fieldNames =
      some [("version", .str e.version), ("exported_at", e.time.toJson),
        ("pattern_variations", .ofDict .ofStrings e.variations),
        ("pattern_improvements", .ofDict (.ofList Improvement.toJson) e.improvements),
        ("metrics", (e.metrics.mapRates f).toJson)] := rfl
  have hvariations : (Json.ofDict .ofStrings e.variations).asDict? Insights.texts? =
      some e.variations :=
    asDict?_ofDict fun _ _ => asList?_ofList fun _ _ => rfl
  have himprovements : Insights.improvements?
      (.ofDict (.ofList Improvement.toJson) e.improvements) = some e.improvements :=
    asDict?_ofDict fun log hlog => asList?_ofList fun i hi =>
      Improvement.ofJson?_toJson (he.improvements log hlog i hi)
  unfold ofJson?
  refine (bind_of_eq_some hfields _).trans ?_
  refine (bind_of_eq_some (Fields.required_eq (by rfl) (by rfl)) _).trans ?_
  refine (bind_of_eq_some
    (Fields.required_eq (by rfl) (Instant.ofJson?_toJson he.time)) _).trans ?_
  refine (bind_of_eq_some (Fields.required_eq (by rfl) hvariations) _).trans ?_
  refine (bind_of_eq_some (Fields.orElse_eq (by rfl) himprovements _) _).trans ?_
  refine (bind_of_eq_some
    (Fields.orElse_eq (by rfl) (LearningMetrics.ofJson?_toJson he.metrics.bounded now) _) _).trans ?_
  rfl

/-- An export is read back from its text, but for the rates. -/
theorem ofText?_pretty (he : e.Representable) (now : Instant) :
    ofText? now e.toJson.pretty = some { e with metrics := e.metrics.mapRates readBack } := by
  rw [ofText?, parse?_pretty (legible_toJson he (by decide)), Option.bind_some, mapFloats_toJson,
    ofJson?_toJson he]

/-- What a text tells of variations does not depend on the time at which it is read. -/
theorem exists_ofText?_at {now : Instant} {text : String} (hread : ofText? now text = some e)
    (later : Instant) : ∃ e', ofText? later text = some e' ∧ e'.variations = e.variations := by
  unfold ofText? at hread ⊢
  obtain ⟨j, hj, hread⟩ := Option.bind_eq_some_iff.mp hread
  unfold ofJson? at hread
  simp only [Option.bind_eq_bind, Option.bind_eq_some_iff, Option.pure_def,
    Option.some.injEq] at hread
  obtain ⟨fs, hfs, version, hversion, time, htime, variations, hvariations, improvements,
    himprovements, metrics, hmetrics, rfl⟩ := hread
  obtain ⟨metrics', hmetrics'⟩ := Fields.exists_orElse
    (fun _ _ hread => LearningMetrics.exists_ofJson?_at hread later) hmetrics (.zero later)
  refine ⟨⟨version, time, variations, improvements, metrics'⟩, ?_, rfl⟩
  rw [hj, Option.bind_some]
  unfold ofJson?
  simp only [Option.bind_eq_bind, Option.bind_eq_some_iff, Option.pure_def, Option.some.injEq]
  exact ⟨fs, hfs, version, hversion, time, htime, variations, hvariations, improvements,
    himprovements, metrics', hmetrics', rfl⟩

end InsightsExport
end AdaptiveRules
