import AdaptiveRules.Proofs.AdaptedRestarts
import AdaptiveRules.Proofs.ParallelLearners

/-!
# Patterns that do not disturb each other

The patterns of a learner are searched in one loop, share its insights and are kept in one store.
Still, what becomes of a pattern and of what is known for its name does not depend on whether there
is another pattern with another name: a learner with that pattern and one without it, on equal stores,
go side by side through any run of loading, learning, improving, importing, uses of the other patterns
and restarts.
-/

namespace AdaptiveRules

open Insights LearningState Pattern

/-! ### Uses of another pattern -/

namespace Pattern

variable {name other : String} {f : Pattern → Pattern}

/-- The place of the first pattern with the name. -/
def placeOf (other : String) (patterns : List Pattern) : Nat :=
  patterns.findIdx fun p => p.name == other

theorem modify_placeOf_cons_of_eq {p : Pattern} (hname : p.name = other) (rest : List Pattern) :
    (p :: rest).modify (placeOf other (p :: rest)) f = f p :: rest := by
  rw [placeOf, List.findIdx_cons, beq_iff_eq.mpr hname]
  rfl

theorem modify_placeOf_cons_of_ne {p : Pattern} (hname : p.name ≠ other) (rest : List Pattern) :
    (p :: rest).modify (placeOf other (p :: rest)) f = p :: rest.modify (placeOf other rest) f := by
  rw [placeOf, List.findIdx_cons, beq_eq_false_iff_ne.mpr hname]
  rfl

/-- It makes no difference whether the patterns of a name are there when another one is changed. -/
theorem others_modify (hother : other ≠ name) (hkept : ∀ p, (f p).name = p.name)
    (patterns : List Pattern) :
    others name (patterns.modify (placeOf other patterns) f) =
      (others name patterns).modify (placeOf other (others name patterns)) f := by
  induction patterns with
  | nil => rfl
  | cons p rest ih =>
      by_cases hfirst : p.name = other
      · have hname : p.name ≠ name := hfirst.trans_ne hother
        rw [modify_placeOf_cons_of_eq hfirst, others_cons_of_ne hname,
          others_cons_of_ne ((hkept p).trans_ne hname), modify_placeOf_cons_of_eq hfirst]
      · rw [modify_placeOf_cons_of_ne hfirst]
        by_cases hname : p.name = name
        · rw [others_cons_of_eq hname, others_cons_of_eq hname, ih]
        · rw [others_cons_of_ne hname, others_cons_of_ne hname, modify_placeOf_cons_of_ne hfirst, ih]

theorem AnswersFor.modify {patterns : List Pattern} (hanswers : AnswersFor name patterns)
    (hother : other ≠ name) (hkept : ∀ p, (f p).name = p.name) :
    AnswersFor name (patterns.modify (placeOf other patterns) f) := by
  induction patterns with
  | nil => exact hanswers
  | cons p rest ih =>
      have hrest : AnswersFor name rest := fun q hq => hanswers q (List.mem_cons_of_mem p hq)
      by_cases hfirst : p.name = other
      · rw [modify_placeOf_cons_of_eq hfirst]
        intro q hq hname
        rcases List.mem_cons.mp hq with rfl | hq
        · exact absurd (hfirst.symm.trans ((hkept p).symm.trans hname)) hother
        · exact hrest q hq hname
      · rw [modify_placeOf_cons_of_ne hfirst]
        intro q hq hname
        rcases List.mem_cons.mp hq with rfl | hq
        · exact hanswers q List.mem_cons_self hname
        · exact ih hrest q hq hname

end Pattern

/-! ### Steps -/

/-- What becomes of learners that have some of their patterns in common. -/
inductive CommonStep
  | begin
  | learn (project : String) (files : List SourceFile)
  | improve (names : Option (List String))
  | importFrom (path : String)
  | tick (time : MatchTime)
  /-- Somebody uses the first pattern with the name. -/
  | use (other : String) (op : PatternOperation)
  /-- Another learner takes over the store. -/
  | restart (patterns : List Pattern) (settings : LearnerSettings) (cutter : Option BlockCutter)
      (announces : Bool)

namespace CommonStep

/-- What the step is in the life of a learner with these patterns. -/
def ofLife (patterns : List Pattern) : CommonStep → LifeStep
  | begin => .operate .begin
  | learn project files => .operate (.learn project files none)
  | improve names => .operate (.improve names)
  | importFrom path => .operate (.importFrom path)
  | tick time => .operate (.tick time)
  | use other op => .use (placeOf other patterns) op
  | restart patterns settings cutter announces => .restart patterns settings cutter announces

/-- The step without the patterns of a name: the next learner does not get them either. -/
def without (name : String) : CommonStep → CommonStep
  | restart patterns settings cutter announces =>
      restart (others name patterns) settings cutter announces
  | step => step

/-- The patterns of the learner that takes over, if one does. -/
def patternsGiven : CommonStep → List Pattern
  | restart patterns .. => patterns
  | _ => []

end CommonStep

namespace LearningState

def share (s : LearningState) (step : CommonStep) : LearningState :=
  s.undergo (step.ofLife s.learner.patterns)

def shareAll (s : LearningState) (steps : List CommonStep) : LearningState := steps.foldl share s

theorem shareAll_append (s : LearningState) (first rest : List CommonStep) :
    s.shareAll (first ++ rest) = (s.shareAll first).shareAll rest := List.foldl_append

/-- The state of a learner that does not have the patterns of the name. -/
def without (s : LearningState) (name : String) : LearningState :=
  s.withLearner fun l => { l with patterns := others name l.patterns }

variable {name : String} {h : StoreHandle} {base : Storage} {s t : LearningState}

theorem Parallel.tick (hparallel : Parallel name h base s t) (time : MatchTime) :
    Parallel name h base { s with time } { t with time } :=
  ⟨{ hparallel.toAlongside with time := rfl }, hparallel.stored.congr rfl rfl rfl rfl rfl⟩

theorem Parallel.use (hparallel : Parallel name h base s t) {other : String} (hother : other ≠ name)
    (op : PatternOperation) :
    Parallel name h base (s.use (placeOf other s.learner.patterns) op)
      (t.use (placeOf other t.learner.patterns) op) := by
  have hkept : ∀ p : Pattern, (p.perform op).name = p.name := fun p => name_perform p op
  have hused : Parallel name h base (s.act (.use (placeOf other s.learner.patterns) op))
      (t.act (.use (placeOf other t.learner.patterns) op)) := by
    refine ⟨hparallel.follow ⟨rfl, rfl, rfl⟩ ⟨rfl, rfl, rfl⟩ ?_ hparallel.insights hparallel.begun
      hparallel.time (tellsAll_act hparallel.told _) (tellsAll_act hparallel.told' _)
      (hparallel.answers.modify hother hkept), hparallel.stored.congr rfl rfl rfl rfl rfl⟩
    simp only [act, withLearner, hparallel.patterns]
    exact (others_modify hother hkept s.learner.patterns).symm
  have hframe : ∀ (r : LearningState) (index : Nat),
      (r.use index op).storage = r.storage ∧ (r.use index op).time = r.time := by
    intro r index
    obtain ⟨observers, huse⟩ := use_eq r index op
    rw [huse]
    exact ⟨rfl, rfl⟩
  exact hused.congr (learner_use_eq s _ op) (hframe s _).1 (hframe s _).2 (learner_use_eq t _ op)
    (hframe t _).1 (hframe t _).2

/-- Other learners take over, of which the second does not get the patterns of the name. -/
theorem Parallel.restart (hparallel : Parallel name h base s t) {patterns : List Pattern}
    (hanswers : AnswersFor name patterns) (settings : LearnerSettings)
    (cutter : Option BlockCutter) (announces : Bool) :
    Parallel name h base (s.undergo (.restart patterns settings cutter announces))
      (t.undergo (.restart (others name patterns) settings cutter announces)) := by
  have hnow : t.now = s.now := by rw [now, now, hparallel.time]
  refine ⟨{
    patterns := rfl
    insights := ?_
    store := hparallel.store
    store' := hparallel.store'
    settings := rfl
    cutter := rfl
    begun := rfl
    time := hparallel.time
    told := fun hbegun => absurd hbegun Bool.false_ne_true
    told' := fun hbegun => absurd hbegun Bool.false_ne_true
    answers := hanswers }, ?_⟩
  · simp only [undergo, withLearner, hnow]
    exact .refl _
  · cases hparallel.stored with
    | unsaved hstorage hstorage' _ => exact .unsaved hstorage hstorage' rfl
    | saved before before' last last' hstorage hstorage' htaken htaken' hrecalled =>
        exact .saved before before' last last' hstorage hstorage' htaken htaken' fun hlast =>
          ⟨(hrecalled hlast).1, fun hbegun => absurd hbegun Bool.false_ne_true⟩

theorem Parallel.improve (hparallel : Parallel name h base s t) (names : Option (List String))
    (htaken : h.Takes (s.improve names).2.learner.insights)
    (htaken' : h.Takes (t.improve names).2.learner.insights) :
    Parallel name h base (s.improve names).2 (t.improve names).2 := by
  have hbegun := hparallel.begin
  obtain ⟨hwritten, hwritten'⟩ := hbegun.stored.written
  have hstorage : ∀ r : LearningState, (r.improved names).storage = r.storage := by
    intro r
    obtain ⟨observers, metrics, himproved⟩ := improved_eq r names
    rw [himproved]
  rw [← hstorage] at hwritten hwritten'
  exact (hbegun.toAlongside.improved names).persist hwritten hwritten' htaken htaken'

/-- A step that does not use the patterns of the name goes for both learners alike. -/
theorem parallel_share (hparallel : Parallel name h base s t) {step : CommonStep}
    (hgiven : AnswersFor name step.patternsGiven)
    (hothers : ∀ other op, step = .use other op → other ≠ name)
    (htaken : h.Takes (s.share step).learner.insights)
    (htaken' : h.Takes (t.share (step.without name)).learner.insights) :
    Parallel name h base (s.share step) (t.share (step.without name)) := by
  cases step with
  | begin => exact hparallel.begin
  | learn project files =>
      have hpatient : Parallel name h base { s with patience := none } { t with patience := none } :=
        hparallel.congr rfl rfl rfl rfl rfl rfl
      exact (hpatient.learn rfl rfl project files htaken htaken').congr rfl rfl rfl rfl rfl rfl
  | improve names => exact hparallel.improve names htaken htaken'
  | importFrom path => exact hparallel.importFrom path htaken htaken'
  | tick time => exact hparallel.tick time
  | use other op => exact hparallel.use (hothers other op rfl) op
  | restart patterns settings cutter announces =>
      exact hparallel.restart hgiven settings cutter announces

theorem parallel_shareAll (hparallel : Parallel name h base s t) {steps : List CommonStep}
    (hgiven : ∀ step ∈ steps, AnswersFor name step.patternsGiven)
    (hothers : ∀ other op, .use other op ∈ steps → other ≠ name)
    (htaken : ∀ done rest, steps = done ++ rest → h.Takes (s.shareAll done).learner.insights ∧
      h.Takes (t.shareAll (done.map (·.without name))).learner.insights) :
    Parallel name h base (s.shareAll steps) (t.shareAll (steps.map (·.without name))) := by
  induction steps using List.reverseRecOn with
  | nil => exact hparallel
  | append_singleton done step ih =>
      have hlater := ih (fun earlier hearlier => hgiven earlier (List.mem_append_left _ hearlier))
        (fun other op huse => hothers other op (List.mem_append_left _ huse))
        fun earlier rest hdone => htaken earlier (rest ++ [step]) (by
          rw [hdone, List.append_assoc])
      obtain ⟨hlast, hlast'⟩ := htaken (done ++ [step]) [] (List.append_nil _).symm
      rw [shareAll_append] at hlast
      rw [List.map_append, shareAll_append] at hlast'
      rw [List.map_append, shareAll_append, shareAll_append]
      exact parallel_share hlater (hgiven step (by simp))
        (fun other op huse => hothers other op (by simp [huse])) hlast hlast'

theorem parallel_fresh {patterns : List Pattern} {settings : LearnerSettings}
    {cutter : Option BlockCutter} {announces : Bool} {now : Instant}
    (hfresh : s.learner = .fresh patterns h settings cutter announces now)
    (hanswers : AnswersFor name patterns) : Parallel name h s.storage s (s.without name) := by
  obtain ⟨learner, storage, observers, time, patience⟩ := s
  subst hfresh
  exact ⟨⟨rfl, .refl _, rfl, rfl, rfl, rfl, rfl, rfl, nofun, nofun, hanswers⟩, .unsaved rfl rfl rfl⟩

/-- A learner and one without the patterns of a name, if these answer what they are asked, start on
the same storage, which may hold anything, and undergo the same but for uses of these patterns.  As
long as what is saved can be written, all other patterns become the same, and the same becomes known
for their names. -/
theorem shareAll_without {patterns : List Pattern} {settings : LearnerSettings}
    {cutter : Option BlockCutter} {announces : Bool} {now : Instant}
    (hfresh : s.learner = .fresh patterns h settings cutter announces now)
    (hanswers : AnswersFor name patterns) {steps : List CommonStep}
    (hgiven : ∀ step ∈ steps, AnswersFor name step.patternsGiven)
    (hothers : ∀ other op, .use other op ∈ steps → other ≠ name)
    (htaken : ∀ done rest, steps = done ++ rest → h.Takes (s.shareAll done).learner.insights ∧
      h.Takes ((s.without name).shareAll (done.map (·.without name))).learner.insights) :
    let t := s.shareAll steps
    let u := (s.without name).shareAll (steps.map (·.without name))
    u.learner.patterns = others name t.learner.patterns ∧
      ∀ other, other ≠ name →
        u.learner.insights.variationsOf other = t.learner.insights.variationsOf other ∧
        u.learner.insights.improvementsOf other = t.learner.insights.improvementsOf other ∧
        ∀ project, u.learner.insights.countOf project other =
          t.learner.insights.countOf project other := by
  intro t u
  have hparallel : Parallel name h s.storage t u :=
    parallel_shareAll (parallel_fresh hfresh hanswers) hgiven hothers htaken
  have hagree := hparallel.insights.symm
  exact ⟨hparallel.patterns, fun other hother =>
    ⟨hagree.variations other hother, hagree.improvements other hother,
      fun project => hagree.counts project other hother⟩⟩

/-! ### Two patterns of one letter -/

def letterNamed (name : String) : Pattern :=
  { letterPattern with core := { letterPattern.core with definition := .ofRule name "z" } }

/-- The store holds a variation for the one pattern, a file has one for the other. -/
def lettersLearner : LearningState :=
  (inMemory [letterNamed "w", letterNamed "v"]
    (some ((Insights.empty ⟨0, 0⟩).addVariations "v" ["b"]).1)).placed "x" exchangedVariation

/-- Both patterns are found in a project and improved before they change their places. -/
def lettersSteps : List CommonStep :=
  [.learn "p" [⟨"f.txt", "z z"⟩], .importFrom "x", .improve none,
    .use "v" (.search "zb" none ⟨⟨1, 0⟩, 0⟩),
    .restart [letterNamed "v", letterNamed "w"] ⟨⟨0, 0, 0⟩, 1, 1, false⟩ none false, .begin]

/-- Of two patterns the second is as it is without the first, in a run that improves both. -/
theorem shareAll_without_letters :
    let t := lettersLearner.shareAll lettersSteps
    let u := (lettersLearner.without "w").shareAll (lettersSteps.map (·.without "w"))
    t.learner.patterns.map (fun p => (p.name, p.core.body.textRule)) =
        [("v", "(?:z|b)"), ("w", "(?:z|a)")] ∧
      u.learner.patterns.map (fun p => (p.name, p.core.body.textRule)) = [("v", "(?:z|b)")] ∧
      t.learner.insights.countOf "p" "v" = some 2 ∧
      u.learner.patterns = others "w" t.learner.patterns ∧
      ∀ other, other ≠ "w" →
        u.learner.insights.variationsOf other = t.learner.insights.variationsOf other ∧
        u.learner.insights.improvementsOf other = t.learner.insights.improvementsOf other ∧
        ∀ project, u.learner.insights.countOf project other =
          t.learner.insights.countOf project other := by
  refine ⟨by decide +kernel, by decide +kernel, by decide +kernel, ?_⟩
  have hfresh : lettersLearner.learner = .fresh [letterNamed "w", letterNamed "v"] .memory
      ⟨⟨0, 0, 0⟩, 1, 1, false⟩ none false ⟨0, 0⟩ := rfl
  have hanswers : ∀ name, (letterNamed name).core.engine.Answers := fun _ _ _ _ => ⟨_, rfl⟩
  refine shareAll_without hfresh ?_ ?_ ?_ fun _ _ _ => ⟨trivial, trivial⟩
  · simp [AnswersFor, hanswers]
  · simp [AnswersFor, lettersSteps, CommonStep.patternsGiven, hanswers]
  · intro other op huse
    obtain ⟨rfl, _⟩ : other = "v" ∧ op = .search "zb" none ⟨⟨1, 0⟩, 0⟩ := by
      simpa [lettersSteps] using huse
    decide

end LearningState
end AdaptiveRules
