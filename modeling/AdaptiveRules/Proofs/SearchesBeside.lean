import AdaptiveRules.Proofs.CounterAgreement
import AdaptiveRules.Proofs.LearningOrder
import AdaptiveRules.Proofs.LearnerActions

/-!
# Searching without a pattern

A learner applies its patterns to a file one after another.  If the patterns of a name are taken out,
the others find in each file what they found before and are left as they were left before.  Only a
pattern that never answers would be felt by the others, as the work stops where it waits; one whose
engine answers every query always comes to its matches, and so does the recovery after a failed one.
-/

namespace AdaptiveRules

/-! ### Patterns that always answer -/

namespace MatchRecovery

variable {p : RulePattern} {source : String}

theorem exists_matchWindows (hanswers : p.engine.Answers) (before : Option Window)
    (windows : List Window) : ∃ outcome, matchWindows p before windows = .ok outcome := by
  induction windows generalizing before with
  | nil => exact ⟨_, rfl⟩
  | cons w rest ih =>
      obtain ⟨outcome, hunit⟩ := RulePattern.exists_matchUnit hanswers w.text
      obtain ⟨more, hrest⟩ := ih (some w)
      unfold matchWindows
      rw [hunit]
      rcases outcome with e | found
      · exact ⟨_, rfl⟩
      · rw [hrest]
        rcases more with e | more <;> exact ⟨_, rfl⟩

theorem exists_attempts (hanswers : p.engine.Answers) (overlap : Nat) (source : String)
    (count size : Nat) (last : MatchError) :
    ∃ outcome, attempts p overlap source count size last = .ok outcome := by
  induction count generalizing size last with
  | zero => exact ⟨_, rfl⟩
  | succ more ih =>
      obtain ⟨outcome, hwindows⟩ := exists_matchWindows hanswers none
        (TextWindows.split source size (min overlap (size - 1)))
      unfold attempts
      rw [hwindows]
      rcases outcome with e | found
      · exact ih _ e
      · exact ⟨_, rfl⟩

theorem exists_recover (hanswers : p.engine.Answers) (s : RecoverySettings) (kind : FailureKind)
    (source : String) : ∃ outcome, recover p s kind source = .ok outcome := by
  have hwindows : ∃ outcome, byWindows p s source = .ok outcome := exists_attempts hanswers ..
  unfold recover
  split
  · exact hwindows
  · cases kind <;> first | exact hwindows | exact ⟨_, rfl⟩

end MatchRecovery

namespace Pattern

theorem exists_afterFailure {p : Pattern} (hanswers : p.core.engine.Answers) (failure : MatchError)
    (source : String) : ∃ found, (p.afterFailure failure source).answer = .ok found := by
  unfold afterFailure
  cases p.mode with
  | plain => exact ⟨[], rfl⟩
  | adaptive a => exact ⟨[], rfl⟩
  | resilient a r =>
      obtain ⟨outcome, hrecover⟩ :=
        MatchRecovery.exists_recover hanswers r.settings failure.kind source
      simp only
      rw [hrecover]
      rcases outcome with e | found <;> exact ⟨_, rfl⟩

theorem exists_matchSource {p : Pattern} (hanswers : p.core.engine.Answers) (source : String)
    (context : Option MatchContext) (time : MatchTime) :
    ∃ found, (p.matchSource source context time).answer = .ok found := by
  have hready : (p.beforeMatch context time.now).pattern.core.engine.Answers := by
    rw [core_beforeMatch p source context time, readied, RulePattern.engine_foldl_installed]
    exact hanswers
  have hconcluded :
      ((p.beforeMatch context time.now).pattern.core.run source context time).1.isOk = true :=
    RulePattern.isConcluded_of_answers hready source context time
  have hafter := (RulePattern.sameRule_run
    (p := (p.beforeMatch context time.now).pattern.core) source context time).engine
  simp only [matchSource]
  rcases houtcome : ((p.beforeMatch context time.now).pattern.core.run source context time).1 with
    i | failure | found
  · rw [houtcome] at hconcluded
    cases hconcluded
  · refine exists_afterFailure ?_ failure source
    rw [hafter]
    exact hready
  · exact ⟨found, rfl⟩

end Pattern

namespace ProjectLearning

open LearningState

variable {p : Pattern} {file : SourceFile} {context : MatchContext} {time : MatchTime}

theorem exists_matchPattern (hanswers : p.core.engine.Answers) (file : SourceFile)
    (context : MatchContext) (time : MatchTime) :
    ∃ found, (matchPattern p file context time).answer = .ok found := by
  unfold matchPattern
  split
  · exact Pattern.exists_matchSource hanswers file.content (some context) time
  · exact ⟨[], rfl⟩

theorem matchPattern_keeps (p : Pattern) (file : SourceFile) (context : MatchContext)
    (time : MatchTime) :
    (matchPattern p file context time).pattern.name = p.name ∧
      (matchPattern p file context time).pattern.core.engine = p.core.engine := by
  unfold matchPattern
  split
  · exact ⟨Pattern.name_perform p (.search file.content (some context) time),
      Pattern.engine_perform p (.search file.content (some context) time)⟩
  · exact ⟨rfl, rfl⟩

/-! ### All patterns on one file -/

def gather (found : Found) (name : String) : List MatchInstance → Found
  | [] => found
  | ms => found.alter name fun texts => texts.getD [] ++ ms.map MatchInstance.text

/-- What becomes of patterns that are applied to a file one after another, up to the first that does
not come to its matches, and of what was found. -/
def applied (file : SourceFile) (context : MatchContext) (time : MatchTime) :
    Found → List Pattern → List Pattern × Except Interruption Found
  | found, [] => ([], .ok found)
  | found, p :: rest =>
      let step := matchPattern p file context time
      match step.answer with
      | .error i => (step.pattern :: rest, .error i)
      | .ok ms =>
          let (others, outcome) := applied file context time (gather found p.name ms) rest
          (step.pattern :: others, outcome)

theorem run_matchAt {s : LearningState} (hpatience : s.patience = none) {index : Nat}
    (hp : s.learner.patterns[index]? = some p) (file : SourceFile) (context : MatchContext)
    (found : Found) :
    (matchAt index file context found).run.run s =
      ((matchPattern p file context s.time).answer.map (gather found p.name),
        { s with
          observers := s.observers.emitAll (matchPattern p file context s.time).events
          learner := { s.learner with
            patterns :=
              s.learner.patterns.set index (matchPattern p file context s.time).pattern } }) := by
  unfold matchAt
  rw [run_bind, run_get]
  simp only [hp, run_bind, pause_of_patient hpatience, setAt, run_modify]
  rcases (matchPattern p file context s.time).answer with i | _ | _ <;> rfl

/-- Taking up the patterns by their places is taking them up one after another. -/
theorem run_matchAts (file : SourceFile) (context : MatchContext) (done rest : List Pattern)
    {s : LearningState} (hpatience : s.patience = none)
    (hpatterns : s.learner.patterns = done ++ rest) (found : Found) : ∃ observers,
    ((List.range' done.length rest.length).foldlM
        (fun found index => matchAt index file context found) found).run.run s =
      ((applied file context s.time found rest).2,
        { s with
          observers
          learner := { s.learner with
            patterns := done ++ (applied file context s.time found rest).1 } }) := by
  induction rest generalizing s done found with
  | nil =>
      refine ⟨s.observers, ?_⟩
      simp only [applied, ← hpatterns]
      rfl
  | cons p rest ih =>
      have hp : s.learner.patterns[done.length]? = some p := by
        rw [hpatterns, List.getElem?_append_right (Nat.le_refl _), Nat.sub_self]
        rfl
      have hset : s.learner.patterns.set done.length (matchPattern p file context s.time).pattern =
          (done ++ [(matchPattern p file context s.time).pattern]) ++ rest := by
        rw [hpatterns, List.set_append_right _ _ (Nat.le_refl _), Nat.sub_self, List.append_assoc]
        rfl
      rw [List.length_cons, List.range'_succ, List.foldlM_cons, run_bind,
        run_matchAt hpatience hp, hset]
      rcases hanswer : (matchPattern p file context s.time).answer with i | ms
      · exact ⟨_, by simp [Except.map, applied, hanswer]; rfl⟩
      · obtain ⟨observers, hrest⟩ := ih (done ++ [(matchPattern p file context s.time).pattern])
          (s := { s with
            observers := s.observers.emitAll (matchPattern p file context s.time).events
            learner := { s.learner with
              patterns := (done ++ [(matchPattern p file context s.time).pattern]) ++ rest } })
          hpatience rfl (gather found p.name ms)
        refine ⟨observers, ?_⟩
        rw [List.length_append, List.length_singleton] at hrest
        simp only [Except.map]
        rw [hrest]
        simp only [applied, hanswer, List.append_assoc, List.singleton_append]

/-! ### Without the patterns of a name -/

end ProjectLearning

/-- The patterns that do not have the name. -/
def Pattern.others (name : String) (patterns : List Pattern) : List Pattern :=
  patterns.filter fun p => p.name ≠ name

/-- Patterns that have the name answer whatever they are asked. -/
def Pattern.AnswersFor (name : String) (patterns : List Pattern) : Prop :=
  ∀ p ∈ patterns, p.name = name → p.core.engine.Answers

namespace Pattern

variable {name : String} {p : Pattern} {patterns : List Pattern} {f g : Pattern → Pattern}

theorem others_cons_of_eq (hname : p.name = name) (patterns : List Pattern) :
    others name (p :: patterns) = others name patterns := by simp [others, hname]

theorem others_cons_of_ne (hname : p.name ≠ name) (patterns : List Pattern) :
    others name (p :: patterns) = p :: others name patterns := by simp [others, hname]

/-- Whatever is done to each pattern by itself is done to the others alike. -/
theorem others_map (hkept : ∀ p, (f p).name = p.name)
    (hsame : ∀ p ∈ patterns, p.name ≠ name → f p = g p) :
    others name (patterns.map f) = (others name patterns).map g := by
  induction patterns with
  | nil => rfl
  | cons p rest ih =>
      obtain ⟨hfirst, hrest⟩ := List.forall_mem_cons.mp hsame
      rw [List.map_cons]
      by_cases hname : p.name = name
      · rw [others_cons_of_eq hname, others_cons_of_eq ((hkept p).trans hname), ih hrest]
      · rw [others_cons_of_ne hname, others_cons_of_ne ((hkept p).trans_ne hname), ih hrest,
          List.map_cons, hfirst hname]

theorem AnswersFor.map (hanswers : AnswersFor name patterns)
    (hkept : ∀ p, (f p).name = p.name ∧ (f p).core.engine = p.core.engine) :
    AnswersFor name (patterns.map f) := by
  intro q hq hname
  obtain ⟨p, hp, rfl⟩ := List.mem_map.mp hq
  rw [(hkept p).2]
  exact hanswers p hp ((hkept p).1.symm.trans hname)

end Pattern

namespace ProjectLearning

open LearningState Pattern

variable {name : String} {file : SourceFile} {context : MatchContext} {time : MatchTime}
  {found found' : Found} {patterns : List Pattern}

/-- The same was found for all other names. -/
def FoundBeside (name : String) (found found' : Found) : Prop :=
  ∀ other, other ≠ name → found.get? other = found'.get? other

/-- Both searches went on to their ends, or neither did. -/
inductive EndsBeside (name : String) :
    Except Interruption Found → Except Interruption Found → Prop
  | found {found found' : Found} (hsame : FoundBeside name found found') :
      EndsBeside name (.ok found) (.ok found')
  | stopped (i : Interruption) : EndsBeside name (.error i) (.error i)

theorem get?_gather (found : Found) (name other : String) (ms : List MatchInstance) :
    (gather found name ms).get? other =
      if other = name ∧ ms ≠ [] then
        some ((found.get? name).getD [] ++ ms.map MatchInstance.text)
      else found.get? other := by
  cases ms with
  | nil => simp [gather]
  | cons m rest =>
      rw [gather, Dict.alter, Dict.get?_insert]
      · simp
      · intro hnil
        cases hnil

theorem FoundBeside.gather_left (hsame : FoundBeside name found found') (ms : List MatchInstance) :
    FoundBeside name (gather found name ms) found' := by
  intro other hother
  rw [get?_gather, if_neg fun h => hother h.1]
  exact hsame other hother

theorem FoundBeside.gather (hsame : FoundBeside name found found') {pattern : String}
    (hpattern : pattern ≠ name) (ms : List MatchInstance) :
    FoundBeside name (gather found pattern ms) (ProjectLearning.gather found' pattern ms) := by
  intro other hother
  rw [get?_gather, get?_gather, hsame other hother, hsame pattern hpattern]

/-- A pattern that comes to its matches is not felt by the patterns that are applied after it. -/
theorem applied_others (hanswers : AnswersFor name patterns) (hsame : FoundBeside name found found')
    (file : SourceFile) (context : MatchContext) (time : MatchTime) :
    AnswersFor name (applied file context time found patterns).1 ∧
      others name (applied file context time found patterns).1 =
        (applied file context time found' (others name patterns)).1 ∧
      EndsBeside name (applied file context time found patterns).2
        (applied file context time found' (others name patterns)).2 := by
  induction patterns generalizing found found' with
  | nil => exact ⟨fun _ hp => absurd hp List.not_mem_nil, rfl, .found hsame⟩
  | cons p rest ih =>
      obtain ⟨hfirst, hrest⟩ := List.forall_mem_cons.mp hanswers
      obtain ⟨hkept, hengine⟩ := matchPattern_keeps p file context time
      have hstill : (matchPattern p file context time).pattern.name = name →
          (matchPattern p file context time).pattern.core.engine.Answers := by
        rw [hkept, hengine]
        exact hfirst
      by_cases hname : p.name = name
      · obtain ⟨ms, hanswer⟩ := exists_matchPattern (hfirst hname) file context time
        obtain ⟨hmore, hothers, hends⟩ := ih hrest (hsame.gather_left ms)
        rw [others_cons_of_eq hname]
        simp only [applied, hanswer, hname]
        rw [others_cons_of_eq (hkept.trans hname)]
        exact ⟨List.forall_mem_cons.mpr ⟨hstill, hmore⟩, hothers, hends⟩
      · rw [others_cons_of_ne hname]
        rcases hanswer : (matchPattern p file context time).answer with i | ms
        · simp only [applied, hanswer]
          rw [others_cons_of_ne (hkept.trans_ne hname)]
          exact ⟨List.forall_mem_cons.mpr ⟨hstill, hrest⟩, rfl, .stopped i⟩
        · obtain ⟨hmore, hothers, hends⟩ := ih hrest (hsame.gather hname ms)
          simp only [applied, hanswer]
          rw [others_cons_of_ne (hkept.trans_ne hname), hothers]
          exact ⟨List.forall_mem_cons.mpr ⟨hstill, hmore⟩, rfl, hends⟩

/-! ### Work on the files of a project -/

/-- The one learner has the patterns of the other but those of the name, at the same time. -/
structure Beside (name : String) (s t : LearningState) : Prop where
  patterns : t.learner.patterns = others name s.learner.patterns
  looks : contextOf t.learner = contextOf s.learner
  time : t.time = s.time
  patient : s.patience = none
  patient' : t.patience = none
  answers : AnswersFor name s.learner.patterns

/-- How work on files ends for both. -/
structure EndBeside (name : String) (first second : Except Interruption Found × LearningState) :
    Prop where
  ends : EndsBeside name first.1 second.1
  beside : Beside name first.2 second.2

theorem run_matchFile {s : LearningState} (hpatience : s.patience = none) (found : Found)
    (hfile : (file.path.isEmpty || file.content.isEmpty) = false) : ∃ observers,
    (matchFile found file).run.run s =
      ((applied file (contextOf s.learner file) s.time found s.learner.patterns).2,
        { s with
          observers
          learner := { s.learner with
            patterns :=
              (applied file (contextOf s.learner file) s.time found s.learner.patterns).1 } }) := by
  obtain ⟨observers, hrun⟩ := run_matchAts file (contextOf s.learner file) [] s.learner.patterns
    hpatience rfl found
  refine ⟨observers, ?_⟩
  unfold matchFile
  rw [hfile, if_neg Bool.false_ne_true, run_bind, run_get]
  simp only
  rw [List.range_eq_range']
  exact hrun

theorem endBeside_matchFile {s t : LearningState} (hbeside : Beside name s t)
    (hsame : FoundBeside name found found') (file : SourceFile) :
    EndBeside name ((matchFile found file).run.run s) ((matchFile found' file).run.run t) := by
  cases hfile : file.path.isEmpty || file.content.isEmpty with
  | true =>
      unfold matchFile
      rw [hfile]
      exact ⟨.found hsame, hbeside⟩
  | false =>
      obtain ⟨_, hrun⟩ := run_matchFile hbeside.patient found hfile
      obtain ⟨_, hrun'⟩ := run_matchFile hbeside.patient' found' hfile
      obtain ⟨hanswers, hothers, hends⟩ := applied_others hbeside.answers hsame file
        (contextOf s.learner file) s.time
      rw [hrun, hrun', hbeside.looks, hbeside.time, hbeside.patterns]
      exact ⟨hends, hothers.symm, hbeside.looks, rfl, hbeside.patient, hbeside.patient', hanswers⟩

theorem endBeside_foldlM {s t : LearningState} (hbeside : Beside name s t)
    (hsame : FoundBeside name found found') (files : List SourceFile) :
    EndBeside name ((files.foldlM matchFile found).run.run s)
      ((files.foldlM matchFile found').run.run t) := by
  induction files generalizing s t found found' with
  | nil => exact ⟨.found hsame, hbeside⟩
  | cons file rest ih =>
      have hfirst := endBeside_matchFile hbeside hsame file
      rw [List.foldlM_cons, List.foldlM_cons, run_bind, run_bind]
      generalize (matchFile found file).run.run s = first at hfirst ⊢
      generalize (matchFile found' file).run.run t = second at hfirst ⊢
      obtain ⟨outcome, u⟩ := first
      obtain ⟨outcome', v⟩ := second
      obtain ⟨hends, hbeside⟩ := hfirst
      cases hends with
      | found hsame => exact ih hbeside hsame
      | stopped i => exact ⟨.stopped i, hbeside⟩

theorem endBeside_extract {s t : LearningState} (hbeside : Beside name s t)
    (files : List SourceFile) :
    EndBeside name ((extract files).run.run s) ((extract files).run.run t) :=
  endBeside_foldlM hbeside (fun _ _ => rfl) files

end ProjectLearning
end AdaptiveRules
