import AdaptiveRules.Proofs.AdaptedRestarts
import AdaptiveRules.Proofs.ImprovementReplay
import AdaptiveRules.Proofs.LearnerActions
import AdaptiveRules.Proofs.PatternAccounts

/-!
# Event counters and the books

A learner, its patterns and other patterns may share one row of observers, among them one that
counts.  Each thing that happens is then counted twice: by the component it happens to, and through
the event that the component announces.  However the components are used, and whichever of the other
observers fail, both counts agree.
-/

namespace AdaptiveRules

open LearningState

/-- What the calls of a run come to: instances given back as recovered, reports of their own on
projects, and entries added to the logs of improvements. -/
structure Returns where
  instances : Nat
  projects : Nat
  improvements : Nat
  deriving DecidableEq

namespace Returns

def none : Returns := ⟨0, 0, 0⟩

def add (r t : Returns) : Returns :=
  ⟨r.instances + t.instances, r.projects + t.projects, r.improvements + t.improvements⟩

theorem none_add (r : Returns) : none.add r = r := by
  simp only [add, none, Nat.zero_add]

theorem add_assoc (r t u : Returns) : (r.add t).add u = r.add (t.add u) := by
  simp only [add, Nat.add_assoc]

/-- Nothing but instances. -/
def ofInstances (found : List MatchInstance) : Returns :=
  ⟨found.countP MatchInstance.recovered, 0, 0⟩

theorem ofInstances_append (found more : List MatchInstance) :
    ofInstances (found ++ more) = (ofInstances found).add (ofInstances more) := by
  simp only [ofInstances, add, List.countP_append]

end Returns

/-- What is counted of events agrees with the books of the patterns and with what was returned.  An
attempt to recover that finds nothing is a recovery for the observer and no success for the pattern,
so these two may differ. -/
structure Balanced (r : Returns) (c : EventCounts) (patterns : List Pattern) : Prop where
  adaptations : c.adaptations = (patterns.map fun p => p.records.length).sum
  ruleChanges : c.ruleChanges = (patterns.map fun p => p.changes.length).sum
  attempts : c.recoveries + c.failedRecoveries = (patterns.map Pattern.recoveryAttempts).sum
  successes : (patterns.map Pattern.recoverySuccesses).sum ≤ c.recoveries
  recoveredInstances : c.recoveredInstances = r.instances
  projects : c.projects = r.projects
  improvements : c.improvements = r.improvements

theorem sum_map_append_cons {α : Type} (f : α → Nat) (front : List α) (a : α) (back : List α) :
    ((front ++ a :: back).map f).sum = (front.map f).sum + (f a + (back.map f).sum) := by
  rw [List.map_append, List.sum_append, List.map_cons, List.sum_cons]

theorem exists_of_getElem? {α : Type} {l : List α} {index : Nat} {a : α} (ha : l[index]? = some a)
    (b : α) : ∃ front back, l = front ++ a :: back ∧ l.set index b = front ++ b :: back := by
  obtain ⟨hindex, rfl⟩ := List.getElem?_eq_some_iff.mp ha
  obtain ⟨front, back, hsplit, -, hset⟩ := List.exists_of_set hindex
  exact ⟨front, back, hsplit, hset⟩

namespace Balanced

variable {r : Returns} {c d : EventCounts} {front back patterns : List Pattern} {p q : Pattern}
  {n : Nat}

/-- What one of the patterns tells keeps the balance. -/
theorem tell (hbalanced : Balanced r c (front ++ p :: back)) (htells : p.Tells c n q d) :
    Balanced (r.add ⟨n, 0, 0⟩) d (front ++ q :: back) := by
  obtain ⟨hadaptations, hchanges, hattempts, hsuccesses, hinstances, hprojects, himprovements⟩ :=
    hbalanced
  rw [sum_map_append_cons] at hadaptations hchanges hattempts hsuccesses
  refine ⟨?_, ?_, ?_, ?_, ?_, htells.projects.trans hprojects,
    htells.improvements.trans himprovements⟩
  · have := htells.adaptations
    rw [sum_map_append_cons]
    omega
  · have := htells.ruleChanges
    rw [sum_map_append_cons]
    omega
  · have := htells.attempts
    rw [sum_map_append_cons]
    omega
  · have := htells.successes
    rw [sum_map_append_cons]
    omega
  · exact htells.recoveredInstances.trans (congrArg (· + n) hinstances)

/-- Nothing is announced where no pattern has anything to tell. -/
theorem map {f : Pattern → Pattern} (hf : ∀ p ∈ patterns, p.Tells c 0 (f p) c)
    (front : List Pattern) (hbalanced : Balanced r c (front ++ (patterns ++ back))) :
    Balanced r c (front ++ (patterns.map f ++ back)) := by
  induction patterns generalizing front with
  | nil => exact hbalanced
  | cons p rest ih =>
      have hfirst : Balanced r c (front ++ f p :: (rest ++ back)) :=
        hbalanced.tell (hf p List.mem_cons_self)
      rw [List.append_cons] at hfirst
      have hrest := ih (fun q hq => hf q (List.mem_cons_of_mem _ hq)) _ hfirst
      rwa [← List.append_cons] at hrest

end Balanced

/-! ### States in balance -/

namespace LearningState

variable {s t : LearningState} {others front back : List Pattern} {r : Returns} {p q : Pattern}
  {n index : Nat} {events : List Event}

/-- The learner and all the patterns announce to one row of observers, and the counts there agree
with the books. -/
structure InBalance (others : List Pattern) (r : Returns) (s : LearningState) : Prop where
  once : s.observers.CountsOnce
  announces : s.learner.announces = true
  unmarked : ∀ p ∈ s.learner.patterns ++ others, p.core.Unmarked
  balanced : Balanced r s.observers.state.counts (s.learner.patterns ++ others)

/-- A change of patterns of which nothing is told. -/
theorem InBalance.map (hs : InBalance others r s) (hobservers : t.observers = s.observers)
    (hannounces : t.learner.announces = s.learner.announces) {f : Pattern → Pattern}
    (hf : ∀ (p : Pattern) c, p.core.Unmarked → p.Tells c 0 (f p) c)
    (hpatterns : t.learner.patterns = s.learner.patterns.map f) : InBalance others r t := by
  obtain ⟨honce, hannounced, hunmarked, hbalanced⟩ := hs
  have hclean : ∀ p ∈ s.learner.patterns, p.core.Unmarked :=
    fun p hp => hunmarked p (List.mem_append_left _ hp)
  refine ⟨hobservers ▸ honce, hannounces.trans hannounced, ?_, ?_⟩
  · rw [hpatterns]
    intro p hp
    rcases List.mem_append.mp hp with hp | hp
    · obtain ⟨q, hq, rfl⟩ := List.mem_map.mp hp
      exact (hf q .zero (hclean q hq)).unmarked (hclean q hq)
    · exact hunmarked p (List.mem_append_right _ hp)
  · rw [hobservers, hpatterns]
    exact Balanced.map (fun p hp => hf p _ (hclean p hp)) [] hbalanced

/-- Only the observers, the patterns and whether the learner announces what it does matter. -/
theorem InBalance.congr (hs : InBalance others r s) (hobservers : t.observers = s.observers)
    (hannounces : t.learner.announces = s.learner.announces)
    (hpatterns : t.learner.patterns = s.learner.patterns) : InBalance others r t :=
  hs.map hobservers hannounces (f := id) (fun _ c _ => .of_mode id rfl c)
    (by rw [hpatterns, List.map_id])

/-- One of all the patterns is replaced, and what it announces is told. -/
theorem InBalance.replace (hs : InBalance others r s) {left : List Pattern}
    (htells : ∀ c, p.core.Unmarked → p.Tells c n q (events.foldl EventCounts.count c))
    (hbefore : s.learner.patterns ++ others = front ++ p :: back)
    (hafter : t.learner.patterns ++ left = front ++ q :: back)
    (hobservers : t.observers = s.observers.emitAll events)
    (hannounces : t.learner.announces = s.learner.announces) :
    InBalance left (r.add ⟨n, 0, 0⟩) t := by
  obtain ⟨honce, hannounced, hunmarked, hbalanced⟩ := hs
  rw [hbefore] at hunmarked hbalanced
  obtain ⟨honceAfter, hcounts⟩ := honce.emitAll events
  have htold := htells s.observers.state.counts
    (hunmarked p (List.mem_append_right _ List.mem_cons_self))
  refine ⟨hobservers ▸ honceAfter, hannounces.trans hannounced, ?_, ?_⟩
  · rw [hafter]
    intro u hu
    rcases List.mem_append.mp hu with hu | hu
    · exact hunmarked u (List.mem_append_left _ hu)
    rcases List.mem_cons.mp hu with rfl | hu
    · exact htold.unmarked (hunmarked p (List.mem_append_right _ List.mem_cons_self))
    · exact hunmarked u (List.mem_append_right _ (List.mem_cons_of_mem _ hu))
  · rw [hobservers, hcounts, hafter]
    exact hbalanced.tell htold

/-- One of the learner's patterns is replaced. -/
theorem InBalance.set (hs : InBalance others r s) (hp : s.learner.patterns[index]? = some p)
    (htells : ∀ c, p.core.Unmarked → p.Tells c n q (events.foldl EventCounts.count c)) :
    InBalance others (r.add ⟨n, 0, 0⟩)
      ((s.withLearner fun l => { l with patterns := l.patterns.set index q }).announceAll
        events) := by
  obtain ⟨front, back, hsplit, hset⟩ := exists_of_getElem? hp q
  have hbefore : s.learner.patterns ++ others = front ++ p :: (back ++ others) := by
    rw [hsplit, List.append_assoc, List.cons_append]
  refine hs.replace htells hbefore ?_ rfl rfl
  show s.learner.patterns.set index q ++ others = _
  rw [hset, List.append_assoc, List.cons_append]

end LearningState

/-! ### Work on projects -/

namespace ProjectLearning

variable {α β : Type} {s t : LearningState} {project : String} {files : List SourceFile}

/-- What the matches in a row of steps give back, up to the step at which the work stops. -/
def foldAnswers (f : β → α → Learning β) (told : β → α → LearningState → List MatchInstance) :
    List α → β → LearningState → List MatchInstance
  | [], _, _ => []
  | a :: rest, b, s =>
      told b a s ++
        match (f b a).run.run s with
        | (.ok b, t) => foldAnswers f told rest b t
        | (.error _, _) => []

/-- What the pattern at a place gives back for a file, if the work does not stop before. -/
def answersAt (index : Nat) (file : SourceFile) (context : MatchContext) (s : LearningState) :
    List MatchInstance :=
  match s.learner.patterns[index]?, (pause.run.run s).1 with
  | some p, .ok () => instancesIn (matchPattern p file context s.time).answer
  | _, _ => []

/-- What all patterns give back for a file. -/
def answersIn (found : Found) (file : SourceFile) (s : LearningState) : List MatchInstance :=
  if file.path.isEmpty || file.content.isEmpty then []
  else
    foldAnswers (fun found index => matchAt index file (contextOf s.learner file) found)
      (fun _ index => answersAt index file (contextOf s.learner file))
      (List.range s.learner.patterns.length) found s

/-- What the patterns give back when a project is learned. -/
def answers (project : String) (files : List SourceFile) (s : LearningState) :
    List MatchInstance :=
  match begin.run.run s with
  | (.ok (), t) =>
      if t.learner.insights.isTrained project then []
      else foldAnswers matchFile answersIn files .empty t
  | (.error _, _) => []

theorem answers_of_unbegun {i : Interruption} (hbegin : begin.run.run s = (.error i, t)) :
    answers project files s = [] := by
  unfold answers
  rw [hbegin]

theorem answers_of_known (hbegin : begin.run.run s = (.ok (), t))
    (hknown : t.learner.insights.isTrained project = true) : answers project files s = [] := by
  unfold answers
  rw [hbegin]
  exact if_pos hknown

theorem answers_of_new (hbegin : begin.run.run s = (.ok (), t))
    (hnew : t.learner.insights.isTrained project = false) :
    answers project files s = foldAnswers matchFile answersIn files .empty t := by
  unfold answers
  rw [hbegin]
  exact if_neg (Bool.eq_false_iff.mp hnew)

/-- The work keeps the balance, and its matches give back what is told. -/
def KeepsBalance (told : LearningState → List MatchInstance) (m : Learning α) : Prop :=
  ∀ ⦃others r s⦄, InBalance others r s →
    InBalance others (r.add (.ofInstances (told s))) (m.run.run s).2

theorem keepsBalance_foldlM {f : β → α → Learning β}
    {told : β → α → LearningState → List MatchInstance}
    (hf : ∀ b a, KeepsBalance (told b a) (f b a)) (xs : List α) (b : β) :
    KeepsBalance (foldAnswers f told xs b) (xs.foldlM f b) := by
  intro others r s hs
  induction xs generalizing b r s with
  | nil => exact hs
  | cons x rest ih =>
      have hfirst := hf b x hs
      rw [List.foldlM_cons, run_bind, foldAnswers, Returns.ofInstances_append,
        ← Returns.add_assoc]
      cases hrun : (f b x).run.run s with
      | mk outcome t =>
          rw [hrun] at hfirst
          cases outcome with
          | error i => exact hfirst
          | ok b => exact ih b hfirst

theorem tells_matchPattern (p : Pattern) (file : SourceFile) (context : MatchContext)
    (time : MatchTime) (c : EventCounts) (hunmarked : p.core.Unmarked) :
    p.Tells c (recoveredIn (matchPattern p file context time).answer)
      (matchPattern p file context time).pattern
      ((matchPattern p file context time).events.foldl EventCounts.count c) := by
  unfold matchPattern
  split
  · exact Pattern.tells_matchSource p hunmarked ..
  · exact .of_mode id rfl c

theorem keepsBalance_matchAt (index : Nat) (file : SourceFile) (context : MatchContext)
    (found : Found) :
    KeepsBalance (answersAt index file context) (matchAt index file context found) := by
  intro others r s hs
  unfold matchAt answersAt
  rw [run_bind, run_get]
  simp only
  cases hp : s.learner.patterns[index]? with
  | none => exact hs
  | some p =>
      simp only [run_bind]
      obtain ⟨patience, hpause | ⟨i, hpause⟩⟩ := pause_cases s
      · have hwaited : InBalance others r { s with patience } := hs.congr rfl rfl rfl
        have happlied := hwaited.set hp (tells_matchPattern p file context s.time)
        simp only [hpause, setAt, run_modify]
        rcases hanswer : (matchPattern p file context s.time).answer with i | _ | _ <;>
          rw [hanswer] at happlied <;> exact happlied
      · simp only [hpause]
        exact hs.congr rfl rfl rfl

theorem keepsBalance_matchFile (found : Found) (file : SourceFile) :
    KeepsBalance (answersIn found file) (matchFile found file) := by
  intro others r s hs
  unfold matchFile answersIn
  split
  · exact hs
  · rw [run_bind, run_get]
    simp only
    exact keepsBalance_foldlM
      (fun found index => keepsBalance_matchAt index file (contextOf s.learner file) found)
      (List.range s.learner.patterns.length) found hs

end ProjectLearning

namespace LearningState

variable {s t : LearningState} {others : List Pattern} {r : Returns}

theorem InBalance.offerAll (hs : InBalance others r s) (known : Insights)
    (hobservers : t.observers = s.observers)
    (hannounces : t.learner.announces = s.learner.announces)
    (hpatterns : t.learner.patterns =
      s.learner.patterns.map fun p => p.offer (known.variationsOf p.name)) : InBalance others r t :=
  hs.map hobservers hannounces (fun _ c hunmarked => Pattern.tells_offer hunmarked _ c) hpatterns

theorem InBalance.begin (hs : InBalance others r s) : InBalance others r s.begin := by
  cases hbegun : s.learner.initialized with
  | true => rwa [begin_of_initialized hbegun]
  | false =>
      have hframe : s.begin.observers = s.observers ∧
          s.begin.learner.announces = s.learner.announces := by
        unfold LearningState.begin
        split <;> exact ⟨rfl, rfl⟩
      refine hs.map hframe.1 hframe.2 (fun p c hunmarked => ?_) (patterns_begin hbegun)
      have hrestored := Pattern.tells_restore hunmarked s.loaded c
      exact hrestored.trans (Pattern.tells_offer (hrestored.unmarked hunmarked) _ c)

theorem InBalance.announce (hs : InBalance others r s) {event : Event} {t : Returns}
    (hcounted : ∀ c patterns, Balanced r c patterns → Balanced (r.add t) (c.count event) patterns) :
    InBalance others (r.add t) (s.announce event) := by
  obtain ⟨honce, hcounts⟩ := hs.once.emitAll [event]
  unfold LearningState.announce
  rw [if_pos hs.announces]
  refine ⟨honce, hs.announces, hs.unmarked, ?_⟩
  show Balanced _ (s.observers.emitAll [event]).state.counts _
  rw [hcounts]
  exact hcounted _ _ hs.balanced

theorem InBalance.announceLearned (hs : InBalance others r s) (project : String)
    (report : LearnReport) :
    InBalance others (r.add ⟨0, 1, 0⟩) (s.announce (.projectLearned project report)) :=
  hs.announce fun _ _ h => { h with projects := congrArg (· + 1) h.projects }

theorem InBalance.announceImproved (hs : InBalance others r s) (pattern : String)
    (i : Improvement) :
    InBalance others (r.add ⟨0, 0, 1⟩) (s.announce (.patternImproved pattern i)) :=
  hs.announce fun _ _ h => { h with improvements := congrArg (· + 1) h.improvements }

theorem InBalance.announceShutdown (hs : InBalance others r s) (component : String) :
    InBalance others r (s.announce (.shutdown component)) :=
  hs.announce (t := .none) fun _ _ h => h

theorem InBalance.improveAll (hs : InBalance others r s) (known : Insights) (now : Instant)
    (names : Option (List String)) :
    InBalance others r (s.withLearner fun l => { l with
      patterns := (improvePatterns known now names l.patterns).1 }) := by
  refine hs.map rfl rfl (fun p c hunmarked => ?_) (patterns_improvePatterns known now names _)
  split
  · exact Pattern.tells_improve hunmarked known now c
  · exact .of_mode id rfl c

theorem InBalance.noteImprovements (hs : InBalance others r s)
    (outcomes : List (Pattern × Option Improvement)) :
    InBalance others (r.add ⟨0, 0, outcomes.countP (·.2.isSome)⟩) (s.noteImprovements outcomes) := by
  induction outcomes generalizing r s with
  | nil => exact hs
  | cons o rest ih =>
      obtain ⟨p, entry⟩ := o
      cases entry with
      | none => exact ih hs
      | some i =>
          have hcounted := hs.congr (t := s.withLearner fun l => { l with
            insights := { l.insights with metrics := countImprovement l.insights.metrics p } })
            rfl rfl rfl
          have hnoted : InBalance others (r.add ⟨0, 0, 1⟩) (s.noteImprovement p i) :=
            (hcounted.announceImproved p.name i).congr rfl rfl rfl
          have hrest := ih hnoted
          rw [Returns.add_assoc] at hrest
          rw [List.countP_cons_of_pos rfl, Nat.add_comm]
          exact hrest

theorem InBalance.merged (hs : InBalance others r s) (variations : List (String × List String)) :
    InBalance others r (s.merged variations) := by
  induction variations generalizing s with
  | nil => exact hs
  | cons v rest ih =>
      obtain ⟨pattern, vs⟩ := v
      refine ih (s := s.withLearner fun l => (l.merge pattern vs).1) ?_
      simp only [withLearner, Learner.merge]
      split
      · exact hs.congr rfl rfl rfl
      · exact hs.offerAll (s.learner.insights.addVariations pattern vs).1 rfl rfl rfl

/-! ### Entries in the logs of improvements -/

/-- How many entries the logs have more than before; what is loaded does not count. -/
def appended (s t : LearningState) : Nat :=
  t.learner.insights.totalImprovements -
    (if t.learner.initialized then s.begin else s).learner.insights.totalImprovements

theorem appended_of_begun (hbegun : t.learner.initialized = true) {n : Nat}
    (hlogs : t.learner.insights.totalImprovements =
      s.begin.learner.insights.totalImprovements + n) : appended s t = n := by
  unfold appended
  rw [if_pos hbegun, hlogs, Nat.add_sub_cancel_left]

theorem appended_of_same (hbegun : t.learner.initialized = s.learner.initialized)
    (hlogs : t.learner.insights.improvements = s.learner.insights.improvements) :
    appended s t = 0 := by
  have htotal : t.learner.insights.totalImprovements =
      (if t.learner.initialized then s.begin else s).learner.insights.totalImprovements := by
    unfold Insights.totalImprovements
    rw [hlogs]
    split
    · next hthere => rw [begin_of_initialized (hbegun ▸ hthere)]
    · rfl
  unfold appended
  rw [htotal, Nat.sub_self]

theorem totalImprovements_logged (known : Insights)
    (outcomes : List (Pattern × Option Improvement)) :
    (logged known outcomes).totalImprovements =
      known.totalImprovements + outcomes.countP (·.2.isSome) := by
  induction outcomes generalizing known with
  | nil => rfl
  | cons o rest ih =>
      obtain ⟨p, entry⟩ := o
      cases entry with
      | none => exact ih known
      | some i =>
          have hone : (known.addImprovement p.name i).totalImprovements =
              known.totalImprovements + 1 :=
            Dict.length_values_insert_concat known.improvements p.name i
          have hrest := ih (known.addImprovement p.name i)
          rw [List.countP_cons_of_pos rfl]
          show (logged (known.addImprovement p.name i) rest).totalImprovements = _
          omega

theorem totalImprovements_improved (s : LearningState) (names : Option (List String)) :
    (s.improved names).learner.insights.totalImprovements =
      s.learner.insights.totalImprovements + s.improvementCount names := by
  obtain ⟨observers, metrics, himproved⟩ := improved_eq s names
  rw [himproved]
  exact totalImprovements_logged ..

theorem InBalance.improved (hs : InBalance others r s) (names : Option (List String)) :
    InBalance others (r.add ⟨0, 0, s.improvementCount names⟩) (s.improved names) :=
  ((hs.improveAll ..).noteImprovements _).congr rfl rfl rfl

theorem totalImprovements_eq_of_improvements {known more : Insights}
    (hlogs : more.improvements = known.improvements) :
    more.totalImprovements = known.totalImprovements := by
  unfold Insights.totalImprovements
  rw [hlogs]

theorem appended_learn (s : LearningState) (project : String) (files : List SourceFile)
    (patience : Option Nat) : s.appended { (s.learn project files).2 with patience } = 0 := by
  have hends := ProjectLearning.ends_learn s project files
  have hbegun := initialized_begin s
  generalize s.learn project files = outcome at hends ⊢
  cases hends with
  | unbegun i hlearner => exact appended_of_same (by rw [hlearner]) (by rw [hlearner])
  | skipped hlearner => exact appended_of_begun (by rw [hlearner, hbegun]) (by rw [hlearner]; rfl)
  | searching i hlearner =>
      exact appended_of_begun (by rw [hlearner]; exact hbegun) (by rw [hlearner]; rfl)
  | @learned t found _ _ _ hlearner =>
      refine appended_of_begun (by rw [hlearner]; exact hbegun) ?_
      have hlogs : t.learner.insights.improvements = s.begin.learner.insights.improvements := by
        rw [hlearner]
        exact improvements_addDerived ..
      exact totalImprovements_eq_of_improvements hlogs

/-- Only improving the patterns adds to the logs. -/
theorem appended_perform (s : LearningState) (op : LearnerOperation) :
    s.appended (s.perform op) =
      match op with
      | .improve names => s.begin.improvementCount names
      | _ => 0 := by
  have hbegun := initialized_begin s
  cases op with
  | begin => exact appended_of_begun hbegun rfl
  | learn project files patience =>
      have hlearned := appended_learn { s with patience } project files none
      unfold appended at hlearned
      rw [begin_with_patience] at hlearned
      unfold appended perform
      split at hlearned <;> rename_i hinit
      · rw [if_pos hinit]
        exact hlearned
      · rw [if_neg hinit]
        exact hlearned
  | improve names =>
      refine appended_of_begun ?_ (totalImprovements_improved s.begin names)
      have hframe : Frame s.begin (s.begin.improved names) := Move.frame (.improve _ names hbegun)
      exact hframe.begun hbegun
  | importFrom path =>
      simp only [perform, importFrom]
      cases s.begin.readExport path with
      | error p => exact appended_of_begun hbegun rfl
      | ok e =>
          have hmerged : Frame s.begin (s.begin.merged e.variations.entries) :=
            Quiet.frame (.merge _ _ hbegun)
          have hlogs : (s.begin.merged e.variations.entries).learner.insights.improvements =
              s.begin.learner.insights.improvements := by
            unfold merged
            rw [mergeAll_eq]
            exact improvements_addAll ..
          simp only
          split
          · exact appended_of_begun (hmerged.begun hbegun)
              (totalImprovements_eq_of_improvements hlogs)
          · exact appended_of_begun (hmerged.begun hbegun)
              (totalImprovements_eq_of_improvements hlogs)
  | exportTo path =>
      simp only [perform, exportTo]
      split <;> exact appended_of_begun hbegun rfl
  | persist => exact appended_of_same rfl rfl
  | close =>
      obtain ⟨observers, hannounce⟩ :=
        announce_eq s.persist (.shutdown HealthBoard.learnerComponent)
      simp only [perform, close]
      rw [hannounce]
      exact appended_of_same rfl rfl
  | reset => exact Nat.zero_sub _
  | tick time => exact appended_of_same rfl rfl
  | place path text =>
      simp only [perform, placed]
      split <;> exact appended_of_same rfl rfl

/-! ### Operations of the learner -/

/-- The work came to a report of its own. -/
def isOwnReport (outcome : Except Interruption LearnReport) : Bool :=
  outcome.toOption.any fun report => !report.skipped

/-- What learning a project comes to. -/
def learnReturns (s : LearningState) (project : String) (files : List SourceFile) : Returns :=
  ⟨(ProjectLearning.answers project files s).countP MatchInstance.recovered,
    if isOwnReport (s.learn project files).1 then 1 else 0, 0⟩

/-- What an operation of the learner comes to. -/
def returns (s : LearningState) (op : LearnerOperation) : Returns :=
  match op with
  | .learn project files patience =>
      (learnReturns { s with patience } project files).add ⟨0, 0, s.appended (s.perform op)⟩
  | _ => ⟨0, 0, s.appended (s.perform op)⟩

theorem InBalance.note (hs : InBalance others r s) (project : String) (files : List SourceFile)
    (found : ProjectLearning.Found) :
    InBalance others r (ProjectLearning.note s project files found).1 :=
  hs.offerAll (ProjectLearning.note s project files found).1.learner.insights rfl rfl rfl

theorem InBalance.learn (hs : InBalance others r s) (project : String) (files : List SourceFile) :
    InBalance others (r.add (s.learnReturns project files)) (s.learn project files).2 := by
  have hsearched : ∀ {outcome u patience}, s.knownAtFirst.isTrained project = false →
      ProjectLearning.begin.run.run s = (.ok (), { s.begin with patience }) →
      (ProjectLearning.extract files).run.run { s.begin with patience } = (outcome, u) →
      InBalance others (r.add (.ofInstances (ProjectLearning.answers project files s))) u := by
    intro outcome u patience hnew hbegin hextract
    have hmatched := ProjectLearning.keepsBalance_foldlM ProjectLearning.keepsBalance_matchFile
      files .empty (hs.begin.congr (t := { s.begin with patience }) rfl rfl rfl)
    unfold ProjectLearning.extract at hextract
    rw [hextract] at hmatched
    rwa [ProjectLearning.answers_of_new hbegin hnew]
  have hcourse := ProjectLearning.course_learn s project files
  unfold learnReturns
  generalize s.learn project files = outcome at hcourse ⊢
  cases hcourse with
  | unbegun hbegin =>
      rw [ProjectLearning.answers_of_unbegun hbegin]
      exact hs.congr rfl rfl rfl
  | skipped hbegin hknown =>
      rw [ProjectLearning.answers_of_known hbegin hknown]
      exact hs.begin.congr rfl rfl rfl
  | searching hbegin hnew hextract => exact hsearched hnew hbegin hextract
  | unsaved hbegin hnew hextract i patience' =>
      exact ((hsearched hnew hbegin hextract).note project files _).congr rfl rfl rfl
  | unannounced hbegin hnew hextract i patience' =>
      exact ((hsearched hnew hbegin hextract).note project files _).congr rfl rfl rfl
  | @learned found u _ hbegin hnew hextract patience' =>
      have hsaved : InBalance others _ (ProjectLearning.note u project files found).1.persist :=
        ((hsearched hnew hbegin hextract).note project files found).congr rfl rfl rfl
      have htold := hsaved.announceLearned project (ProjectLearning.note u project files found).2
      rw [Returns.add_assoc] at htold
      exact htold.congr rfl rfl rfl

theorem InBalance.perform (hs : InBalance others r s) (op : LearnerOperation) :
    InBalance others (r.add (s.returns op)) (s.perform op) := by
  unfold returns
  rw [appended_perform]
  cases op with
  | begin => exact hs.begin
  | learn project files patience =>
      have hlearned := (hs.congr (t := { s with patience }) rfl rfl rfl).learn project files
      exact hlearned.congr rfl rfl rfl
  | improve names => exact (hs.begin.improved names).congr rfl rfl rfl
  | importFrom path =>
      simp only [LearningState.perform, importFrom]
      cases s.begin.readExport path with
      | error p => exact hs.begin
      | ok e =>
          have hmerged := hs.begin.merged e.variations.entries
          simp only
          split
          · exact hmerged
          · exact hmerged.congr rfl rfl rfl
  | exportTo path =>
      simp only [LearningState.perform, exportTo]
      split
      · exact hs.begin.congr rfl rfl rfl
      · exact hs.begin
  | persist => exact hs.congr rfl rfl rfl
  | close =>
      have hsaved : InBalance others r s.persist := hs.congr rfl rfl rfl
      exact hsaved.announceShutdown HealthBoard.learnerComponent
  | reset => exact hs.congr rfl rfl rfl
  | tick time => exact hs.congr rfl rfl rfl
  | place path text =>
      simp only [LearningState.perform, placed]
      split
      · exact hs.congr rfl rfl rfl
      · exact hs

end LearningState

/-! ### Runs -/

/-- A learner at work, and patterns in other hands that announce to the same observers. -/
structure Company where
  state : LearningState
  others : List Pattern

inductive CompanyStep
  | operate (op : LearnerOperation)
  /-- Somebody else uses a pattern of the learner. -/
  | use (index : Nat) (op : PatternOperation)
  /-- A pattern is used that is not the learner's. -/
  | useOther (index : Nat) (op : PatternOperation)

/-- No engine is brought in that marks what it finds as recovered. -/
def CompanyStep.MarksNone : CompanyStep → Prop
  | operate _ => True
  | use _ op => op.MarksNone
  | useOther _ op => op.MarksNone

namespace Company

variable {c : Company} {r : Returns} {step : CompanyStep} {steps : List CompanyStep}

def patterns (c : Company) : List Pattern := c.state.learner.patterns ++ c.others

def take (c : Company) : CompanyStep → Company
  | .operate op => { c with state := c.state.perform op }
  | .use index op => { c with state := c.state.use index op }
  | .useOther index op =>
      match c.others[index]? with
      | none => c
      | some p => ⟨c.state.announceAll (p.eventsOf op), c.others.set index (p.perform op)⟩

def takeAll (c : Company) (steps : List CompanyStep) : Company := steps.foldl take c

/-- What a step comes to. -/
def returns (c : Company) : CompanyStep → Returns
  | .operate op => c.state.returns op
  | .use index op => .ofInstances (c.state.learner.patterns[index]?.elim [] fun p => p.found op)
  | .useOther index op => .ofInstances (c.others[index]?.elim [] fun p => p.found op)

def returnsAll : Company → List CompanyStep → Returns
  | _, [] => .none
  | c, step :: rest => (c.returns step).add ((c.take step).returnsAll rest)

/-- Nothing was counted or written down yet, one of the observers counts, and the learner announces
what it does. -/
structure Starts (c : Company) : Prop where
  once : c.state.observers.CountsOnce
  counts : c.state.observers.state.counts = .zero
  announces : c.state.learner.announces = true
  unmarked : ∀ p ∈ c.patterns, p.core.Unmarked
  unused : ∀ p ∈ c.patterns, p.records = [] ∧ p.recoveryStats = []

theorem Starts.inBalance (hstart : c.Starts) : InBalance c.others .none c.state := by
  have hnone : ∀ f : Pattern → Nat, (∀ p ∈ c.patterns, f p = 0) → (c.patterns.map f).sum = 0 :=
    fun f hf => List.sum_eq_zero fun n hn => by
      obtain ⟨p, hp, rfl⟩ := List.mem_map.mp hn
      exact hf p hp
  refine ⟨hstart.once, hstart.announces, hstart.unmarked, ?_⟩
  rw [hstart.counts]
  refine ⟨(hnone _ fun p hp => ?_).symm, (hnone _ fun p hp => ?_).symm,
    (hnone _ fun p hp => ?_).symm, (hnone _ fun p hp => ?_).le, rfl, rfl, rfl⟩
  · rw [(hstart.unused p hp).1]
    rfl
  · unfold Pattern.changes
    rw [(hstart.unused p hp).1]
    rfl
  · unfold Pattern.recoveryAttempts
    rw [(hstart.unused p hp).2]
    rfl
  · unfold Pattern.recoverySuccesses
    rw [(hstart.unused p hp).2]
    rfl

theorem inBalance_take (hc : InBalance c.others r c.state) (hstep : step.MarksNone) :
    InBalance (c.take step).others (r.add (c.returns step)) (c.take step).state := by
  cases step with
  | operate op => exact hc.perform op
  | use index op =>
      simp only [take, returns, use]
      cases hp : c.state.learner.patterns[index]? with
      | none => exact hc
      | some p => exact hc.set hp fun c hunmarked => Pattern.tells_perform hunmarked hstep c
  | useOther index op =>
      simp only [take, returns]
      cases hp : c.others[index]? with
      | none => exact hc
      | some p =>
          obtain ⟨front, back, hsplit, hset⟩ := exists_of_getElem? hp (p.perform op)
          have hbefore : c.state.learner.patterns ++ c.others =
              (c.state.learner.patterns ++ front) ++ p :: back := by
            rw [hsplit, List.append_assoc]
          refine hc.replace (fun c hunmarked => Pattern.tells_perform hunmarked hstep c) hbefore ?_
            rfl rfl
          simp only [announceAll, hset, List.append_assoc]

theorem inBalance_takeAll (hc : InBalance c.others r c.state)
    (hsteps : ∀ step ∈ steps, step.MarksNone) :
    InBalance (c.takeAll steps).others (r.add (c.returnsAll steps)) (c.takeAll steps).state := by
  induction steps generalizing c r with
  | nil => exact hc
  | cons step rest ih =>
      have hnext := ih (inBalance_take hc (hsteps step List.mem_cons_self))
        fun later hlater => hsteps later (List.mem_cons_of_mem _ hlater)
      rwa [Returns.add_assoc] at hnext

/-- However a learner and patterns are used that announce to one row of observers, the counts of the
one that counts agree with the logs of adaptations, with the attempts and successes that the patterns
count, and with what the calls gave back: recovered instances, reports on projects and improvements.
Other observers may fail. -/
theorem balanced_takeAll (hstart : c.Starts) (hsteps : ∀ step ∈ steps, step.MarksNone) :
    Balanced (c.returnsAll steps) (c.takeAll steps).state.observers.state.counts
      (c.takeAll steps).patterns := by
  have hend := (inBalance_takeAll hstart.inBalance hsteps).balanced
  rwa [Returns.none_add] at hend

/-- A learner of a resilient pattern, whose store holds a variation for it, and an adaptive pattern
beside it.  The first of the observers fails whenever it is told something. -/
def wordCompany : Company where
  state :=
    { inMemory [] (some ((Insights.empty ⟨0, 0⟩).addVariations "words" ["cd"]).1) with
      learner := .fresh [.resilient Pattern.shortQuery .standard ⟨4, 0, 2⟩] .memory
        ⟨⟨0, 0, 0⟩, 1, 1, false⟩ none true ⟨0, 0⟩
      observers := ⟨[.recorder "r" EventKind.all true, .counting, .logging], .initial⟩ }
  others := [letterPattern]

/-- A project is learned, with a match that recovers, and given once more.  Then a pattern is improved
and recovers again, and the other one adapts twice, at first in vain. -/
def wordSteps : List CompanyStep :=
  [.operate (.learn "p" [⟨"f.txt", "ZZZZab"⟩] none), .operate (.learn "p" [] none),
    .operate (.improve none), .use 0 (.search "ZabZcd" none ⟨⟨0, 0⟩, 0⟩),
    .useOther 0 (.adapt (.ofFile "f.txt" "text" .custom) ⟨0, 0⟩), .useOther 0 (.offer ["a"]),
    .useOther 0 (.adapt (.ofFile "f.txt" "text" .custom) ⟨0, 0⟩)]

theorem balanced_takeAll_words :
    (wordCompany.takeAll wordSteps).state.observers.state.counts = ⟨2, 1, 2, 0, 2, 1, 1⟩ ∧
      wordCompany.returnsAll wordSteps = ⟨2, 1, 1⟩ ∧
      Balanced (wordCompany.returnsAll wordSteps)
        (wordCompany.takeAll wordSteps).state.observers.state.counts
        (wordCompany.takeAll wordSteps).patterns := by
  have hpatterns : ∀ p ∈ wordCompany.patterns, p.core.Unmarked ∧ p.records = [] ∧
      p.recoveryStats = [] := by
    intro p hp
    rcases List.mem_cons.mp hp with rfl | hp
    · refine ⟨⟨Pattern.marksNone_shortQuery, ?_⟩, rfl, rfl⟩
      rintro c ⟨⟩ e he
      exact absurd he List.not_mem_nil
    · obtain rfl := List.mem_singleton.mp hp
      refine ⟨⟨?_, nofun⟩, rfl, rfl⟩
      intro language query text found hrun
      cases hrun
  have hstart : wordCompany.Starts :=
    ⟨⟨[.recorder "r" EventKind.all true], [.logging], rfl, by simp, by simp⟩, rfl, rfl,
      fun p hp => (hpatterns p hp).1, fun p hp => (hpatterns p hp).2⟩
  refine ⟨by decide +kernel, by decide +kernel, balanced_takeAll hstart ?_⟩
  intro step hstep
  simp only [wordSteps, List.mem_cons, List.not_mem_nil, or_false] at hstep
  rcases hstep with rfl | rfl | rfl | rfl | rfl | rfl | rfl <;> exact trivial

end Company
end AdaptiveRules
