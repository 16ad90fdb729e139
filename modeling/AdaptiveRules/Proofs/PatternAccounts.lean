import AdaptiveRules.Proofs.AdaptationRecords
import AdaptiveRules.Proofs.ConservativeModes
import AdaptiveRules.Proofs.LearnerLives

/-!
# What patterns tell of themselves

A pattern keeps books: it writes down every attempt to adapt, and counts the attempts to recover by
kind of failure.  It announces each of these as well, and one observer counts what is announced.
Whatever is done to a pattern, the counts go on by as much as its books, and the instances that are
counted as recovered are those that its answer marks so.
-/

namespace AdaptiveRules

/-! ### The observer that counts -/

namespace Observers

variable {o : Observers}

/-- Exactly one of the observers counts. -/
def CountsOnce (o : Observers) : Prop :=
  ∃ front back, o.registered = front ++ .counting :: back ∧
    Observer.counting ∉ front ∧ Observer.counting ∉ back

theorem CountsOnce.emit (honce : o.CountsOnce) (event : Event) : (o.emit event).CountsOnce := honce

/-- Observers that do not count leave the counts, whether they fail or not. -/
theorem counts_foldl_tell {observers : List Observer} (hnone : Observer.counting ∉ observers)
    (event : Event) (s : ObserverState) :
    (observers.foldl (fun s observer => (observer.tell s event).1) s).counts = s.counts := by
  refine List.foldlRecOn (motive := fun t : ObserverState => t.counts = s.counts) observers _ rfl ?_
  intro t ht observer hmem
  cases observer with
  | counting => exact absurd hmem hnone
  | logging => exact ht
  | health => exact ht
  | recorder name kinds fails => exact ht

theorem not_mem_ofKind {observers : List Observer} (hnone : Observer.counting ∉ observers)
    (kind : EventKind) :
    Observer.counting ∉ observers.flatMap fun observer =>
      (observer.kinds.filter (· = kind)).map fun _ => observer := by
  intro hmem
  obtain ⟨observer, hobserver, hasked⟩ := List.mem_flatMap.mp hmem
  obtain ⟨_, _, rfl⟩ := List.mem_map.mp hasked
  exact hnone hobserver

/-- The one that counts asks for all kinds but the end of a component, which counts nothing. -/
theorem counts_foldl_tell_counting (event : Event) (s : ObserverState) :
    (((Observer.counting.kinds.filter (· = event.kind)).map fun _ => Observer.counting).foldl
      (fun s observer => (observer.tell s event).1) s).counts = s.counts.count event := by
  cases event <;> rfl

theorem counts_emit (honce : o.CountsOnce) (event : Event) :
    (o.emit event).state.counts = o.state.counts.count event := by
  obtain ⟨front, back, hregistered, hfront, hback⟩ := honce
  unfold emit ofKind
  rw [hregistered, List.flatMap_append, List.flatMap_cons, List.foldl_append, List.foldl_append,
    counts_foldl_tell (not_mem_ofKind hback _), counts_foldl_tell_counting,
    counts_foldl_tell (not_mem_ofKind hfront _)]

theorem CountsOnce.emitAll (honce : o.CountsOnce) (events : List Event) :
    (o.emitAll events).CountsOnce ∧
      (o.emitAll events).state.counts = events.foldl EventCounts.count o.state.counts := by
  induction events generalizing o with
  | nil => exact ⟨honce, rfl⟩
  | cons event rest ih =>
      have hrest := ih (honce.emit event)
      rwa [counts_emit honce event] at hrest

end Observers

/-! ### The books of a pattern -/

/-- What an answer gives back; nothing if there is none. -/
def instancesIn (answer : Except Interruption (List MatchInstance)) : List MatchInstance :=
  answer.toOption.getD []

/-- The instances of an answer that are marked as recovered. -/
def recoveredIn (answer : Except Interruption (List MatchInstance)) : Nat :=
  (instancesIn answer).countP MatchInstance.recovered

theorem recoveredIn_of_noneRecovered {found : List MatchInstance} (hfound : NoneRecovered found) :
    recoveredIn (.ok found) = 0 := by
  refine List.countP_eq_zero.mpr fun m hm => ?_
  rw [hfound m hm]
  exact Bool.false_ne_true

def PatternMode.recovery? : PatternMode → Option Recovery
  | plain => none
  | adaptive _ => none
  | resilient _ r => some r

theorem PatternMode.recovery?_withAdaptation (m : PatternMode) (a : Adaptation) :
    (m.withAdaptation a).recovery? = m.recovery? := by
  cases m <;> rfl

namespace Recovery

theorem sum_attempts_count (r : Recovery) (kind : FailureKind) (success : Bool) :
    ((r.count kind success).stats.values.map RecoveryStats.attempts).sum =
      (r.stats.values.map RecoveryStats.attempts).sum + 1 := by
  have hsum : ((r.count kind success).stats.values.map RecoveryStats.attempts).sum +
      ((r.stats.get? kind.name).map RecoveryStats.attempts).getD 0 =
        (r.stats.values.map RecoveryStats.attempts).sum +
          (((r.stats.get? kind.name).map RecoveryStats.attempts).getD 0 + 1) :=
    Dict.sum_values_insert RecoveryStats.attempts r.stats kind.name _
  omega

theorem sum_successes_count (r : Recovery) (kind : FailureKind) (success : Bool) :
    ((r.count kind success).stats.values.map RecoveryStats.successes).sum =
      (r.stats.values.map RecoveryStats.successes).sum + (if success then 1 else 0) := by
  have hsum : ((r.count kind success).stats.values.map RecoveryStats.successes).sum +
      ((r.stats.get? kind.name).map RecoveryStats.successes).getD 0 =
        (r.stats.values.map RecoveryStats.successes).sum +
          (((r.stats.get? kind.name).map RecoveryStats.successes).getD 0 +
            (if success then 1 else 0)) :=
    Dict.sum_values_insert RecoveryStats.successes r.stats kind.name _
  omega

end Recovery

namespace Pattern

variable {p q r : Pattern} {op : PatternOperation} {c d e : EventCounts} {m n : Nat}

/-- What the pattern has counted of its attempts to recover, for each kind of failure. -/
def recoveryStats (p : Pattern) : List RecoveryStats :=
  (p.mode.recovery?.map fun r => r.stats.values).getD []

def recoveryAttempts (p : Pattern) : Nat := (p.recoveryStats.map RecoveryStats.attempts).sum

def recoverySuccesses (p : Pattern) : Nat := (p.recoveryStats.map RecoveryStats.successes).sum

/-- From one pattern to the other, and from the first counts to the second, the books and the counts
go on alike; so many instances were recovered. -/
structure Tells (p : Pattern) (c : EventCounts) (n : Nat) (q : Pattern) (d : EventCounts) :
    Prop where
  unmarked : p.core.Unmarked → q.core.Unmarked
  adaptations : d.adaptations + p.records.length = c.adaptations + q.records.length
  ruleChanges : d.ruleChanges + p.changes.length = c.ruleChanges + q.changes.length
  attempts : d.recoveries + d.failedRecoveries + p.recoveryAttempts =
    c.recoveries + c.failedRecoveries + q.recoveryAttempts
  successes : c.recoveries + q.recoverySuccesses ≤ d.recoveries + p.recoverySuccesses
  recoveredInstances : d.recoveredInstances = c.recoveredInstances + n
  projects : d.projects = c.projects
  improvements : d.improvements = c.improvements

theorem Tells.trans (hfirst : Tells p c m q d) (hrest : Tells q d n r e) :
    Tells p c (m + n) r e := by
  obtain ⟨hunmarked, hadaptations, hchanges, hattempts, hsuccesses, hinstances, hprojects,
    himprovements⟩ := hfirst
  refine ⟨hrest.unmarked ∘ hunmarked, ?_, ?_, ?_, ?_, ?_, hrest.projects.trans hprojects,
    hrest.improvements.trans himprovements⟩
  · have := hrest.adaptations
    omega
  · have := hrest.ruleChanges
    omega
  · have := hrest.attempts
    omega
  · have := hrest.successes
    omega
  · have := hrest.recoveredInstances
    omega

/-- Where the books stay as they are nothing is told. -/
theorem Tells.of_books (hunmarked : p.core.Unmarked → q.core.Unmarked)
    (hrecords : q.records = p.records) (hstats : q.recoveryStats = p.recoveryStats)
    (c : EventCounts) : Tells p c 0 q c := by
  refine ⟨hunmarked, ?_, ?_, ?_, ?_, rfl, rfl, rfl⟩
  · rw [hrecords]
  · unfold changes
    rw [hrecords]
  · unfold recoveryAttempts
    rw [hstats]
  · unfold recoverySuccesses
    rw [hstats]

theorem Tells.of_mode (hunmarked : p.core.Unmarked → q.core.Unmarked) (hmode : q.mode = p.mode)
    (c : EventCounts) : Tells p c 0 q c := by
  refine Tells.of_books hunmarked ?_ ?_ c
  · exact records_congr (by rw [hmode])
  · unfold recoveryStats
    rw [hmode]

/-! ### What each operation tells -/

theorem recoveryStats_offer (p : Pattern) (variations : List String) :
    (p.offer variations).recoveryStats = p.recoveryStats := by
  unfold offer
  cases hmode : p.mode.adaptation? with
  | none => rfl
  | some a =>
      unfold recoveryStats
      simp only [PatternMode.recovery?_withAdaptation]

theorem recoveryStats_adapt (p : Pattern) (context : MatchContext) (now : Instant) :
    (p.adapt context now).pattern.recoveryStats = p.recoveryStats := by
  unfold adapt
  cases hmode : p.mode.adaptation? with
  | none => rfl
  | some a =>
      unfold recoveryStats
      simp only [PatternMode.recovery?_withAdaptation]

theorem recoveryStats_beforeMatch (p : Pattern) (context : Option MatchContext) (now : Instant) :
    (p.beforeMatch context now).pattern.recoveryStats = p.recoveryStats := by
  unfold beforeMatch
  split
  · split
    · exact recoveryStats_adapt ..
    · rfl
  · rfl

theorem tells_of_attempt {step : PatternStep (Option AdaptationRecord)} {r : AdaptationRecord}
    (hattempt : p.Attempt step r) (hunmarked : p.core.Unmarked → step.pattern.core.Unmarked)
    (hstats : step.pattern.recoveryStats = p.recoveryStats) (c : EventCounts) :
    Tells p c 0 step.pattern (step.events.foldl EventCounts.count c) := by
  rw [hattempt.events, List.foldl_cons, List.foldl_nil]
  refine ⟨hunmarked, ?_, ?_, ?_, ?_, rfl, rfl, rfl⟩
  · rw [hattempt.records, List.length_append]
    show c.adaptations + 1 + _ = _ + (_ + 1)
    omega
  · show c.ruleChanges + (if r.changed then 1 else 0) + _ = _
    unfold changes
    rw [hattempt.records, List.filter_append, List.length_append]
    cases hchanged : r.changed <;> simp [hchanged]
    omega
  · unfold recoveryAttempts
    rw [hstats]
    rfl
  · unfold recoverySuccesses
    rw [hstats]
    rfl

theorem tells_beforeMatch (p : Pattern) (source : String) (context : Option MatchContext)
    (time : MatchTime) (c : EventCounts) :
    Tells p c 0 (p.beforeMatch context time.now).pattern
      ((p.beforeMatch context time.now).events.foldl EventCounts.count c) := by
  have hunmarked : p.core.Unmarked → (p.beforeMatch context time.now).pattern.core.Unmarked := by
    rw [core_beforeMatch p source context time]
    exact fun hunmarked => unmarked_readied hunmarked _
  have hstats := recoveryStats_beforeMatch p context time.now
  rcases beforeMatch_cases p context time.now with hnone | ⟨r, hattempt⟩
  · rw [hnone]
    exact .of_mode id rfl c
  · exact tells_of_attempt hattempt hunmarked hstats c

/-- An attempt to recover is counted once by the pattern and once by the observer.  The pattern counts
it as a success only if something was found, the observer if the attempt did not fail. -/
theorem tells_afterFailure (p : Pattern) (failure : MatchError) (source : String)
    (c : EventCounts) :
    Tells p c (recoveredIn (p.afterFailure failure source).answer)
      (p.afterFailure failure source).pattern
      ((p.afterFailure failure source).events.foldl EventCounts.count c) := by
  obtain ⟨core, mode⟩ := p
  unfold afterFailure
  cases mode with
  | plain => exact .of_mode id rfl c
  | adaptive a => exact .of_mode id rfl c
  | resilient a r =>
      have hcounted (success : Bool) := And.intro (r.sum_attempts_count failure.kind success)
        (r.sum_successes_count failure.kind success)
      simp only
      rcases MatchRecovery.recover core r.settings failure.kind source with i | e | found
      · exact .of_mode id rfl c
      · obtain ⟨hattempts, hsuccesses⟩ := hcounted false
        refine ⟨id, rfl, rfl, ?_, ?_, rfl, rfl, rfl⟩
        · show _ + (c.failedRecoveries + 1) + _ = _ + ((r.count failure.kind false).stats.values.map _).sum
          rw [hattempts]
          show c.recoveries + _ + (r.stats.values.map RecoveryStats.attempts).sum = _
          omega
        · show _ + ((r.count failure.kind false).stats.values.map _).sum ≤ _
          rw [hsuccesses]
          exact le_rfl
      · obtain ⟨hattempts, hsuccesses⟩ := hcounted (!found.isEmpty)
        refine ⟨id, rfl, rfl, ?_, ?_, ?_, rfl, rfl⟩
        · show c.recoveries + 1 + c.failedRecoveries + (r.stats.values.map _).sum =
            _ + ((r.count failure.kind (!found.isEmpty)).stats.values.map _).sum
          rw [hattempts]
          omega
        · show _ + ((r.count failure.kind (!found.isEmpty)).stats.values.map _).sum ≤
            c.recoveries + 1 + (r.stats.values.map _).sum
          rw [hsuccesses]
          split <;> omega
        · show c.recoveredInstances + found.length = _ + List.countP _ (List.map _ found)
          rw [List.countP_map]
          exact congrArg _ (List.countP_eq_length.mpr fun _ _ => rfl).symm

theorem tells_matchSource (p : Pattern) (hunmarked : p.core.Unmarked) (source : String)
    (context : Option MatchContext) (time : MatchTime) (c : EventCounts) :
    Tells p c (recoveredIn (p.matchSource source context time).answer)
      (p.matchSource source context time).pattern
      ((p.matchSource source context time).events.foldl EventCounts.count c) := by
  have hbefore := tells_beforeMatch p source context time c
  generalize hd : (p.beforeMatch context time.now).events.foldl EventCounts.count c = d at hbefore
  obtain ⟨hfound, hafter⟩ := (hbefore.unmarked hunmarked).run source context time
  have hrun := hbefore.trans (Tells.of_mode (p := (p.beforeMatch context time.now).pattern)
    (q := { (p.beforeMatch context time.now).pattern with
      core := ((p.beforeMatch context time.now).pattern.core.run source context time).2 })
    (fun _ => hafter) rfl d)
  unfold matchSource
  simp only
  rcases hanswer : ((p.beforeMatch context time.now).pattern.core.run source context time).1
    with i | failure | found
  · rw [hd]
    exact hrun
  · simp only
    rw [List.foldl_append, hd, ← Nat.zero_add (recoveredIn _)]
    exact hrun.trans (tells_afterFailure _ failure source d)
  · rw [hd, recoveredIn_of_noneRecovered (hfound found hanswer)]
    exact hrun

/-- What an operation gives back. -/
def found (p : Pattern) (op : PatternOperation) : List MatchInstance :=
  (p.answer? op).elim [] instancesIn

end Pattern

/-- An engine that takes the place of another does not mark what it finds. -/
def PatternOperation.MarksNone : PatternOperation → Prop
  | exchange engine => engine.MarksNone
  | _ => True

namespace Pattern

variable {p : Pattern} {op : PatternOperation}

theorem unmarked_of_marksNone (hunmarked : p.core.Unmarked) (op : PatternOperation)
    (hop : op.MarksNone) : (p.perform op).core.Unmarked := by
  have hready := unmarked_readied hunmarked op
  rw [core_perform]
  cases op with
  | search source context time => exact (hready.run ..).2
  | exchange engine => exact ⟨hop, hready.cached⟩
  | _ => exact hready

theorem tells_offer (hunmarked : p.core.Unmarked) (variations : List String) (c : EventCounts) :
    Tells p c 0 (p.offer variations) c :=
  .of_books (fun _ => unmarked_of_marksNone hunmarked (.offer variations) trivial)
    (records_offer p variations) (recoveryStats_offer p variations) c

theorem tells_improve (hunmarked : p.core.Unmarked) (known : Insights) (now : Instant)
    (c : EventCounts) : Tells p c 0 (p.perform (.improve known now)) c := by
  have hmode : (p.perform (.improve known now)).mode = p.mode := rfl
  exact .of_mode (fun _ => unmarked_of_marksNone hunmarked (.improve known now) trivial) hmode c

theorem tells_restore (hunmarked : p.core.Unmarked) (known : Insights) (c : EventCounts) :
    Tells p c 0 (p.perform (.restore known)) c :=
  .of_mode (fun _ => unmarked_of_marksNone hunmarked (.restore known) trivial)
    (mode_restore p _) c

/-- Whatever is done to a pattern, what it announces tells how its books go on. -/
theorem tells_perform (hunmarked : p.core.Unmarked) (hop : op.MarksNone) (c : EventCounts) :
    Tells p c ((p.found op).countP MatchInstance.recovered) (p.perform op)
      ((p.eventsOf op).foldl EventCounts.count c) := by
  have hafter : p.core.Unmarked → (p.perform op).core.Unmarked :=
    fun hunmarked => unmarked_of_marksNone hunmarked op hop
  cases op with
  | search source context time => exact tells_matchSource p hunmarked source context time c
  | adapt context now =>
      rcases adapt_cases p context now with hnone | ⟨r, hattempt⟩
      · unfold eventsOf perform
        simp only
        rw [hnone]
        exact .of_mode id rfl c
      · exact tells_of_attempt hattempt hafter (recoveryStats_adapt p context now) c
  | offer variations => exact tells_offer hunmarked variations c
  | install rule => exact .of_mode hafter (mode_installed p rule) c
  | improve known now => exact tells_improve hunmarked known now c
  | restore known => exact tells_restore hunmarked known c
  | exchange engine => exact .of_mode hafter rfl c

end Pattern
end AdaptiveRules
