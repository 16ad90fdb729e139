import AdaptiveRules.Proofs.ShareComparison
import AdaptiveRules.Proofs.UsageHistory

/-!
# When a pattern calls for adaptation

Whether a pattern does badly in a context follows from the calls it has answered: those in contexts
with the same key, or, if there were none, those with the same parser.  There have to be more of them
than a number of samples, and too low a share of them has found something.  What is found by recovery
does not count: it comes from a call that failed.
-/

namespace AdaptiveRules

namespace MatchCall

def DoBadly (tooFew : Nat → Nat → Prop) (minSamples : Nat) (calls : List MatchCall) : Prop :=
  minSamples < calls.length ∧ tooFew (calls.countP success) calls.length

/-- The calls at the key of the context do badly, or there are none and those with its parser do. -/
def DoBadlyIn (tooFew : Nat → Nat → Prop) (minSamples : Nat) (calls : List MatchCall)
    (context : MatchContext) : Prop :=
  (calls.filter (isAt context.key) ≠ [] ∧
      DoBadly tooFew minSamples (calls.filter (isAt context.key))) ∨
    (calls.filter (isAt context.key) = [] ∧
      DoBadly tooFew minSamples (calls.filter (isBy context.parser)))

variable {calls : List MatchCall} {few other : Nat → Nat → Prop} {minSamples : Nat}

theorem doBadly_congr
    (hagree : ∀ s u, s ≤ u → 0 < u → u ≤ calls.length → (few s u ↔ other s u))
    (counted : MatchCall → Bool) :
    DoBadly few minSamples (calls.filter counted) ↔
      DoBadly other minSamples (calls.filter counted) := by
  refine and_congr_right fun henough => ?_
  exact hagree _ _ List.countP_le_length (Nat.zero_lt_of_lt henough) (List.length_filter_le ..)

theorem doBadlyIn_congr
    (hagree : ∀ s u, s ≤ u → 0 < u → u ≤ calls.length → (few s u ↔ other s u))
    (context : MatchContext) :
    DoBadlyIn few minSamples calls context ↔ DoBadlyIn other minSamples calls context :=
  or_congr (and_congr_right fun _ => doBadly_congr hagree _)
    (and_congr_right fun _ => doBadly_congr hagree _)

end MatchCall

/-! ### What is decided on the metrics -/

namespace Adaptation

open MatchCall

theorem fails_iff (t : AdaptationThresholds) (uses : Nat) (rate : Float) :
    fails t uses rate = true ↔ t.minSamples < uses ∧ rate < t.successRate := by
  rw [fails, Bool.and_eq_true, decide_eq_true_eq, decide_eq_true_eq]

theorem shouldAdapt_of_records {name : String} {calls : List MatchCall} {m : UsageMetrics}
    (hm : m.Records name calls) (a : Adaptation) (context : MatchContext) :
    a.shouldAdapt m context = true ↔
      DoBadlyIn (fun s u => shareOf s u < a.thresholds.successRate) a.thresholds.minSamples calls
        context := by
  have hcontext := hm.context context.key
  have hparser := hm.parser context.parser
  unfold shouldAdapt DoBadlyIn
  -- A context or parser has a counter exactly if there were calls in it.
  cases huse : m.context? context.key with
  | some u =>
      rw [huse, Option.map_some] at hcontext
      obtain ⟨hsome, huses, hsuccesses⟩ := of_tally hcontext.symm
      rw [and_iff_right hsome, or_iff_left fun hnone => hsome hnone.1, DoBadly, ← huses,
        ← hsuccesses]
      exact fails_iff ..
  | none =>
      rw [huse, Option.map_none] at hcontext
      have hnone := tally_eq_none_iff.mp hcontext.symm
      rw [and_iff_right hnone, or_iff_right fun hsome => hsome.1 hnone, DoBadly]
      cases hby : m.parser? context.parser with
      | some u =>
          rw [hby, Option.map_some] at hparser
          obtain ⟨_, htotal, hsuccessful⟩ := of_tally hparser.symm
          rw [← htotal, ← hsuccessful]
          exact fails_iff ..
      | none =>
          rw [hby, Option.map_none] at hparser
          rw [tally_eq_none_iff.mp hparser.symm]
          simp

end Adaptation

/-! ### What a run leaves of the mode -/

namespace Pattern

open MatchCall

variable {p : Pattern} {ops : List PatternOperation}

def thresholds? (p : Pattern) : Option AdaptationThresholds :=
  p.mode.adaptation?.map Adaptation.thresholds

theorem thresholds?_perform (p : Pattern) (op : PatternOperation) :
    (p.perform op).thresholds? = p.thresholds? := by
  have hkept : ∀ {q : Pattern}, q.mode = p.mode → q.thresholds? = p.thresholds? := by
    intro q hmode
    unfold thresholds?
    rw [hmode]
  cases op with
  | search source context time => exact adaptation?_matchSource (fun _ _ => rfl) ..
  | install rule => exact hkept (mode_installed p rule)
  | offer variations =>
      show (p.offer variations).thresholds? = _
      unfold offer thresholds?
      cases hmode : p.mode <;> simp [PatternMode.adaptation?, PatternMode.withAdaptation, hmode,
        Adaptation.offer]
  | adapt context now => exact adaptation?_adapt (fun _ _ => rfl) ..
  | improve known now => exact hkept rfl
  | restore known => exact hkept (mode_restore p _)
  | exchange engine => exact hkept rfl

theorem thresholds?_performAll (p : Pattern) (ops : List PatternOperation) :
    (p.performAll ops).thresholds? = p.thresholds? :=
  List.foldlRecOn (motive := fun q : Pattern => q.thresholds? = p.thresholds?) ops perform rfl
    fun q hq op _ => (thresholds?_perform q op).trans hq

/-! ### The trigger -/

/-- A call is a success if the match answers with something and did not have to recover. -/
theorem success_call_iff (p : Pattern) (source : String) (context : Option MatchContext)
    (time : MatchTime) :
    ((p.readied (.search source context time)).call source context time).success = true ↔
      (∃ found, found ≠ [] ∧ (p.matchSource source context time).answer = .ok found) ∧
        ∀ e ∈ (p.matchSource source context time).events, e.kind ≠ .matchRecovered := by
  have hbefore : ∀ e ∈ (p.beforeMatch context time.now).events, e.kind ≠ .matchRecovered := by
    unfold beforeMatch adapt
    split
    · split
      · split <;> simp [Event.kind]
      · simp
    · simp
  have hfailed : ∀ (q : Pattern) (failure : MatchError) (found : List MatchInstance),
      found ≠ [] → (q.afterFailure failure source).answer = .ok found →
        ∃ e ∈ (q.afterFailure failure source).events, e.kind = .matchRecovered := by
    intro q failure found hfound
    unfold afterFailure
    cases q.mode with
    | plain => exact fun hanswer => absurd (Except.ok.inj hanswer).symm hfound
    | adaptive a => exact fun hanswer => absurd (Except.ok.inj hanswer).symm hfound
    | resilient a r =>
        simp only
        rcases MatchRecovery.recover q.core r.settings failure.kind source with i | e | recovered
        · exact fun hanswer => by cases hanswer
        · exact fun hanswer => absurd (Except.ok.inj hanswer).symm hfound
        · exact fun _ => ⟨_, List.mem_singleton_self _, rfl⟩
  unfold matchSource RulePattern.call
  simp only [← core_beforeMatch]
  rcases ((p.beforeMatch context time.now).pattern.core.run source context time).1
    with i | failure | found
  · simp [success]
  · simp only [success, Bool.false_eq_true, false_iff, not_and]
    rintro ⟨found, hfound, hanswer⟩ hquiet
    obtain ⟨e, he, hkind⟩ := hfailed _ failure found hfound hanswer
    exact hquiet e (List.mem_append_right _ he) hkind
  · simpa [success] using fun _ => hbefore

/-- For shares of at most so many calls the threshold works as the limit it stands for. -/
def ReadsExactly (threshold : Float) (limit : ℚ) (most : Nat) : Prop :=
  ∀ s u, s ≤ u → 0 < u → u ≤ most → (shareOf s u < threshold ↔ (s : ℚ) / u < limit)

/-- A threshold that is a share itself stands for its fraction. -/
theorem readsExactly_shareOf {part total most : Nat} (hpart : part ≤ total) (htotal : 0 < total)
    (hmost : most * total < 2 ^ 51) : ReadsExactly (shareOf part total) (part / total) most :=
  fun _ _ hsu hu hcounted =>
    shareOf_lt_iff hsu hu hpart htotal ((Nat.mul_le_mul_right _ hcounted).trans_lt hmost)

/-- A pattern calls for adaptation exactly if the calls it has answered do badly in the context; with
thresholds that are read exactly, shares are compared as fractions.  A success is a call that has
found something without recovery. -/
theorem shouldAdapt_iff {t : AdaptationThresholds} (hthresholds : p.thresholds? = some t)
    {created : Instant} (hfresh : p.core.metrics = .empty created) (ops : List PatternOperation)
    (context : MatchContext) :
    ((p.performAll ops).shouldAdapt context = some true ↔
        DoBadlyIn (fun s u => shareOf s u < t.successRate) t.minSamples (p.uses ops) context) ∧
      (∀ limit : ℚ, ReadsExactly t.successRate limit (p.uses ops).length →
        ((p.performAll ops).shouldAdapt context = some true ↔
          DoBadlyIn (fun s u => (s : ℚ) / u < limit) t.minSamples (p.uses ops) context)) ∧
      ∀ source at? time, ∀ call ∈ (p.performAll ops).call? (.search source at? time),
        (call.success = true ↔
          (∃ found, found ≠ [] ∧
            ((p.performAll ops).matchSource source at? time).answer = .ok found) ∧
          ∀ e ∈ ((p.performAll ops).matchSource source at? time).events,
            e.kind ≠ .matchRecovered) := by
  have hrecords : (p.performAll ops).core.metrics.Records p.name (p.uses ops) :=
    records_performAll (hfresh ▸ UsageMetrics.records_empty p.name created) ops
  have hrun : (p.performAll ops).thresholds? = some t :=
    (thresholds?_performAll p ops).trans hthresholds
  have hdecided : (p.performAll ops).shouldAdapt context = some true ↔
      DoBadlyIn (fun s u => shareOf s u < t.successRate) t.minSamples (p.uses ops) context := by
    obtain ⟨a, hmode, rfl⟩ := Option.map_eq_some_iff.mp hrun
    unfold shouldAdapt
    rw [hmode, Option.map_some, Option.some.injEq]
    exact Adaptation.shouldAdapt_of_records hrecords a context
  refine ⟨hdecided, fun limit hexact => hdecided.trans (doBadlyIn_congr hexact context), ?_⟩
  intro source context time call hcall
  obtain rfl := Option.some.inj hcall
  exact success_call_iff ..

/-! ### A pattern that only recovers -/

def recoveringPattern : Pattern :=
  .resilient shortQuery { Adaptation.standard with thresholds := ⟨1, 0.5⟩ } ⟨4, 0, 2⟩

/-- Two calls in a context that fail and recover, and two without context, one of which succeeds. -/
def recoveringRun : List PatternOperation :=
  let context := MatchContext.ofFile "f.txt" "text" .custom
  [.install "cd", .search "ZabZcd" (some context) ⟨⟨0, 0⟩, 0⟩, .search "Zab" none ⟨⟨0, 0⟩, 0⟩,
    .search "ZabZcd" (some context) ⟨⟨0, 0⟩, 0⟩, .search "ZabZcd" none ⟨⟨0, 0⟩, 0⟩]

theorem shouldAdapt_iff_recovering :
    let here := MatchContext.ofFile "f.txt" "text" .custom
    let other := MatchContext.ofFile "g.txt" "text" .unknown
    ((recoveringPattern.performAll recoveringRun).shouldAdapt here = some true ↔
        DoBadlyIn (fun s u => (s : ℚ) / u < 1 / 2) 1 (recoveringPattern.uses recoveringRun) here) ∧
      (recoveringPattern.performAll recoveringRun).shouldAdapt here = some true ∧
      (recoveringPattern.performAll recoveringRun).shouldAdapt other = some false := by
  have hlength : (recoveringPattern.uses recoveringRun).length = 4 := by decide +kernel
  refine ⟨?_, ?_, ?_⟩
  · have hhalf : ReadsExactly 0.5 (1 / 2) 4 := by
      have hshare : ReadsExactly (shareOf 1 2) ((1 : Nat) / (2 : Nat)) 4 :=
        readsExactly_shareOf (by decide) (by decide) (by decide)
      rw [show (0.5 : Float) = shareOf 1 2 by decide +kernel]
      exact_mod_cast hshare
    refine (shouldAdapt_iff (p := recoveringPattern) (t := ⟨1, 0.5⟩) rfl rfl recoveringRun _).2.1
      (1 / 2) ?_
    rw [hlength]
    exact hhalf
  · decide +kernel
  · decide +kernel

end Pattern
end AdaptiveRules
