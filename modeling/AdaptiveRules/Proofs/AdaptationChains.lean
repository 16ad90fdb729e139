import AdaptiveRules.Proofs.AdaptationRecords
import AdaptiveRules.Proofs.BestVariations
import AdaptiveRules.Proofs.UsageHistory

/-!
# Records of adaptation as a chain

What a pattern writes down about its attempts to adapt tells the whole history of its rule, as long as
the rule changes in no other way.  The first record starts from the rule at the beginning, each one
from where the one before ended, and the last one ends at the rule in place.  A match makes an attempt
only where the pattern calls for one, and never more than one.
-/

namespace AdaptiveRules
namespace Pattern

open RuleMerging

variable {p q : Pattern} {op : PatternOperation} {ops : List PatternOperation} {c : MatchContext}
  {r : AdaptationRecord} {log : List AdaptationRecord} {first last : String}

/-- The records lead from one rule to another. -/
structure Links (first : String) (log : List AdaptationRecord) (last : String) : Prop where
  starts : ∀ r ∈ log.head?, r.previousRule = first
  follows : log.IsChain fun r t => t.previousRule = r.newRule
  ends : last = (log.getLast?.map AdaptationRecord.newRule).getD first

theorem links_nil (rule : String) : Links rule [] rule := ⟨by simp, .nil, rfl⟩

theorem Links.concat (hlinks : Links first log last) (hprevious : r.previousRule = last) :
    Links first (log ++ [r]) r.newRule := by
  refine ⟨?_, ?_, by simp⟩
  · cases log with
    | nil =>
        have hlast : last = first := hlinks.ends
        simpa [← hlast] using hprevious
    | cons _ _ => simpa using hlinks.starts
  · rw [List.isChain_append]
    refine ⟨hlinks.follows, List.isChain_singleton _, ?_⟩
    intro s hs t ht
    obtain rfl : r = t := by simpa using ht
    rw [hprevious, hlinks.ends, Option.mem_def.mp hs]
    rfl

/-- The one is what became of the other by an attempt to adapt it to the context, and this is the
record that tells it. -/
structure Adapted (p q : Pattern) (c : MatchContext) (r : AdaptationRecord) : Prop where
  records : q.records = p.records ++ [r]
  key : r.contextKey = c.key
  parser : r.parser = c.parser
  rate_of_known : ∀ u, p.core.metrics.context? c.key = some u → r.rateBefore = u.successRate
  rate_of_unknown : p.core.metrics.context? c.key = none →
    r.rateBefore = p.core.metrics.parserRate c.parser
  previous : r.previousRule = p.textRule
  new : r.newRule = q.textRule
  changed_iff : r.changed = true ↔ r.newRule ≠ r.previousRule
  merged : r.changed = true →
    ∃ v, IsBest p.variations r.previousRule v ∧ r.newRule = merge r.previousRule v

theorem adapted_adapt {a : Adaptation} (hadapts : p.mode.adaptation? = some a) (c : MatchContext)
    (now : Instant) : ∃ r, Adapted p (p.adapt c now).pattern c r := by
  have hvariations : p.variations = a.variations := by
    unfold variations
    rw [hadapts]
    rfl
  have hstep : p.adapt c now =
      ⟨some (a.adapt p.core c now).2.2,
        ⟨(a.adapt p.core c now).2.1, p.mode.withAdaptation (a.adapt p.core c now).1⟩,
        [.patternAdapted p.name (a.adapt p.core c now).2.2]⟩ := by
    unfold adapt
    rw [hadapts]
  refine ⟨(a.adapt p.core c now).2.2, ?_⟩
  rw [hstep]
  refine ⟨?_, rfl, rfl, ?_, ?_, rfl, rfl, ?_, ?_⟩
  · simp only [records, hadapts, PatternMode.adaptation?_withAdaptation hadapts]
    rfl
  · intro u hu
    show Adaptation.rateIn p.core.metrics c = _
    unfold Adaptation.rateIn
    rw [hu]
  · intro hnone
    show Adaptation.rateIn p.core.metrics c = _
    unfold Adaptation.rateIn
    rw [hnone]
  · exact p.improve_iff_textRule_ne a.variations
  · intro hchanged
    have himproved : (p.improve a.variations).2 = true := hchanged
    obtain ⟨v, hbest, _, htext, _⟩ := improve_of_change himproved
    rw [hvariations]
    exact ⟨v, hbest, htext⟩

theorem Adapted.congr {q' : Pattern} (hadapted : Adapted p q c r) (hrecords : q'.records = q.records)
    (hrule : q'.textRule = q.textRule) : Adapted p q' c r :=
  { hadapted with
    records := hrecords.trans hadapted.records
    new := hadapted.new.trans hrule.symm }

/-- The context to which an operation attempts to adapt the pattern. -/
def attempted? (p : Pattern) : PatternOperation → Option MatchContext
  | .search _ context _ => if p.adapts context then context else none
  | .adapt context _ => if p.mode.adaptation?.isSome then some context else none
  | _ => none

theorem attempted?_search (p : Pattern) (source : String) (context : Option MatchContext)
    (time : MatchTime) :
    p.attempted? (.search source context time) = some c ↔
      ∃ a, p.mode.adaptation? = some a ∧ context = some c ∧ a.enabled = true ∧
        a.shouldAdapt p.core.metrics c = true := by
  unfold attempted? adapts
  cases p.mode.adaptation? with
  | none => simp
  | some a =>
      cases context with
      | none => simp
      | some d =>
          simp only [Option.ite_none_right_eq_some, Bool.and_eq_true, Option.some.injEq,
            exists_eq_left']
          constructor
          · rintro ⟨hdue, rfl⟩
            exact ⟨rfl, hdue⟩
          · rintro ⟨rfl, hdue⟩
            exact ⟨hdue, rfl⟩

theorem exists_adapted (hattempted : p.attempted? op = some c) :
    ∃ r, Adapted p (p.perform op) c r := by
  cases op with
  | search source context time =>
      obtain ⟨a, hadapts, rfl, henabled, hdue⟩ := (attempted?_search ..).mp hattempted
      obtain ⟨r, hadapted⟩ := adapted_adapt hadapts c time.now
      obtain ⟨hrecords, hrule⟩ := records_textRule_search p source (some c) time
      have hbefore : p.beforeMatch (some c) time.now = p.adapt c time.now := by
        unfold beforeMatch
        rw [hadapts]
        simp only
        rw [if_pos (by simp [henabled, hdue])]
      rw [hbefore] at hrecords hrule
      exact ⟨r, hadapted.congr hrecords hrule⟩
  | adapt context now =>
      obtain ⟨hadapts, rfl⟩ : p.mode.adaptation?.isSome = true ∧ context = c := by
        simpa [attempted?] using hattempted
      obtain ⟨a, ha⟩ := Option.isSome_iff_exists.mp hadapts
      exact adapted_adapt ha context now
  | _ => cases hattempted

/-- Without an attempt there is no new record, and the rule stays. -/
theorem records_textRule_perform (hop : op.keepsRecords = true) (hnone : p.attempted? op = none) :
    (p.perform op).records = p.records ∧ (p.perform op).textRule = p.textRule := by
  cases op with
  | search source context time =>
      have hsame : p.beforeMatch context time.now = ⟨none, p, []⟩ := by
        unfold attempted? adapts at hnone
        unfold beforeMatch
        cases hadapts : p.mode.adaptation? with
        | none => rfl
        | some a =>
            cases context with
            | none => rfl
            | some d =>
                rw [hadapts] at hnone
                simp only [ite_eq_right_iff, reduceCtorEq, imp_false] at hnone
                simp only
                rw [if_neg hnone]
      have hkept := records_textRule_search p source context time
      rwa [hsame] at hkept
  | adapt context now =>
      have hplain : p.mode.adaptation? = none := by
        simpa [attempted?] using hnone
      have hsame : p.adapt context now = ⟨none, p, []⟩ := by
        unfold adapt
        rw [hplain]
      unfold perform
      simp only [hsame, and_self]
  | offer variations => exact ⟨records_offer p variations, textRule_perform p (.offer variations)⟩
  | exchange engine => exact ⟨rfl, rfl⟩
  | _ => cases hop

/-- A match adds a record if it is due, and otherwise none. -/
theorem exists_added (p : Pattern) (source : String) (context : Option MatchContext)
    (time : MatchTime) :
    ∃ added : Option AdaptationRecord,
      (p.matchSource source context time).pattern.records = p.records ++ added.toList ∧
        (added.isSome = true ↔ ∃ a c, p.mode.adaptation? = some a ∧ context = some c ∧
          a.enabled = true ∧ p.shouldAdapt c = some true) := by
  have hdue : (∃ c, p.attempted? (.search source context time) = some c) ↔
      ∃ a c, p.mode.adaptation? = some a ∧ context = some c ∧ a.enabled = true ∧
        p.shouldAdapt c = some true := by
    rw [exists_comm]
    refine exists_congr fun c => (attempted?_search ..).trans (exists_congr fun a => ?_)
    refine and_congr_right fun hadapts => ?_
    simp [shouldAdapt, hadapts]
  rw [← hdue]
  cases hattempted : p.attempted? (.search source context time) with
  | none =>
      obtain ⟨hrecords, _⟩ := records_textRule_perform (p := p) rfl hattempted
      exact ⟨none, hrecords.trans (List.append_nil _).symm, by simp⟩
  | some c =>
      obtain ⟨r, hadapted⟩ := exists_adapted hattempted
      exact ⟨some r, hadapted.records, by simp⟩

/-- What a run writes down.  The induction is on the operations from the end: the last one adds the
record that it makes of the pattern as it is then, or nothing. -/
theorem exists_log (p : Pattern) (hops : ∀ op ∈ ops, op.keepsRecords = true) :
    ∃ log, (p.performAll ops).records = p.records ++ log ∧
      Links p.textRule log (p.performAll ops).textRule ∧
      ∀ earlier r later, log = earlier ++ r :: later →
        ∃ before op after c, ops = before ++ op :: after ∧
          (p.performAll before).records = p.records ++ earlier ∧
          (p.performAll before).attempted? op = some c ∧
          Adapted (p.performAll before) (p.performAll (before ++ [op])) c r := by
  induction ops using List.reverseRecOn with
  | nil => exact ⟨[], (List.append_nil _).symm, links_nil _, by simp⟩
  | append_singleton ops op ih =>
      obtain ⟨log, hrecords, hlinks, hwritten⟩ := ih fun o ho => hops o (List.mem_append_left _ ho)
      have hlast : p.performAll (ops ++ [op]) = (p.performAll ops).perform op :=
        performAll_append p ops [op]
      have hearlier : ∀ earlier r later, log = earlier ++ r :: later →
          ∃ before o after c, ops ++ [op] = before ++ o :: after ∧
            (p.performAll before).records = p.records ++ earlier ∧
            (p.performAll before).attempted? o = some c ∧
            Adapted (p.performAll before) (p.performAll (before ++ [o])) c r := by
        intro earlier r later hsplit
        obtain ⟨before, o, after, c, rfl, hfound⟩ := hwritten earlier r later hsplit
        exact ⟨before, o, after ++ [op], c, by simp, hfound⟩
      cases hattempted : (p.performAll ops).attempted? op with
      | none =>
          obtain ⟨hsame, hrule⟩ := records_textRule_perform (hops op (by simp)) hattempted
          refine ⟨log, ?_, ?_, hearlier⟩
          · rw [hlast, hsame, hrecords]
          · rwa [hlast, hrule]
      | some c =>
          obtain ⟨r, hadapted⟩ := exists_adapted hattempted
          rw [← hlast] at hadapted
          refine ⟨log ++ [r], ?_, ?_, ?_⟩
          · rw [hadapted.records, hrecords, List.append_assoc]
          · rw [← hadapted.new]
            exact hlinks.concat hadapted.previous
          · intro earlier s later hsplit
            rcases List.eq_nil_or_concat' later with rfl | ⟨more, final, rfl⟩
            · obtain ⟨rfl, hr⟩ := List.append_inj' hsplit rfl
              obtain rfl := (List.cons.inj hr).1
              exact ⟨ops, op, [], c, rfl, hrecords, hattempted, hadapted⟩
            · rw [← List.cons_append, ← List.append_assoc] at hsplit
              exact hearlier earlier s more (List.append_inj' hsplit rfl).1

/-- The records that are written in a run form a chain from the rule at the beginning to the rule in
place.  Each of them tells what one operation made of the pattern as it was at that moment.  A match
adds at most one of them, and does so exactly if it is given a context, the pattern adapts by itself,
and it does badly in the context. -/
theorem records_form_chain (p : Pattern) (hops : ∀ op ∈ ops, op.keepsRecords = true) :
    ∃ log, (p.performAll ops).records = p.records ++ log ∧
      Links p.textRule log (p.performAll ops).textRule ∧
      (∀ earlier r later, log = earlier ++ r :: later →
        ∃ before op after c, ops = before ++ op :: after ∧
          (p.performAll before).records = p.records ++ earlier ∧
          (p.performAll before).attempted? op = some c ∧
          Adapted (p.performAll before) (p.performAll (before ++ [op])) c r) ∧
      ∀ before source context time after, ops = before ++ .search source context time :: after →
        let m := p.performAll before
        ∃ added : Option AdaptationRecord,
          (m.matchSource source context time).pattern.records = m.records ++ added.toList ∧
          (added.isSome = true ↔ ∃ a c, m.mode.adaptation? = some a ∧ context = some c ∧
            a.enabled = true ∧ m.shouldAdapt c = some true) := by
  obtain ⟨log, hrecords, hlinks, hwritten⟩ := exists_log p hops
  exact ⟨log, hrecords, hlinks, hwritten, fun before source context time _ _ =>
    exists_added (p.performAll before) source context time⟩

/-- The share of the calls that found something. -/
def successShare (calls : List MatchCall) : Float :=
  shareOf (calls.countP MatchCall.success) calls.length

/-- In a pattern that was not used before the run, the rate of a record is a share of the calls of the
run up to then: of those at the context, or of those with its parser if there are none. -/
theorem Adapted.rate_of_fresh {created : Instant} (hfresh : p.core.metrics = .empty created)
    (hadapted : Adapted (p.performAll ops) q c r) :
    let here := (p.uses ops).filter (MatchCall.isAt c.key)
    r.rateBefore =
      if here = [] then successShare ((p.uses ops).filter (MatchCall.isBy c.parser))
      else successShare here := by
  intro here
  have hrecords : (p.performAll ops).core.metrics.Records p.name (p.uses ops) :=
    records_performAll (hfresh ▸ UsageMetrics.records_empty p.name created) ops
  have hcontext := hrecords.context c.key
  have hparser := hrecords.parser c.parser
  cases huse : (p.performAll ops).core.metrics.context? c.key with
  | some u =>
      rw [huse, Option.map_some] at hcontext
      obtain ⟨hsome, huses, hsuccesses⟩ := MatchCall.of_tally hcontext.symm
      rw [if_neg hsome, hadapted.rate_of_known u huse, successShare, ← huses, ← hsuccesses]
      rfl
  | none =>
      rw [huse, Option.map_none] at hcontext
      rw [if_pos (MatchCall.tally_eq_none_iff.mp hcontext.symm), hadapted.rate_of_unknown huse,
        UsageMetrics.parserRate, successShare]
      cases hby : (p.performAll ops).core.metrics.parser? c.parser with
      | some u =>
          rw [hby, Option.map_some] at hparser
          obtain ⟨_, htotal, hsuccessful⟩ := MatchCall.of_tally hparser.symm
          rw [← htotal, ← hsuccessful]
          rfl
      | none =>
          rw [hby, Option.map_none] at hparser
          rw [MatchCall.tally_eq_none_iff.mp hparser.symm]
          rfl

/-- A pattern that takes two uses for enough. -/
def hastyPattern : Pattern :=
  .adaptive LearningState.wordPattern.core
    { Adaptation.standard with thresholds := ⟨1, 0.5⟩, variations := ["a", "b"] }

/-- It is adapted once, and the last of three matches that find nothing adapts it again. -/
def hastyRun : List PatternOperation :=
  let context := MatchContext.ofFile "f.txt" "text" .custom
  let search := .search "z" (some context) ⟨⟨0, 0⟩, 0⟩
  [.adapt context ⟨0, 0⟩, search, search, .offer ["cc"], search]

theorem records_form_chain_hasty :
    ∃ log, (hastyPattern.performAll hastyRun).records = log ∧ log.length = 2 ∧
      Links "" log "(?:a|cc)" ∧ ∀ r ∈ log.head?, r.previousRule = "" := by
  have hops : ∀ op ∈ hastyRun, op.keepsRecords = true := by decide
  obtain ⟨log, hrecords, hlinks, _⟩ := records_form_chain hastyPattern hops
  have hlength : (hastyPattern.performAll hastyRun).records.length = 2 := by decide +kernel
  have hrule : (hastyPattern.performAll hastyRun).textRule = "(?:a|cc)" := by decide +kernel
  rw [hrecords] at hlength
  rw [hrule] at hlinks
  exact ⟨log, hrecords, hlength, hlinks, hlinks.starts⟩

end Pattern
end AdaptiveRules
