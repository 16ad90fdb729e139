import AdaptiveRules.Proofs.RuleGrowth

/-!
# What the records of adaptation tell

A pattern writes down each attempt to adapt its rule.  The record tells the rule before and after, and
whether it changed; a change always makes the rule longer, because a variation is merged into it.  So
the first record of a change tells the rule that the pattern had before it ever adapted.
-/

namespace AdaptiveRules

/-! ### Merged rules are longer -/

namespace RuleMerging

variable {original v rule : String} {variations : List String}

theorem length_lt_merge (hword : v ≠ "") (hne : original ≠ v) :
    original.length < (merge original v).length := by
  by_cases hsome : original = ""
  · have hmerge : merge original v = v := by simp [merge, hsome]
    rw [hmerge, hsome]
    exact Nat.pos_of_ne_zero fun hzero => hword (String.length_eq_zero_iff.mp hzero)
  · rw [← String.length_toList, ← String.length_toList, toList_merge hne hsome]
    simp only [List.length_append, List.length_cons]
    omega

theorem length_lt_of_improved? (himproved : improved? variations original = some rule) :
    original.length < rule.length := by
  rw [improved?_eq] at himproved
  obtain ⟨v, hbest, rfl⟩ := Option.map_eq_some_iff.mp himproved
  obtain ⟨_, hword, hne, _⟩ := of_selectBest hbest
  exact length_lt_merge hword hne

end RuleMerging

namespace Adaptation

/-- A rule that is improved gets longer. -/
theorem improve_cases (p : RulePattern) (variations : List String) :
    improve p variations = (p, false) ∨
      ∃ q, improve p variations = (q, true) ∧ p.textRule.length < q.textRule.length := by
  cases himprove : improve p variations with
  | mk q changed =>
      cases changed with
      | true =>
          have hpattern : (Pattern.plain p).improve variations = (.plain q, true) := by
            simp only [Pattern.improve, Pattern.plain, himprove]
          have himproved := Pattern.improved?_of_improve hpattern
          exact Or.inr ⟨q, rfl, RuleMerging.length_lt_of_improved? himproved⟩
      | false =>
          left
          unfold improve at himprove
          split at himprove
          · exact himprove.symm
          · split at himprove
            · cases himprove
            · exact himprove.symm

end Adaptation

theorem PatternMode.adaptation?_withAdaptation {m : PatternMode} {a b : Adaptation}
    (hadapts : m.adaptation? = some a) : (m.withAdaptation b).adaptation? = some b := by
  cases m with
  | plain => cases hadapts
  | adaptive _ => rfl
  | resilient _ _ => rfl

namespace Pattern

variable {p q : Pattern} {op : PatternOperation}

/-- What the pattern has written down about its attempts to adapt. -/
def records (p : Pattern) : List AdaptationRecord :=
  (p.mode.adaptation?.map Adaptation.records).getD []

/-- The attempts that changed the rule. -/
def changes (p : Pattern) : List AdaptationRecord := p.records.filter AdaptationRecord.changed

theorem records_congr (hmode : q.mode.adaptation?.map Adaptation.records =
    p.mode.adaptation?.map Adaptation.records) : q.records = p.records := by
  unfold records
  rw [hmode]

theorem records_offer (p : Pattern) (variations : List String) :
    (p.offer variations).records = p.records := by
  unfold offer
  cases hmode : p.mode.adaptation? with
  | none => rfl
  | some a =>
      simp only [records, hmode, PatternMode.adaptation?_withAdaptation hmode]
      rfl

/-- An attempt to adapt is announced and written down once, by a record that tells the rule before it
and whether the rule got longer. -/
structure Attempt (p : Pattern) (step : PatternStep (Option AdaptationRecord))
    (r : AdaptationRecord) : Prop where
  answer : step.answer = some r
  events : step.events = [.patternAdapted p.name r]
  records : step.pattern.records = p.records ++ [r]
  previous : r.previousRule = p.textRule
  effect : r.changed = false ∧ step.pattern.core = p.core ∨
    r.changed = true ∧ p.textRule.length < step.pattern.textRule.length

theorem adapt_cases (p : Pattern) (context : MatchContext) (now : Instant) :
    p.adapt context now = ⟨none, p, []⟩ ∨ ∃ r, p.Attempt (p.adapt context now) r := by
  unfold adapt
  cases hmode : p.mode.adaptation? with
  | none => exact Or.inl rfl
  | some a =>
      refine Or.inr ⟨(a.adapt p.core context now).2.2, rfl, rfl, ?_, rfl, ?_⟩
      · simp only [records, hmode, PatternMode.adaptation?_withAdaptation hmode]
        rfl
      · simp only [Adaptation.adapt]
        rcases Adaptation.improve_cases p.core a.variations with hsame | ⟨q, hother, hlonger⟩
        · exact Or.inl (by simp [hsame])
        · exact Or.inr (by simpa [hother, textRule] using hlonger)

theorem beforeMatch_cases (p : Pattern) (context : Option MatchContext) (now : Instant) :
    p.beforeMatch context now = ⟨none, p, []⟩ ∨ ∃ r, p.Attempt (p.beforeMatch context now) r := by
  unfold beforeMatch
  split
  · split
    · exact adapt_cases ..
    · exact Or.inl rfl
  · exact Or.inl rfl

theorem records_matchSource (p : Pattern) (source : String) (context : Option MatchContext)
    (time : MatchTime) :
    (p.matchSource source context time).pattern.records =
      (p.beforeMatch context time.now).pattern.records := by
  rcases p.matchSource_cases source context time with hran | ⟨failure, hran⟩
  · rw [hran]
    rfl
  · rw [hran]
    exact records_congr (congrArg _ (adaptation?_afterFailure ..))

/-- A use of the pattern either leaves its rule and what is written about changes of it, or makes the
rule longer and writes down the rule before. -/
theorem changes_of_attempt {step : PatternStep (Option AdaptationRecord)} {r : AdaptationRecord}
    (hattempt : p.Attempt step r) :
    (step.pattern.changes = p.changes ∧ step.pattern.textRule = p.textRule) ∨
      ∃ r, step.pattern.changes = p.changes ++ [r] ∧ r.previousRule = p.textRule ∧
        p.textRule.length < step.pattern.textRule.length := by
  unfold changes
  rw [hattempt.records, List.filter_append]
  rcases hattempt.effect with ⟨hkept, hcore⟩ | ⟨hchanged, hlonger⟩
  · left
    refine ⟨by simp [hkept], ?_⟩
    unfold textRule
    rw [hcore]
  · exact Or.inr ⟨r, by simp [hchanged], hattempt.previous, hlonger⟩

end Pattern

/-- The operations that may write a record, and those that change neither rule nor records. -/
def PatternOperation.keepsRecords : PatternOperation → Bool
  | search .. => true
  | adapt .. => true
  | offer _ => true
  | exchange _ => true
  | _ => false

namespace Pattern

variable {p : Pattern} {op : PatternOperation}

/-- What a match leaves of records and rule is what is there before it looks. -/
theorem records_textRule_search (p : Pattern) (source : String) (context : Option MatchContext)
    (time : MatchTime) :
    let before := (p.beforeMatch context time.now).pattern
    (p.perform (.search source context time)).records = before.records ∧
      (p.perform (.search source context time)).textRule = before.textRule := by
  refine ⟨records_matchSource p source context time, ?_⟩
  unfold textRule
  rw [core_beforeMatch p source context time]
  exact textRule_perform p (.search source context time)

/-- Such an operation changes the rule only by adaptation: then the rule gets longer, and the record
that is added tells the rule before. -/
theorem changes_perform (hop : op.keepsRecords = true) :
    ((p.perform op).changes = p.changes ∧ (p.perform op).textRule = p.textRule) ∨
      ∃ r, (p.perform op).changes = p.changes ++ [r] ∧ r.previousRule = p.textRule ∧
        p.textRule.length < (p.perform op).textRule.length := by
  cases op with
  | search source context time =>
      obtain ⟨hrecords, hrule⟩ := records_textRule_search p source context time
      unfold changes
      rw [hrecords, hrule]
      rcases beforeMatch_cases p context time.now with hnone | ⟨r, hattempt⟩
      · rw [hnone]
        exact Or.inl ⟨rfl, rfl⟩
      · exact changes_of_attempt hattempt
  | adapt context now =>
      unfold perform
      simp only
      rcases adapt_cases p context now with hnone | ⟨r, hattempt⟩
      · rw [hnone]
        exact Or.inl ⟨rfl, rfl⟩
      · exact changes_of_attempt hattempt
  | offer variations =>
      refine Or.inl ⟨?_, ?_⟩
      · unfold perform changes
        simp only [records_offer]
      · exact textRule_perform p (.offer variations)
  | exchange engine => exact Or.inl ⟨rfl, rfl⟩
  | _ => cases hop

end Pattern
end AdaptiveRules
