import AdaptiveRules.Proofs.InsightsConsistency
import AdaptiveRules.Proofs.MergedRules
import AdaptiveRules.Proofs.PatternRuns

/-!
# Rules stop growing

A variation that is merged into a rule which is not empty stands in it between a bar and a closing
bracket, and stays there whatever is merged later, so it is never merged again.  Merging into an empty
rule puts the variation alone in place, which can be merged once more.  So there are at most as many
changes of a rule as variations, and one more if the rule was empty.
-/

namespace AdaptiveRules

namespace TextLines

theorem occursIn_iff {word text : List Char} : occursIn word text = true ↔ word <:+: text := by
  induction text with
  | nil => simp [occursIn]
  | cons c rest ih =>
      rw [List.infix_cons_iff, occursIn, Bool.or_eq_true, ih, List.isPrefixOf_iff_prefix]

end TextLines

namespace RuleMerging

variable {rule original v w : String} {variations : List String} {V : Finset String}

/-- The variation stands in the rule as the last alternative of a group. -/
def HoldsLast (rule v : String) : Prop := '|' :: (v.toList ++ [')']) <:+: rule.toList

instance (rule v : String) : Decidable (HoldsLast rule v) :=
  decidable_of_iff _ TextLines.occursIn_iff

theorem alreadyMerged_eq_false :
    alreadyMerged rule v = false ↔ rule ≠ v ∧ ¬ HoldsLast rule v := by
  unfold alreadyMerged HoldsLast
  rw [Bool.or_eq_false_iff, beq_eq_false_iff_ne, ← TextLines.occursIn_iff, Bool.not_eq_true]

/-- The best variation is one that can still be merged. -/
theorem of_selectBest (hbest : selectBest variations original = some v) :
    v ∈ variations ∧ v ≠ "" ∧ original ≠ v ∧ ¬ HoldsLast original v := by
  have hcandidates : selectBest (candidates original variations) original = some v := by
    rw [← hbest]
    unfold selectBest candidates
    rw [List.filter_filter]
    simp only [Bool.and_self]
  obtain ⟨hmem, hopen⟩ := List.mem_filter.mp (mem_of_selectBest hcandidates)
  rw [Bool.and_eq_true, Bool.not_eq_true', Bool.not_eq_true', alreadyMerged_eq_false] at hopen
  obtain ⟨hword, hother, hnot⟩ := hopen
  exact ⟨hmem, by simpa using hword, hother, hnot⟩

theorem merge_ne (hword : v ≠ "") (hne : original ≠ v) : merge original v ≠ original := by
  by_cases hsome : original = ""
  · simpa [merge, hsome, Ne.symm hword] using hword
  · intro heq
    have hlength := congrArg List.length (toList_merge hne hsome)
    rw [heq] at hlength
    simp only [List.length_append, List.length_cons] at hlength
    omega

/-- An improvement merges the best variation, if there is one. -/
theorem improved?_eq (variations : List String) (original : String) :
    improved? variations original = (selectBest variations original).map (merge original) := by
  unfold improved?
  cases hbest : selectBest variations original with
  | none => rfl
  | some v =>
      obtain ⟨_, hword, hne, _⟩ := of_selectBest hbest
      exact Option.filter_eq_some_iff.mpr ⟨rfl, by simpa using merge_ne hword hne⟩

theorem holdsLast_merge (hne : original ≠ v) (hsome : original ≠ "") :
    HoldsLast (merge original v) v := by
  unfold HoldsLast
  rw [toList_merge hne hsome]
  exact ⟨'(' :: '?' :: ':' :: original.toList, [], by simp⟩

theorem HoldsLast.merge (hholds : HoldsLast original w) (hne : original ≠ v)
    (hsome : original ≠ "") : HoldsLast (merge original v) w := by
  have hinside : original.toList <:+: (RuleMerging.merge original v).toList := by
    rw [toList_merge hne hsome]
    exact ⟨['(', '?', ':'], '|' :: (v.toList ++ [')']), by simp⟩
  exact List.IsInfix.trans hholds hinside

theorem merge_ne_empty (hword : v ≠ "") : merge original v ≠ "" := by
  by_cases hne : original = v
  · simpa [merge, hne] using hword
  · by_cases hsome : original = ""
    · simpa [merge, hsome, Ne.symm hword] using hword
    · intro hempty
      have hlist := toList_merge hne hsome
      rw [hempty] at hlist
      cases hlist

/-- The variations that the rule does not hold yet. -/
def remaining (V : Finset String) (rule : String) : Finset String :=
  V.filter fun v => ¬ HoldsLast rule v

theorem card_remaining_le (V : Finset String) (rule : String) : (remaining V rule).card ≤ V.card :=
  Finset.card_filter_le ..

/-- One variation less remains after it was merged into a rule. -/
theorem card_remaining_merge_lt (hv : v ∈ V) (hnot : ¬ HoldsLast original v) (hne : original ≠ v)
    (hsome : original ≠ "") :
    (remaining V (merge original v)).card < (remaining V original).card := by
  apply Finset.card_lt_card
  rw [Finset.ssubset_iff_of_subset]
  · refine ⟨v, Finset.mem_filter.mpr ⟨hv, hnot⟩, fun hmem => ?_⟩
    exact (Finset.mem_filter.mp hmem).2 (holdsLast_merge hne hsome)
  · intro w hw
    obtain ⟨hmem, hopen⟩ := Finset.mem_filter.mp hw
    exact Finset.mem_filter.mpr ⟨hmem, fun hholds => hopen (hholds.merge hne hsome)⟩

end RuleMerging

/-- The operations that merge variations into the rule: adaptation, be it before a match, and
improvement by a learner. -/
def PatternOperation.merges : PatternOperation → Bool
  | search .. => true
  | adapt .. => true
  | improve .. => true
  | _ => false

namespace Pattern

open RuleMerging

variable {p : Pattern} {op : PatternOperation} {ops : List PatternOperation} {V : Finset String}

/-- How often the text rule changes in a run. -/
def ruleChanges : Pattern → List PatternOperation → Nat
  | _, [] => 0
  | p, op :: rest =>
      (if (p.perform op).textRule = p.textRule then 0 else 1) + (p.perform op).ruleChanges rest

/-- The set holds what the pattern holds, what it is offered and what is known for its name. -/
structure Covers (V : Finset String) (p : Pattern) (ops : List PatternOperation) : Prop where
  held : ∀ v ∈ p.variations, v ∈ V
  offered : ∀ variations, .offer variations ∈ ops → ∀ v ∈ variations, v ∈ V
  stored : ∀ known now, .improve known now ∈ ops → ∀ v ∈ known.variationsOf p.name, v ∈ V

/-- Only operations that merge variations change the text rule. -/
def ChangesByMerging (p : Pattern) (ops : List PatternOperation) : Prop :=
  ∀ done op rest, ops = done ++ op :: rest → op.merges = false →
    ((p.performAll done).perform op).textRule = (p.performAll done).textRule

/-! ### One operation -/

/-- The variations that an operation chooses from. -/
def atHand (p : Pattern) : PatternOperation → List String
  | .improve known _ => known.variationsOf p.name
  | _ => p.variations

theorem tries_of_merges (p : Pattern) (hop : op.merges = true) :
    p.tries op = [] ∨ p.tries op = (improved? (p.atHand op) p.textRule).toList := by
  cases op with
  | search source context time =>
      by_cases hadapts : p.adapts context = true
      · exact Or.inr (if_pos hadapts)
      · exact Or.inl (if_neg hadapts)
  | adapt context now => exact Or.inr rfl
  | improve known now => exact Or.inr rfl
  | _ => cases hop

/-- If an operation that merges changes the text rule, then it has merged the best variation at hand
into it. -/
theorem textRule_perform_of_merges (hop : op.merges = true) :
    (p.perform op).textRule = p.textRule ∨
      ∃ v, selectBest (p.atHand op) p.textRule = some v ∧ Installable (merge p.textRule v) ∧
        (p.perform op).textRule = merge p.textRule v := by
  rw [textRule_perform]
  unfold readied
  rcases p.tries_of_merges hop with htries | htries
  · rw [htries]
    exact Or.inl rfl
  · rw [htries, improved?_eq]
    cases hbest : selectBest (p.atHand op) p.textRule with
    | none => exact Or.inl rfl
    | some v =>
        rw [Option.map_some, Option.toList_some, List.foldl_cons, List.foldl_nil]
        by_cases hrule : Installable (merge p.textRule v)
        · exact Or.inr ⟨v, rfl, hrule, RulePattern.textRule_installed hrule⟩
        · rw [RulePattern.installed_of_rejected hrule]
          exact Or.inl rfl

theorem Covers.mem_of_mem_atHand {rest : List PatternOperation} (hcovers : Covers V p (op :: rest))
    {v : String} (hv : v ∈ p.atHand op) : v ∈ V := by
  cases op with
  | improve known now => exact hcovers.stored known now List.mem_cons_self v hv
  | _ => exact hcovers.held v hv

theorem Covers.perform {rest : List PatternOperation} (hcovers : Covers V p (op :: rest)) :
    Covers V (p.perform op) rest := by
  refine ⟨?_, ?_, ?_⟩
  · intro v hv
    rcases mem_variations_perform hv with hheld | ⟨variations, rfl, hnew⟩
    · exact hcovers.held v hheld
    · exact hcovers.offered variations List.mem_cons_self v hnew
  · exact fun variations hmem => hcovers.offered variations (List.mem_cons_of_mem _ hmem)
  · intro known now hmem v hv
    rw [name_perform] at hv
    exact hcovers.stored known now (List.mem_cons_of_mem _ hmem) v hv

theorem ChangesByMerging.perform {rest : List PatternOperation}
    (hmerging : p.ChangesByMerging (op :: rest)) : (p.perform op).ChangesByMerging rest := by
  intro done next more hsplit hop
  exact hmerging (op :: done) next more (by rw [hsplit, List.cons_append]) hop

/-- What one operation of such a run does to the text rule. -/
theorem ChangesByMerging.textRule_perform {rest : List PatternOperation}
    (hmerging : p.ChangesByMerging (op :: rest)) (hcovers : Covers V p (op :: rest)) :
    (p.perform op).textRule = p.textRule ∨
      ∃ v ∈ V, v ≠ "" ∧ p.textRule ≠ v ∧ ¬ HoldsLast p.textRule v ∧
        (p.perform op).textRule = merge p.textRule v := by
  cases hop : op.merges with
  | false => exact Or.inl (hmerging [] op rest rfl hop)
  | true =>
      refine (textRule_perform_of_merges hop).imp_right ?_
      rintro ⟨v, hbest, _, hmerged⟩
      obtain ⟨hv, hword, hne, hnot⟩ := of_selectBest hbest
      exact ⟨v, hcovers.mem_of_mem_atHand hv, hword, hne, hnot, hmerged⟩

/-! ### Whole runs -/

/-- A rule that is not empty changes at most once for each variation that it does not hold. -/
theorem ruleChanges_le_card_remaining (hsome : p.textRule ≠ "") (hcovers : Covers V p ops)
    (hmerging : p.ChangesByMerging ops) : p.ruleChanges ops ≤ (remaining V p.textRule).card := by
  induction ops generalizing p with
  | nil => exact Nat.zero_le _
  | cons op rest ih =>
      unfold ruleChanges
      rcases hmerging.textRule_perform hcovers with hsame | ⟨v, hv, hword, hne, hnot, hmerged⟩
      · have hrest := ih (by rwa [hsame]) hcovers.perform hmerging.perform
        rw [hsame] at hrest
        rw [if_pos hsame, Nat.zero_add]
        exact hrest
      · have hrest := ih (by rw [hmerged]; exact merge_ne_empty hword) hcovers.perform
          hmerging.perform
        have hfewer := card_remaining_merge_lt hv hnot hne hsome
        rw [hmerged] at hrest
        split <;> omega

/-- A text rule that is changed by adaptation and improvement only changes at most as often as there
are variations, and once more if it was empty. -/
theorem ruleChanges_le (hcovers : Covers V p ops) (hmerging : p.ChangesByMerging ops) :
    p.ruleChanges ops ≤ if p.textRule = "" then V.card + 1 else V.card := by
  by_cases hsome : p.textRule = ""
  · rw [if_pos hsome]
    induction ops generalizing p with
    | nil => exact Nat.zero_le _
    | cons op rest ih =>
        unfold ruleChanges
        rcases hmerging.textRule_perform hcovers with hsame | ⟨v, _, hword, _, _, hmerged⟩
        · rw [if_pos hsame, Nat.zero_add]
          exact ih hcovers.perform hmerging.perform (hsame.trans hsome)
        · have hrest := ruleChanges_le_card_remaining (by rw [hmerged]; exact merge_ne_empty hword)
            hcovers.perform hmerging.perform
          have hall := card_remaining_le V (p.perform op).textRule
          split <;> omega
  · rw [if_neg hsome]
    exact (ruleChanges_le_card_remaining hsome hcovers hmerging).trans (card_remaining_le V _)

/-! ### A variation that is merged twice -/

theorem changesByMerging_of_merges (hops : ∀ op ∈ ops, op.merges = true) :
    p.ChangesByMerging ops := by
  intro done op rest hsplit hop
  have hmem : op ∈ ops := hsplit ▸ List.mem_append_right _ List.mem_cons_self
  rw [hops op hmem] at hop
  cases hop

/-- A pattern without a text rule that holds two variations. -/
def growingPattern : Pattern :=
  .adaptive LearningState.wordPattern.core { Adaptation.standard with variations := ["a", "b"] }

def growingRun : List PatternOperation :=
  let adapt := .adapt (.ofFile "f.txt" "text" .custom) ⟨0, 0⟩
  let known := ((Insights.empty ⟨0, 0⟩).addVariations "w" ["a", "b"]).1
  [adapt, .improve known ⟨0, 0⟩, adapt, .improve known ⟨0, 0⟩, adapt]

/-- The rule becomes `a`, then `b` is merged into it, and then `a` once more. -/
theorem ruleChanges_le_growing :
    growingPattern.ruleChanges growingRun = 3 ∧
      growingPattern.ruleChanges growingRun ≤ ({"a", "b"} : Finset String).card + 1 := by
  have hcovers : Covers {"a", "b"} growingPattern growingRun := by
    refine ⟨by decide, ?_, ?_⟩
    · intro variations hmem
      simp [growingRun] at hmem
    · intro known now hmem
      simp only [growingRun, List.mem_cons, reduceCtorEq, PatternOperation.improve.injEq,
        List.not_mem_nil, false_or, or_false, or_self] at hmem
      obtain ⟨rfl, _⟩ := hmem
      decide +kernel
  have hmerging : growingPattern.ChangesByMerging growingRun := by
    apply changesByMerging_of_merges
    simp [growingRun, PatternOperation.merges]
  exact ⟨by decide +kernel, (ruleChanges_le hcovers hmerging).trans_eq (if_pos rfl)⟩

end Pattern
end AdaptiveRules
