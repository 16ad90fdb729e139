import AdaptiveRules.Proofs.RuleGrowth

/-!
# Variations that are taken up twice

A rule that changes by merging is put together from parts: the rule it began with, if that is not
empty, and the variations it takes up, each merged behind those before it.  Whatever stands behind
the first part is recognized in the rule and is not taken up again.  The first part has no bar in
front of it, so once another part is merged with it, it is not recognized any more, be it the rule
from the beginning or a variation that went into an empty rule; if it is at hand it is taken up, and
then stands in the rule twice.
-/

namespace AdaptiveRules

namespace RuleMerging

variable {rule v : String} {parts : List String}

/-- The rule is put together from the parts, and shows all of them but the first. -/
structure ComposedOf (parts : List String) (rule : String) : Prop where
  merged : parts.foldl merge "" = rule
  sound : ∀ v ∈ parts, v ≠ ""
  distinct : parts.tail.Nodup
  shown : ∀ v ∈ parts.tail, HoldsLast rule v

/-- The parts of a rule that nothing was merged into yet. -/
def partsOf (rule : String) : List String := if rule = "" then [] else [rule]

theorem composedOf_partsOf (rule : String) : ComposedOf (partsOf rule) rule := by
  unfold partsOf
  split
  next hempty => exact ⟨hempty.symm, by simp, List.nodup_nil, by simp⟩
  next hsome =>
    refine ⟨?_, by simpa using hsome, List.nodup_nil, by simp⟩
    simp [merge, Ne.symm hsome]

theorem ComposedOf.eq_empty_iff (hcomposed : ComposedOf parts rule) : rule = "" ↔ parts = [] := by
  constructor
  · intro hempty
    rcases List.eq_nil_or_concat' parts with hnil | ⟨before, last, rfl⟩
    · exact hnil
    have hmerged := hcomposed.merged
    rw [List.foldl_append, List.foldl_cons, List.foldl_nil, hempty] at hmerged
    exact absurd hmerged (merge_ne_empty (hcomposed.sound last (by simp)))
  · rintro rfl
    exact hcomposed.merged.symm

theorem ComposedOf.merge (hcomposed : ComposedOf parts rule) (hword : v ≠ "") (hne : rule ≠ v)
    (hnot : ¬ HoldsLast rule v) : ComposedOf (parts ++ [v]) (merge rule v) := by
  have hmerged : (parts ++ [v]).foldl RuleMerging.merge "" = RuleMerging.merge rule v := by
    rw [List.foldl_append, hcomposed.merged]
    rfl
  have hsound : ∀ w ∈ parts ++ [v], w ≠ "" := by
    intro w hw
    rcases List.mem_append.mp hw with hw | hw
    · exact hcomposed.sound w hw
    · rwa [List.mem_singleton.mp hw]
  -- The first part gets no bar in front, so nothing is claimed of it.
  cases parts with
  | nil => exact ⟨hmerged, hsound, List.nodup_nil, by simp⟩
  | cons first rest =>
      have hsome : rule ≠ "" := fun hempty => by
        cases hcomposed.eq_empty_iff.mp hempty
      have hopen : v ∉ rest := fun hv => hnot (hcomposed.shown v hv)
      refine ⟨hmerged, hsound, ?_, ?_⟩
      · exact List.nodup_append.mpr ⟨hcomposed.distinct, List.nodup_singleton v, by
          rintro w hw _ hv rfl
          exact hopen (List.mem_singleton.mp hv ▸ hw)⟩
      · intro w hw
        rcases List.mem_append.mp hw with hw | hw
        · exact (hcomposed.shown w hw).merge hne hsome
        · rw [List.mem_singleton.mp hw]
          exact holdsLast_merge hne hsome

end RuleMerging

namespace Pattern

open RuleMerging

variable {p : Pattern} {op : PatternOperation} {ops : List PatternOperation}
  {before : List String} {v : String}

/-- The variation that an operation takes up into the rule, if it does. -/
def taken? (p : Pattern) (op : PatternOperation) : Option String :=
  if op.merges = true ∧ (p.perform op).textRule ≠ p.textRule then
    selectBest (p.atHand op) p.textRule
  else none

/-- The variations that are taken up in a run, one after another. -/
def taken : Pattern → List PatternOperation → List String
  | _, [] => []
  | p, op :: rest => (p.taken? op).toList ++ (p.perform op).taken rest

/-- What the rule at the end of a run is put together from. -/
def parts (p : Pattern) (ops : List PatternOperation) : List String :=
  partsOf p.textRule ++ p.taken ops

/-! ### One operation -/

theorem of_taken? (htaken : p.taken? op = some v) :
    op.merges = true ∧ selectBest (p.atHand op) p.textRule = some v ∧
      Installable (merge p.textRule v) ∧ (p.perform op).textRule = merge p.textRule v := by
  unfold taken? at htaken
  split at htaken
  next hchange =>
    obtain ⟨hop, hother⟩ := hchange
    obtain ⟨w, hbest, hrule, hmerged⟩ := (textRule_perform_of_merges hop).resolve_left hother
    obtain rfl : w = v := Option.some.inj (hbest.symm.trans htaken)
    exact ⟨hop, hbest, hrule, hmerged⟩
  next => cases htaken

/-- An operation takes up the variation that it prefers, if it tries the merged rule and can install
it. -/
theorem taken?_eq_some_iff :
    p.taken? op = some v ↔ op.merges = true ∧ selectBest (p.atHand op) p.textRule = some v ∧
      merge p.textRule v ∈ p.tries op ∧ Installable (merge p.textRule v) := by
  constructor
  · intro htaken
    obtain ⟨hop, hbest, hrule, hmerged⟩ := of_taken? htaken
    obtain ⟨_, hword, hne, _⟩ := of_selectBest hbest
    refine ⟨hop, hbest, ?_, hrule⟩
    rcases p.tries_of_merges hop with htries | htries
    · rw [textRule_perform, readied, htries] at hmerged
      exact absurd hmerged.symm (merge_ne hword hne)
    · simp [htries, improved?_eq, hbest]
  · rintro ⟨hop, hbest, htried, hrule⟩
    obtain ⟨_, hword, hne, _⟩ := of_selectBest hbest
    have htries : p.tries op = [merge p.textRule v] := by
      rcases p.tries_of_merges hop with htries | htries
      · rw [htries] at htried
        cases htried
      · rw [htries, improved?_eq, hbest, Option.map_some, Option.toList_some]
    have hmerged : (p.perform op).textRule = merge p.textRule v := by
      rw [textRule_perform, readied, htries, List.foldl_cons, List.foldl_nil,
        RulePattern.textRule_installed hrule]
    rw [taken?, if_pos ⟨hop, hmerged ▸ merge_ne hword hne⟩, hbest]

theorem taken_of_not_merges (hops : ∀ op ∈ ops, op.merges = false) : p.taken ops = [] := by
  induction ops generalizing p with
  | nil => rfl
  | cons op rest ih =>
      have hnone : p.taken? op = none := if_neg fun h => by simp [hops op List.mem_cons_self] at h
      rw [taken, hnone, ih fun next hnext => hops next (List.mem_cons_of_mem _ hnext)]
      rfl

theorem mem_taken_singleton : v ∈ p.taken [op] ↔ p.taken? op = some v := by
  rw [taken, taken, List.append_nil, Option.mem_toList]

theorem ChangesByMerging.textRule_of_taken?_none {rest : List PatternOperation}
    (hmerging : p.ChangesByMerging (op :: rest)) (hnone : p.taken? op = none) :
    (p.perform op).textRule = p.textRule := by
  cases hop : op.merges with
  | false => exact hmerging [] op rest rfl hop
  | true =>
      by_contra hother
      obtain ⟨v, hbest, _⟩ := (textRule_perform_of_merges hop).resolve_left hother
      rw [taken?, if_pos ⟨hop, hother⟩, hbest] at hnone
      cases hnone

/-! ### Whole runs -/

theorem parts_concat (p : Pattern) (ops : List PatternOperation) (op : PatternOperation) :
    p.parts (ops ++ [op]) = p.parts ops ++ ((p.performAll ops).taken? op).toList := by
  have htaken : p.taken (ops ++ [op]) =
      p.taken ops ++ ((p.performAll ops).taken? op).toList := by
    induction ops generalizing p with
    | nil => simp [taken, performAll]
    | cons first rest ih =>
        rw [List.cons_append, taken, taken, ih, List.append_assoc]
        rfl
  rw [parts, parts, htaken, List.append_assoc]

theorem head?_parts_append {rest : List PatternOperation} {first : String}
    (hfirst : (p.parts ops).head? = some first) : (p.parts (ops ++ rest)).head? = some first := by
  induction rest using List.reverseRecOn with
  | nil => rwa [List.append_nil]
  | append_singleton rest op ih =>
      rw [← List.append_assoc, parts_concat, List.head?_append, ih, Option.some_or]

/-- A part that is not the first one was taken up when there was a first one. -/
theorem mem_tail_parts_iff :
    v ∈ (p.parts ops).tail ↔ ∃ before op after first, ops = before ++ op :: after ∧
      (p.parts before).head? = some first ∧ (p.performAll before).taken? op = some v := by
  induction ops using List.reverseRecOn with
  | nil =>
      have hnone : (p.parts []).tail = [] := by
        unfold parts partsOf taken
        split <;> rfl
      simp [hnone]
  | append_singleton ops last ih =>
      -- The operation that takes the part up is the last one or comes before it.
      have hsplits : (∃ before op after first, ops ++ [last] = before ++ op :: after ∧
          (p.parts before).head? = some first ∧ (p.performAll before).taken? op = some v) ↔
            v ∈ (p.parts ops).tail ∨ ∃ first, (p.parts ops).head? = some first ∧
              (p.performAll ops).taken? last = some v := by
        rw [ih]
        constructor
        · rintro ⟨before, op, after, first, hsplit, hfirst, htaken⟩
          rcases List.eq_nil_or_concat' after with rfl | ⟨more, final, rfl⟩
          · obtain ⟨rfl, hlast⟩ := List.append_inj' hsplit rfl
            cases hlast
            exact Or.inr ⟨first, hfirst, htaken⟩
          · rw [← List.cons_append, ← List.append_assoc] at hsplit
            obtain ⟨rfl, _⟩ := List.append_inj' hsplit rfl
            exact Or.inl ⟨before, op, more, first, rfl, hfirst, htaken⟩
        · rintro (⟨before, op, after, first, rfl, hfirst, htaken⟩ | ⟨first, hfirst, htaken⟩)
          · exact ⟨before, op, after ++ [last], first, by simp, hfirst, htaken⟩
          · exact ⟨ops, last, [], first, rfl, hfirst, htaken⟩
      rw [hsplits, parts_concat]
      cases p.parts ops with
      | nil => cases (p.performAll ops).taken? last <;> simp
      | cons first rest => simp

theorem ChangesByMerging.composedOf (hmerging : p.ChangesByMerging ops)
    (hcomposed : ComposedOf before p.textRule) :
    ComposedOf (before ++ p.taken ops) (p.performAll ops).textRule := by
  induction ops generalizing p before with
  | nil => rwa [taken, List.append_nil]
  | cons op rest ih =>
      unfold taken
      cases htaken : p.taken? op with
      | none =>
          have hsame := hmerging.textRule_of_taken?_none htaken
          exact ih hmerging.perform (by rwa [hsame])
      | some v =>
          obtain ⟨_, hbest, _, hmerged⟩ := of_taken? htaken
          obtain ⟨_, hword, hne, hnot⟩ := of_selectBest hbest
          have hnext : ComposedOf (before ++ [v]) (p.perform op).textRule := by
            rw [hmerged]
            exact hcomposed.merge hword hne hnot
          have hlast := ih hmerging.perform hnext
          rwa [List.append_assoc] at hlast

theorem ChangesByMerging.length_taken (hmerging : p.ChangesByMerging ops) :
    (p.taken ops).length = p.ruleChanges ops := by
  induction ops generalizing p with
  | nil => rfl
  | cons op rest ih =>
      rw [taken, ruleChanges, List.length_append, ih hmerging.perform, Nat.add_right_cancel_iff]
      cases htaken : p.taken? op with
      | none =>
          rw [if_pos (hmerging.textRule_of_taken?_none htaken), Option.toList_none, List.length_nil]
      | some v =>
          obtain ⟨_, hbest, _, hmerged⟩ := of_taken? htaken
          obtain ⟨_, hword, hne, _⟩ := of_selectBest hbest
          rw [if_neg (hmerged ▸ merge_ne hword hne), Option.toList_some, List.length_singleton]

/-- No variation is taken up twice, nor the rule from the beginning, unless the first part is. -/
theorem nodup_taken_iff (hcomposed : ComposedOf (p.parts ops) (p.performAll ops).textRule) :
    (p.taken ops).Nodup ∧ p.textRule ∉ p.taken ops ↔
      ∀ first ∈ (p.parts ops).head?, first ∉ (p.parts ops).tail := by
  have hdistinct := hcomposed.distinct
  by_cases hempty : p.textRule = ""
  · have hparts : p.parts ops = p.taken ops := by
      rw [parts, partsOf, if_pos hempty, List.nil_append]
    have hsound : "" ∉ p.taken ops := fun hmem => hcomposed.sound "" (hparts ▸ hmem) rfl
    rw [hparts] at hdistinct ⊢
    rw [hempty, and_iff_left hsound]
    cases htaken : p.taken ops with
    | nil => simp
    | cons first rest =>
        rw [htaken] at hdistinct
        simpa [List.nodup_cons] using fun _ => hdistinct
  · have hparts : p.parts ops = p.textRule :: p.taken ops := by
      rw [parts, partsOf, if_neg hempty, List.singleton_append]
    rw [hparts] at hdistinct ⊢
    simpa using fun _ => hdistinct

/-- A rule that is changed by merging only is put together from the rule it began with and the
variations it has taken up, one with each change.  Behind the first of these parts none occurs twice,
and none but the first is taken for one that was not merged yet.  So the variations that are taken up
are all different, and none is the rule from the beginning, exactly if no operation prefers the first
part for a rule that begins with it, tries to merge it in and can install what comes out. -/
theorem taken_once_iff (hmerging : p.ChangesByMerging ops) :
    (p.performAll ops).textRule = (p.parts ops).foldl merge "" ∧
      (p.taken ops).length = p.ruleChanges ops ∧
      (p.parts ops).tail.Nodup ∧
      (∀ v ∈ p.parts ops, alreadyMerged (p.performAll ops).textRule v = false →
        (p.parts ops).head? = some v) ∧
      ((p.taken ops).Nodup ∧ p.textRule ∉ p.taken ops ↔
        ∀ before op after, ops = before ++ op :: after → ∀ first ∈ (p.parts before).head?,
          let q := p.performAll before
          op.merges = true → selectBest (q.atHand op) q.textRule = some first →
            merge q.textRule first ∈ q.tries op → ¬ Installable (merge q.textRule first)) := by
  have hcomposed : ComposedOf (p.parts ops) (p.performAll ops).textRule :=
    hmerging.composedOf (composedOf_partsOf p.textRule)
  refine ⟨hcomposed.merged.symm, hmerging.length_taken, hcomposed.distinct, ?_,
    (nodup_taken_iff hcomposed).trans ⟨?_, ?_⟩⟩
  · intro v hv hopen
    cases hparts : p.parts ops with
    | nil => rw [hparts] at hv; cases hv
    | cons first rest =>
        rw [hparts] at hv hcomposed
        rcases List.mem_cons.mp hv with rfl | hrest
        · rfl
        · exact absurd (hcomposed.shown v hrest) (alreadyMerged_eq_false.mp hopen).2
  · rintro hopen before op after rfl first hfirst q hop hbest htried hrule
    refine hopen first (head?_parts_append hfirst) (mem_tail_parts_iff.mpr ?_)
    exact ⟨before, op, after, first, rfl, hfirst,
      taken?_eq_some_iff.mpr ⟨hop, hbest, htried, hrule⟩⟩
  · intro hnever first hfirst hmem
    obtain ⟨before, op, after, start, rfl, hstart, htaken⟩ := mem_tail_parts_iff.mp hmem
    obtain ⟨hop, hbest, htried, hrule⟩ := taken?_eq_some_iff.mp htaken
    obtain rfl : start = first := Option.some.inj ((head?_parts_append hstart).symm.trans hfirst)
    exact hnever before op after rfl start hstart hop hbest htried hrule

/-- Without a rule at first, `a` goes in and is merged behind `b` later; with the rule `b` at first,
`b` itself is merged behind `a`. -/
theorem taken_once_iff_growing :
    growingPattern.taken growingRun = ["a", "b", "a"] ∧
      ¬ ((growingPattern.taken growingRun).Nodup ∧
        growingPattern.textRule ∉ growingPattern.taken growingRun) ∧
      (growingPattern.installed "b").parts growingRun = ["b", "a", "b"] ∧
      ¬ (((growingPattern.installed "b").taken growingRun).Nodup ∧
        (growingPattern.installed "b").textRule ∉ (growingPattern.installed "b").taken growingRun) := by
  have hmerges : ∀ op ∈ growingRun, op.merges = true := by
    simp [growingRun, PatternOperation.merges]
  have hempty := taken_once_iff (changesByMerging_of_merges (p := growingPattern) hmerges)
  have hlearned :=
    taken_once_iff (changesByMerging_of_merges (p := growingPattern.installed "b") hmerges)
  refine ⟨by decide +kernel, ?_, by decide +kernel, ?_⟩
  · rw [hempty.2.2.2.2]
    intro hnever
    exact hnever (growingRun.take 2) _ _ rfl "a" (by decide +kernel) rfl (by decide +kernel)
      (by decide +kernel) (by decide +kernel)
  · rw [hlearned.2.2.2.2]
    intro hnever
    exact hnever (growingRun.take 1) _ _ rfl "b" (by decide +kernel) rfl (by decide +kernel)
      (by decide +kernel) (by decide +kernel)

end Pattern
end AdaptiveRules
