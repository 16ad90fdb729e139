import AdaptiveRules.Proofs.ForgottenVariations
import AdaptiveRules.Proofs.LearnerLives

/-!
# Patterns that know what their learner knows

The variations for a pattern are kept twice: with the insights of its learner, and by the pattern,
which adapts by those that it holds itself.  They come to the insights by loading, learning and taking
over, and to the pattern by offers, also from others than the learner.  Every action that may add to
the insights offers all that is known then, unless it has added nothing.  So from its first work on a
learner has told its patterns everything it knows, however its operations and the uses of its patterns
follow each other, and whatever its store held.
-/

namespace AdaptiveRules

namespace Adaptation

variable {a : Adaptation} {variations : List String} {v : String}

theorem variations_offer_append_singleton (a : Adaptation) (variations : List String) (v : String) :
    (a.offer (variations ++ [v])).variations =
      if v ∈ (a.offer variations).variations then (a.offer variations).variations
      else (a.offer variations).variations ++ [v] := by
  simp only [offer, List.foldl_append, List.foldl_cons, List.foldl_nil, List.contains_iff_mem]

theorem mem_offer (hv : v ∈ variations) : v ∈ (a.offer variations).variations := by
  induction variations using List.reverseRecOn with
  | nil => cases hv
  | append_singleton rest w ih =>
      rw [variations_offer_append_singleton]
      rcases List.mem_append.mp hv with hv | hv
      · split
        · exact ih hv
        · exact List.mem_append_left _ (ih hv)
      · rw [List.mem_singleton.mp hv]
        split
        · assumption
        · exact List.mem_append_right _ (List.mem_singleton_self w)

theorem nodup_offer (hnodup : a.variations.Nodup) (variations : List String) :
    (a.offer variations).variations.Nodup := by
  induction variations using List.reverseRecOn with
  | nil => exact hnodup
  | append_singleton rest w ih =>
      rw [variations_offer_append_singleton]
      split
      · exact ih
      · next hnew => exact List.concat_eq_append ▸ ih.concat hnew

end Adaptation

namespace Pattern

variable {p : Pattern} {op : PatternOperation} {variations : List String} {v : String}

theorem adaptation?_eq_none_iff : p.mode.adaptation? = none ↔ p.mode = .plain := by
  cases p.mode <;> simp [PatternMode.adaptation?]

theorem variations_of_plain (hplain : p.mode = .plain) : p.variations = [] := by
  rw [variations, hplain]
  rfl

theorem mode_offer_of_plain (hplain : p.mode = .plain) : p.offer variations = p := by
  rw [offer, hplain]
  rfl

theorem exists_adaptation?_offer (hmode : p.mode ≠ .plain) (variations : List String) :
    ∃ a, p.mode.adaptation? = some a ∧
      (p.offer variations).mode.adaptation? = some (a.offer variations) := by
  unfold offer
  cases hp : p.mode with
  | plain => exact absurd hp hmode
  | adaptive a => exact ⟨a, rfl, rfl⟩
  | resilient a r => exact ⟨a, rfl, rfl⟩

/-- What a pattern does never makes it plain, nor a plain one able to adapt. -/
theorem mode_perform_eq_plain_iff (p : Pattern) (op : PatternOperation) :
    (p.perform op).mode = .plain ↔ p.mode = .plain := by
  have hkept : ∀ {q : Pattern},
      q.mode.adaptation?.map (fun _ => ()) = p.mode.adaptation?.map (fun _ => ()) →
        (q.mode = .plain ↔ p.mode = .plain) := by
    intro q hsame
    rw [← adaptation?_eq_none_iff, ← adaptation?_eq_none_iff, ← Option.map_eq_none_iff, hsame,
      Option.map_eq_none_iff]
  cases op with
  | search source context time => exact hkept (adaptation?_matchSource (fun _ _ => rfl) ..)
  | install rule => exact hkept (by rw [perform, mode_installed])
  | offer variations =>
      by_cases hplain : p.mode = .plain
      · rw [perform, mode_offer_of_plain hplain]
      · obtain ⟨a, ha, hoffered⟩ := exists_adaptation?_offer hplain variations
        exact hkept (by rw [perform, ha, hoffered]; rfl)
  | adapt context now => exact hkept (adaptation?_adapt (fun _ _ => rfl) ..)
  | improve known now => exact hkept rfl
  | restore known => exact hkept (by rw [perform, mode_restore])
  | exchange engine => exact hkept rfl

theorem mem_variations_offer (hmode : p.mode ≠ .plain) (hv : v ∈ variations) :
    v ∈ (p.offer variations).variations := by
  obtain ⟨a, _, hoffered⟩ := exists_adaptation?_offer hmode variations
  rw [Pattern.variations, hoffered]
  exact Adaptation.mem_offer hv

theorem nodup_variations_perform (hnodup : p.variations.Nodup) (op : PatternOperation) :
    (p.perform op).variations.Nodup := by
  by_cases hop : ∃ variations, op = .offer variations
  · obtain ⟨variations, rfl⟩ := hop
    by_cases hplain : p.mode = .plain
    · rwa [perform, mode_offer_of_plain hplain]
    · obtain ⟨a, ha, hoffered⟩ := exists_adaptation?_offer hplain variations
      rw [Pattern.variations, ha] at hnodup
      rw [perform, Pattern.variations, hoffered]
      exact Adaptation.nodup_offer hnodup variations
  · obtain ⟨more, hmore, hfrom⟩ := exists_variations_perform p op
    have hnone : more = [] := by
      refine List.eq_nil_iff_forall_not_mem.mpr fun v hv => ?_
      obtain ⟨variations, heq, _⟩ := hfrom v hv
      exact hop ⟨variations, heq⟩
    rwa [hmore, hnone, List.append_nil]

theorem mode_performAll_eq_plain_iff (p : Pattern) (ops : List PatternOperation) :
    (p.performAll ops).mode = .plain ↔ p.mode = .plain :=
  List.foldlRecOn (motive := fun q : Pattern => q.mode = .plain ↔ p.mode = .plain) ops perform
    Iff.rfl fun q hq op _ => (mode_perform_eq_plain_iff q op).trans hq

theorem nodup_variations_performAll (hnodup : p.variations.Nodup) (ops : List PatternOperation) :
    (p.performAll ops).variations.Nodup :=
  List.foldlRecOn (motive := fun q : Pattern => q.variations.Nodup) ops perform hnodup
    fun _ hq op _ => nodup_variations_perform hq op

theorem mem_variations_performAll (hv : v ∈ p.variations) (ops : List PatternOperation) :
    v ∈ (p.performAll ops).variations := by
  refine List.foldlRecOn (motive := fun q : Pattern => v ∈ q.variations) ops perform hv ?_
  intro q hq op _
  obtain ⟨more, hmore, _⟩ := exists_variations_perform q op
  rw [hmore]
  exact List.mem_append_left more hq

/-- What is offered on the way is held in the end. -/
theorem mem_variations_of_offered {ops : List PatternOperation} (hmode : p.mode ≠ .plain)
    (hoffer : .offer variations ∈ ops) (hv : v ∈ variations) :
    v ∈ (p.performAll ops).variations := by
  obtain ⟨first, rest, rfl⟩ := List.append_of_mem hoffer
  rw [performAll_append]
  refine mem_variations_performAll (p := (p.performAll first).offer variations)
    (mem_variations_offer ?_ hv) rest
  exact (mode_performAll_eq_plain_iff p first).not.mpr hmode

theorem name_performAll (p : Pattern) (ops : List PatternOperation) :
    (p.performAll ops).name = p.name :=
  List.foldlRecOn (motive := fun q : Pattern => q.name = p.name) ops perform rfl
    fun q hq op _ => (name_perform q op).trans hq

end Pattern

/-- Where nothing is added, nothing changes. -/
theorem Insights.addVariations_of_none_added {known : Insights} {pattern : String}
    {variations : List String} (hnone : (known.addVariations pattern variations).2 = 0) :
    (known.addVariations pattern variations).1 = known := by
  induction variations generalizing known with
  | nil => rfl
  | cons v rest ih =>
      simp only [addVariations, Nat.add_eq_zero_iff] at hnone ⊢
      obtain ⟨hrest, hfirst⟩ := hnone
      have hold : known.addVariation pattern v = known := by
        rw [addVariation, if_neg]
        intro hnew
        rw [if_pos hnew] at hfirst
        cases hfirst
      rw [hold] at hrest ⊢
      exact ih hrest

/-- The patterns of the learner that can adapt hold what it knows for their names, if it has loaded. -/
def Learner.TellsAll (l : Learner) : Prop :=
  l.initialized = true → ∀ p ∈ l.patterns, p.mode ≠ .plain →
    ∀ v ∈ l.insights.variationsOf p.name, v ∈ p.variations

/-- The patterns have been told all, and none of them holds a variation twice. -/
structure Learner.Informs (l : Learner) : Prop where
  known : l.TellsAll
  once : ∀ p ∈ l.patterns, p.variations.Nodup

/-- The patterns of the learner that takes over, if one does. -/
def LifeStep.patternsGiven : LifeStep → List Pattern
  | restart patterns .. => patterns
  | _ => []

namespace LearningState

variable {s t : LearningState}

/-- An action offers a pattern what is known then, unless the learner had begun and no more is known
for the pattern than before. -/
theorem offer_mem_doings_or (a : LearnerAction) (hbegun : (s.act a).learner.initialized = true)
    (index : Nat) (p : Pattern) :
    .offer ((s.act a).learner.insights.variationsOf p.name) ∈ s.doings index p a ∨
      s.learner.initialized = true ∧
        (s.act a).learner.insights.variationsOf p.name ⊆ s.learner.insights.variationsOf p.name := by
  cases a with
  | begin =>
      cases hbefore : s.learner.initialized with
      | true =>
          rw [act, begin_of_initialized hbefore]
          exact Or.inr ⟨rfl, List.Subset.refl _⟩
      | false =>
          left
          simp [doings, hbefore, act, insights_begin hbefore]
  | note project files found => exact Or.inl (List.mem_singleton_self _)
  | merge pattern variations =>
      by_cases hnone : (s.learner.insights.addVariations pattern variations).2 = 0
      · right
        simp only [act, withLearner] at hbegun ⊢
        rw [merge_eq] at hbegun ⊢
        rw [Insights.addVariations_of_none_added hnone]
        exact ⟨hbegun, List.Subset.refl _⟩
      · left
        rw [doings, if_neg hnone]
        exact List.mem_singleton_self _
  | improve names =>
      obtain ⟨observers, metrics, himproved⟩ := improved_eq s names
      simp only [act, himproved] at hbegun ⊢
      refine Or.inr ⟨hbegun, ?_⟩
      simp only [Insights.variationsOf, variations_logged]
      exact List.Subset.refl _
  | reset => exact Or.inr ⟨hbegun, List.nil_subset _⟩
  | _ => exact Or.inr ⟨hbegun, List.Subset.refl _⟩

/-- Each pattern after an action is one from before it that has performed its doings. -/
theorem exists_of_mem_patterns_act {a : LearnerAction} {q : Pattern}
    (hq : q ∈ (s.act a).learner.patterns) :
    ∃ index p, p ∈ s.learner.patterns ∧ q = p.performAll (s.doings index p a) := by
  obtain ⟨index, hindex⟩ := List.mem_iff_getElem?.mp hq
  rw [getElem?_patterns_act] at hindex
  obtain ⟨p, hp, rfl⟩ := Option.map_eq_some_iff.mp hindex
  exact ⟨index, p, List.mem_of_getElem? hp, rfl⟩

theorem tellsAll_act (htold : s.learner.TellsAll) (a : LearnerAction) :
    (s.act a).learner.TellsAll := by
  intro hbegun q hq hmode v hv
  obtain ⟨index, p, hp, rfl⟩ := exists_of_mem_patterns_act hq
  rw [Pattern.name_performAll] at hv
  rw [Ne, Pattern.mode_performAll_eq_plain_iff] at hmode
  rcases offer_mem_doings_or a hbegun index p with hoffered | ⟨hready, hsame⟩
  · exact Pattern.mem_variations_of_offered hmode hoffered hv
  · exact Pattern.mem_variations_performAll (htold hready p hp hmode v (hsame hv)) _

theorem informs_act (hinforms : s.learner.Informs) (a : LearnerAction) :
    (s.act a).learner.Informs := by
  refine ⟨tellsAll_act hinforms.known a, fun q hq => ?_⟩
  obtain ⟨index, p, hp, rfl⟩ := exists_of_mem_patterns_act hq
  exact Pattern.nodup_variations_performAll (hinforms.once p hp) _

/-- For the learner it is an action that somebody uses one of its patterns. -/
theorem learner_use_eq (s : LearningState) (index : Nat) (op : PatternOperation) :
    (s.use index op).learner = (s.act (.use index op)).learner := by
  simp only [use, act, withLearner, List.modify_eq_set_getElem?]
  cases s.learner.patterns[index]? <;> rfl

/-! What all actions keep is kept by operations and by the uses of patterns. -/

section

variable {P : Learner → Prop}

theorem learner_of_byActions (hact : ∀ {u : LearningState}, P u.learner → ∀ a, P (u.act a).learner)
    (hs : P s.learner) (hactions : ByActions s t) : P t.learner := by
  obtain ⟨actions, _, rfl⟩ := hactions
  exact List.foldlRecOn (motive := fun u : LearningState => P u.learner) actions act hs
    fun _ hu a _ => hact hu a

theorem learner_perform (hact : ∀ {u : LearningState}, P u.learner → ∀ a, P (u.act a).learner)
    (hs : P s.learner) (op : LearnerOperation) : P (s.perform op).learner := by
  by_cases hop : op = .reset
  · rw [hop]
    exact hact hs .reset
  -- However the operation ends, saving and writing files leave the learner as its moves have made it.
  obtain ⟨t, hmoves, hend⟩ := perform_cases s hop
  have hlearner : (s.perform op).learner = t.learner := by
    obtain ⟨_, hend⟩ | ⟨_, hend⟩ | ⟨_, _, files, hend⟩ := hend <;> rw [hend]
    rfl
  rw [hlearner]
  exact learner_of_byActions hact hs (byActions_of_moves hmoves)

theorem learner_use (hact : ∀ {u : LearningState}, P u.learner → ∀ a, P (u.act a).learner)
    (hs : P s.learner) (index : Nat) (op : PatternOperation) : P (s.use index op).learner := by
  rw [learner_use_eq]
  exact hact hs (.use index op)

end

theorem informs_fresh {patterns : List Pattern} (hgiven : ∀ p ∈ patterns, p.variations.Nodup)
    (h : StoreHandle) (settings : LearnerSettings) (cutter : Option BlockCutter) (announces : Bool)
    (now : Instant) : (Learner.fresh patterns h settings cutter announces now).Informs :=
  ⟨nofun, hgiven⟩

theorem informs_undergoAll (hinforms : s.learner.Informs) {steps : List LifeStep}
    (hgiven : ∀ step ∈ steps, ∀ p ∈ step.patternsGiven, p.variations.Nodup) :
    (s.undergoAll steps).learner.Informs := by
  refine List.foldlRecOn (motive := fun u : LearningState => u.learner.Informs) steps undergo
    hinforms ?_
  intro u hu step hstep
  cases step with
  | operate op => exact learner_perform informs_act hu op
  | use index op => exact learner_use informs_act hu index op
  | restart patterns settings cutter announces =>
      exact informs_fresh (hgiven _ hstep) u.learner.store settings cutter announces u.now

/-- Whatever the store holds and whatever becomes of a learner, its patterns hold no variation twice,
plain ones hold none, and as soon as it has begun the others hold all that it knows for their names. -/
theorem patterns_hold_known {patterns : List Pattern} {h : StoreHandle} {settings : LearnerSettings}
    {cutter : Option BlockCutter} {announces : Bool} {now : Instant}
    (hfresh : s.learner = .fresh patterns h settings cutter announces now)
    (hfirst : ∀ p ∈ patterns, p.variations.Nodup) {steps : List LifeStep}
    (hgiven : ∀ step ∈ steps, ∀ p ∈ step.patternsGiven, p.variations.Nodup) :
    let t := s.undergoAll steps
    ∀ p ∈ t.learner.patterns, p.variations.Nodup ∧ (p.mode = .plain → p.variations = []) ∧
      (p.mode ≠ .plain → t.learner.initialized = true →
        ∀ v ∈ t.learner.insights.variationsOf p.name, v ∈ p.variations) := by
  intro t p hp
  have hinforms : t.learner.Informs :=
    informs_undergoAll (hfresh ▸ informs_fresh hfirst h settings cutter announces now) hgiven
  exact ⟨hinforms.once p hp, Pattern.variations_of_plain,
    fun hmode hbegun => hinforms.known hbegun p hp hmode⟩

/-! ### Variations from a store, from others and from a file -/

/-- The store holds a variation twice; two patterns have its name, of which one is plain. -/
def toldLearner : LearningState :=
  inMemory [.adaptive wordPattern.core .standard, wordPattern]
    (some { Insights.empty ⟨0, 0⟩ with variations := .ofList [("w", ["b", "b"])] })

/-- A variation is offered from outside and another one imported, and then there is a restart. -/
def tellingSteps : List LifeStep :=
  [.use 0 (.offer ["c", "b", "c"]), .operate (.place "x" exchangedVariation),
    .operate (.importFrom "x"),
    .restart [wordPattern, .adaptive wordPattern.core .standard] ⟨⟨0, 0, 0⟩, 1, 1, false⟩ none false,
    .operate .begin]

theorem patterns_hold_known_told :
    let t := toldLearner.undergoAll tellingSteps
    t.learner.initialized = true ∧ t.learner.insights.variationsOf "w" = ["b", "b", "a"] ∧
      t.learner.patterns.map Pattern.variations = [[], ["b", "a"]] ∧
      ∀ p ∈ t.learner.patterns, p.variations.Nodup ∧ (p.mode = .plain → p.variations = []) ∧
        (p.mode ≠ .plain → t.learner.initialized = true →
          ∀ v ∈ t.learner.insights.variationsOf p.name, v ∈ p.variations) := by
  refine ⟨by decide +kernel, by decide +kernel, by decide +kernel, ?_⟩
  have hfresh : toldLearner.learner =
      .fresh [.adaptive wordPattern.core .standard, wordPattern] .memory
        ⟨⟨0, 0, 0⟩, 1, 1, false⟩ none false ⟨0, 0⟩ := rfl
  exact patterns_hold_known hfresh (by decide +kernel) (by decide +kernel)

end LearningState
end AdaptiveRules
