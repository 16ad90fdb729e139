import AdaptiveRules.Proofs.OfferedAlternatives
import AdaptiveRules.Proofs.RuleGrowth

/-!
# Variations that are recognized in a rule

A variation is passed over if it stands in the rule between a bar and a closing bracket.  What such a
bar belongs to is not looked at, so a variation may be passed over that the rule does not cover.  But
if every bar of the rule separates alternatives of the whole, as in a rule that is put together by
merging, then there is nothing between a bar and a closing bracket but one alternative or several, and
what is passed over is covered.
-/

namespace AdaptiveRules

open Regex

namespace Regex

/-- The text can be read as a rule of its own, and blanks at its end count. -/
def IsUnspaced (t : List Char) : Prop := ∃ s, ReadsAs t s ∧ s.flags.spaced = false

variable {t more : List Char}

theorem IsNeutral.isUnspaced (ht : IsNeutral t) : IsUnspaced t := by
  obtain ⟨s, hs, hkeeps⟩ := ht
  exact ⟨s, hs, by rw [hkeeps]; rfl⟩

theorem IsUnspaced.isRule (ht : IsUnspaced t) : IsRule t := ht.imp fun _ hs => hs.1

theorem IsUnspaced.not_isRule_closing (ht : IsUnspaced t) : ¬ IsRule (t ++ ')' :: more) := by
  obtain ⟨s, hs, hspaced⟩ := ht
  exact hs.not_isRule_closing hspaced

end Regex

namespace RuleMerging

variable {a b c o v x : List Char} {single : Bool}

/-- All bars of the text separate alternatives of the whole, or of a group that is all of one.  The
flag says whether there is a single alternative. -/
inductive Alternation : Bool → List Char → Prop
  | plain {t : List Char} (hbars : '|' ∉ t) : Alternation true t
  | bracketed {single : Bool} {o c : List Char} (ho : IsOpener o) (hmore : Alternation single c)
      (hwhole : IsRule (o ++ (c ++ [')']))) : Alternation true (o ++ (c ++ [')']))
  | bar {single : Bool} {t c : List Char} (hone : Alternation true t) (ht : IsNeutral t)
      (hc : IsUnspaced c) (hmore : Alternation single c) : Alternation false (t ++ '|' :: c)

theorem exists_of_bar_inside {rest : List Char} (hsplit : c ++ x = a ++ '|' :: rest)
    (hlt : a.length < c.length) : ∃ d, c = a ++ '|' :: d ∧ d ++ x = rest := by
  rcases List.append_eq_append_iff.mp hsplit with ⟨m, rfl, _⟩ | ⟨m, rfl, hm⟩
  · rw [List.length_append] at hlt
    omega
  · cases m with
    | nil => simp at hlt
    | cons d m =>
        obtain ⟨rfl, hrest⟩ := List.cons.inj hm
        exact ⟨m, rfl, hrest.symm⟩

theorem exists_of_bar_behind {rest : List Char} (hsplit : o ++ x = a ++ '|' :: rest)
    (ho : '|' ∉ o) : ∃ m, a = o ++ m ∧ x = m ++ '|' :: rest := by
  rcases List.append_eq_append_iff.mp hsplit with ⟨m, rfl, hm⟩ | ⟨m, rfl, hm⟩
  · exact ⟨m, rfl, hm⟩
  · cases m with
    | nil => exact ⟨[], by simp, hm.symm⟩
    | cons d m =>
        obtain ⟨rfl, _⟩ := List.cons.inj hm
        simp at ho

theorem lt_length_of_bar {rest : List Char} (hsplit : c ++ ')' :: x = a ++ '|' :: rest)
    (hle : a.length ≤ c.length) : a.length < c.length := by
  refine lt_of_le_of_ne hle fun heq => ?_
  obtain ⟨_, hbehind⟩ := List.append_inj hsplit heq.symm
  cases hbehind

/-- Of two rules at the same place the one with a closing bracket behind it is not the shorter one. -/
theorem exists_goes_on (hc : IsUnspaced c) (hv : IsUnspaced v) (hsame : c ++ x = v ++ ')' :: b) :
    ∃ more, v = c ++ more ∧ x = more ++ ')' :: b := by
  rcases List.append_eq_append_iff.mp hsame with hgoes | ⟨n, rfl, hn⟩
  · exact hgoes
  · cases n with
    | nil => exact ⟨[], by simp, hn.symm⟩
    | cons e n =>
        obtain ⟨rfl, _⟩ := List.cons.inj hn
        exact absurd hc.isRule hv.not_isRule_closing

/-- Where a bar of the text is followed by the variation and a closing bracket, the text offers the
variation; or else the variation begins with the last alternatives of the text and goes on behind it,
which it does not do behind a group, as there is no place in it for the bracket that closes it. -/
theorem Alternation.offers_or_goes_on (hall : Alternation single c) (hv : IsUnspaced v)
    (hsplit : c ++ x = a ++ '|' :: (v ++ ')' :: b)) (hlt : a.length < c.length) :
    Offers v c ∨ single = false ∧
      ∃ d more, Offers d c ∧ IsUnspaced d ∧ v = d ++ more ∧ x = more ++ ')' :: b := by
  induction hall generalizing a x with
  | plain hbars =>
      obtain ⟨d, rfl, _⟩ := exists_of_bar_inside hsplit hlt
      simp at hbars
  | @bracketed _ o c ho _ hwhole ih =>
      left
      rw [List.append_assoc] at hsplit
      obtain ⟨m, rfl, hinside⟩ := exists_of_bar_behind hsplit ho.bars
      rw [List.append_assoc, List.singleton_append] at hinside
      have hle : m.length ≤ c.length := by
        simp only [List.length_append, List.length_cons, List.length_nil] at hlt
        omega
      rcases ih hinside (lt_length_of_bar hinside hle) with hoffers | ⟨_, d, more, hoffers, hd, hmore, hrest⟩
      · exact .bracketed ho hoffers hwhole
      · cases more with
        | nil =>
            rw [List.append_nil] at hmore
            exact .bracketed ho (hmore ▸ hoffers) hwhole
        | cons e more =>
            obtain ⟨rfl, _⟩ := List.cons.inj hrest
            exact absurd (hmore ▸ hv.isRule) hd.not_isRule_closing
  | @bar _ t c hone ht hc hmore ihone ihmore =>
      rw [List.append_assoc, List.cons_append] at hsplit
      by_cases hfirst : a.length < t.length
      · rcases ihone hsplit hfirst with hoffers | ⟨hfalse, _⟩
        · exact Or.inl (.first hoffers ht hc.isRule)
        · cases hfalse
      · have hbegins : t <+: a := by
          apply List.prefix_of_prefix_length_le (List.prefix_append t ('|' :: (c ++ x))) _ (by omega)
          rw [hsplit]
          exact List.prefix_append a _
        obtain ⟨m, rfl⟩ := hbegins
        rw [List.append_assoc, List.append_cancel_left_eq] at hsplit
        cases m with
        | nil =>
            -- The variation begins right behind the bar between the first alternative and the others.
            obtain ⟨more, hmore, hrest⟩ := exists_goes_on hc hv (List.cons.inj hsplit).2
            exact Or.inr ⟨rfl, c, more, .last ht .itself, hc, hmore, hrest⟩
        | cons e m =>
            obtain ⟨rfl, hbehind⟩ := List.cons.inj hsplit
            have hlast : m.length < c.length := by
              simp only [List.length_append, List.length_cons] at hlt
              omega
            rcases ihmore hbehind hlast with hoffers | ⟨_, d, more, hoffers, hd, hrest⟩
            · exact Or.inl (.last ht hoffers)
            · exact Or.inr ⟨rfl, d, more, .last ht hoffers, hd, hrest⟩

/-- In a rule whose bars all separate alternatives, a variation that is recognized is offered. -/
theorem Alternation.offers_of_alreadyMerged {current variation : String}
    (hall : Alternation single current.toList) (hv : IsUnspaced variation.toList)
    (hmerged : alreadyMerged current variation = true) :
    Offers variation.toList current.toList := by
  by_cases hsame : current = variation
  · rw [hsame]
    exact .itself
  have hholds : HoldsLast current variation := by
    by_contra hnot
    rw [alreadyMerged_eq_false.mpr ⟨hsame, hnot⟩] at hmerged
    cases hmerged
  obtain ⟨a, b, hsplit⟩ := hholds
  have hbar : current.toList ++ [] = a ++ '|' :: (variation.toList ++ ')' :: b) := by
    rw [List.append_nil, ← hsplit]
    simp
  have hlt : a.length < current.toList.length := by
    rw [← hsplit]
    simp only [List.length_append, List.length_cons]
    omega
  rcases hall.offers_or_goes_on hv hbar hlt with hoffers | ⟨_, _, more, _, _, _, hrest⟩
  · exact hoffers
  · cases more <;> cases hrest

/-! ### Rules that grow -/

variable {current variation original : String} {rule other : TextRule}

/-- The rule is a single alternative, the bars in it separate alternatives, and the flags at its end
are those at its start. -/
structure IsSingle (rule : String) : Prop where
  neutral : IsNeutral rule.toList
  bars : Alternation true rule.toList

/-- Merging keeps a rule single. -/
theorem IsSingle.merge (horiginal : IsSingle original) (hvariation : IsSingle variation)
    (hmerged : IsRule (RuleMerging.merge original variation).toList) :
    IsSingle (RuleMerging.merge original variation) := by
  refine ⟨isNeutral_merge horiginal.neutral hvariation.neutral hmerged, ?_⟩
  by_cases hne : original = variation
  · rw [RuleMerging.merge, if_pos hne]
    exact horiginal.bars
  by_cases hsome : original = ""
  · rw [RuleMerging.merge, if_neg hne, hsome]
    exact hvariation.bars
  rw [toList_merge_eq_bracketed hne hsome] at hmerged ⊢
  exact .bracketed isOpener_plain
    (.bar horiginal.bars horiginal.neutral hvariation.neutral.isUnspaced hvariation.bars) hmerged

theorem isRule_of_compile (hrule : TextRule.compile current = .ok rule) :
    IsRule current.toList := by
  obtain ⟨s, hs, _⟩ := exists_readsAs_of_compile hrule
  exact ⟨s, hs⟩

/-! ### What is passed over -/

/-- What is recognized is covered, where it is an alternative of the rule and where there is nothing
else that it could be. -/
theorem finds_of_alreadyMerged (hrule : TextRule.compile current = .ok rule)
    (hother : TextRule.compile variation = .ok other)
    (hmerged : alreadyMerged current variation = true)
    (hplace : Offers variation.toList current.toList ∨
      (∃ single, Alternation single current.toList) ∧ IsUnspaced variation.toList)
    {text : String} (hfinds : other.Finds text) : rule.Finds text := by
  rcases hplace with hoffers | ⟨⟨single, hall⟩, hv⟩
  · exact hoffers.finds hrule hother hfinds
  · exact (hall.offers_of_alreadyMerged hv hmerged).finds hrule hother hfinds

/-- A variation that counts as merged is never chosen.  If the rule offers it as an alternative, or if
all bars of the rule separate alternatives, then the rule finds something in every text in which the
variation does. -/
theorem skipped_finds (hrule : TextRule.compile current = .ok rule)
    (hother : TextRule.compile variation = .ok other)
    (hskipped : alreadyMerged current variation = true)
    (hplace : Offers variation.toList current.toList ∨
      (∃ single, Alternation single current.toList) ∧ IsUnspaced variation.toList) :
    (∀ variations, selectBest variations current ≠ some variation) ∧
      ∀ text, other.Finds text → rule.Finds text := by
  constructor
  · intro variations hbest
    obtain ⟨_, _, hne, hnot⟩ := of_selectBest hbest
    rw [alreadyMerged_eq_false.mpr ⟨hne, hnot⟩] at hskipped
    cases hskipped
  · exact fun text => finds_of_alreadyMerged hrule hother hskipped hplace

theorem skipped_finds_brackets :
    ∃ rule other, TextRule.compile "((?:a(?i:x)|b+)|(?P<k>c))" = .ok rule ∧
      TextRule.compile "b+" = .ok other ∧
      alreadyMerged "((?:a(?i:x)|b+)|(?P<k>c))" "b+" = true ∧
      (∀ variations, selectBest variations "((?:a(?i:x)|b+)|(?P<k>c))" ≠ some "b+") ∧
      (other.Finds "abb" → rule.Finds "abb") := by
  obtain ⟨_, rule, hrule⟩ : Installable "((?:a(?i:x)|b+)|(?P<k>c))" := by decide +kernel
  obtain ⟨_, other, hother⟩ : Installable "b+" := by decide +kernel
  have hfirst : IsSingle "a(?i:x)" := ⟨⟨_, ⟨rfl, rfl⟩, rfl⟩, .plain (by decide +kernel)⟩
  have hsecond : IsSingle "b+" := ⟨⟨_, ⟨rfl, rfl⟩, rfl⟩, .plain (by decide +kernel)⟩
  have hmerge : merge "a(?i:x)" "b+" = "(?:a(?i:x)|b+)" := by decide +kernel
  have hboth : IsSingle "(?:a(?i:x)|b+)" :=
    hmerge ▸ hfirst.merge hsecond (by rw [hmerge]; exact ⟨_, rfl, rfl⟩)
  have hname : IsGroupName ['k'] := ⟨'k', [], rfl, by decide +kernel, rfl⟩
  have hthird : Alternation true (['(', '?', 'P', '<', 'k', '>'] ++ (['c'] ++ [')'])) :=
    .bracketed hname.isOpener.1 (.plain (by decide)) ⟨_, rfl, rfl⟩
  have hall : Alternation true (['('] ++ ("(?:a(?i:x)|b+)".toList ++
      '|' :: (['(', '?', 'P', '<', 'k', '>'] ++ (['c'] ++ [')'])) ++ [')'])) :=
    .bracketed isOpener_numbered
      (.bar hboth.bars hboth.neutral ⟨_, ⟨rfl, rfl⟩, rfl⟩ hthird) ⟨_, rfl, rfl⟩
  obtain ⟨hnever, hfinds⟩ := skipped_finds hrule hother (by decide +kernel)
    (Or.inr ⟨⟨true, hall⟩, hsecond.neutral.isUnspaced⟩)
  exact ⟨rule, other, hrule, hother, by decide +kernel, hnever, hfinds "abb"⟩

/-- A bar in a group that is not all of an alternative does not count. -/
theorem alreadyMerged_uncovered :
    alreadyMerged "x(?:y|a)" "a" = true ∧
      ∃ rule other, TextRule.compile "x(?:y|a)" = .ok rule ∧ TextRule.compile "a" = .ok other ∧
        other.Finds "a" ∧ ¬ rule.Finds "a" := by
  refine ⟨by decide +kernel, _, _, rfl, rfl, ?_⟩
  simp only [TextRule.finds_iff_isMatch]
  decide +kernel

end RuleMerging

namespace Pattern

open RuleMerging

variable {p : Pattern} {ops : List PatternOperation} {V : Finset String}

/-- A run that changes the rule by merging only keeps it single, if it begins so and all variations at
hand are. -/
theorem isSingle_performAll (hsingle : IsSingle p.textRule) (hcovers : Covers V p ops)
    (hV : ∀ v ∈ V, IsSingle v) (hmerging : p.ChangesByMerging ops) :
    IsSingle (p.performAll ops).textRule := by
  induction ops generalizing p with
  | nil => exact hsingle
  | cons op rest ih =>
      have hnext : IsSingle (p.perform op).textRule := by
        cases hop : op.merges with
        | false =>
            have hkeeps : (p.perform op).textRule = p.textRule := hmerging [] op rest rfl hop
            rwa [hkeeps]
        | true =>
            rcases textRule_perform_of_merges hop with hsame | ⟨v, hbest, hrule, hmerged⟩
            · rwa [hsame]
            · obtain ⟨hv, _⟩ := of_selectBest hbest
              obtain ⟨_, rule, hcompile⟩ := hrule
              rw [hmerged]
              exact hsingle.merge (hV v (hcovers.mem_of_mem_atHand hv)) (isRule_of_compile hcompile)
      exact ih hnext hcovers.perform hmerging.perform

/-- In such a run, whatever is passed over as merged is covered by the rule. -/
theorem finds_of_alreadyMerged_performAll (hsingle : IsSingle p.textRule) (hcovers : Covers V p ops)
    (hV : ∀ v ∈ V, IsSingle v) (hmerging : p.ChangesByMerging ops) {v : String} (hv : v ∈ V)
    {rule other : TextRule} (hrule : TextRule.compile (p.performAll ops).textRule = .ok rule)
    (hother : TextRule.compile v = .ok other)
    (hmerged : alreadyMerged (p.performAll ops).textRule v = true) {text : String}
    (hfinds : other.Finds text) : rule.Finds text :=
  finds_of_alreadyMerged hrule hother hmerged
    (Or.inr ⟨⟨true, (isSingle_performAll hsingle hcovers hV hmerging).bars⟩,
      (hV v hv).neutral.isUnspaced⟩) hfinds

end Pattern
end AdaptiveRules
