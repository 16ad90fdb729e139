import AdaptiveRules.Proofs.RegexComposition
import AdaptiveRules.Proofs.RegexInside
import AdaptiveRules.Proofs.RegexSearching
import AdaptiveRules.RuleMerging

/-!
# Merging keeps the meaning of both rules

A rule that is merged with a variation is read as a group with two branches: the first is read as the
rule is read alone, and the second as the variation is, provided that the rule leaves the flags at its
end as they were at its start.  So the merged rule finds something in a text exactly if one of the two
does.
-/

namespace AdaptiveRules

open Regex TextLines

namespace Regex.Reading

variable {r s u v : Reading} {w : Surroundings} {flags outer : Flags}
  {original variation more : List Char} {fuel : Nat}

/-- The whole inside is a choice between the text and the branches before it. -/
theorem matches_whole_inside {x y : Cursor} (henclosing : r.enclosing = []) :
    (r.inside w).whole.core.Matches x y ↔
      r.whole.core.Matches x y ∨ ∃ b ∈ w.branches, b.core.Matches x y := by
  have hbranches : (r.inside w).branches =
      r.branches.map (.shift w.captures) ++ w.branches := by
    unfold inside
    rw [henclosing]
    rfl
  have hitems : Piece.branch (r.inside w).items = (Piece.branch r.items).shift w.captures :=
    Piece.branch_map r.items
  unfold whole
  rw [Piece.matches_choice (List.cons_ne_nil _ _), Piece.matches_choice (List.cons_ne_nil _ _),
    hbranches, hitems, ← List.cons_append, ← List.map_cons]
  simp only [List.mem_append, or_and_right, exists_or]
  refine or_congr_left ?_
  simp only [List.mem_map, exists_exists_and_eq_and]
  exact exists_congr fun b => and_congr_right fun _ => Core.matches_shift

/-- Around the first branch of a group without a number. -/
def insideGroup (flags : Flags) : Surroundings := ⟨0, [], [], [⟨.plain, [], [], flags⟩]⟩

/-- Around the branch that comes behind a bar. -/
def behindBar (r : Reading) : Surroundings :=
  ⟨r.captures, r.names, Piece.branch r.items :: r.branches, r.enclosing⟩

theorem initial_behindBar (r : Reading) :
    (initial r.flags).inside (behindBar r) =
      { r with branches := Piece.branch r.items :: r.branches, items := [] } := by
  unfold initial inside behindBar
  simp only [Nat.zero_add]
  rfl

theorem step_open_plain {cs : List Char} (hspaced : r.flags.spaced = false) :
    r.step '(' ('?' :: ':' :: cs) = .ok (r.enter .plain r.flags, cs) := by
  show r.openGroup _ = _
  rw [openGroup_eq, Flags.skip_of_not_spaced hspaced,
    openBy_flags (by decide) (by decide) (by decide) (by simp)]
  rfl

/-- A group that is all of the text is read as what stands in it. -/
theorem exists_closeGroup {kind : GroupKind} (hgroup : r.enclosing = [⟨kind, [], [], flags⟩]) :
    ∃ t, r.closeGroup = .ok t ∧ t.enclosing = [] ∧ t.flags = flags ∧
      ∀ x y, t.whole.core.Matches x y ↔ r.whole.core.Matches x y := by
  unfold closeGroup
  rw [hgroup]
  cases kind with
  | plain => exact ⟨_, rfl, rfl, rfl, fun _ _ => Iff.rfl⟩
  | capture index name => exact ⟨_, rfl, rfl, rfl, fun _ _ => Iff.rfl⟩

theorem flags_inside : (r.inside w).flags = r.flags := rfl

theorem enclosing_inside (henclosing : r.enclosing = []) :
    (r.inside w).enclosing = w.enclosing := by
  unfold inside
  rw [henclosing]
  rfl

theorem matches_whole {x y : Cursor} :
    r.whole.core.Matches x y ↔ ∃ b ∈ (behindBar r).branches, b.core.Matches x y :=
  Piece.matches_choice (List.cons_ne_nil _ _)

/-- Where a text can be read alone, reading more of it goes on behind it. -/
theorem exists_finish_behind {n : Nat} (hread : finish n (initial flags) original = .ok s)
    (hspaced : s.flags.spaced = false) (hmore : GoesOn more)
    (hfinish : finish fuel ((initial flags).inside w) (original ++ more) = .ok v) :
    ∃ fuel', finish fuel' (s.inside w) more = .ok v := by
  have hbears : s.flags.Bears more := by
    intro hnot
    rw [hspaced] at hnot
    cases hnot
  obtain ⟨_, rest, _, hreads, hend⟩ := exists_reads_of_finish hread
  obtain ⟨fuel', rest', hfinish', hleaves⟩ :=
    finish_inside hreads hmore hend hbears (.append _ _ original) hfinish
  rw [Flags.skip_of_not_spaced hspaced] at hend
  rw [hleaves.eq_append hspaced, hend, List.nil_append] at hfinish'
  exact ⟨fuel', hfinish'⟩

/-- Reading goes on behind a bar as at the beginning, if the flags are the same. -/
theorem exists_finish_behindBar {n : Nat} (hspaced : flags.spaced = false)
    (hread : finish n (initial flags) original = .ok s) (hkeeps : s.flags = flags)
    (hfinish : finish fuel ((initial flags).inside w) (original ++ '|' :: more) = .ok v) :
    ∃ fuel', finish fuel' ((initial flags).inside (behindBar (s.inside w))) more = .ok v := by
  rw [← hkeeps] at hspaced
  obtain ⟨_, hbar⟩ := exists_finish_behind hread hspaced (Or.inl rfl) hfinish
  obtain ⟨_, _, fuel', hstep, hrest⟩ :=
    exists_of_finish_cons (r := s.inside w) (Flags.skip_of_not_spaced hspaced _) hbar
  cases hstep
  rw [← initial_behindBar, flags_inside, hkeeps] at hrest
  exact ⟨fuel', hrest⟩

/-- The last branch of a group is one choice more. -/
theorem whole_of_last_branch {m : Nat} {kind : GroupKind}
    (hgroup : w.enclosing = [⟨kind, [], [], outer⟩])
    (hread : finish m (initial flags) variation = .ok s) (hclosed : s.enclosing = [])
    (hfinish : finish fuel ((initial flags).inside w) (variation ++ [')']) = .ok v)
    (hend : v.enclosing = []) :
    v.flags = outer ∧ ∀ x y, v.whole.core.Matches x y ↔
      s.whole.core.Matches x y ∨ ∃ b ∈ w.branches, b.core.Matches x y := by
  obtain ⟨_, left, _, hreads, hleft⟩ := exists_reads_of_finish hread
  have hbears : s.flags.Bears [')'] := fun _ => by decide
  obtain ⟨fuel', rest', hfinish', hleaves⟩ :=
    finish_inside hreads (Or.inr rfl) hleft hbears (.append _ _ variation) hfinish
  have henclosing : (s.inside w).enclosing = [⟨kind, [], [], outer⟩] :=
    (enclosing_inside hclosed).trans hgroup
  rcases hleaves.nil (Or.inr rfl) hbears hleft with hclose | hnone
  · obtain ⟨r₁, rest₁, fuel₁, hstep, hrest⟩ :=
      exists_of_finish_cons (r := s.inside w) hclose hfinish'
    obtain ⟨r₂, hclosing, hr₂⟩ := exists_of_bind_eq_ok hstep
    obtain ⟨u, hu, _, hflags, hsame⟩ := exists_closeGroup henclosing
    obtain rfl := Except.ok.inj (hu.symm.trans hclosing)
    cases hr₂
    obtain rfl := eq_of_finish_nil (Flags.skip_nil _) hrest
    exact ⟨hflags, fun x y => (hsame x y).trans (matches_whole_inside hclosed)⟩
  · -- A comment has taken in the end of the group.
    obtain rfl := eq_of_finish_nil (r := s.inside w) hnone hfinish'
    rw [henclosing] at hend
    cases hend

/-- A group of two branches is read as each of them is read alone. -/
theorem whole_of_group {n m : Nat} (hspaced : flags.spaced = false)
    (hfirst : finish n (initial flags) original = .ok s) (hclosed : s.enclosing = [])
    (hkeeps : s.flags = flags) (hsecond : finish m (initial flags) variation = .ok u)
    (hlast : u.enclosing = []) (hfinish : finish fuel (initial flags)
      ('(' :: '?' :: ':' :: (original ++ '|' :: (variation ++ [')']))) = .ok v)
    (hend : v.enclosing = []) :
    v.flags = flags ∧ ∀ x y, v.whole.core.Matches x y ↔
      s.whole.core.Matches x y ∨ u.whole.core.Matches x y := by
  obtain ⟨_, _, fuel₁, hstep, hfinish₁⟩ :=
    exists_of_finish_cons (r := initial flags) (Flags.skip_of_not_spaced hspaced _) hfinish
  rw [step_open_plain hspaced] at hstep
  cases hstep
  obtain ⟨fuel₂, hfinish₂⟩ :=
    exists_finish_behindBar (w := insideGroup flags) hspaced hfirst hkeeps hfinish₁
  obtain ⟨hflags, hwhole⟩ := whole_of_last_branch (w := behindBar (s.inside (insideGroup flags)))
    (enclosing_inside hclosed) hsecond hlast hfinish₂ hend
  refine ⟨hflags, fun x y => ?_⟩
  have hnone : ¬ ∃ b ∈ (insideGroup flags).branches, b.core.Matches x y := by
    rintro ⟨b, hb, _⟩
    cases hb
  rw [hwhole, ← matches_whole, matches_whole_inside hclosed, or_iff_left hnone, or_comm]

end Regex.Reading

namespace Regex

/-- The text is read as a rule of its own, with all groups closed, and reading ends in this state. -/
structure ReadsAs (t : List Char) (s : Reading) : Prop where
  finish : Reading.finish (t.length + 1) (.initial .multiLineDotAll) t = .ok s
  closed : s.enclosing = []

end Regex

/-! ### Merged rules -/

namespace RuleMerging

/-- The flags that are in force at the end of a rule are those at its start. -/
def KeepsFlags (rule : String) : Prop :=
  ∃ s, Reading.finish (rule.toList.length + 1) (.initial .multiLineDotAll) rule.toList = .ok s ∧
    s.flags = .multiLineDotAll

variable {source original variation : String} {rule other merged : TextRule}

theorem exists_readsAs_of_compile (hcompile : TextRule.compile source = .ok rule) :
    ∃ s, ReadsAs source.toList s ∧ s.whole.core = rule.core := by
  obtain ⟨s, hfinish, hclosed, hcore⟩ := TextRule.exists_finish_of_compileWith hcompile
  exact ⟨s, ⟨hfinish, hclosed⟩, hcore⟩

theorem toList_merge (hne : original ≠ variation) (hsome : original ≠ "") :
    (merge original variation).toList =
      '(' :: '?' :: ':' :: (original.toList ++ '|' :: (variation.toList ++ [')'])) := by
  have hempty : original.isEmpty = false := by simpa using hsome
  unfold merge
  rw [if_neg hne, hempty]
  simp

theorem matches_merge {x y : Cursor} (hrule : TextRule.compile original = .ok rule)
    (hother : TextRule.compile variation = .ok other)
    (hmerged : TextRule.compile (merge original variation) = .ok merged)
    (hne : original ≠ variation) (hsome : original ≠ "") (hkeeps : KeepsFlags original) :
    merged.core.Matches x y ↔ rule.core.Matches x y ∨ other.core.Matches x y := by
  obtain ⟨s, hfirst, hfirstCore⟩ := exists_readsAs_of_compile hrule
  obtain ⟨t, hsecond, hsecondCore⟩ := exists_readsAs_of_compile hother
  obtain ⟨u, hwhole, hwholeCore⟩ := exists_readsAs_of_compile hmerged
  obtain ⟨_, hsame, hflags⟩ := hkeeps
  obtain rfl := Except.ok.inj (hfirst.finish.symm.trans hsame)
  have hgroup := hwhole.finish
  rw [toList_merge hne hsome] at hgroup
  rw [← hwholeCore, ← hfirstCore, ← hsecondCore]
  exact (Reading.whole_of_group rfl hfirst.finish hfirst.closed hflags hsecond.finish
    hsecond.closed hgroup hwhole.closed).2 x y

/-- A merged rule finds something in a text if and only if one of the two does.  Where the rule to
merge into is empty, the variation takes its place. -/
theorem merge_finds_iff (hrule : TextRule.compile original = .ok rule)
    (hother : TextRule.compile variation = .ok other)
    (hmerged : TextRule.compile (merge original variation) = .ok merged)
    (hkeeps : original ≠ variation → KeepsFlags original) (text : String) :
    merged.Finds text ↔ (original ≠ "" ∧ rule.Finds text) ∨ other.Finds text := by
  by_cases hsame : original = variation
  · subst hsame
    have hmerge : merge original original = original := if_pos rfl
    rw [hmerge] at hmerged
    obtain rfl := Except.ok.inj (hrule.symm.trans hother)
    obtain rfl := Except.ok.inj (hrule.symm.trans hmerged)
    simp
  by_cases hempty : original = ""
  · subst hempty
    have hmerge : merge "" variation = variation := by
      unfold merge
      rw [if_neg hsame]
      rfl
    rw [hmerge] at hmerged
    obtain rfl := Except.ok.inj (hother.symm.trans hmerged)
    simp
  · rw [TextRule.finds_iff_matches hmerged, TextRule.finds_iff_matches hrule,
      TextRule.finds_iff_matches hother]
    simp only [matches_merge hrule hother hmerged hsame hempty (hkeeps hsame), and_or_left,
      exists_or, hempty, ne_eq, not_false_eq_true, true_and]

theorem merge_finds_iff_scopedFlags :
    ∃ rule other merged, TextRule.compile "a(?i:b)|c" = .ok rule ∧
      TextRule.compile "d+" = .ok other ∧
      TextRule.compile (merge "a(?i:b)|c" "d+") = .ok merged ∧ KeepsFlags "a(?i:b)|c" ∧
      (merged.Finds "aB" ↔ ("a(?i:b)|c" ≠ "" ∧ rule.Finds "aB") ∨ other.Finds "aB") := by
  have hread : ∀ source, (TextRule.compile source).isOk = true →
      ∃ rule, TextRule.compile source = .ok rule := by
    intro source hok
    cases hcompile : TextRule.compile source with
    | error e =>
        rw [hcompile] at hok
        cases hok
    | ok rule => exact ⟨rule, rfl⟩
  obtain ⟨rule, hrule⟩ := hread "a(?i:b)|c" (by decide +kernel)
  obtain ⟨other, hother⟩ := hread "d+" (by decide +kernel)
  obtain ⟨merged, hmerged⟩ := hread (merge "a(?i:b)|c" "d+") (by decide +kernel)
  have hkeeps : KeepsFlags "a(?i:b)|c" := ⟨_, rfl, rfl⟩
  exact ⟨rule, other, merged, hrule, hother, hmerged, hkeeps,
    merge_finds_iff hrule hother hmerged (fun _ => hkeeps) "aB"⟩

/-- If the two rules and the merged one are accepted, the merged one finds something in the text if and
only if one of the two does. -/
def MeansBoth (original variation text : String) : Prop :=
  ∀ rule other merged, TextRule.compile original = .ok rule →
    TextRule.compile variation = .ok other →
    TextRule.compile (merge original variation) = .ok merged →
    (merged.Finds text ↔ rule.Finds text ∨ other.Finds text)

/-- An empty rule finds something in every text, but merging loses it; and a flag that is cleared at
the end of the rule stays cleared in the variation. -/
theorem not_meansBoth :
    ¬ MeansBoth "" "a" "b" ∧ ¬ MeansBoth "(?-m)x" "^a" "b\na" := by
  constructor
  · intro hboth
    have hfinds := hboth _ _ _ rfl rfl rfl
    simp only [TextRule.finds_iff_isMatch] at hfinds
    revert hfinds
    decide +kernel
  · intro hboth
    have hfinds := hboth _ _ _ rfl rfl rfl
    simp only [TextRule.finds_iff_isMatch] at hfinds
    revert hfinds
    decide +kernel

end RuleMerging
end AdaptiveRules
