import AdaptiveRules.MatchRecovery
import Mathlib.Tactic

/-!
# Outermost spans

Merging what overlapping windows found sorts the matches by position, the longer one first where two
start together, and then compares each match with the last one kept only.  In that order this is
enough: whatever was kept before stops no later than the last one kept.
-/

namespace AdaptiveRules

/-- The span of one match lies in that of the other. -/
def MatchInstance.Covers (outer inner : MatchInstance) : Prop :=
  outer.start ≤ inner.start ∧ inner.stop ≤ outer.stop

namespace MatchRecovery

theorem comesFirst_iff {m n : MatchInstance} :
    comesFirst m n ↔ m.start < n.start ∨ m.start = n.start ∧ n.stop ≤ m.stop := by
  simp [comesFirst]

theorem comesFirst_trans (k m n : MatchInstance)
    (hkm : comesFirst k m) (hmn : comesFirst m n) : comesFirst k n := by
  rw [comesFirst_iff] at hkm hmn ⊢
  omega

theorem comesFirst_total (m n : MatchInstance) :
    (comesFirst m n || comesFirst n m) = true := by
  rw [Bool.or_eq_true, comesFirst_iff, comesFirst_iff]
  omega

/-- In order of position, which is what the comparison with the last match kept relies on. -/
def Positioned (found : List MatchInstance) : Prop :=
  found.Pairwise fun m n => comesFirst m n

theorem positioned_mergeSort (found : List MatchInstance) :
    Positioned (found.mergeSort comesFirst) :=
  List.pairwise_mergeSort comesFirst_trans comesFirst_total found

theorem dropContained_sublist (last : Option Nat) (found : List MatchInstance) :
    (dropContained last found).Sublist found := by
  induction found generalizing last with
  | nil => exact List.Sublist.refl []
  | cons m rest ih =>
      unfold dropContained
      split
      · exact (ih last).cons m
      · exact (ih (some m.stop)).cons_cons m

theorem lt_stop_of_mem_dropContained
    {last : Option Nat} {found : List MatchInstance} {stop : Nat} {m : MatchInstance}
    (hlast : last = some stop) (hm : m ∈ dropContained last found) : stop < m.stop := by
  induction found generalizing last stop with
  | nil => simp [dropContained] at hm
  | cons n rest ih =>
      unfold dropContained at hm
      split at hm
      · exact ih hlast hm
      · next hkept =>
          have hn : stop < n.stop := by
            simpa [hlast] using hkept
          rcases List.mem_cons.mp hm with rfl | hm
          · exact hn
          · exact hn.trans (ih rfl hm)

theorem pairwise_stop_dropContained (last : Option Nat) (found : List MatchInstance) :
    (dropContained last found).Pairwise fun m n => m.stop < n.stop := by
  induction found generalizing last with
  | nil => exact List.Pairwise.nil
  | cons m rest ih =>
      unfold dropContained
      split
      · exact ih last
      · exact List.pairwise_cons.mpr
          ⟨fun n hn => lt_stop_of_mem_dropContained rfl hn, ih (some m.stop)⟩

/-- Whatever is dropped stops no later than the last match kept before it, and starts no earlier
because of the order. -/
theorem exists_covers_of_mem
    (last : Option Nat) {found : List MatchInstance} {m : MatchInstance}
    (hpos : Positioned found) (hm : m ∈ found) :
    (∃ stop, last = some stop ∧ m.stop ≤ stop) ∨
      ∃ k ∈ dropContained last found, k.Covers m := by
  induction found generalizing last with
  | nil => simp at hm
  | cons n rest ih =>
      obtain ⟨hfirst, hrest⟩ := List.pairwise_cons.mp hpos
      unfold dropContained
      split
      · next hdrop =>
          rcases List.mem_cons.mp hm with rfl | hm
          · left
            simpa [Option.any_eq_true] using hdrop
          · exact ih last hrest hm
      · rcases List.mem_cons.mp hm with rfl | hm
        · exact Or.inr ⟨m, List.mem_cons_self, le_refl _, le_refl _⟩
        · right
          rcases ih (some n.stop) hrest hm with ⟨stop, hstop, hle⟩ | ⟨k, hk, hcovers⟩
          · have hstart := comesFirst_iff.mp (hfirst m hm)
            refine ⟨n, List.mem_cons_self, by omega, ?_⟩
            rw [Option.some.inj hstop]
            exact hle
          · exact ⟨k, List.mem_cons_of_mem n hk, hcovers⟩

/-! ### What is kept -/

theorem mem_of_mem_keepOutermost {found : List MatchInstance} {m : MatchInstance}
    (hm : m ∈ keepOutermost found) : m ∈ found := by
  have hsorted := (dropContained_sublist none (found.mergeSort comesFirst)).subset hm
  exact (List.mergeSort_perm found comesFirst).subset hsorted

theorem pairwise_stop_keepOutermost (found : List MatchInstance) :
    (keepOutermost found).Pairwise fun m n => m.stop < n.stop :=
  pairwise_stop_dropContained none _

theorem pairwise_start_keepOutermost (found : List MatchInstance) :
    (keepOutermost found).Pairwise fun m n => m.start < n.start := by
  have hpos : Positioned (keepOutermost found) :=
    (positioned_mergeSort found).sublist (dropContained_sublist none _)
  refine (hpos.and (pairwise_stop_keepOutermost found)).imp ?_
  rintro m n ⟨hfirst, hstop⟩
  rw [comesFirst_iff] at hfirst
  omega

theorem exists_covers_keepOutermost {found : List MatchInstance} {m : MatchInstance}
    (hm : m ∈ found) : ∃ k ∈ keepOutermost found, k.Covers m := by
  have hsorted := (List.mergeSort_perm found comesFirst).symm.subset hm
  rcases exists_covers_of_mem none (positioned_mergeSort found) hsorted with
    ⟨stop, hnone, _⟩ | hkept
  · cases hnone
  · exact hkept

end MatchRecovery
end AdaptiveRules
