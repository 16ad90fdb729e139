import AdaptiveRules.Proofs.OutermostSpans

/-!
# Maximal spans

What merging keeps of the matches that windows found is told by their spans alone: the spans that lie
in no other one.  Several matches may have such a span.  The sort does not exchange them, since it
compares nothing but bounds, and the comparison with the last match kept then drops all of them but
the first.  So the match that is kept is the one that was found first.
-/

namespace AdaptiveRules

namespace MatchInstance

variable {k m n : MatchInstance}

/-- The bounds of the two matches are the same. -/
def SameSpan (m n : MatchInstance) : Prop := m.start = n.start ∧ m.stop = n.stop

instance (m n : MatchInstance) : Decidable (m.SameSpan n) :=
  inferInstanceAs (Decidable (m.start = n.start ∧ m.stop = n.stop))

theorem SameSpan.refl (m : MatchInstance) : m.SameSpan m := ⟨rfl, rfl⟩

theorem SameSpan.symm (h : m.SameSpan n) : n.SameSpan m := ⟨h.1.symm, h.2.symm⟩

theorem SameSpan.trans (hkm : k.SameSpan m) (hmn : m.SameSpan n) : k.SameSpan n :=
  ⟨hkm.1.trans hmn.1, hkm.2.trans hmn.2⟩

theorem Covers.trans (hkm : k.Covers m) (hmn : m.Covers n) : k.Covers n :=
  ⟨hkm.1.trans hmn.1, hmn.2.trans hkm.2⟩

theorem Covers.sameSpan (hmn : m.Covers n) (hnm : n.Covers m) : m.SameSpan n :=
  ⟨Nat.le_antisymm hmn.1 hnm.1, Nat.le_antisymm hnm.2 hmn.2⟩

/-- The match of that span that comes first in a list. -/
def firstAlike (found : List MatchInstance) (m : MatchInstance) : Option MatchInstance :=
  found.find? fun k => m.SameSpan k

theorem firstAlike_congr (h : m.SameSpan n) (found : List MatchInstance) :
    firstAlike found m = firstAlike found n := by
  have hsame : (fun k => decide (m.SameSpan k)) = fun k => decide (n.SameSpan k) :=
    funext fun k => decide_eq_decide.mpr ⟨h.symm.trans, h.trans⟩
  rw [firstAlike, firstAlike, hsame]

end MatchInstance

namespace MatchRecovery

open MatchInstance

variable {found : List MatchInstance} {m n : MatchInstance}

/-! ### Matches of one span -/

/-- Sorting by position does not exchange matches of one span. -/
theorem filter_sameSpan_mergeSort (m : MatchInstance) (found : List MatchInstance) :
    ((found.mergeSort comesFirst).filter fun k => m.SameSpan k) =
      found.filter fun k => m.SameSpan k := by
  have hequal : (found.filter fun k => m.SameSpan k).Pairwise fun k n => comesFirst k n := by
    refine List.pairwise_filter.mpr (List.pairwise_of_forall fun k n hk hn => ?_)
    rw [decide_eq_true_iff] at hk hn
    have hsame := hk.symm.trans hn
    exact comesFirst_iff.mpr (Or.inr ⟨hsame.1, hsame.2.ge⟩)
  have hkept := (List.sublist_mergeSort comesFirst_trans comesFirst_total hequal
    List.filter_sublist).filter fun k => decide (m.SameSpan k)
  rw [List.filter_filter] at hkept
  simp only [Bool.and_self] at hkept
  exact (hkept.eq_of_length ((List.mergeSort_perm found comesFirst).symm.filter _).length_eq).symm

theorem firstAlike_mergeSort (found : List MatchInstance) (m : MatchInstance) :
    firstAlike (found.mergeSort comesFirst) m = firstAlike found m := by
  rw [firstAlike, firstAlike, ← List.head?_filter, ← List.head?_filter, filter_sameSpan_mergeSort]

/-- Of the matches of one span no other one than the first can be kept. -/
theorem firstAlike_of_mem_dropContained {last : Option Nat} (hm : m ∈ dropContained last found) :
    firstAlike found m = some m := by
  induction found generalizing last with
  | nil => cases hm
  | cons n rest ih =>
      unfold dropContained at hm
      split at hm
      · next hdrop =>
          obtain ⟨stop, hlast, hle⟩ : ∃ stop, last = some stop ∧ n.stop ≤ stop := by
            simpa [Option.any_eq_true] using hdrop
          have hbeyond := lt_stop_of_mem_dropContained hlast hm
          have hother : ¬ m.SameSpan n := fun h => by
            have hstop := h.2
            omega
          rw [firstAlike, List.find?_cons_of_neg (by simpa using hother)]
          exact ih hm
      · rcases List.mem_cons.mp hm with rfl | hm
        · exact List.find?_cons_of_pos (decide_eq_true (SameSpan.refl m))
        · have hbeyond := lt_stop_of_mem_dropContained rfl hm
          have hother : ¬ m.SameSpan n := fun h => hbeyond.ne h.2.symm
          rw [firstAlike, List.find?_cons_of_neg (by simpa using hother)]
          exact ih hm

/-! ### What is kept -/

theorem firstAlike_of_mem_keepOutermost (hm : m ∈ keepOutermost found) :
    firstAlike found m = some m := by
  rw [← firstAlike_mergeSort]
  exact firstAlike_of_mem_dropContained hm

theorem pairwise_keepOutermost (found : List MatchInstance) :
    (keepOutermost found).Pairwise fun m n => m.start < n.start ∧ m.stop < n.stop :=
  (pairwise_start_keepOutermost found).and (pairwise_stop_keepOutermost found)

/-- Of two matches that are kept neither covers the other. -/
theorem eq_of_covers_of_mem_keepOutermost (hm : m ∈ keepOutermost found)
    (hn : n ∈ keepOutermost found) (hcovers : m.Covers n) : m = n := by
  have hadvance := pairwise_keepOutermost found
  refine List.Pairwise.forall_of_forall_of_flip (R := fun k k' => k.Covers k' → k = k')
    (fun _ _ _ => rfl) ?_ ?_ hm hn hcovers
  · exact hadvance.imp fun hlt h => absurd h.2 (Nat.not_le.mpr hlt.2)
  · exact hadvance.imp fun hlt h => absurd h.1 (Nat.not_le.mpr hlt.1)

/-- A match that is kept is covered by those of its own span only. -/
theorem sameSpan_of_covers_of_mem_keepOutermost (hm : m ∈ keepOutermost found) (hn : n ∈ found)
    (hcovers : n.Covers m) : n.SameSpan m := by
  obtain ⟨k, hk, hkn⟩ := exists_covers_keepOutermost hn
  obtain rfl := eq_of_covers_of_mem_keepOutermost hk hm (hkn.trans hcovers)
  exact hcovers.sameSpan hkn

/-- The matches that are kept are among those that were found, advance in both bounds and cover all
that were found.  A match is kept exactly if it is the first that was found of its span and no other
span covers it. -/
theorem keepOutermost_maximal (found : List MatchInstance) :
    (∀ m ∈ keepOutermost found, m ∈ found) ∧
      ((keepOutermost found).Pairwise fun m n => m.start < n.start ∧ m.stop < n.stop) ∧
      (∀ m ∈ found, ∃ k ∈ keepOutermost found, k.Covers m) ∧
      ∀ m, m ∈ keepOutermost found ↔
        firstAlike found m = some m ∧ ∀ n ∈ found, n.Covers m → n.SameSpan m := by
  refine ⟨fun m hm => mem_of_mem_keepOutermost hm, pairwise_keepOutermost found,
    fun m hm => exists_covers_keepOutermost hm, fun m => ⟨?_, ?_⟩⟩
  · intro hm
    exact ⟨firstAlike_of_mem_keepOutermost hm,
      fun n hn hcovers => sameSpan_of_covers_of_mem_keepOutermost hm hn hcovers⟩
  · rintro ⟨hfirst, hmaximal⟩
    obtain ⟨k, hk, hcovers⟩ := exists_covers_keepOutermost (List.mem_of_find?_eq_some hfirst)
    -- The match kept that covers it has its span, and is the first of it as well.
    have hsame := hmaximal k (mem_of_mem_keepOutermost hk) hcovers
    have hkept := firstAlike_of_mem_keepOutermost hk
    rw [firstAlike_congr hsame, hfirst] at hkept
    rwa [Option.some.inj hkept]

example : keepOutermost [.plain "bc" 1 3, .plain "" 3 3, .plain "abc" 0 3, .plain "ABC" 0 3,
    .plain "de" 3 5] = [.plain "abc" 0 3, .plain "de" 3 5] := by cbv

end MatchRecovery
end AdaptiveRules
