import AdaptiveRules.Proofs.AimedWindows
import AdaptiveRules.Proofs.LetterRuns
import AdaptiveRules.Proofs.LiteralRecovery

/-!
# Recovery of runs of letters by windows

Suppose a pattern, applied to a unit, fails or finds exactly the maximal runs of letters.  A run that
ends inside its window is a maximal run of the source as well.  One that touches an edge of the
window may go on beyond it, but is dropped if a neighbour overlaps the edge.  So it is cut off only
where two windows meet without an overlap, and this takes windows that advance by their whole size.
-/

namespace AdaptiveRules

open TextLines

namespace TextWindows

/-- A place where windows meet if they do not overlap. -/
def Seam (overlap size pos : Nat) : Prop := min overlap (size - 1) = 0 ∧ size ∣ pos

theorem not_seam {overlap size : Nat} (hoverlap : 1 ≤ min overlap (size - 1)) (pos : Nat) :
    ¬ Seam overlap size pos := by
  rintro ⟨hzero, _⟩
  omega

/-- The second window overlaps the first, or they meet where windows do that advance by their size. -/
def Joins (size step : Nat) (v w : Window) : Prop :=
  v.stop ≤ w.start → step = size ∧ size ∣ v.stop ∧ w.start = v.stop

variable {source : List Char} {size step aim : Nat} {ws : List Window}

theorem Row.isChain_joins (hrow : Row source size step aim ws) (hle : step ≤ size)
    (haim : step = size → size ∣ aim) : ws.IsChain (Joins size step) := by
  induction hrow with
  | last => exact List.isChain_singleton _
  | @more aim v ws haims hstop hrest ih =>
      obtain ⟨w, rest, rfl, hw⟩ := hrest.exists_cons
      refine List.isChain_cons_cons.mpr ⟨fun hapart => ?_, ih fun heq => ?_⟩
      · have hreach := haims.le_stop
        have hstart := hw.start_le
        have hwhole : step = size := by omega
        have hplace : v.stop = aim + size := by omega
        refine ⟨hwhole, ?_, by omega⟩
        rw [hplace]
        exact (haim hwhole).add (Nat.dvd_refl size)
      · rw [heq]
        exact (haim heq).add (Nat.dvd_refl size)

/-- What a window and its neighbours are in the source: where no neighbour overlaps the window there
is a seam, unless the source itself begins or ends there. -/
structure Placed (source : List Char) (overlap size : Nat) (before : Option Window) (w : Window)
    (after : Option Window) : Prop where
  lies : w.LiesIn source
  left : (∀ v ∈ before, v.stop ≤ w.start) → w.start = 0 ∨ Seam overlap size w.start
  right : (∀ v ∈ after, w.stop ≤ v.start) → w.stop = byteSize source ∨ Seam overlap size w.stop

theorem placed_of_split {text : String} {overlap size : Nat} (hsize : 1 ≤ size)
    {front rest : List Window} {w : Window}
    (hsplit : split text size (min overlap (size - 1)) = front ++ w :: rest) :
    Placed text.toList overlap size front.getLast? w rest.head? := by
  have hne : text.toList ≠ [] := by
    intro hempty
    rw [split_empty (by rw [hempty])] at hsplit
    simp at hsplit
  have hrow := row_split hne hsize (min overlap (size - 1))
  have hjoins := hrow.isChain_joins (by omega) (fun _ => Nat.dvd_zero size)
  obtain ⟨first, others, hfirst, haims⟩ := hrow.exists_cons
  obtain ⟨init, last, hlast, hend, _⟩ := hrow.exists_eq_append
  rw [hsplit, List.isChain_append, List.isChain_cons] at hjoins
  -- Only the joints of the window with its two neighbours matter.
  obtain ⟨_, ⟨hright, _⟩, hleft⟩ := hjoins
  refine ⟨liesIn_of_mem_split hsize (by rw [hsplit]; simp), fun hapart => ?_, fun hapart => ?_⟩
  · cases hv : front.getLast? with
    | none =>
        rw [List.getLast?_eq_none_iff.mp hv] at hsplit
        obtain ⟨rfl, _⟩ := List.cons.inj (hsplit.symm.trans hfirst)
        exact Or.inl (Nat.le_zero.mp haims.start_le)
    | some v =>
        obtain ⟨hwhole, hseam, hmeet⟩ := hleft v hv w rfl (hapart v hv)
        rw [hmeet]
        exact Or.inr ⟨by omega, hseam⟩
  · cases rest with
    | nil =>
        obtain ⟨_, hsame⟩ := List.append_inj' (hsplit.symm.trans hlast) rfl
        rw [List.singleton_inj.mp hsame]
        exact Or.inl hend
    | cons v rest =>
        obtain ⟨hwhole, hseam, _⟩ := hright v rfl (hapart v rfl)
        exact Or.inr ⟨by omega, hseam⟩

end TextWindows

namespace MatchRecovery

open TextWindows

/-- Applied to a unit the pattern fails or finds the maximal runs of letters. -/
def FindsRuns (p : RulePattern) : Prop :=
  ∀ text, (∃ e, p.matchUnit text = .ok (.error e)) ∨
    ∃ found, p.matchUnit text = .ok (.ok found) ∧ IsRunList text found

/-- Each match that windows give together is one of some window that its neighbours did not cut. -/
theorem exists_uncut_of_mem {p : RulePattern} {before : Option Window} {ws : List Window}
    {found : List MatchInstance} (hmatch : matchWindows p before ws = .ok (.ok found))
    {m : MatchInstance} (hm : m ∈ found) :
    ∃ front w rest here, ws = front ++ w :: rest ∧ p.matchUnit w.text = .ok (.ok here) ∧
      m ∈ uncut w (front.getLast?.or before) rest.head? here := by
  induction ws generalizing before found with
  | nil =>
      have hnone : found = [] := by simpa [matchWindows] using hmatch.symm
      subst hnone
      cases hm
  | cons w rest ih =>
      unfold matchWindows at hmatch
      split at hmatch
      · cases hmatch
      · cases hmatch
      · next here hhere =>
          split at hmatch
          · cases hmatch
          · cases hmatch
          · next more hmore =>
              cases hmatch
              rcases List.mem_append.mp hm with hm | hm
              · exact ⟨[], w, rest, here, rfl, hhere, hm⟩
              · obtain ⟨front, v, tail, others, rfl, hothers, hm⟩ := ih hmore hm
                refine ⟨w :: front, v, tail, others, rfl, hothers, ?_⟩
                rcases List.eq_nil_or_concat front with rfl | ⟨front, u, rfl⟩
                · exact hm
                · simpa [List.getLast?_cons] using hm

/-- A maximal run of a window that its neighbours did not cut is one of the source, up to seams. -/
theorem isRunUpTo_of_mem_uncut {text : String} {overlap size : Nat} {before after : Option Window}
    {w : Window} (hplaced : Placed text.toList overlap size before w after)
    {here : List MatchInstance} (hhere : ∀ n ∈ here, IsMaximalRun w.text n) {m : MatchInstance}
    (hm : m ∈ uncut w before after here) : IsRunUpTo (Seam overlap size) text m := by
  obtain ⟨n, hn, rfl, hcutLeft, hcutRight⟩ := mem_uncut.mp hm
  obtain ⟨left, right, hspells, hleft, hright⟩ := hhere n hn
  obtain ⟨head, tail, hsource, hstart, hstop⟩ := hplaced.lies
  have hsize := congrArg byteSize hspells.split
  have hnstart := hspells.start_eq
  have hnstop := hspells.stop_eq
  simp only [byteSize_append] at hsize
  refine ⟨head ++ left, right ++ tail, ⟨?_, ?_, ?_, hspells.nonempty, hspells.lower⟩, ?_, ?_⟩
  · rw [hsource, hspells.split]
    simp [MatchInstance.shifted]
  · simp only [MatchInstance.shifted, byteSize_append]
    omega
  · simp only [MatchInstance.shifted]
    omega
  · rcases List.eq_nil_or_concat left with rfl | ⟨others, c, rfl⟩
    · have hzero : n.start = 0 := hnstart
      rcases hplaced.left (by simpa [Option.any_eq_false] using hcutLeft hzero) with hfirst | hseam
      · rw [← hstart, byteSize_eq_zero_iff] at hfirst
        rw [hfirst]
        exact Or.inl closedLeft_nil
      · right
        simpa [MatchInstance.shifted, hzero] using hseam
    · left
      simpa [ClosedLeft] using hleft
  · cases right with
    | nil =>
        have hend : n.stop = w.text.utf8ByteSize := by
          rw [utf8ByteSize_eq_byteSize, hsize, hnstop, hnstart, byteSize_nil, Nat.add_zero]
        rcases hplaced.right (by simpa [Option.any_eq_false] using hcutRight hend) with hlast | hseam
        · have htail : byteSize tail = 0 := by
            have htotal := congrArg byteSize hsource
            simp only [byteSize_append] at htotal
            omega
          rw [byteSize_eq_zero_iff.mp htail]
          exact Or.inl closedRight_nil
        · right
          rw [utf8ByteSize_eq_byteSize] at hend
          simpa [MatchInstance.shifted, hend, ← hstop, Nat.add_comm] using hseam
    | cons c right =>
        left
        simpa [ClosedRight] using hright

/-- What an attempt returns that succeeds are runs of the source, up to seams of its windows. -/
theorem isRunUpTo_of_attempt {p : RulePattern} (hfinds : FindsRuns p) {overlap size : Nat}
    (hsize : 1 ≤ size) {source : String} {found : List MatchInstance}
    (hfound : attempt p overlap source size = .ok (.ok found)) {m : MatchInstance}
    (hm : m ∈ found) : IsRunUpTo (Seam overlap size) source m := by
  obtain ⟨front, w, rest, here, hsplit, hhere, hm⟩ := exists_uncut_of_mem hfound hm
  rw [Option.or_none] at hm
  rcases hfinds w.text with ⟨e, herror⟩ | ⟨runs, hruns, hlist⟩
  · cases hhere.symm.trans herror
  · cases hhere.symm.trans hruns
    exact isRunUpTo_of_mem_uncut (placed_of_split hsize hsplit) hlist.sound hm

/-- If the attempts return anything, it is what the first one found that succeeded. -/
theorem exists_firstSuccess {p : RulePattern} {overlap : Nat} {source : String}
    {found : List MatchInstance} {more size : Nat} {last : MatchError}
    (hattempts : attempts p overlap source more size last = .ok (.ok found)) :
    ∃ k < more, (∃ all, attempt p overlap source ((fun size => max (size / 2) 1)^[k] size) =
        .ok (.ok all) ∧ found = keepOutermost all) ∧
      ∀ j < k, ∀ others,
        attempt p overlap source ((fun size => max (size / 2) 1)^[j] size) ≠ .ok (.ok others) := by
  induction more generalizing size last with
  | zero => cases hattempts
  | succ more ih =>
      unfold attempts at hattempts
      cases hfirst : matchWindows p none (split source size (min overlap (size - 1))) with
      | error i =>
          rw [hfirst] at hattempts
          cases hattempts
      | ok outcome =>
      rw [hfirst] at hattempts
      cases outcome with
      | ok all =>
          cases hattempts
          exact ⟨0, Nat.succ_pos more, ⟨all, hfirst, rfl⟩, by simp⟩
      | error e =>
          obtain ⟨k, hk, hfound, hearlier⟩ := ih hattempts
          refine ⟨k + 1, Nat.succ_lt_succ hk, ?_, ?_⟩
          · simpa only [Function.iterate_succ_apply] using hfound
          · intro j hj others
            cases j with
            | zero =>
                intro hothers
                cases hfirst.symm.trans hothers
            | succ j =>
                rw [Function.iterate_succ_apply]
                exact hearlier j (Nat.lt_of_succ_lt_succ hj) others

theorem attemptSize_pos (s : RecoverySettings) (k : Nat) : 1 ≤ attemptSize s k := by
  unfold attemptSize
  cases k with
  | zero => exact Nat.le_max_right _ _
  | succ k =>
      rw [Function.iterate_succ_apply']
      exact Nat.le_max_right _ _

/-- Matching by windows returns runs of letters only, and no fragment of one but at places where the
windows meet without overlapping. -/
theorem isRunUpTo_byWindows {p : RulePattern} (hfinds : FindsRuns p) {s : RecoverySettings}
    {source : String} {found : List MatchInstance}
    (hfound : byWindows p s source = .ok (.ok found)) :
    ∃ k, FirstSuccess p s source k ∧
      ∀ m ∈ found, IsRunUpTo (Seam s.overlap (attemptSize s k)) source m := by
  obtain ⟨k, hk, ⟨all, hall, rfl⟩, hearlier⟩ := exists_firstSuccess hfound
  refine ⟨k, ⟨hk, ⟨all, hall⟩, fun j hj hsucceeds => ?_⟩, fun m hm => ?_⟩
  · obtain ⟨others, hothers⟩ := hsucceeds
    exact hearlier j hj others hothers
  · exact isRunUpTo_of_attempt hfinds (attemptSize_pos s k) hall (mem_of_mem_keepOutermost hm)

/-- An engine that finds the runs of letters in short texts and fails on the others. -/
def shortSightedReader (limit : Nat) : QueryEngine where
  name := "short-sighted"
  supports _ := true
  complaint? _ _ := none
  run _ _ text :=
    if text.utf8ByteSize ≤ limit then .ok (.ok (LiteralSearch.lowercaseRuns text))
    else .ok (.error ⟨"time limit"⟩)

def shortSightedReading (limit : Nat) : RulePattern :=
  { shortSightedQuery "word" limit with engine := shortSightedReader limit }

theorem findsRuns_shortSightedReading (limit : Nat) : FindsRuns (shortSightedReading limit) := by
  apply matchUnit_of_engine rfl rfl
  intro text
  by_cases hshort : text.utf8ByteSize ≤ limit
  · exact Or.inr ⟨_, if_pos hshort, LiteralSearch.isRunList_lowercaseRuns text⟩
  · exact Or.inl ⟨_, if_neg hshort⟩

/-- What matching by windows returns are maximal runs of letters of the source, if the windows of the
attempt that succeeded overlap.  If they do not, a run may be cut where two windows meet, and nowhere
else. -/
theorem byWindows_keeps_runs_whole {p : RulePattern} (hfinds : FindsRuns p)
    {s : RecoverySettings} {source : String} {found : List MatchInstance}
    (hfound : byWindows p s source = .ok (.ok found)) :
    ∃ k, FirstSuccess p s source k ∧
      (1 ≤ min s.overlap (attemptSize s k - 1) → ∀ m ∈ found, IsMaximalRun source m) ∧
      ∀ m ∈ found, IsRunUpTo (Seam s.overlap (attemptSize s k)) source m := by
  obtain ⟨k, hfirst, hruns⟩ := isRunUpTo_byWindows hfinds hfound
  refine ⟨k, hfirst, fun hoverlap m hm => ?_, hruns⟩
  exact (hruns m hm).isMaximalRun (not_seam hoverlap)

/-- Neither window of the second attempt sees all of the long run. -/
theorem byWindows_drops_fragments :
    ∃ k, FirstSuccess (shortSightedReading 6) ⟨12, 3, 3⟩ "ab abcdefgh c" k ∧
      (1 ≤ min 3 (attemptSize ⟨12, 3, 3⟩ k - 1) →
        ∀ m ∈ keepOutermost [.plain "ab" 0 2, .plain "c" 12 13],
          IsMaximalRun "ab abcdefgh c" m) ∧
      ∀ m ∈ keepOutermost [.plain "ab" 0 2, .plain "c" 12 13],
        IsRunUpTo (Seam 3 (attemptSize ⟨12, 3, 3⟩ k)) "ab abcdefgh c" m :=
  byWindows_keeps_runs_whole (s := ⟨12, 3, 3⟩) (findsRuns_shortSightedReading 6) rfl

/-- Windows that do not overlap return both halves of a run. -/
theorem byWindows_cuts_at_seam :
    FindsRuns (shortSightedReading 2) ∧
      byWindows (shortSightedReading 2) ⟨2, 0, 1⟩ "abc" =
        .ok (.ok [.plain "ab" 0 2, .plain "c" 2 3]) ∧
      ¬ IsMaximalRun "abc" (.plain "ab" 0 2) := by
  refine ⟨findsRuns_shortSightedReading 2, ?_, ?_⟩
  · have hsorted : Positioned [.plain "ab" 0 2, .plain "c" 2 3] := by
      simp [Positioned, comesFirst, MatchInstance.plain]
    calc
      byWindows (shortSightedReading 2) ⟨2, 0, 1⟩ "abc" =
          .ok (.ok (keepOutermost [.plain "ab" 0 2, .plain "c" 2 3])) := rfl
      _ = .ok (.ok [.plain "ab" 0 2, .plain "c" 2 3]) := by
        rw [keepOutermost, List.mergeSort_of_pairwise hsorted]
        rfl
  · rintro ⟨before, after, hspells, _, hright⟩
    have hbefore : before = [] := byteSize_eq_zero_iff.mp hspells.start_eq.symm
    have hafter : ['c'] = after := by simpa [hbefore, MatchInstance.plain] using hspells.split
    have hclosed : 'c'.isLower = false := hright 'c' (by rw [← hafter]; rfl)
    revert hclosed
    decide

end MatchRecovery
end AdaptiveRules
