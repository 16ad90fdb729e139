import AdaptiveRules.LiteralSearch
import AdaptiveRules.Proofs.WindowCoverage

/-!
# Runs of lower case letters

A run of letters is maximal if no letter stands right before it or right after it.  The plain search
reads a text once and returns all maximal runs: what it has taken of the run under way begins after a
character that is no letter, and the next character that is none ends it.
-/

namespace AdaptiveRules

open TextLines

/-- No lower case letter ends the text. -/
def ClosedLeft (cs : List Char) : Prop := ∀ c ∈ cs.getLast?, c.isLower = false

/-- No lower case letter begins the text. -/
def ClosedRight (cs : List Char) : Prop := ∀ c ∈ cs.head?, c.isLower = false

theorem closedLeft_nil : ClosedLeft [] := by simp [ClosedLeft]

theorem closedRight_nil : ClosedRight [] := by simp [ClosedRight]

theorem closedLeft_concat {c : Char} (hc : c.isLower = false) (cs : List Char) :
    ClosedLeft (cs ++ [c]) := by
  simpa [ClosedLeft] using hc

theorem closedRight_cons {c : Char} (hc : c.isLower = false) (cs : List Char) :
    ClosedRight (c :: cs) := by
  simpa [ClosedRight] using hc

/-- The letters that begin a text are all letters up to the first character that is none. -/
theorem eq_of_closedRight {run run' after after' : List Char}
    (hrun : ∀ c ∈ run, c.isLower = true) (hrun' : ∀ c ∈ run', c.isLower = true)
    (hafter : ClosedRight after) (hafter' : ClosedRight after')
    (hsame : run ++ after = run' ++ after') : run = run' := by
  have htaken : ∀ {cs ds : List Char}, (∀ c ∈ cs, c.isLower = true) → ClosedRight ds →
      (cs ++ ds).takeWhile Char.isLower = cs := by
    intro cs ds hcs hds
    rw [List.takeWhile_append_of_pos hcs]
    cases ds with
    | nil => simp
    | cons d ds =>
        have hd : d.isLower = false := hds d rfl
        rw [List.takeWhile_cons_of_neg (by simp [hd]), List.append_nil]
  rw [← htaken hrun hafter, hsame, htaken hrun' hafter']

/-- The match takes a run of letters of the text, between what stands before it and after it. -/
structure MatchInstance.Spells (m : MatchInstance) (before after source : List Char) : Prop where
  split : source = before ++ (m.text.toList ++ after)
  start_eq : m.start = byteSize before
  stop_eq : m.stop = m.start + byteSize m.text.toList
  nonempty : m.text.toList ≠ []
  lower : ∀ c ∈ m.text.toList, c.isLower = true

/-- The match is a run of letters of the text that goes on across some seams at most. -/
def IsRunUpTo (seam : Nat → Prop) (source : String) (m : MatchInstance) : Prop :=
  ∃ before after, m.Spells before after source.toList ∧
    (ClosedLeft before ∨ seam m.start) ∧ (ClosedRight after ∨ seam m.stop)

/-- The match is a run of letters of the text, and the characters just before and after it are no
letters. -/
def IsMaximalRun (source : String) (m : MatchInstance) : Prop :=
  ∃ before after, m.Spells before after source.toList ∧ ClosedLeft before ∧ ClosedRight after

theorem IsRunUpTo.isMaximalRun {seam : Nat → Prop} {source : String} {m : MatchInstance}
    (hrun : IsRunUpTo seam source m) (hseam : ∀ pos, ¬ seam pos) : IsMaximalRun source m := by
  obtain ⟨before, after, hspells, hleft, hright⟩ := hrun
  exact ⟨before, after, hspells, hleft.resolve_right (hseam _), hright.resolve_right (hseam _)⟩

/-- The matches are the maximal runs of letters, each once and from left to right. -/
structure IsRunList (source : String) (found : List MatchInstance) : Prop where
  ascending : found.Pairwise fun m n => m.start < n.start
  sound : ∀ m ∈ found, IsMaximalRun source m
  complete : ∀ m, IsMaximalRun source m →
    ∃ n ∈ found, n.start = m.start ∧ n.stop = m.stop ∧ n.text = m.text

/-- A maximal run that starts no earlier than letters do which end at a character that is none takes
just these letters, or starts beyond that character. -/
theorem IsMaximalRun.eq_or_later {source : String} {m : MatchInstance}
    (hm : IsMaximalRun source m) {before run after : List Char}
    (hsplit : source.toList = before ++ (run ++ after)) (hrun : ∀ c ∈ run, c.isLower = true)
    (hafter : ClosedRight after) (hle : byteSize before ≤ m.start) :
    (m.start = byteSize before ∧ m.text.toList = run) ∨
      ∃ c rest, after = c :: rest ∧ byteSize before + byteSize run + c.utf8Size ≤ m.start := by
  obtain ⟨left, right, hspells, hleft, hright⟩ := hm
  have hsame := hspells.split.symm.trans hsplit
  obtain ⟨more, rfl⟩ := isPrefix_of_byteSize_le hsame.symm (hspells.start_eq ▸ hle)
  rw [List.append_assoc, List.append_cancel_left_eq] at hsame
  have hstart : m.start = byteSize before + byteSize more := by
    rw [hspells.start_eq, byteSize_append]
  rcases List.append_eq_append_iff.mp hsame with ⟨tail, rfl, htail⟩ | ⟨tail, rfl, htail⟩
  · -- The match starts among the letters, so it starts with the first of them.
    rcases List.eq_nil_or_concat more with rfl | ⟨others, c, rfl⟩
    · refine Or.inl ⟨by rw [hstart, byteSize_nil, Nat.add_zero], ?_⟩
      exact eq_of_closedRight hspells.lower hrun hright hafter htail
    · have hlower : c.isLower = true := hrun c (by simp)
      have hclosed : c.isLower = false := hleft c (by simp)
      rw [hlower] at hclosed
      cases hclosed
  · cases tail with
    | nil =>
        obtain ⟨c, rest, htext⟩ := List.exists_cons_of_ne_nil hspells.nonempty
        have hlower : c.isLower = true := hspells.lower c (by simp [htext])
        have hclosed : c.isLower = false := hafter c (by simp [htail, htext])
        rw [hlower] at hclosed
        cases hclosed
    | cons c tail =>
        refine Or.inr ⟨c, _, htail, ?_⟩
        rw [hstart, byteSize_append, byteSize_cons]
        omega

namespace LiteralSearch

/-- The matches are the maximal runs that start at an offset or later. -/
structure LocatesRuns (source : String) (from_ : Nat) (found : List MatchInstance) : Prop where
  ascending : found.Pairwise fun m n => m.start < n.start
  later : ∀ m ∈ found, from_ ≤ m.start
  sound : ∀ m ∈ found, IsMaximalRun source m
  complete : ∀ m, IsMaximalRun source m → from_ ≤ m.start →
    ∃ n ∈ found, n.start = m.start ∧ n.stop = m.stop ∧ n.text = m.text

theorem utf8Size_of_isLower {c : Char} (hc : c.isLower = true) : c.utf8Size = 1 := by
  have hle : c.val ≤ 'z'.val := of_decide_eq_true (Bool.and_eq_true_iff.mp hc).2
  rw [UInt32.le_iff_toNat_le] at hle
  rw [Char.utf8Size_eq_one_iff, UInt32.le_iff_toNat_le]
  exact hle.trans (by decide)

theorem byteSize_reverse (cs : List Char) : byteSize cs.reverse = byteSize cs := by
  induction cs with
  | nil => rfl
  | cons c rest ih => simp [ih, Nat.add_comm]

variable {source : String} {before taken after : List Char} {c : Char}

theorem isMaximalRun_runBefore (hsplit : source.toList = before ++ (taken.reverse ++ after))
    (htaken : ∀ c ∈ taken, c.isLower = true) (hne : taken ≠ []) (hbefore : ClosedLeft before)
    (hafter : ClosedRight after) :
    IsMaximalRun source (runBefore (byteSize before + byteSize taken) taken) := by
  refine ⟨before, after, ?_, hbefore, hafter⟩
  constructor
  all_goals simp only [runBefore, MatchInstance.plain, String.toList_ofList]
  · exact hsplit
  · omega
  · rw [byteSize_reverse]
    omega
  · simpa using hne
  · simpa using htaken

theorem LocatesRuns.further {more : List MatchInstance} {from_ later : Nat}
    (hmore : LocatesRuns source later more) (hle : from_ ≤ later)
    (hnone : ∀ m, IsMaximalRun source m → from_ ≤ m.start → later ≤ m.start) :
    LocatesRuns source from_ more where
  ascending := hmore.ascending
  later m hm := hle.trans (hmore.later m hm)
  sound := hmore.sound
  complete m hm hfrom := hmore.complete m hm (hnone m hm hfrom)

theorem LocatesRuns.cons {more : List MatchInstance} {later : Nat} {n : MatchInstance}
    (hmore : LocatesRuns source later more) (hn : IsMaximalRun source n) (hlt : n.start < later)
    (hnext : ∀ m, IsMaximalRun source m → n.start ≤ m.start →
      (n.start = m.start ∧ n.stop = m.stop ∧ n.text = m.text) ∨ later ≤ m.start) :
    LocatesRuns source n.start (n :: more) where
  ascending := List.pairwise_cons.mpr
    ⟨fun m hm => hlt.trans_le (hmore.later m hm), hmore.ascending⟩
  later := List.forall_mem_cons.mpr ⟨le_rfl, fun m hm => hlt.le.trans (hmore.later m hm)⟩
  sound := List.forall_mem_cons.mpr ⟨hn, hmore.sound⟩
  complete m hm hfrom := by
    rcases hnext m hm hfrom with hsame | hbeyond
    · exact ⟨n, List.mem_cons_self, hsame⟩
    · obtain ⟨k, hk, hplace⟩ := hmore.complete m hm hbeyond
      exact ⟨k, List.mem_cons_of_mem _ hk, hplace⟩

/-- Where a text ends or a character comes that is no letter, what was taken of a run, if anything,
is the next maximal one. -/
theorem locatesRuns_ended {more : List MatchInstance} {later : Nat}
    (hsplit : source.toList = before ++ (taken.reverse ++ after))
    (htaken : ∀ c ∈ taken, c.isLower = true) (hbefore : ClosedLeft before)
    (hafter : ClosedRight after) (hmore : LocatesRuns source later more)
    (hlater : byteSize before + byteSize taken ≤ later)
    (hskips : ∀ c rest, after = c :: rest →
      later ≤ byteSize before + byteSize taken + c.utf8Size) :
    LocatesRuns source (byteSize before)
      (if taken.isEmpty then more
        else runBefore (byteSize before + byteSize taken) taken :: more) := by
  have hletters : ∀ c ∈ taken.reverse, c.isLower = true := by simpa using htaken
  have hnext : ∀ m, IsMaximalRun source m → byteSize before ≤ m.start →
      (m.start = byteSize before ∧ m.text.toList = taken.reverse) ∨ later ≤ m.start := by
    intro m hm hle
    rcases hm.eq_or_later hsplit hletters hafter hle with hhere | ⟨c, rest, hrest, hbeyond⟩
    · exact Or.inl hhere
    · rw [byteSize_reverse] at hbeyond
      exact Or.inr ((hskips c rest hrest).trans hbeyond)
  by_cases hne : taken = []
  · subst hne
    refine hmore.further hlater fun m hm hle => (hnext m hm hle).resolve_left ?_
    rintro ⟨_, hempty⟩
    obtain ⟨_, _, hspells, _⟩ := hm
    exact hspells.nonempty hempty
  · have hpos : 0 < byteSize taken := by
      rwa [Nat.pos_iff_ne_zero, Ne, byteSize_eq_zero_iff]
    have hstart : (runBefore (byteSize before + byteSize taken) taken).start = byteSize before :=
      Nat.add_sub_cancel _ _
    rw [if_neg (by simpa using hne)]
    suffices hlocates : LocatesRuns source (runBefore (byteSize before + byteSize taken) taken).start
        (runBefore (byteSize before + byteSize taken) taken :: more) by rwa [hstart] at hlocates
    refine hmore.cons (isMaximalRun_runBefore hsplit htaken hne hbefore hafter) (by omega) ?_
    intro m hm hle
    rw [hstart] at hle
    refine (hnext m hm hle).imp_left ?_
    rintro ⟨hplace, htext⟩
    obtain ⟨_, _, hspells, _⟩ := hm
    refine ⟨hstart.trans hplace.symm, ?_, ?_⟩
    · rw [hspells.stop_eq, htext, byteSize_reverse, hplace]
      rfl
    · rw [← String.ofList_toList (s := m.text), htext]
      rfl

theorem locatesRuns_end : LocatesRuns source (byteSize source.toList) [] := by
  refine ⟨.nil, by simp, by simp, ?_⟩
  rintro m ⟨left, right, hspells, _⟩ hle
  have hsize := congrArg byteSize hspells.split
  have hne := hspells.nonempty
  rw [Ne, ← byteSize_eq_zero_iff] at hne
  have hstart := hspells.start_eq
  simp only [byteSize_append] at hsize
  omega

/-- The search from a place on.  The induction is on the text that is left; what was taken of the run
under way stands right before it. -/
theorem locatesRuns_runsFrom {cs : List Char}
    (hsplit : source.toList = before ++ (taken.reverse ++ cs))
    (htaken : ∀ c ∈ taken, c.isLower = true) (hbefore : ClosedLeft before) :
    LocatesRuns source (byteSize before) (runsFrom (byteSize before + byteSize taken) taken cs) := by
  induction cs generalizing before taken with
  | nil =>
      have hsize : byteSize source.toList = byteSize before + byteSize taken := by
        rw [hsplit, List.append_nil, byteSize_append, byteSize_reverse]
      exact locatesRuns_ended hsplit htaken hbefore closedRight_nil locatesRuns_end hsize.ge
        (fun c rest hrest => absurd hrest (List.cons_ne_nil c rest).symm)
  | cons c rest ih =>
      unfold runsFrom
      split
      · next hlower =>
          have hstep : LocatesRuns source (byteSize before)
              (runsFrom (byteSize before + byteSize (c :: taken)) (c :: taken) rest) :=
            ih (by simpa using hsplit) (List.forall_mem_cons.mpr ⟨hlower, htaken⟩) hbefore
          rw [byteSize_cons, utf8Size_of_isLower hlower] at hstep
          rwa [Nat.add_assoc, Nat.add_comm (byteSize taken)]
      · next hnot =>
          have hc : c.isLower = false := by simpa using hnot
          have hpassed : byteSize (before ++ taken.reverse ++ [c]) =
              byteSize before + byteSize taken + c.utf8Size := by
            simp [byteSize_reverse, Nat.add_assoc]
          have hmore : LocatesRuns source (byteSize (before ++ taken.reverse ++ [c]))
              (runsFrom (byteSize (before ++ taken.reverse ++ [c]) + byteSize []) [] rest) :=
            ih (by simpa using hsplit) (by simp) (closedLeft_concat hc _)
          rw [byteSize_nil, Nat.add_zero, hpassed] at hmore
          exact locatesRuns_ended hsplit htaken hbefore (closedRight_cons hc rest) hmore
            (Nat.le_add_right _ _) (by rintro d _ ⟨⟩; exact le_refl _)

theorem isRunList_lowercaseRuns (source : String) : IsRunList source (lowercaseRuns source) := by
  have hlocates : LocatesRuns source (byteSize []) (runsFrom (byteSize [] + byteSize []) [] _) :=
    locatesRuns_runsFrom (List.nil_append source.toList).symm (by simp) closedLeft_nil
  exact ⟨hlocates.ascending, hlocates.sound, fun m hm => hlocates.complete m hm (Nat.zero_le _)⟩

end LiteralSearch
end AdaptiveRules
