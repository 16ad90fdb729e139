import AdaptiveRules.Proofs.RegexComposition
import AdaptiveRules.Proofs.RegexTokens

/-!
# Reading side by side

A term lies within another one if it matches only where the other does.  Rows, choices, groups and
repetitions of terms that lie within each other do so too; so two readers whose pieces lie within each
other still have such pieces after both have performed the same action.  Only a repetition looks at
the last piece alone, so there the last pieces have to lie within each other, not just the rows.
-/

namespace AdaptiveRules
namespace Regex

open Relation

namespace Core

variable {r s : Core} {items more : List Core} {x y z : Cursor} {n m : Nat}

/-! ### Repetition -/

/-- The term matches so many times in a row. -/
def Times (r : Core) : Nat → Cursor → Cursor → Prop
  | 0, x, y => x = y
  | n + 1, x, z => ∃ y, r.Matches x y ∧ r.Times n y z

theorem times_add : r.Times (n + m) x z ↔ ∃ y, r.Times n x y ∧ r.Times m y z := by
  induction n generalizing x with
  | zero =>
      rw [Nat.zero_add]
      exact ⟨fun htimes => ⟨x, rfl, htimes⟩, fun ⟨_, hsame, htimes⟩ => hsame ▸ htimes⟩
  | succ n ih =>
      rw [Nat.add_right_comm]
      constructor
      · rintro ⟨w, hfirst, hrest⟩
        obtain ⟨y, hleft, hright⟩ := ih.mp hrest
        exact ⟨y, ⟨w, hfirst, hleft⟩, hright⟩
      · rintro ⟨y, ⟨w, hfirst, hleft⟩, hright⟩
        exact ⟨w, hfirst, ih.mpr ⟨y, hleft, hright⟩⟩

theorem times_one : r.Times 1 x y ↔ r.Matches x y :=
  ⟨fun ⟨_, hfirst, hsame⟩ => hsame ▸ hfirst, fun hmatches => ⟨y, hmatches, rfl⟩⟩

theorem Times.mono (hwithin : ∀ x y, r.Matches x y → s.Matches x y) (htimes : r.Times n x y) :
    s.Times n x y := by
  induction n generalizing x with
  | zero => exact htimes
  | succ n ih =>
      obtain ⟨w, hfirst, hrest⟩ := htimes
      exact ⟨w, hwithin x w hfirst, ih hrest⟩

theorem reflTransGen_iff_times : ReflTransGen r.Matches x y ↔ ∃ n, r.Times n x y := by
  constructor
  · intro hsteps
    induction hsteps using ReflTransGen.head_induction_on with
    | refl => exact ⟨0, rfl⟩
    | head hfirst _ ih =>
        obtain ⟨n, htimes⟩ := ih
        exact ⟨n + 1, _, hfirst, htimes⟩
  · rintro ⟨n, htimes⟩
    induction n generalizing x with
    | zero =>
        cases htimes
        exact .refl
    | succ n ih =>
        obtain ⟨w, hfirst, hrest⟩ := htimes
        exact .head hfirst (ih hrest)

theorem transGen_iff_times : TransGen r.Matches x y ↔ ∃ n, r.Times (n + 1) x y := by
  rw [TransGen.head'_iff]
  simp only [reflTransGen_iff_times]
  exact ⟨fun ⟨w, hfirst, n, hrest⟩ => ⟨n, w, hfirst, hrest⟩,
    fun ⟨n, w, hfirst, hrest⟩ => ⟨w, hfirst, n, hrest⟩⟩

theorem matches_concat : (concat items).Matches x z ↔ (ofParts items).Matches x z := by
  unfold concat
  induction items generalizing x with
  | nil => exact Iff.rfl
  | cons r items ih =>
      rw [List.flatMap_cons, matches_ofParts_append, matches_ofParts_cons]
      exact exists_congr fun y => and_congr matches_ofParts_parts ih

theorem matches_ofParts_replicate :
    (ofParts (List.replicate n r)).Matches x z ↔ r.Times n x z := by
  induction n generalizing x with
  | zero => exact Iff.rfl
  | succ n ih =>
      rw [List.replicate_succ, matches_ofParts_cons]
      exact exists_congr fun y => and_congr_right fun _ => ih

theorem matches_copies : (concat (List.replicate n r ++ [s])).Matches x z ↔
    ∃ y, r.Times n x y ∧ s.Matches y z := by
  rw [matches_concat, matches_ofParts_append]
  exact exists_congr fun y => and_congr_left fun _ => matches_ofParts_replicate

theorem matches_nestedOptions {greedy : Bool} :
    (nestedOptions greedy r n).Matches x y ↔ ∃ k ≤ n, r.Times k x y := by
  induction n generalizing x with
  | zero =>
      exact ⟨fun hsame => ⟨0, le_rfl, hsame⟩, fun ⟨k, hk, htimes⟩ => by
        obtain rfl := Nat.le_zero.mp hk
        exact htimes⟩
  | succ n ih =>
      show x = y ∨ (concat [r, nestedOptions greedy r n]).Matches x y ↔ _
      rw [matches_concat, matches_ofParts_cons]
      constructor
      · rintro (rfl | ⟨w, hfirst, hrest⟩)
        · exact ⟨0, Nat.zero_le _, rfl⟩
        · obtain ⟨k, hk, htimes⟩ := ih.mp hrest
          exact ⟨k + 1, Nat.succ_le_succ hk, w, hfirst, htimes⟩
      · rintro ⟨_ | k, hk, htimes⟩
        · exact Or.inl htimes
        · obtain ⟨w, hfirst, hrest⟩ := htimes
          exact Or.inr ⟨w, hfirst, ih.mpr ⟨k, Nat.succ_le_succ_iff.mp hk, hrest⟩⟩

theorem eq_of_onlyEmpty (hempty : r.onlyEmpty = true) (hmatches : r.Matches x y) : x = y := by
  induction r generalizing x y with
  | empty => exact hmatches
  | set s => cases hempty
  | look a => exact hmatches.2
  | seq a b iha ihb =>
      obtain ⟨ha, hb⟩ := Bool.and_eq_true_iff.mp hempty
      obtain ⟨w, hfirst, hsecond⟩ := hmatches
      exact (iha ha hfirst).trans (ihb hb hsecond)
  | alt a b iha ihb =>
      obtain ⟨ha, hb⟩ := Bool.and_eq_true_iff.mp hempty
      exact hmatches.elim (iha ha) (ihb hb)
  | opt greedy a ih => exact hmatches.elim id (ih hempty)
  | star greedy a ih =>
      induction hmatches with
      | refl => rfl
      | tail _ hlast ihrest => exact ihrest.trans (ih hempty hlast)
  | plus greedy a ih =>
      induction hmatches with
      | single hlast => exact ih hempty hlast
      | tail _ hlast ihrest => exact ihrest.trans (ih hempty hlast)
  | group index name a ih => exact ih hempty hmatches

/-- A term that takes no character matches any number of times where it matches once. -/
theorem times_succ_of_onlyEmpty (hempty : r.onlyEmpty = true) :
    r.Times (n + 1) x y ↔ r.Matches x y := by
  constructor
  · intro htimes
    induction n generalizing x with
    | zero => exact times_one.mp htimes
    | succ n ih =>
        obtain ⟨w, hfirst, hrest⟩ := htimes
        obtain rfl := eq_of_onlyEmpty hempty hfirst
        exact ih hrest
  · intro hmatches
    obtain rfl := eq_of_onlyEmpty hempty hmatches
    induction n with
    | zero => exact times_one.mpr hmatches
    | succ n ih => exact ⟨x, hmatches, ih⟩

theorem matches_between {greedy : Bool} :
    (concat (List.replicate n r ++ [nestedOptions greedy r (m - n)])).Matches x y ↔
      ∃ k, n ≤ k ∧ k ≤ max n m ∧ r.Times k x y := by
  rw [matches_copies]
  simp only [matches_nestedOptions]
  constructor
  · rintro ⟨w, hcopies, k, hk, hoptions⟩
    exact ⟨n + k, by omega, by omega, times_add.mpr ⟨w, hcopies, hoptions⟩⟩
  · rintro ⟨k, hleast, hmost, htimes⟩
    obtain ⟨k, rfl⟩ := Nat.exists_eq_add_of_le hleast
    obtain ⟨w, hcopies, hoptions⟩ := times_add.mp htimes
    exact ⟨w, hcopies, k, by omega, hoptions⟩

theorem matches_copies_plus {greedy : Bool} :
    (concat (List.replicate n r ++ [plus greedy r])).Matches x y ↔
      ∃ k, n + 1 ≤ k ∧ r.Times k x y := by
  rw [matches_copies]
  constructor
  · rintro ⟨w, hcopies, hplus⟩
    obtain ⟨k, hmore⟩ := transGen_iff_times.mp hplus
    exact ⟨n + (k + 1), by omega, times_add.mpr ⟨w, hcopies, hmore⟩⟩
  · rintro ⟨k, hleast, htimes⟩
    obtain ⟨k, rfl⟩ := Nat.exists_eq_add_of_le hleast
    rw [Nat.add_assoc, Nat.add_comm 1 k] at htimes
    obtain ⟨w, hcopies, hmore⟩ := times_add.mp htimes
    exact ⟨w, hcopies, transGen_iff_times.mpr ⟨k, hmore⟩⟩

/-- A repetition matches a number of times in a row that is within its bounds. -/
theorem matches_repeated {least : Nat} {most : Option Nat} {greedy : Bool} :
    (repeated least most greedy r).Matches x y ↔
      ∃ n, least ≤ n ∧ (∀ m ∈ most, n ≤ max least m) ∧ r.Times n x y := by
  unfold repeated
  cases hempty : r.onlyEmpty with
  | false =>
      simp only [Bool.false_eq_true, if_false]
      rcases most with _ | m
      · rcases least with _ | n
        · exact reflTransGen_iff_times.trans (by simp)
        · exact matches_copies_plus.trans (by simp)
      · exact matches_between.trans (by simp)
  | true =>
      simp only [if_true]
      rw [matches_between]
      -- Once is as good as any other number of times but zero.
      constructor
      · rintro ⟨_ | k, hleast, hmost, htimes⟩
        · exact ⟨0, by omega, fun _ _ => Nat.zero_le _, htimes⟩
        · rw [times_succ_of_onlyEmpty hempty] at htimes
          rcases least with _ | n
          · refine ⟨1, Nat.zero_le 1, ?_, times_one.mpr htimes⟩
            rintro m ⟨⟩
            simp only [Option.getD_some] at hmost
            omega
          · exact ⟨n + 1, le_rfl, fun m _ => Nat.le_max_left _ m,
              (times_succ_of_onlyEmpty hempty).mpr htimes⟩
      · rintro ⟨_ | k, hleast, hmost, htimes⟩
        · exact ⟨0, by omega, Nat.zero_le _, htimes⟩
        · rw [times_succ_of_onlyEmpty hempty] at htimes
          refine ⟨1, by omega, ?_, times_one.mpr htimes⟩
          rcases most with _ | m
          · exact Nat.le_max_right _ _
          · have hbound := hmost m rfl
            simp only [Option.getD_some]
            omega

end Core

namespace Piece

variable {p q : Piece} {as bs : List Piece} {x y z : Cursor}

/-- The piece matches only where the other one does. -/
def Within (p q : Piece) : Prop := ∀ x y, p.core.Matches x y → q.core.Matches x y

theorem Within.refl (p : Piece) : p.Within p := fun _ _ => id

theorem matches_branch :
    (branch as).core.Matches x z ↔ (Core.ofParts (as.reverse.map (·.core))).Matches x z := by
  match as with
  | [] => exact Iff.rfl
  | [_] => exact Iff.rfl
  | _ :: _ :: _ => exact Core.matches_concat

theorem matches_branch_cons :
    (branch (p :: as)).core.Matches x z ↔
      ∃ y, (branch as).core.Matches x y ∧ p.core.Matches y z := by
  rw [matches_branch, List.reverse_cons, List.map_append, Core.matches_ofParts_append]
  exact exists_congr fun y => and_congr_left fun _ => matches_branch.symm

theorem within_branch_cons (hrow : (branch as).Within (branch bs)) (hlast : p.Within q) :
    (branch (p :: as)).Within (branch (q :: bs)) := by
  intro x z hmatches
  obtain ⟨y, hfirst, hsecond⟩ := matches_branch_cons.mp hmatches
  exact matches_branch_cons.mpr ⟨y, hrow x y hfirst, hlast y z hsecond⟩

theorem within_choice (hfirst : p.Within q) (hmore : List.Forall₂ Within as bs) :
    (choice (p :: as)).Within (choice (q :: bs)) := by
  intro x z hmatches
  obtain ⟨b, hb, hbranch⟩ := (matches_choice (List.cons_ne_nil p as)).mp hmatches
  rw [matches_choice (List.cons_ne_nil q bs)]
  rcases List.mem_cons.mp hb with rfl | hb
  · exact ⟨q, List.mem_cons_self, hfirst x z hbranch⟩
  · obtain ⟨i, hi, rfl⟩ := List.mem_iff_getElem.mp hb
    have hlength := hmore.length_eq
    exact ⟨bs[i], List.mem_cons_of_mem _ (List.getElem_mem _), hmore.get hi (hlength ▸ hi) x z hbranch⟩

theorem within_repeated {least least' : Nat} {most most' : Option Nat} {greedy greedy' : Bool}
    {p' q' : Piece} (hpieces : p.Within q) (hp : p.repeated least most greedy = .ok p')
    (hq : q.repeated least' most' greedy' = .ok q') (hleast : least' ≤ least)
    (hmost : most' = none ∨ least' = least ∧ most' = most) : p'.Within q' := by
  intro x y hmatches
  rw [core_of_repeated hp, Core.matches_repeated] at hmatches
  rw [core_of_repeated hq, Core.matches_repeated]
  obtain ⟨n, hlow, hhigh, htimes⟩ := hmatches
  refine ⟨n, hleast.trans hlow, ?_, htimes.mono hpieces⟩
  rcases hmost with rfl | ⟨rfl, rfl⟩
  · exact nofun
  · exact hhigh

end Piece

/-- Groups that are open alike, and what was read before the one lies within what was read before the
other. -/
structure OpenGroup.Within (g h : OpenGroup) : Prop where
  flags : g.flags = h.flags
  branches : List.Forall₂ Piece.Within g.branches h.branches
  items : (Piece.branch g.items).Within (Piece.branch h.items)

/-- The last pieces lie within each other, and so do the rows before them. -/
inductive Aligned : List Piece → List Piece → Prop
  | nil : Aligned [] []
  | cons {p q : Piece} {as bs : List Piece} (hlast : p.Within q)
      (hrow : (Piece.branch as).Within (Piece.branch bs)) : Aligned (p :: as) (q :: bs)

theorem Aligned.within {as bs : List Piece} (haligned : Aligned as bs) :
    (Piece.branch as).Within (Piece.branch bs) := by
  cases haligned with
  | nil => exact .refl _
  | cons hlast hrow => exact Piece.within_branch_cons hrow hlast

namespace Reading

theorem exists_of_repeatLast {r s : Reading} {least : Nat} {most : Option Nat} {greedy : Bool}
    (hrepeat : r.repeatLast least most greedy = .ok s) :
    ∃ p q items, r.items = p :: items ∧
      p.repeated least most (greedy != r.flags.swapGreed) = .ok q ∧
      s = { r with items := q :: items } := by
  unfold repeatLast at hrepeat
  split at hrepeat
  · cases hrepeat
  next p items hitems =>
  split at hrepeat
  · cases hrepeat
  obtain ⟨q, hq, hs⟩ := exists_of_bind_eq_ok hrepeat
  cases hs
  exact ⟨p, q, items, hitems, hq, rfl⟩

/-- Readers with the same flags and the same open groups; what the one has read lies within what the
other has read. -/
structure Within (r s : Reading) : Prop where
  flags : r.flags = s.flags
  branches : List.Forall₂ Piece.Within r.branches s.branches
  items : (Piece.branch r.items).Within (Piece.branch s.items)
  enclosing : List.Forall₂ OpenGroup.Within r.enclosing s.enclosing

variable {r s r' s' : Reading}

theorem Within.refl (r : Reading) : r.Within r where
  flags := rfl
  branches := List.forall₂_same.mpr fun p _ => .refl p
  items := .refl _
  enclosing := List.forall₂_same.mpr fun _ _ =>
    ⟨rfl, List.forall₂_same.mpr fun p _ => .refl p, .refl _⟩

theorem Within.whole (hwithin : r.Within s) : r.whole.Within s.whole :=
  Piece.within_choice hwithin.items hwithin.branches

theorem Within.push (hwithin : r.Within s) {p q : Piece} (hpieces : p.Within q) :
    (r.push p).Within (s.push q) where
  flags := hwithin.flags
  branches := hwithin.branches
  items := Piece.within_branch_cons hwithin.items hpieces
  enclosing := hwithin.enclosing

/-- Names and numbers of groups play no part in what is matched. -/
theorem Within.recount (hwithin : r.Within s) (n m : Nat) (names names' : List String) :
    { r with captures := n, names := names }.Within { s with captures := m, names := names' } :=
  ⟨hwithin.flags, hwithin.branches, hwithin.items, hwithin.enclosing⟩

/-- Opening a group starts a new row. -/
theorem Within.enter (hwithin : r.Within s) {kind kind' : GroupKind} {flags flags' : Flags}
    (hflags : flags = flags') : (r.enter kind flags).Within (s.enter kind' flags') where
  flags := hflags
  branches := .nil
  items := .refl _
  enclosing := .cons ⟨hwithin.flags, hwithin.branches, hwithin.items⟩ hwithin.enclosing

/-- A group that is closed is the last piece of the row around it. -/
theorem Within.closeGroup (hwithin : r.Within s) (hr : r.closeGroup = .ok r')
    (hs : s.closeGroup = .ok s') : r'.Within s' ∧ Aligned r'.items s'.items := by
  have hwhole := hwithin.whole
  obtain ⟨_, _, _, henclosing⟩ := hwithin
  unfold Reading.closeGroup at hr hs
  rcases hopen : r.enclosing with _ | ⟨g, outer⟩
  · rw [hopen] at hr
    cases hr
  rcases hopen' : s.enclosing with _ | ⟨h, outer'⟩
  · rw [hopen'] at hs
    cases hs
  rw [hopen] at hr henclosing
  rw [hopen'] at hs henclosing
  cases hr
  cases hs
  obtain ⟨hgroup, houter⟩ := List.forall₂_cons.mp henclosing
  have hpiece : ∀ p q : Piece, p.core.Matches = r.whole.core.Matches →
      q.core.Matches = s.whole.core.Matches → p.Within q := by
    intro p q hp hq x y hmatches
    rw [hq]
    rw [hp] at hmatches
    exact hwhole x y hmatches
  suffices haligned : Aligned _ _ from
    ⟨⟨hgroup.flags, hgroup.branches, haligned.within, houter⟩, haligned⟩
  exact .cons (hpiece _ _ (by cases g.kind <;> rfl) (by cases h.kind <;> rfl)) hgroup.items

theorem Within.repeatLast (hwithin : r.Within s) (haligned : Aligned r.items s.items)
    {least least' : Nat} {most most' : Option Nat} {greedy greedy' : Bool}
    (hr : r.repeatLast least most greedy = .ok r') (hs : s.repeatLast least' most' greedy' = .ok s')
    (hleast : least' ≤ least) (hmost : most' = none ∨ least' = least ∧ most' = most) :
    r'.Within s' ∧ Aligned r'.items s'.items := by
  obtain ⟨p, p', as, hitems, hp, rfl⟩ := exists_of_repeatLast hr
  obtain ⟨q, q', bs, hitems', hq, rfl⟩ := exists_of_repeatLast hs
  rw [hitems, hitems'] at haligned
  cases haligned with
  | cons hlast hrow =>
      have hpieces := Piece.within_repeated hlast hp hq hleast hmost
      exact ⟨⟨hwithin.flags, hwithin.branches, Piece.within_branch_cons hrow hpieces,
        hwithin.enclosing⟩, .cons hpieces hrow⟩

/-- The same action keeps what is read within what is read, and leaves last pieces that lie within
each other; it needs such pieces only to repeat them. -/
theorem Within.perform (hwithin : r.Within s) {action : Action}
    (haligned : action.Repeats → Aligned r.items s.items) (hr : action.perform r = .ok r')
    (hs : action.perform s = .ok s') : r'.Within s' ∧ Aligned r'.items s'.items := by
  cases action with
  | push piece =>
      cases hr
      cases hs
      exact ⟨hwithin.push (.refl piece), .cons (.refl piece) hwithin.items⟩
  | bar =>
      cases hr
      cases hs
      exact ⟨⟨hwithin.flags, .cons hwithin.items hwithin.branches, .refl _, hwithin.enclosing⟩, .nil⟩
  | close => exact hwithin.closeGroup hr hs
  | openNumbered =>
      cases hr
      cases hs
      exact ⟨(hwithin.recount _ _ r.names s.names).enter hwithin.flags, .nil⟩
  | openNamed name =>
      simp only [Action.perform] at hr hs
      split at hr
      · cases hr
      split at hs
      · cases hs
      cases hr
      cases hs
      exact ⟨(hwithin.recount _ _ _ _).enter hwithin.flags, .nil⟩
  | openPlain flags =>
      cases hr
      cases hs
      exact ⟨hwithin.enter rfl, .nil⟩
  | setFlags flags =>
      cases hr
      cases hs
      have hset : ({ r with flags := flags } : Reading).Within { s with flags := flags } :=
        ⟨rfl, hwithin.branches, hwithin.items, hwithin.enclosing⟩
      exact ⟨hset.push (.refl .directive), .cons (.refl .directive) hwithin.items⟩
  | again least most greedy =>
      exact hwithin.repeatLast (haligned trivial) hr hs le_rfl (Or.inr ⟨rfl, rfl⟩)

end Reading

end Regex
end AdaptiveRules
