import AdaptiveRules.Proofs.RegexMatching
import AdaptiveRules.RegexParser

/-!
# What terms that are put together match

A row of terms is matched by matching its parts one after another, and a choice by matching one of its
branches.  Sharing what all branches begin with changes the order of preference, not what is matched.
-/

namespace AdaptiveRules
namespace Regex

namespace Core

variable {r : Core} {items more : List Core} {x y z : Cursor}

/-! ### Rows -/

theorem matches_ofParts_cons {r : Core} {items : List Core} {x z : Cursor} :
    (ofParts (r :: items)).Matches x z ↔ ∃ y, r.Matches x y ∧ (ofParts items).Matches y z := by
  cases items with
  | nil =>
      constructor
      · exact fun hmatches => ⟨z, hmatches, rfl⟩
      · rintro ⟨y, hmatches, rfl⟩
        exact hmatches
  | cons _ _ => exact Iff.rfl

theorem matches_ofParts_append :
    (ofParts (items ++ more)).Matches x z ↔
      ∃ y, (ofParts items).Matches x y ∧ (ofParts more).Matches y z := by
  induction items generalizing x with
  | nil =>
      constructor
      · exact fun hmatches => ⟨x, rfl, hmatches⟩
      · rintro ⟨y, rfl, hmatches⟩
        exact hmatches
  | cons r items ih =>
      rw [List.cons_append, matches_ofParts_cons]
      constructor
      · rintro ⟨w, hfirst, hrest⟩
        obtain ⟨y, hitems, hmore⟩ := ih.mp hrest
        exact ⟨y, matches_ofParts_cons.mpr ⟨w, hfirst, hitems⟩, hmore⟩
      · rintro ⟨y, hall, hmore⟩
        obtain ⟨w, hfirst, hitems⟩ := matches_ofParts_cons.mp hall
        exact ⟨w, hfirst, ih.mpr ⟨y, hitems, hmore⟩⟩

theorem matches_ofParts_parts : (ofParts r.parts).Matches x z ↔ r.Matches x z := by
  induction r generalizing x z with
  | seq a b iha ihb =>
      unfold parts
      rw [matches_ofParts_append]
      exact exists_congr fun y => and_congr iha ihb
  | _ => exact Iff.rfl

/-! ### Choices -/

theorem matches_ofBranches (hitems : items ≠ []) :
    (ofBranches items).Matches x y ↔ ∃ r ∈ items, r.Matches x y := by
  induction items with
  | nil => exact absurd rfl hitems
  | cons r items ih =>
      cases items with
      | nil => simp [ofBranches]
      | cons second items =>
          have hrest := ih (List.cons_ne_nil _ _)
          rw [List.exists_mem_cons_iff, ← hrest]
          exact Iff.rfl

theorem branches_ne_nil (r : Core) : r.branches ≠ [] := by
  induction r with
  | alt a b iha ihb => simp [branches, iha]
  | _ => exact List.cons_ne_nil _ _

theorem exists_mem_branches_iff : (∃ b ∈ r.branches, b.Matches x y) ↔ r.Matches x y := by
  induction r with
  | alt a b iha ihb =>
      have hboth : (∃ c ∈ (alt a b).branches, c.Matches x y) ↔
          (∃ c ∈ a.branches, c.Matches x y) ∨ ∃ c ∈ b.branches, c.Matches x y := by
        simp only [branches, List.mem_append, or_and_right, exists_or]
      rw [hboth, iha, ihb]
      exact Iff.rfl
  | _ => simp [branches]

theorem exists_mem_flatMap_branches_iff :
    (∃ b ∈ items.flatMap branches, b.Matches x y) ↔ ∃ r ∈ items, r.Matches x y := by
  constructor
  · rintro ⟨b, hb, hmatches⟩
    obtain ⟨r, hr, hmem⟩ := List.mem_flatMap.mp hb
    exact ⟨r, hr, exists_mem_branches_iff.mp ⟨b, hmem, hmatches⟩⟩
  · rintro ⟨r, hr, hmatches⟩
    obtain ⟨b, hmem, hb⟩ := exists_mem_branches_iff.mpr hmatches
    exact ⟨b, List.mem_flatMap.mpr ⟨r, hr, hmem⟩, hb⟩

theorem flatMap_branches_ne_nil (hitems : items ≠ []) : items.flatMap branches ≠ [] := by
  obtain ⟨r, rest, rfl⟩ := List.exists_cons_of_ne_nil hitems
  rw [List.flatMap_cons]
  exact List.append_ne_nil_of_left_ne_nil r.branches_ne_nil _

theorem sharedStart_isPrefix (as bs : List Core) :
    sharedStart as bs <+: as ∧ sharedStart as bs <+: bs := by
  induction as generalizing bs with
  | nil => exact ⟨List.nil_prefix, List.nil_prefix⟩
  | cons a as ih =>
      cases bs with
      | nil => exact ⟨List.nil_prefix, List.nil_prefix⟩
      | cons b bs =>
          unfold sharedStart
          by_cases hab : a = b
          · rw [if_pos hab, hab]
            exact ⟨List.cons_prefix_cons.mpr ⟨rfl, (ih bs).1⟩,
              List.cons_prefix_cons.mpr ⟨rfl, (ih bs).2⟩⟩
          · rw [if_neg hab]
            exact ⟨List.nil_prefix, List.nil_prefix⟩

theorem foldl_sharedStart_isPrefix (lists : List (List Core)) (first : List Core) :
    lists.foldl sharedStart first <+: first ∧
      ∀ ps ∈ lists, lists.foldl sharedStart first <+: ps := by
  induction lists generalizing first with
  | nil => exact ⟨List.prefix_refl first, by simp⟩
  | cons next lists ih =>
      obtain ⟨hshared, hothers⟩ := ih (sharedStart first next)
      obtain ⟨hfirst, hnext⟩ := sharedStart_isPrefix first next
      exact ⟨hshared.trans hfirst,
        List.forall_mem_cons.mpr ⟨hshared.trans hnext, hothers⟩⟩

theorem sharedBeginning_isPrefix {lists : List (List Core)} {ps : List Core} (hps : ps ∈ lists) :
    sharedBeginning lists <+: ps := by
  unfold sharedBeginning
  split
  · exact List.nil_prefix
  · exact List.nil_prefix
  · next first rest _ =>
      split
      · obtain ⟨hfirst, hothers⟩ := foldl_sharedStart_isPrefix rest first
        rcases List.mem_cons.mp hps with rfl | hmem
        · exact hfirst
        · exact hothers ps hmem
      · exact List.nil_prefix

theorem matches_alternation (hitems : items ≠ []) :
    (alternation items).Matches x z ↔ ∃ r ∈ items, r.Matches x z := by
  have hbranches := flatMap_branches_ne_nil hitems
  rw [← exists_mem_flatMap_branches_iff]
  unfold alternation
  simp only
  generalize items.flatMap branches = bs at hbranches ⊢
  have hprefix : ∀ b ∈ bs, sharedBeginning (bs.map parts) <+: b.parts := fun b hb =>
    sharedBeginning_isPrefix (List.mem_map_of_mem hb)
  generalize sharedBeginning (bs.map parts) = shared at hprefix ⊢
  by_cases hshared : shared.isEmpty = true
  · rw [if_pos hshared]
    exact matches_ofBranches hbranches
  · rw [if_neg hshared, matches_ofParts_append]
    have hrests : bs.map (fun b => ofParts (b.parts.drop shared.length)) ≠ [] := by
      simpa using hbranches
    have hchoice : ∀ y, (ofParts [ofBranches ((bs.map fun b =>
        ofParts (b.parts.drop shared.length)).flatMap branches)]).Matches y z ↔
        ∃ b ∈ bs, (ofParts (b.parts.drop shared.length)).Matches y z := by
      intro y
      refine (matches_ofBranches (flatMap_branches_ne_nil hrests)).trans ?_
      rw [exists_mem_flatMap_branches_iff]
      simp only [List.mem_map, exists_exists_and_eq_and]
    have hsplit : ∀ b ∈ bs, (b.Matches x z ↔ ∃ y, (ofParts shared).Matches x y ∧
        (ofParts (b.parts.drop shared.length)).Matches y z) := by
      intro b hb
      obtain ⟨left, hleft⟩ := hprefix b hb
      rw [← matches_ofParts_append, ← hleft, List.drop_left, hleft, matches_ofParts_parts]
    constructor
    · rintro ⟨y, hfirst, hrest⟩
      obtain ⟨b, hb, hmatches⟩ := (hchoice y).mp hrest
      exact ⟨b, hb, (hsplit b hb).mpr ⟨y, hfirst, hmatches⟩⟩
    · rintro ⟨b, hb, hmatches⟩
      obtain ⟨y, hfirst, hrest⟩ := (hsplit b hb).mp hmatches
      exact ⟨y, hfirst, (hchoice y).mpr ⟨b, hb, hrest⟩⟩

end Core

namespace Piece

variable {x z : Cursor}

theorem matches_choice {branches : List Piece} (hbranches : branches ≠ []) :
    (choice branches).core.Matches x z ↔ ∃ b ∈ branches, b.core.Matches x z := by
  match branches with
  | [] => exact absurd rfl hbranches
  | [p] => simp [choice]
  | p :: q :: rest =>
      have hcores : (p :: q :: rest).reverse.map (·.core) ≠ [] := by simp
      refine (Core.matches_alternation hcores).trans ?_
      simp only [List.mem_map, List.mem_reverse, exists_exists_and_eq_and]

theorem core_of_repeated {p q : Piece} {least : Nat} {most : Option Nat} {greedy : Bool}
    (hq : p.repeated least most greedy = .ok q) :
    q.core = .repeated least most greedy p.core := by
  unfold repeated at hq
  simp only at hq
  generalize (if p.core.onlyEmpty then p.room else p.repeatedRoom least most) = room at hq
  split at hq
  · cases hq
  · cases hq
    rfl

end Piece
end Regex
end AdaptiveRules
