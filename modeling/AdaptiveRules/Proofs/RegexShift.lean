import AdaptiveRules.Proofs.RegexMatching
import AdaptiveRules.RegexParser
import Mathlib.Tactic

/-!
# Numbering groups later

A term that is read behind other groups is the term that is read alone, with later numbers for its
groups.  That changes neither how terms are put together nor what they match.
-/

namespace AdaptiveRules
namespace Regex

open Relation

namespace Core

/-- The term with the numbers of its groups moved on. -/
def shift (k : Nat) : Core → Core
  | empty => empty
  | set s => set s
  | look a => look a
  | seq a b => seq (a.shift k) (b.shift k)
  | alt a b => alt (a.shift k) (b.shift k)
  | opt g a => opt g (a.shift k)
  | star g a => star g (a.shift k)
  | plus g a => plus g (a.shift k)
  | group i n a => group (i + k) n (a.shift k)

attribute [local simp] shift

variable {k : Nat}

theorem shift_injective (k : Nat) : Function.Injective (shift k) := by
  intro a b hab
  induction a generalizing b with
  | empty | set | look => cases b <;> simp_all
  | seq a₁ a₂ ih₁ ih₂ =>
      cases b <;> simp only [shift, seq.injEq, reduceCtorEq] at hab
      rw [ih₁ hab.1, ih₂ hab.2]
  | alt a₁ a₂ ih₁ ih₂ =>
      cases b <;> simp only [shift, alt.injEq, reduceCtorEq] at hab
      rw [ih₁ hab.1, ih₂ hab.2]
  | opt g a ih =>
      cases b <;> simp only [shift, opt.injEq, reduceCtorEq] at hab
      rw [hab.1, ih hab.2]
  | star g a ih =>
      cases b <;> simp only [shift, star.injEq, reduceCtorEq] at hab
      rw [hab.1, ih hab.2]
  | plus g a ih =>
      cases b <;> simp only [shift, plus.injEq, reduceCtorEq] at hab
      rw [hab.1, ih hab.2]
  | group i n a ih =>
      cases b <;> simp only [shift, group.injEq, reduceCtorEq] at hab
      rw [Nat.add_right_cancel hab.1, hab.2.1, ih hab.2.2]

@[simp] theorem canBeEmpty_shift (r : Core) : (r.shift k).canBeEmpty = r.canBeEmpty := by
  induction r with
  | seq a b iha ihb | alt a b iha ihb => simp [canBeEmpty, iha, ihb]
  | plus g a ih | group i n a ih => simp [canBeEmpty, ih]
  | _ => rfl

@[simp] theorem onlyEmpty_shift (r : Core) : (r.shift k).onlyEmpty = r.onlyEmpty := by
  induction r with
  | seq a b iha ihb | alt a b iha ihb => simp [onlyEmpty, iha, ihb]
  | opt g a ih | star g a ih | plus g a ih | group i n a ih => simp [onlyEmpty, ih]
  | _ => rfl

theorem matches_shift {r : Core} {x y : Cursor} : (r.shift k).Matches x y ↔ r.Matches x y := by
  have hbody : ∀ {a : Core}, (∀ {x y}, (a.shift k).Matches x y ↔ a.Matches x y) →
      (a.shift k).Matches = a.Matches := fun ih => funext₂ fun _ _ => propext ih
  induction r generalizing x y with
  | empty | set | look => exact Iff.rfl
  | seq a b iha ihb => simp only [shift, Matches, hbody iha, hbody ihb]
  | alt a b iha ihb => simp only [shift, Matches, hbody iha, hbody ihb]
  | opt g a ih => simp only [shift, Matches, hbody ih]
  | star g a ih => simp only [shift, Matches, hbody ih]
  | plus g a ih => simp only [shift, Matches, hbody ih]
  | group i n a ih => simp only [shift, Matches, hbody ih]

/-! ### Putting terms together -/

theorem parts_shift (r : Core) : (r.shift k).parts = r.parts.map (shift k) := by
  induction r with
  | seq a b iha ihb => simp [parts, iha, ihb]
  | _ => rfl

theorem branches_shift (r : Core) : (r.shift k).branches = r.branches.map (shift k) := by
  induction r with
  | alt a b iha ihb => simp [branches, iha, ihb]
  | _ => rfl

theorem ofParts_map (items : List Core) :
    ofParts (items.map (shift k)) = (ofParts items).shift k := by
  induction items with
  | nil => rfl
  | cons r rest ih =>
      cases rest with
      | nil => rfl
      | cons second rest => exact congrArg (seq (r.shift k)) ih

theorem ofBranches_map (items : List Core) :
    ofBranches (items.map (shift k)) = (ofBranches items).shift k := by
  induction items with
  | nil => rfl
  | cons r rest ih =>
      cases rest with
      | nil => rfl
      | cons second rest => exact congrArg (alt (r.shift k)) ih

theorem flatMap_parts_map (items : List Core) :
    (items.map (shift k)).flatMap parts = (items.flatMap parts).map (shift k) := by
  rw [List.flatMap_map, List.map_flatMap]
  exact congrArg (List.flatMap · items) (funext parts_shift)

theorem flatMap_branches_map (items : List Core) :
    (items.map (shift k)).flatMap branches = (items.flatMap branches).map (shift k) := by
  rw [List.flatMap_map, List.map_flatMap]
  exact congrArg (List.flatMap · items) (funext branches_shift)

theorem concat_map (items : List Core) : concat (items.map (shift k)) = (concat items).shift k := by
  unfold concat
  rw [flatMap_parts_map, ofParts_map]

theorem sharedStart_map (as bs : List Core) :
    sharedStart (as.map (shift k)) (bs.map (shift k)) = (sharedStart as bs).map (shift k) := by
  induction as generalizing bs with
  | nil => rfl
  | cons a as ih =>
      cases bs with
      | nil => rfl
      | cons b bs =>
          rw [List.map_cons, List.map_cons]
          unfold sharedStart
          by_cases hab : a = b
          · rw [if_pos hab, if_pos (congrArg (shift k) hab), ih, List.map_cons]
          · rw [if_neg hab, if_neg fun heq => hab (shift_injective k heq), List.map_nil]

theorem foldl_sharedStart_map (lists : List (List Core)) (first : List Core) :
    (lists.map (List.map (shift k))).foldl sharedStart (first.map (shift k)) =
      (lists.foldl sharedStart first).map (shift k) := by
  induction lists generalizing first with
  | nil => rfl
  | cons next lists ih =>
      rw [List.map_cons, List.foldl_cons, List.foldl_cons, sharedStart_map, ih]

theorem sharedBeginning_map (lists : List (List Core)) :
    sharedBeginning (lists.map (List.map (shift k))) = (sharedBeginning lists).map (shift k) := by
  match lists with
  | [] => rfl
  | [_] => rfl
  | first :: second :: rest =>
      have hlong : ((first :: second :: rest).map (List.map (shift k))).all (2 ≤ ·.length) =
          (first :: second :: rest).all (2 ≤ ·.length) := by
        simp [List.all_map, Function.comp_def]
      have hfold := foldl_sharedStart_map (k := k) (second :: rest) first
      unfold sharedBeginning
      simp only [List.map_cons] at hlong hfold ⊢
      rw [hlong, hfold]
      split <;> rfl

theorem alternation_map (items : List Core) :
    alternation (items.map (shift k)) = (alternation items).shift k := by
  have hparts : ∀ bs : List Core,
      (bs.map (shift k)).map parts = (bs.map parts).map (List.map (shift k)) := by
    intro bs
    rw [List.map_map, List.map_map]
    exact congrArg (List.map · bs) (funext parts_shift)
  have hdrop : ∀ (bs : List Core) (n : Nat),
      (bs.map (shift k)).map (fun b => ofParts (b.parts.drop n)) =
        (bs.map fun b => ofParts (b.parts.drop n)).map (shift k) := by
    intro bs n
    rw [List.map_map, List.map_map]
    refine congrArg (List.map · bs) (funext fun b => ?_)
    simp only [Function.comp_apply, parts_shift, ← List.map_drop, ofParts_map]
  unfold alternation
  simp only [flatMap_branches_map, hparts, sharedBeginning_map, List.isEmpty_map, List.length_map,
    hdrop]
  split
  · exact ofBranches_map _
  · rw [← ofParts_map, List.map_append, ofBranches_map]
    rfl

theorem nestedOptions_shift (greedy : Bool) (r : Core) (n : Nat) :
    nestedOptions greedy (r.shift k) n = (nestedOptions greedy r n).shift k := by
  induction n with
  | zero => rfl
  | succ n ih =>
      unfold nestedOptions
      rw [ih]
      exact congrArg (opt greedy) (concat_map [r, nestedOptions greedy r n])

theorem repeated_shift (least : Nat) (most : Option Nat) (greedy : Bool) (r : Core) :
    repeated least most greedy (r.shift k) = (repeated least most greedy r).shift k := by
  unfold repeated
  simp only [onlyEmpty_shift]
  generalize (if r.onlyEmpty then min least 1 else least) = low
  generalize (if r.onlyEmpty then some (min (most.getD 1) 1) else most) = high
  cases high with
  | some m =>
      simp only [nestedOptions_shift]
      rw [← concat_map, List.map_append, List.map_replicate]
      rfl
  | none =>
      cases low with
      | zero => rfl
      | succ n =>
          rw [← concat_map, List.map_append, List.map_replicate]
          rfl

end Core

namespace Piece

variable {k : Nat}

def shift (k : Nat) (p : Piece) : Piece := { p with core := p.core.shift k }

theorem maxDepth_map (items : List Piece) : maxDepth (items.map (shift k)) = maxDepth items := by
  unfold maxDepth
  rw [List.foldl_map]
  rfl

theorem totalRoom_map (items : List Piece) : totalRoom (items.map (shift k)) = totalRoom items := by
  unfold totalRoom
  rw [List.foldl_map]
  rfl

theorem cores_map (items : List Piece) :
    (items.map (shift k)).reverse.map (·.core) =
      (items.reverse.map (·.core)).map (Core.shift k) := by
  rw [← List.map_reverse, List.map_map, List.map_map]
  rfl

theorem branch_map (items : List Piece) :
    branch (items.map (shift k)) = (branch items).shift k := by
  match items with
  | [] => rfl
  | [_] => rfl
  | p :: q :: rest =>
      have hcore := (congrArg Core.concat (cores_map (k := k) (p :: q :: rest))).trans
        (Core.concat_map _)
      have hdepth := maxDepth_map (k := k) (p :: q :: rest)
      have hroom := totalRoom_map (k := k) (p :: q :: rest)
      unfold branch shift
      simp only [List.map_cons] at hcore hdepth hroom ⊢
      unfold shift at hcore hdepth hroom
      rw [hcore, hdepth, hroom]

theorem choice_map (branches : List Piece) :
    choice (branches.map (shift k)) = (choice branches).shift k := by
  match branches with
  | [] => rfl
  | [_] => rfl
  | p :: q :: rest =>
      have hcore := (congrArg Core.alternation (cores_map (k := k) (p :: q :: rest))).trans
        (Core.alternation_map _)
      have hdepth := maxDepth_map (k := k) (p :: q :: rest)
      have hroom := totalRoom_map (k := k) (p :: q :: rest)
      unfold choice shift
      simp only [List.map_cons, List.length_cons, List.length_map] at hcore hdepth hroom ⊢
      unfold shift at hcore hdepth hroom
      rw [hcore, hdepth, hroom]

theorem repeated_shift (p : Piece) (least : Nat) (most : Option Nat) (greedy : Bool) :
    (p.shift k).repeated least most greedy = (p.repeated least most greedy).map (shift k) := by
  have hroom : (p.shift k).repeatedRoom least most = p.repeatedRoom least most := by
    unfold repeatedRoom shift
    simp only [Core.canBeEmpty_shift]
  unfold repeated
  simp only [hroom]
  unfold shift
  simp only [Core.onlyEmpty_shift, Core.repeated_shift]
  generalize (if p.core.onlyEmpty then p.room else p.repeatedRoom least most) = room
  split <;> rfl

end Piece
end Regex
end AdaptiveRules
