import AdaptiveRules.RegexSearch
import Mathlib.Tactic

/-!
# What a term matches

A term relates places of a text: it matches from one place to another.  Order of preference plays no
part in that.  The program of a term accepts from a place exactly what the term matches from there,
since every block of the program leads from its address to the address where it continues, and along
the way goes over what its term matches.
-/

namespace AdaptiveRules
namespace Regex

open Relation

/-- The place after the character `c` that stands at a place. -/
def Cursor.past (cur : Cursor) (c : Char) (rest : List Char) : Cursor :=
  ⟨some c, rest, cur.offset + c.utf8Size⟩

/-- The term matches from the one place to the other. -/
def Core.Matches : Core → Cursor → Cursor → Prop
  | .empty, x, y => x = y
  | .set s, x, y => ∃ c rest, x.rest = c :: rest ∧ s.contains c = true ∧ y = x.past c rest
  | .look a, x, y => a.holds x.before x.after = true ∧ x = y
  | .seq a b, x, z => ∃ y, a.Matches x y ∧ b.Matches y z
  | .alt a b, x, y => a.Matches x y ∨ b.Matches x y
  | .opt _ a, x, y => x = y ∨ a.Matches x y
  | .star _ a, x, y => ReflTransGen a.Matches x y
  | .plus _ a, x, y => TransGen a.Matches x y
  | .group _ _ a, x, y => a.Matches x y

/-! ### Runs of programs -/

/-- One instruction leads from an address and a place to the next ones. -/
inductive Program.Step (p : Program) : Nat → Cursor → Nat → Cursor → Prop
  | jump {a next : Nat} {x : Cursor} (hat : p.instructions[a]? = some (.jump next)) :
      Step p a x next x
  | mark {a slot next : Nat} {x : Cursor} (hat : p.instructions[a]? = some (.mark slot next)) :
      Step p a x next x
  | first {a first second : Nat} {x : Cursor}
      (hat : p.instructions[a]? = some (.fork first second)) : Step p a x first x
  | second {a first second : Nat} {x : Cursor}
      (hat : p.instructions[a]? = some (.fork first second)) : Step p a x second x
  | check {a next : Nat} {assertion : Assertion} {x : Cursor}
      (hat : p.instructions[a]? = some (.check assertion next))
      (hholds : assertion.holds x.before x.after = true) : Step p a x next x
  | take {a next : Nat} {s : CharSet} {x : Cursor} {c : Char} {rest : List Char}
      (hat : p.instructions[a]? = some (.take s next)) (hrest : x.rest = c :: rest)
      (hc : s.contains c = true) : Step p a x next (x.past c rest)

/-- The program comes to its end from an address and a place, in so many steps. -/
inductive Program.AcceptsIn (p : Program) : Nat → Nat → Cursor → Cursor → Prop
  | accept {a : Nat} {x : Cursor} (hat : p.instructions[a]? = some .accept) :
      AcceptsIn p 0 a x x
  | step {n a b : Nat} {x y stop : Cursor} (hstep : p.Step a x b y)
      (hrest : AcceptsIn p n b y stop) : AcceptsIn p (n + 1) a x stop

def Program.Accepts (p : Program) (a : Nat) (x stop : Cursor) : Prop :=
  ∃ n, p.AcceptsIn n a x stop

/-- The instructions stand in the program, from the address on. -/
def Program.Holds (p : Program) (pos : Nat) (block : List Instruction) : Prop :=
  ∀ i (hi : i < block.length), p.instructions[pos + i]? = some block[i]

namespace Program

variable {p : Program} {pos n a b next : Nat} {x y stop : Cursor} {i : Instruction}
  {block first second : List Instruction}

theorem Accepts.step (hstep : p.Step a x b y) (hrest : p.Accepts b y stop) :
    p.Accepts a x stop := by
  obtain ⟨n, hrest⟩ := hrest
  exact ⟨n + 1, .step hstep hrest⟩

/-- A run from an address with another instruction than the last goes on by a step. -/
theorem AcceptsIn.exists_step (hrun : p.AcceptsIn n a x stop) (hat : p.instructions[a]? = some i)
    (hi : i ≠ .accept) :
    ∃ m b y, n = m + 1 ∧ p.Step a x b y ∧ p.AcceptsIn m b y stop := by
  cases hrun with
  | accept hlast =>
      rw [hat] at hlast
      exact absurd (Option.some.inj hlast) hi
  | step hstep hrest => exact ⟨_, _, _, rfl, hstep, hrest⟩

theorem Step.of_jump (hstep : p.Step a x b y) (hat : p.instructions[a]? = some (.jump next)) :
    b = next ∧ y = x := by
  cases hstep <;> simp_all

theorem Step.of_mark {slot : Nat} (hstep : p.Step a x b y)
    (hat : p.instructions[a]? = some (.mark slot next)) : b = next ∧ y = x := by
  cases hstep <;> simp_all

theorem Step.of_fork {one other : Nat} (hstep : p.Step a x b y)
    (hat : p.instructions[a]? = some (.fork one other)) : (b = one ∨ b = other) ∧ y = x := by
  cases hstep <;> simp_all

theorem Step.of_check {assertion : Assertion} (hstep : p.Step a x b y)
    (hat : p.instructions[a]? = some (.check assertion next)) :
    b = next ∧ y = x ∧ assertion.holds x.before x.after = true := by
  cases hstep <;> simp_all

theorem Step.of_take {s : CharSet} (hstep : p.Step a x b y)
    (hat : p.instructions[a]? = some (.take s next)) :
    b = next ∧ ∃ c rest, x.rest = c :: rest ∧ s.contains c = true ∧ y = x.past c rest := by
  cases hstep <;> simp_all

theorem Holds.head (hholds : p.Holds pos (i :: block)) : p.instructions[pos]? = some i :=
  hholds 0 (Nat.zero_lt_succ _)

theorem Holds.left (hholds : p.Holds pos (first ++ second)) : p.Holds pos first := by
  intro j hj
  have hthere := hholds j (by rw [List.length_append]; omega)
  rwa [List.getElem_append_left hj] at hthere

theorem Holds.right (hholds : p.Holds pos (first ++ second)) :
    p.Holds (pos + first.length) second := by
  intro j hj
  have hthere := hholds (first.length + j) (by rw [List.length_append]; omega)
  rw [List.getElem_append_right (Nat.le_add_right _ _)] at hthere
  simpa [Nat.add_assoc] using hthere

theorem Holds.tail (hholds : p.Holds pos (i :: block)) : p.Holds (pos + 1) block := by
  have hparts : p.Holds pos ([i] ++ block) := hholds
  exact hparts.right

/-- The fork of a loop leads into the body and out of the loop, whichever is preferred. -/
theorem step_loopFork {greedy : Bool} {body exit : Nat}
    (hat : p.instructions[a]? = some (loopFork greedy body exit)) (x : Cursor) :
    p.Step a x body x ∧ p.Step a x exit x := by
  cases greedy with
  | true => exact ⟨.first hat, .second hat⟩
  | false => exact ⟨.second hat, .first hat⟩

theorem Step.of_loopFork {greedy : Bool} {body exit : Nat} (hstep : p.Step a x b y)
    (hat : p.instructions[a]? = some (loopFork greedy body exit)) :
    (b = body ∨ b = exit) ∧ y = x := by
  cases greedy with
  | true => exact hstep.of_fork hat
  | false =>
      obtain ⟨hto, hsame⟩ := hstep.of_fork hat
      exact ⟨hto.symm, hsame⟩

theorem loopFork_ne_accept (greedy : Bool) (body exit : Nat) :
    loopFork greedy body exit ≠ .accept := by
  cases greedy <;> nofun

end Program

/-! ### Blocks of terms -/

namespace Core

open Program

variable {p : Program} {r : Core} {pos next : Nat} {x y stop : Cursor}

/-- What a term matches leads over its block. -/
theorem accepts_of_matches (hholds : p.Holds pos (r.code pos next)) (hmatches : r.Matches x y)
    (hrest : p.Accepts next y stop) : p.Accepts pos x stop := by
  induction r generalizing pos next x y with
  | empty =>
      obtain rfl : x = y := hmatches
      exact hrest.step (.jump hholds.head)
  | set s =>
      obtain ⟨c, rest, hrestx, hc, rfl⟩ := hmatches
      exact hrest.step (.take hholds.head hrestx hc)
  | look a =>
      obtain ⟨ha, rfl⟩ := hmatches
      exact hrest.step (.check hholds.head ha)
  | seq a b iha ihb =>
      obtain ⟨z, ha, hb⟩ := hmatches
      have hsecond := hholds.right
      rw [length_code] at hsecond
      exact iha hholds.left ha (ihb hsecond hb hrest)
  | alt a b iha ihb =>
      have hfork := hholds.head
      have hsecond := hholds.tail.right
      rw [length_code] at hsecond
      rcases hmatches with ha | hb
      · exact (iha hholds.tail.left ha hrest).step (.first hfork)
      · exact (ihb hsecond hb hrest).step (.second hfork)
  | opt g a ih =>
      obtain ⟨hbody, hexit⟩ := step_loopFork hholds.head x
      rcases hmatches with rfl | ha
      · exact hrest.step hexit
      · exact (ih hholds.tail ha hrest).step hbody
  | star g a ih =>
      -- Both forks of a loop whose body can be empty have the same targets.
      have hloop : ∀ fork, p.instructions[fork]? = some (loopFork g (pos + 1) next) →
          p.Accepts fork x stop := by
        unfold code at hholds
        by_cases hempty : a.canBeEmpty = true
        · rw [if_pos hempty] at hholds
          have hback := hholds.tail.right.head
          rw [length_code] at hback
          induction hmatches using ReflTransGen.head_induction_on with
          | refl => exact fun fork hfork => hrest.step (step_loopFork hfork _).2
          | head hfirst _ ihmore =>
              exact fun fork hfork => (ih hholds.tail.left hfirst
                (ihmore _ hback)).step (step_loopFork hfork _).1
        · rw [if_neg hempty] at hholds
          induction hmatches using ReflTransGen.head_induction_on with
          | refl => exact fun fork hfork => hrest.step (step_loopFork hfork _).2
          | head hfirst _ ihmore =>
              exact fun fork hfork => (ih hholds.tail hfirst
                (ihmore _ hholds.head)).step (step_loopFork hfork _).1
      apply hloop
      unfold code at hholds
      split at hholds
      · exact hholds.head
      · exact hholds.head
  | plus g a ih =>
      have hback := hholds.right.head
      rw [length_code] at hback
      induction hmatches using TransGen.head_induction_on with
      | single hlast => exact ih hholds.left hlast (hrest.step (step_loopFork hback _).2)
      | head hfirst _ ihmore =>
          exact ih hholds.left hfirst (ihmore.step (step_loopFork hback _).1)
  | group i n a ih =>
      have hclose := hholds.tail.right.head
      rw [length_code] at hclose
      exact (ih hholds.tail.left hmatches (hrest.step (.mark hclose))).step (.mark hholds.head)

/-- A run from the start of a block comes to its end, over something that the term matches. -/
theorem exists_matches_of_acceptsIn {n : Nat} (hholds : p.Holds pos (r.code pos next))
    (hrun : p.AcceptsIn n pos x stop) :
    ∃ m y, m < n ∧ r.Matches x y ∧ p.AcceptsIn m next y stop := by
  induction r generalizing pos next x n with
  | empty =>
      obtain ⟨m, b, y, rfl, hstep, hrest⟩ := hrun.exists_step hholds.head (by simp)
      obtain ⟨rfl, rfl⟩ := hstep.of_jump hholds.head
      exact ⟨m, y, Nat.lt_succ_self m, rfl, hrest⟩
  | set s =>
      obtain ⟨m, b, y, rfl, hstep, hrest⟩ := hrun.exists_step hholds.head (by simp)
      obtain ⟨rfl, hmatch⟩ := hstep.of_take hholds.head
      exact ⟨m, y, Nat.lt_succ_self m, hmatch, hrest⟩
  | look a =>
      obtain ⟨m, b, y, rfl, hstep, hrest⟩ := hrun.exists_step hholds.head (by simp)
      obtain ⟨rfl, rfl, ha⟩ := hstep.of_check hholds.head
      exact ⟨m, y, Nat.lt_succ_self m, ⟨ha, rfl⟩, hrest⟩
  | seq a b iha ihb =>
      have hsecond := hholds.right
      rw [length_code] at hsecond
      obtain ⟨k, y, hk, ha, hmore⟩ := iha hholds.left hrun
      obtain ⟨m, z, hm, hb, hrest⟩ := ihb hsecond hmore
      exact ⟨m, z, hm.trans hk, ⟨y, ha, hb⟩, hrest⟩
  | alt a b iha ihb =>
      have hsecond := hholds.tail.right
      rw [length_code] at hsecond
      obtain ⟨k, b, y, rfl, hstep, hmore⟩ := hrun.exists_step hholds.head (by simp)
      obtain ⟨rfl | rfl, rfl⟩ := hstep.of_fork hholds.head
      · obtain ⟨m, z, hm, ha, hrest⟩ := iha hholds.tail.left hmore
        exact ⟨m, z, hm.trans (Nat.lt_succ_self k), Or.inl ha, hrest⟩
      · obtain ⟨m, z, hm, hb, hrest⟩ := ihb hsecond hmore
        exact ⟨m, z, hm.trans (Nat.lt_succ_self k), Or.inr hb, hrest⟩
  | opt g a ih =>
      obtain ⟨k, b, y, rfl, hstep, hmore⟩ :=
        hrun.exists_step hholds.head (loopFork_ne_accept _ _ _)
      obtain ⟨rfl | rfl, rfl⟩ := hstep.of_loopFork hholds.head
      · obtain ⟨m, z, hm, ha, hrest⟩ := ih hholds.tail hmore
        exact ⟨m, z, hm.trans (Nat.lt_succ_self k), Or.inr ha, hrest⟩
      · exact ⟨k, y, Nat.lt_succ_self k, Or.inl rfl, hmore⟩
  | star g a ih =>
      have hloop : ∀ n fork x, p.instructions[fork]? = some (loopFork g (pos + 1) next) →
          p.AcceptsIn n fork x stop →
          ∃ m y, m < n ∧ ReflTransGen a.Matches x y ∧ p.AcceptsIn m next y stop := by
        -- Where the body leads back to, there is a fork with the same targets.
        obtain ⟨back, hback, hbody⟩ : ∃ back,
            p.instructions[back]? = some (loopFork g (pos + 1) next) ∧
              p.Holds (pos + 1) (a.code (pos + 1) back) := by
          unfold code at hholds
          split at hholds
          · have hback := hholds.tail.right.head
            rw [length_code] at hback
            exact ⟨_, hback, hholds.tail.left⟩
          · exact ⟨_, hholds.head, hholds.tail⟩
        intro n
        induction n using Nat.strong_induction_on with
        | h n ihn =>
            intro fork x hfork hrun
            obtain ⟨k, b, y, rfl, hstep, hmore⟩ :=
              hrun.exists_step hfork (loopFork_ne_accept _ _ _)
            obtain ⟨rfl | rfl, rfl⟩ := hstep.of_loopFork hfork
            · obtain ⟨m, z, hm, ha, hagain⟩ := ih hbody hmore
              obtain ⟨l, w, hl, hmany, hrest⟩ := ihn m (by omega) back z hback hagain
              exact ⟨l, w, by omega, .head ha hmany, hrest⟩
            · exact ⟨k, y, Nat.lt_succ_self k, .refl, hmore⟩
      refine hloop n pos x ?_ hrun
      unfold code at hholds
      split at hholds
      · exact hholds.head
      · exact hholds.head
  | plus g a ih =>
      have hback := hholds.right.head
      rw [length_code] at hback
      induction n using Nat.strong_induction_on generalizing x with
      | h n ihn =>
          obtain ⟨k, y, hk, ha, hmore⟩ := ih hholds.left hrun
          obtain ⟨l, b, z, rfl, hstep, hagain⟩ :=
            hmore.exists_step hback (loopFork_ne_accept _ _ _)
          obtain ⟨rfl | rfl, rfl⟩ := hstep.of_loopFork hback
          · obtain ⟨m, w, hm, hmany, hrest⟩ := ihn l (by omega) hagain
            exact ⟨m, w, by omega, .head ha hmany, hrest⟩
          · exact ⟨l, z, by omega, .single ha, hagain⟩
  | group i n a ih =>
      have hclose := hholds.tail.right.head
      rw [length_code] at hclose
      obtain ⟨k, b, y, rfl, hstep, hmore⟩ := hrun.exists_step hholds.head (by simp)
      obtain ⟨rfl, rfl⟩ := hstep.of_mark hholds.head
      obtain ⟨l, z, hl, ha, hagain⟩ := ih hholds.tail.left hmore
      obtain ⟨m, b, w, rfl, hlast, hrest⟩ := hagain.exists_step hclose (by simp)
      obtain ⟨rfl, rfl⟩ := hlast.of_mark hclose
      exact ⟨m, w, by omega, ha, hrest⟩

theorem accepts_iff (hholds : p.Holds pos (r.code pos next)) :
    p.Accepts pos x stop ↔ ∃ y, r.Matches x y ∧ p.Accepts next y stop := by
  constructor
  · rintro ⟨n, hrun⟩
    obtain ⟨m, y, _, hmatches, hrest⟩ := exists_matches_of_acceptsIn hholds hrun
    exact ⟨y, hmatches, m, hrest⟩
  · rintro ⟨y, hmatches, hrest⟩
    exact accepts_of_matches hholds hmatches hrest

theorem holds_ofCore (r : Core) :
    (Program.ofCore r).Holds 0 (r.code 0 r.size ++ [Instruction.accept]) := by
  intro i hi
  simp [Program.ofCore]

theorem instructions_ofCore_size (r : Core) :
    (Program.ofCore r).instructions[r.size]? = some .accept := by
  have hlast := (holds_ofCore r).right.head
  rwa [length_code, Nat.zero_add] at hlast

/-- From its first instruction a program accepts what its term matches. -/
theorem accepts_ofCore_iff : (Program.ofCore r).Accepts 0 x y ↔ r.Matches x y := by
  have hlast := instructions_ofCore_size r
  rw [accepts_iff (holds_ofCore r).left]
  constructor
  · rintro ⟨z, hmatches, n, hrun⟩
    cases hrun with
    | accept => exact hmatches
    | step hstep =>
        cases hstep <;> simp_all
  · exact fun hmatches => ⟨y, hmatches, 0, .accept hlast⟩

end Core
end Regex
end AdaptiveRules
