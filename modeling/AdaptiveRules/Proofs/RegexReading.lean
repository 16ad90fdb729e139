import AdaptiveRules.RegexParser
import Mathlib.Tactic

/-!
# Reading step by step

Reading an expression is a row of steps, each of which takes a piece, a bracket, a bar or a
repetition off the text.  Whatever the fuel, it has to suffice for the number of steps.
-/

namespace AdaptiveRules
namespace Regex

namespace Reading

variable {r s u : Reading} {cs rest more : List Char} {c : Char} {n m fuel : Nat}

/-- So many steps lead from one state of the reader to another, with what is then left of the
text. -/
inductive Reads : Nat → Reading → List Char → Reading → List Char → Prop
  | refl (r : Reading) (cs : List Char) : Reads 0 r cs r cs
  | step {n : Nat} {r s u : Reading} {cs tail rest more : List Char} {c : Char}
      (hskip : r.flags.skip cs = c :: tail) (hstep : r.step c tail = .ok (s, rest))
      (hmore : Reads n s rest u more) : Reads (n + 1) r cs u more

theorem Reads.trans (hfirst : Reads n r cs s rest) (hsecond : Reads m s rest u more) :
    Reads (n + m) r cs u more := by
  induction hfirst with
  | refl => rwa [Nat.zero_add]
  | step hskip hstep _ ih =>
      rw [Nat.add_right_comm]
      exact .step hskip hstep (ih hsecond)

theorem Reads.single {tail : List Char} (hskip : r.flags.skip cs = c :: tail)
    (hstep : r.step c tail = .ok (s, rest)) : Reads 1 r cs s rest :=
  .step hskip hstep (.refl s rest)

/-- The reader when it has come to the end of the text. -/
def finish : Nat → Reading → List Char → Except RegexError Reading
  | 0, _, _ => .error .groupUnclosed
  | fuel + 1, r, cs =>
      match r.flags.skip cs with
      | [] => .ok r
      | c :: rest => r.step c rest >>= fun p => finish fuel p.1 p.2

/-- A run ends well outside all groups. -/
theorem run_eq_finish (fuel : Nat) (r : Reading) (cs : List Char) :
    r.run fuel cs = finish fuel r cs >>= fun s =>
      if s.enclosing.isEmpty then .ok s.whole else .error .groupUnclosed := by
  induction fuel generalizing r cs with
  | zero => rfl
  | succ fuel ih =>
      unfold run finish
      cases r.flags.skip cs with
      | nil => rfl
      | cons c rest =>
          simp only
          cases r.step c rest with
          | error e => rfl
          | ok p => exact ih p.1 p.2

theorem finish_of_reads (hreads : Reads n r cs s rest) (fuel : Nat) :
    finish (n + fuel) r cs = finish fuel s rest := by
  induction hreads with
  | refl => rw [Nat.zero_add]
  | step hskip hstep _ ih =>
      rw [Nat.add_right_comm, finish, hskip]
      simp only [hstep]
      exact ih

theorem run_of_reads (hreads : Reads n r cs s rest) (fuel : Nat) :
    r.run (n + fuel) cs = s.run fuel rest := by
  rw [run_eq_finish, run_eq_finish, finish_of_reads hreads]

theorem exists_of_finish_cons {tail : List Char} (hskip : r.flags.skip cs = c :: tail)
    (hfinish : finish fuel r cs = .ok u) :
    ∃ s rest fuel', r.step c tail = .ok (s, rest) ∧ finish fuel' s rest = .ok u := by
  cases fuel with
  | zero => cases hfinish
  | succ fuel =>
      rw [finish, hskip] at hfinish
      simp only at hfinish
      cases hstep : r.step c tail with
      | error e =>
          rw [hstep] at hfinish
          cases hfinish
      | ok outcome =>
          rw [hstep] at hfinish
          exact ⟨outcome.1, outcome.2, fuel, rfl, hfinish⟩

theorem eq_of_finish_nil (hskip : r.flags.skip cs = []) (hfinish : finish fuel r cs = .ok s) :
    s = r := by
  cases fuel with
  | zero => cases hfinish
  | succ fuel =>
      rw [finish, hskip] at hfinish
      cases hfinish
      rfl

theorem exists_reads_of_finish (hfinish : finish fuel r cs = .ok s) :
    ∃ n rest, n < fuel ∧ Reads n r cs s rest ∧ s.flags.skip rest = [] := by
  induction fuel generalizing r cs with
  | zero => cases hfinish
  | succ fuel ih =>
      rw [finish] at hfinish
      cases hskip : r.flags.skip cs with
      | nil =>
          simp only [hskip] at hfinish
          cases hfinish
          exact ⟨0, cs, Nat.succ_pos _, .refl _ _, hskip⟩
      | cons c tail =>
          simp only [hskip] at hfinish
          cases hstep : r.step c tail with
          | error e =>
              rw [hstep] at hfinish
              cases hfinish
          | ok p =>
              rw [hstep] at hfinish
              obtain ⟨n, rest, hn, hreads, hend⟩ := ih hfinish
              exact ⟨n + 1, rest, Nat.succ_lt_succ hn, .step hskip hstep hreads, hend⟩

/-- A run that succeeds comes to the end of the text, outside all groups. -/
theorem exists_finish_of_run {piece : Piece} (hrun : r.run fuel cs = .ok piece) :
    ∃ s, finish fuel r cs = .ok s ∧ s.enclosing = [] ∧ piece = s.whole := by
  rw [run_eq_finish] at hrun
  cases hfinish : finish fuel r cs with
  | error e =>
      rw [hfinish] at hrun
      cases hrun
  | ok s =>
      rw [hfinish] at hrun
      simp only [bind, Except.bind] at hrun
      split at hrun
      · next hempty =>
          cases hrun
          exact ⟨s, rfl, List.isEmpty_iff.mp hempty, rfl⟩
      · cases hrun

/-- What is read does not depend on the fuel. -/
theorem run_eq_of_reads (hreads : Reads n r cs s rest) (hn : n < fuel)
    (hskip : s.flags.skip rest = []) :
    r.run fuel cs = if s.enclosing.isEmpty then .ok s.whole else .error .groupUnclosed := by
  obtain ⟨more, rfl⟩ : ∃ more, fuel = n + (more + 1) := ⟨fuel - n - 1, by omega⟩
  rw [run_of_reads hreads, run, hskip]
  rfl

end Reading

/-- The state in which reading starts. -/
def Reading.initial (flags : Flags) : Reading := ⟨flags, 0, [], [], [], []⟩

/-- What is read is accepted if it neither nests too deep nor grows too large. -/
theorem parse_eq_ok_iff {flags : Flags} {source : String} {core : Core} :
    parse flags source = .ok core ↔
      ∃ piece, (Reading.initial flags).run (source.toList.length + 1) source.toList = .ok piece ∧
        piece.depth ≤ nestLimit ∧ piece.room ≤ roomLimit ∧ piece.core = core := by
  unfold parse
  simp only
  constructor
  · intro hparse
    cases hrun : (Reading.initial flags).run (source.toList.length + 1) source.toList with
    | error e =>
        unfold Reading.initial at hrun
        rw [hrun] at hparse
        cases hparse
    | ok piece =>
        unfold Reading.initial at hrun
        rw [hrun] at hparse
        simp only [bind, Except.bind] at hparse
        split at hparse
        · cases hparse
        · split at hparse
          · cases hparse
          · next hdepth hroom =>
              cases hparse
              exact ⟨piece, rfl, by omega, by omega, rfl⟩
  · rintro ⟨piece, hrun, hdepth, hroom, rfl⟩
    unfold Reading.initial at hrun
    rw [hrun]
    simp only [bind, Except.bind]
    rw [if_neg (by omega), if_neg (by omega)]
    rfl

end Regex
end AdaptiveRules
