import AdaptiveRules.RegexCore

/-!
# Regular expressions as programs

A term is laid out as a list of instructions.  `code r pos next` is the block of `r` when it starts
at address `pos` and continues at address `next`; it has `r.size` instructions.  A fork names the
address to try first and the one to try if that fails, so order of preference is order of search.

A loop whose body can match nothing is laid out as one or more rounds that may be skipped as a
whole.  That keeps the order of preference when a round takes no character.
-/

namespace AdaptiveRules
namespace Regex

inductive Instruction
  | take (chars : CharSet) (next : Nat)
  | check (assertion : Assertion) (next : Nat)
  | fork (first second : Nat)
  | mark (slot : Nat) (next : Nat)
  | jump (next : Nat)
  | accept
  deriving DecidableEq

/-- A fork that prefers `body` if the loop is greedy, else `exit`. -/
def loopFork (greedy : Bool) (body exit : Nat) : Instruction :=
  if greedy then .fork body exit else .fork exit body

namespace Core

def size : Core → Nat
  | empty => 1
  | set _ => 1
  | look _ => 1
  | seq a b => a.size + b.size
  | alt a b => 1 + a.size + b.size
  | opt _ a => 1 + a.size
  | star _ a => if a.canBeEmpty then a.size + 2 else a.size + 1
  | plus _ a => a.size + 1
  | group _ _ a => a.size + 2

def code : Core → Nat → Nat → List Instruction
  | empty, _, next => [.jump next]
  | set s, _, next => [.take s next]
  | look a, _, next => [.check a next]
  | seq a b, pos, next =>
      a.code pos (pos + a.size) ++ b.code (pos + a.size) next
  | alt a b, pos, next =>
      .fork (pos + 1) (pos + 1 + a.size) ::
        (a.code (pos + 1) next ++ b.code (pos + 1 + a.size) next)
  | opt g a, pos, next => loopFork g (pos + 1) next :: a.code (pos + 1) next
  | star g a, pos, next =>
      if a.canBeEmpty then
        loopFork g (pos + 1) next ::
          (a.code (pos + 1) (pos + 1 + a.size) ++ [loopFork g (pos + 1) next])
      else loopFork g (pos + 1) next :: a.code (pos + 1) pos
  | plus g a, pos, next => a.code pos (pos + a.size) ++ [loopFork g pos next]
  | group i _ a, pos, next =>
      .mark (2 * i) (pos + 1) ::
        (a.code (pos + 1) (pos + 1 + a.size) ++ [.mark (2 * i + 1) next])

@[simp] theorem length_code (r : Core) (pos next : Nat) :
    (r.code pos next).length = r.size := by
  induction r generalizing pos next with
  | empty | set | look => rfl
  | seq a b iha ihb => simp [code, size, iha, ihb]
  | alt a b iha ihb => simp [code, size, iha, ihb]; omega
  | opt g a ih => simp [code, size, ih]; omega
  | star g a ih => by_cases h : a.canBeEmpty <;> simp [code, size, ih, h]
  | plus g a ih => simp [code, size, ih]
  | group i n a ih => simp [code, size, ih]

end Core

structure Program where
  instructions : Array Instruction

/-- The block of the term, followed by the instruction that accepts. -/
def Program.ofCore (r : Core) : Program :=
  ⟨(r.code 0 r.size ++ [Instruction.accept]).toArray⟩

def Program.size (p : Program) : Nat := p.instructions.size

end Regex
end AdaptiveRules
