import AdaptiveRules.Proofs.RegexSearching

/-!
# Searches find the match that is preferred

Where nothing is accepted an exploration only uses up its threads.  So it takes the way that the
program prefers, unless it meets what was entered before on a way that is still open.  That cannot
happen if every step goes down in some rank, and there is one if loops go round single characters: a
step takes a character, goes forward, or goes back to where a character is taken.
-/

namespace AdaptiveRules
namespace Regex

open TextLines

namespace Program

variable {p : Program} {text : List Char} {origin a b fuel : Nat} {x y stop : Cursor}
  {waiting : List Thread} {seen : Visited}

/-- Nothing is accepted from the address and the place. -/
def IsDead (p : Program) (a : Nat) (x : Cursor) : Prop := ∀ stop, ¬ p.Accepts a x stop

/-- The way that is preferred among those that lead from a thread to acceptance. -/
inductive Prefers (p : Program) : Thread → Cursor → Slots → Prop
  | accept {t : Thread} (hat : p.instructions[t.address]? = some .accept) :
      Prefers p t t.cursor t.slots
  | step {t u : Thread} {before after : List Thread} {stop : Cursor} {slots : Slots}
      (hnext : p.successors t = before ++ u :: after)
      (hbefore : ∀ w ∈ before, p.IsDead w.address w.cursor) (hmore : Prefers p u stop slots) :
      Prefers p t stop slots

end Program

namespace Core

open Program

variable {p : Program} {r : Core} {pos next : Nat}

end Core
end Regex
end AdaptiveRules
