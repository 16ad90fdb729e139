/-!
# Prompts

A prompt is answered with keys.  A menu starts at one of its entries and wraps around at its ends; a
question is answered with yes, no or what it proposes; a line is edited at a cursor and asked for again
until it can be understood.  Keys that mean nothing to a prompt are passed over.  A prompt that is not
answered before the keys run out has no answer, and one that is answered takes at least one key.
-/

namespace AdaptiveRules

inductive Key
  | up
  | down
  | left
  | right
  | enter
  | tab
  | backtab
  | backspace
  | char (c : Char)
  deriving DecidableEq

/-- The key that types a character. -/
def Key.ofChar (c : Char) : Key :=
  if c = '\n' ∨ c = '\r' then enter
  else if c = '\t' then tab
  else if c = '\x7f' ∨ c = '\x08' then backspace
  else char c

/-- The keys that a terminal sends as a text. -/
def Key.ofText : List Char → List Key
  | [] => []
  | '\x1b' :: '[' :: 'A' :: rest => up :: ofText rest
  | '\x1b' :: '[' :: 'B' :: rest => down :: ofText rest
  | '\x1b' :: '[' :: 'C' :: rest => right :: ofText rest
  | '\x1b' :: '[' :: 'D' :: rest => left :: ofText rest
  | '\x1b' :: '[' :: 'Z' :: rest => backtab :: ofText rest
  | c :: rest => ofChar c :: ofText rest

/-- What a prompt was answered, and the keys that are left. -/
abbrev Reply (α : Type) := Option (α × List Key)

namespace Prompt

/-- What a key does in a menu of so many entries: it chooses, or moves to another entry. -/
inductive MenuMove
  | choose
  | goTo (entry : Nat)

def menuMove (count entry : Nat) : Key → MenuMove
  | .enter => .choose
  | .char ' ' => .choose
  | .down => .goTo ((entry + 1) % count)
  | .tab => .goTo ((entry + 1) % count)
  | .char 'j' => .goTo ((entry + 1) % count)
  | .up => .goTo ((entry + count - 1) % count)
  | .backtab => .goTo ((entry + count - 1) % count)
  | .char 'k' => .goTo ((entry + count - 1) % count)
  | _ => .goTo entry

/-- Chooses among so many entries, starting at one of them. -/
def menu (count entry : Nat) : List Key → Reply Nat
  | [] => none
  | k :: rest =>
      match menuMove count entry k with
      | .choose => some (entry, rest)
      | .goTo entry => menu count entry rest

def decision (proposed : Bool) : Key → Option Bool
  | .char 'y' => some true
  | .char 'Y' => some true
  | .char 'n' => some false
  | .char 'N' => some false
  | .enter => some proposed
  | _ => none

def confirm (proposed : Bool) : List Key → Reply Bool
  | [] => none
  | k :: rest =>
      match decision proposed k with
      | some answer => some (answer, rest)
      | none => confirm proposed rest

/-- A line with a cursor.  What stands before the cursor is reversed. -/
structure Line where
  before : List Char
  after : List Char
  deriving DecidableEq

namespace Line

def empty : Line := ⟨[], []⟩

def text (l : Line) : String := String.ofList (l.before.reverse ++ l.after)

def isEmpty (l : Line) : Bool := l.before.isEmpty && l.after.isEmpty

def isControl (c : Char) : Bool := c.toNat < 32 || c.toNat == 127

def edit (l : Line) : Key → Line
  | .char c => if isControl c then l else { l with before := c :: l.before }
  | .backspace => { l with before := l.before.drop 1 }
  | .left =>
      match l.before with
      | c :: before => ⟨before, c :: l.after⟩
      | [] => l
  | .right =>
      match l.after with
      | c :: after => ⟨c :: l.before, after⟩
      | [] => l
  | _ => l

/-- The answer that a finished line gives; an empty one gives what is proposed. -/
def answer (l : Line) (proposed : α) (read : String → Option α) : Option α :=
  if l.isEmpty then some proposed else read l.text

end Line

/-- Asks for a line until it can be read. -/
def enter (proposed : α) (read : String → Option α) (line : Line) : List Key → Reply α
  | [] => none
  | k :: rest =>
      if k = .enter then
        match line.answer proposed read with
        | some answer => some (answer, rest)
        | none => enter proposed read .empty rest
      else enter proposed read (line.edit k) rest

theorem length_menu {count entry answer : Nat} {keys rest : List Key}
    (h : menu count entry keys = some (answer, rest)) : rest.length < keys.length := by
  induction keys generalizing entry with
  | nil => simp [menu] at h
  | cons k keys ih =>
      simp only [menu] at h
      split at h
      · simp only [Option.some.injEq, Prod.mk.injEq] at h
        simp [← h.2]
      · have := ih h
        simp only [List.length_cons]
        omega

theorem length_confirm {proposed answer : Bool} {keys rest : List Key}
    (h : confirm proposed keys = some (answer, rest)) : rest.length < keys.length := by
  induction keys with
  | nil => simp [confirm] at h
  | cons k keys ih =>
      simp only [confirm] at h
      split at h
      · simp only [Option.some.injEq, Prod.mk.injEq] at h
        simp [← h.2]
      · have := ih h
        simp only [List.length_cons]
        omega

theorem length_enter {α : Type} {proposed answer : α} {read : String → Option α} {line : Line}
    {keys rest : List Key} (h : enter proposed read line keys = some (answer, rest)) :
    rest.length < keys.length := by
  induction keys generalizing line with
  | nil => simp [enter] at h
  | cons k keys ih =>
      simp only [enter] at h
      split at h
      · split at h
        · simp only [Option.some.injEq, Prod.mk.injEq] at h
          simp [← h.2]
        · have := ih h
          simp only [List.length_cons]
          omega
      · have := ih h
        simp only [List.length_cons]
        omega

end Prompt
end AdaptiveRules
