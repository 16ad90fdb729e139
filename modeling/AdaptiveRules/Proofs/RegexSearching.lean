import AdaptiveRules.Proofs.RegexMatching
import AdaptiveRules.Proofs.RegexReading
import AdaptiveRules.Proofs.WindowCoverage
import AdaptiveRules.TextRule

/-!
# Searches find a match if there is one

An exploration that fails has entered all that can be reached from its threads.  What it has entered
is then closed under steps and does not hold the end of the program, so no way leads from there to
acceptance, and later explorations need not enter it again.  The fuel is enough since every thread is
one of two that an entered combination of address and place has left behind.
-/

namespace AdaptiveRules
namespace Regex

open TextLines

/-! ### Places of a text -/

/-- The place lies in the text, and its offset counts the bytes before it. -/
def Cursor.LiesIn (text : List Char) (x : Cursor) : Prop :=
  ∃ before, text = before ++ x.rest ∧ x.before = before.getLast? ∧ x.offset = byteSize before

namespace Cursor

variable {text : List Char} {x y : Cursor} {c : Char} {rest : List Char}

theorem liesIn_start (text : List Char) : (start text).LiesIn text := ⟨[], rfl, rfl, rfl⟩

theorem LiesIn.past (hx : x.LiesIn text) (hrest : x.rest = c :: rest) :
    (x.past c rest).LiesIn text := by
  obtain ⟨before, htext, _, hoffset⟩ := hx
  refine ⟨before ++ [c], ?_, ?_, ?_⟩
  · rw [htext, hrest, List.append_assoc]
    rfl
  · rw [List.getLast?_append]
    rfl
  · rw [byteSize_append, ← hoffset]
    rfl

/-- The offset determines the place. -/
theorem LiesIn.eq_of_offset (hx : x.LiesIn text) (hy : y.LiesIn text)
    (hoffset : x.offset = y.offset) : x = y := by
  obtain ⟨before, htext, hbefore, hsize⟩ := hx
  obtain ⟨before', htext', hbefore', hsize'⟩ := hy
  have hsplit : before ++ x.rest = before' ++ y.rest := htext.symm.trans htext'
  have hle := isPrefix_of_byteSize_le hsplit (by omega)
  have hge := isPrefix_of_byteSize_le hsplit.symm (by omega)
  obtain rfl : before = before' := hle.eq_of_length_le hge.length_le
  have hrest : x.rest = y.rest := List.append_cancel_left hsplit
  obtain ⟨xb, xr, xo⟩ := x
  obtain ⟨yb, yr, yo⟩ := y
  simp only at hoffset hbefore hbefore' hrest
  rw [hoffset, hrest, hbefore, hbefore']

theorem LiesIn.offset_add (hx : x.LiesIn text) :
    x.offset + byteSize x.rest = byteSize text := by
  obtain ⟨before, htext, _, hoffset⟩ := hx
  rw [htext, byteSize_append, hoffset]

theorem LiesIn.eq_start (hx : x.LiesIn text) (hfirst : x.before = none) : x = start text := by
  obtain ⟨before, htext, hbefore, hoffset⟩ := hx
  obtain rfl : before = [] := List.getLast?_eq_none_iff.mp (hbefore.symm.trans hfirst)
  obtain ⟨xb, xr, xo⟩ := x
  simp only at hfirst htext hoffset
  subst hfirst
  rw [htext, hoffset]
  rfl

end Cursor

/-! ### Stretches of bytes -/

theorem countWithin_append (count : Nat) (taken rest : List Char) :
    countWithin count (byteSize taken) (taken ++ rest) = count + taken.length := by
  induction taken generalizing count with
  | nil =>
      cases rest with
      | nil => rfl
      | cons c rest =>
          rw [List.nil_append, countWithin, byteSize_nil, if_neg (Nat.not_le.mpr c.utf8Size_pos)]
          rfl
  | cons c taken ih =>
      rw [List.cons_append, countWithin, byteSize_cons, if_pos (Nat.le_add_right _ _),
        Nat.add_sub_cancel_left, ih, List.length_cons]
      omega

theorem takeBytes_append (taken rest : List Char) :
    takeBytes (byteSize taken) (taken ++ rest) = taken := by
  unfold takeBytes
  rw [countWithin_append, Nat.zero_add, List.take_left]

theorem dropBytes_zero (cs : List Char) : dropBytes 0 cs = cs := by
  cases cs with
  | nil => rfl
  | cons c cs =>
      unfold dropBytes
      rw [if_neg (Nat.not_le.mpr c.utf8Size_pos)]

/-! ### Threads and what was entered -/

/-- The addresses to which an instruction leads. -/
def Instruction.targets : Instruction → List Nat
  | .take _ next => [next]
  | .check _ next => [next]
  | .fork first second => [first, second]
  | .mark _ next => [next]
  | .jump next => [next]
  | .accept => []

/-- No instruction leads out of the program. -/
def Program.Enclosed (p : Program) : Prop :=
  ∀ (a : Nat) (i : Instruction), p.instructions[a]? = some i → ∀ b ∈ i.targets, b < p.size

/-- The threads that one instruction makes of a thread, in order of preference. -/
def Program.successors (p : Program) (t : Thread) : List Thread :=
  match p.instructions[t.address]? with
  | none => []
  | some .accept => []
  | some (.jump next) => [{ t with address := next }]
  | some (.mark slot next) => [⟨next, t.cursor, (slot, t.cursor.offset) :: t.slots⟩]
  | some (.fork first second) => [{ t with address := first }, { t with address := second }]
  | some (.check a next) =>
      if a.holds t.cursor.before t.cursor.after then [{ t with address := next }] else []
  | some (.take chars next) =>
      match t.cursor.rest with
      | [] => []
      | c :: rest => if chars.contains c then [⟨next, t.cursor.past c rest, t.slots⟩] else []

/-- The key of an address and a place. -/
def Program.key (p : Program) (origin a : Nat) (x : Cursor) : Nat :=
  (x.offset - origin) * p.size + a

/-- An address of the program and a place of the text, not before the origin. -/
structure Program.Within (p : Program) (text : List Char) (origin a : Nat) (x : Cursor) : Prop where
  place : x.LiesIn text
  origin : origin ≤ x.offset
  address : a < p.size

theorem Visited.has_append_replicate (seen : Visited) (n other : Nat) :
    Visited.has (seen ++ Array.replicate n false) other = seen.has other := by
  unfold has
  simp only [Array.getD_eq_getD_getElem?, Array.getElem?_append]
  split
  · rfl
  · next hbig =>
      rw [Array.getElem?_eq_none (Nat.le_of_not_lt hbig), Array.getElem?_replicate]
      split <;> rfl

theorem Visited.has_add (seen : Visited) (key other : Nat) :
    (seen.add key).has other = (decide (other = key) || seen.has other) := by
  unfold add
  by_cases hkey : key < seen.size
  · rw [if_pos hkey]
    unfold has
    by_cases hother : other = key
    · simp [hother, hkey]
    · simp [hother, Ne.symm hother]
  · rw [if_neg hkey, ← has_append_replicate seen (key - seen.size) other]
    have hsize : (seen ++ Array.replicate (key - seen.size) false).size = key := by
      rw [Array.size_append, Array.size_replicate]
      omega
    generalize seen ++ Array.replicate (key - seen.size) false = grown at hsize
    unfold has
    rw [Array.getD_eq_getD_getElem?, Array.getElem?_push, hsize]
    by_cases hother : other = key
    · simp [hother]
    · simp [hother]

/-- How many of the keys below a bound were not entered. -/
def Visited.unseen (seen : Visited) (bound : Nat) : Nat :=
  ((List.range bound).filter fun key => !seen.has key).length

theorem Visited.unseen_add {seen : Visited} {key bound : Nat} (hkey : key < bound)
    (hnew : seen.has key = false) : (seen.add key).unseen bound + 1 ≤ seen.unseen bound := by
  have hfilter : (List.range bound).filter (fun other => !(seen.add key).has other) =
      ((List.range bound).filter fun other => !seen.has other).filter (· != key) := by
    rw [List.filter_filter]
    congr 1
    funext other
    rw [has_add]
    by_cases hother : other = key <;> simp [hother]
  unfold unseen
  rw [hfilter, Nat.add_one_le_iff]
  apply List.length_filter_lt_length_iff_exists.mpr
  exact ⟨key, by simp [hkey, hnew], by simp⟩

theorem Visited.unseen_le (seen : Visited) (bound : Nat) : seen.unseen bound ≤ bound := by
  unfold unseen
  exact (List.length_filter_le _ _).trans_eq List.length_range

namespace Program

variable {p : Program} {text : List Char} {origin a b : Nat} {x y stop : Cursor} {t u : Thread}
  {waiting : List Thread} {seen seen' : Visited} {fuel : Nat}

theorem length_successors_le (p : Program) (t : Thread) : (p.successors t).length ≤ 2 := by
  unfold successors
  repeat' split
  all_goals simp

/-- The successors of a thread are where one step leads. -/
theorem step_iff : p.Step t.address t.cursor b y ↔
    ∃ u ∈ p.successors t, u.address = b ∧ u.cursor = y := by
  constructor
  · intro hstep
    unfold successors
    cases hstep with
    | jump hat => simp [hat]
    | mark hat => simp [hat]
    | first hat => simp [hat]
    | second hat => simp [hat]
    | check hat hholds => simp [hat, hholds]
    | take hat hrest hc => simp [hat, hrest, hc]
  · rintro ⟨u, hu, rfl, rfl⟩
    unfold successors at hu
    split at hu
    · cases hu
    · cases hu
    · next hat =>
        obtain rfl := List.mem_singleton.mp hu
        exact .jump hat
    · next hat =>
        obtain rfl := List.mem_singleton.mp hu
        exact .mark hat
    · next hat =>
        rcases List.mem_pair.mp hu with rfl | rfl
        · exact .first hat
        · exact .second hat
    · next hat =>
        split at hu
        · next hholds =>
            obtain rfl := List.mem_singleton.mp hu
            exact .check hat hholds
        · cases hu
    · next hat =>
        split at hu
        · cases hu
        · next hrest =>
            split at hu
            · next hc =>
                obtain rfl := List.mem_singleton.mp hu
                exact .take hat hrest hc
            · cases hu

/-- An exploration passes over what was entered, ends at acceptance, and else goes on with the
successors. -/
theorem explore_cons (p : Program) (origin fuel : Nat) (t : Thread) (waiting : List Thread)
    (seen : Visited) :
    explore p origin (fuel + 1) (t :: waiting) seen =
      if seen.has (p.key origin t.address t.cursor) then explore p origin fuel waiting seen
      else if p.instructions[t.address]? = some .accept then .ok (t.cursor, t.slots)
      else explore p origin fuel (p.successors t ++ waiting)
        (seen.add (p.key origin t.address t.cursor)) := by
  rw [explore]
  unfold key successors
  simp only
  split
  · rfl
  · cases hat : p.instructions[t.address]? with
    | none => rfl
    | some i =>
        cases i with
        | accept => simp
        | jump next => simp
        | mark slot next => simp
        | fork first second => simp
        | check assertion next =>
            simp only [Option.some.injEq, reduceCtorEq, if_false]
            split <;> rfl
        | take s next =>
            simp only [Option.some.injEq, reduceCtorEq, if_false]
            cases t.cursor.rest with
            | nil => rfl
            | cons c rest =>
                simp only
                split <;> rfl

theorem Within.of_step (henclosed : p.Enclosed) (hwithin : p.Within text origin a x)
    (hstep : p.Step a x b y) : p.Within text origin b y := by
  obtain ⟨hplace, horigin, _⟩ := hwithin
  cases hstep with
  | jump hat => exact ⟨hplace, horigin, henclosed _ _ hat _ (by simp [Instruction.targets])⟩
  | mark hat => exact ⟨hplace, horigin, henclosed _ _ hat _ (by simp [Instruction.targets])⟩
  | first hat => exact ⟨hplace, horigin, henclosed _ _ hat _ (by simp [Instruction.targets])⟩
  | second hat => exact ⟨hplace, horigin, henclosed _ _ hat _ (by simp [Instruction.targets])⟩
  | check hat => exact ⟨hplace, horigin, henclosed _ _ hat _ (by simp [Instruction.targets])⟩
  | take hat hrest =>
      exact ⟨hplace.past hrest, horigin.trans (Nat.le_add_right _ _),
        henclosed _ _ hat _ (by simp [Instruction.targets])⟩

/-- Different addresses and places have different keys. -/
theorem Within.eq_of_key (hx : p.Within text origin a x) (hy : p.Within text origin b y)
    (hkey : p.key origin a x = p.key origin b y) : a = b ∧ x = y := by
  unfold key at hkey
  have hpos : 0 < p.size := Nat.zero_lt_of_lt hx.address
  obtain ⟨hdiv, hmod⟩ := (Nat.div_mod_unique hpos).mpr
    ⟨show a + p.size * (x.offset - origin) = (x.offset - origin) * p.size + a by ring, hx.address⟩
  obtain ⟨hdiv', hmod'⟩ := (Nat.div_mod_unique hpos).mpr
    ⟨show b + p.size * (y.offset - origin) = (y.offset - origin) * p.size + b by ring, hy.address⟩
  rw [hkey, hdiv'] at hdiv
  rw [hkey, hmod'] at hmod
  have horigin := hx.origin
  have horigin' := hy.origin
  exact ⟨hmod.symm, hx.place.eq_of_offset hy.place (by omega)⟩

/-- How many keys there are for a text. -/
def keyBound (p : Program) (text : List Char) : Nat := p.size * (byteSize text + 1)

theorem Within.key_lt (hx : p.Within text origin a x) :
    p.key origin a x < p.keyBound text := by
  have hoffset := hx.place.offset_add
  have hle : (x.offset - origin) * p.size ≤ byteSize text * p.size :=
    Nat.mul_le_mul_right _ (by omega)
  have haddress := hx.address
  unfold key keyBound
  rw [Nat.mul_add, Nat.mul_comm p.size]
  omega

/-- The threads stay within the program and the text, and the fuel is enough for them. -/
structure Ready (p : Program) (text : List Char) (origin fuel : Nat) (waiting : List Thread)
    (seen : Visited) : Prop where
  within : ∀ t ∈ waiting, p.Within text origin t.address t.cursor
  fuel : 2 * seen.unseen (p.keyBound text) + waiting.length ≤ fuel

theorem Ready.of_seen (hready : p.Ready text origin (fuel + 1) (t :: waiting) seen) :
    p.Ready text origin fuel waiting seen := by
  refine ⟨fun u hu => hready.within u (List.mem_cons_of_mem _ hu), ?_⟩
  have hfuel := hready.fuel
  rw [List.length_cons] at hfuel
  omega

theorem Ready.of_new (henclosed : p.Enclosed)
    (hready : p.Ready text origin (fuel + 1) (t :: waiting) seen)
    (hnew : seen.has (p.key origin t.address t.cursor) = false) :
    p.Ready text origin fuel (p.successors t ++ waiting)
      (seen.add (p.key origin t.address t.cursor)) := by
  have hhere := hready.within t List.mem_cons_self
  refine ⟨?_, ?_⟩
  · intro u hu
    rcases List.mem_append.mp hu with hu | hu
    · exact hhere.of_step henclosed (step_iff.mpr ⟨u, hu, rfl, rfl⟩)
    · exact hready.within u (List.mem_cons_of_mem _ hu)
  · have hfuel := hready.fuel
    have hless := Visited.unseen_add hhere.key_lt hnew
    have hfew := length_successors_le p t
    rw [List.length_cons] at hfuel
    rw [List.length_append]
    omega

/-- An exploration that accepts has come there from one of its threads. -/
theorem accepts_of_explore {slots : Slots}
    (hexplore : explore p origin fuel waiting seen = .ok (stop, slots)) :
    ∃ t ∈ waiting, p.Accepts t.address t.cursor stop := by
  induction fuel generalizing waiting seen with
  | zero => cases hexplore
  | succ fuel ih =>
      cases waiting with
      | nil => cases hexplore
      | cons t waiting =>
          rw [explore_cons] at hexplore
          split at hexplore
          · obtain ⟨u, hu, haccepts⟩ := ih hexplore
            exact ⟨u, List.mem_cons_of_mem _ hu, haccepts⟩
          · split at hexplore
            · next hat =>
                cases hexplore
                exact ⟨t, List.mem_cons_self, 0, .accept hat⟩
            · obtain ⟨u, hu, haccepts⟩ := ih hexplore
              rcases List.mem_append.mp hu with hu | hu
              · exact ⟨t, List.mem_cons_self,
                  haccepts.step (step_iff.mpr ⟨u, hu, rfl, rfl⟩)⟩
              · exact ⟨u, List.mem_cons_of_mem _ hu, haccepts⟩

/-- What a failed exploration has entered: what was entered before, all its threads, and wherever
steps lead from there. -/
structure Explored (p : Program) (text : List Char) (origin : Nat) (waiting : List Thread)
    (seen seen' : Visited) : Prop where
  keeps : ∀ key, seen.has key = true → seen'.has key = true
  covers : ∀ t ∈ waiting, seen'.has (p.key origin t.address t.cursor) = true
  closes : ∀ a x, p.Within text origin a x → seen'.has (p.key origin a x) = true →
    seen.has (p.key origin a x) = true ∨ p.instructions[a]? ≠ some .accept ∧
      ∀ b y, p.Step a x b y → seen'.has (p.key origin b y) = true

theorem Explored.refl (p : Program) (text : List Char) (origin : Nat) (seen : Visited) :
    p.Explored text origin [] seen seen := ⟨fun _ => id, nofun, fun _ _ _ => Or.inl⟩

theorem explored_of_explore (henclosed : p.Enclosed)
    (hready : p.Ready text origin fuel waiting seen)
    (hexplore : explore p origin fuel waiting seen = .error seen') :
    p.Explored text origin waiting seen seen' := by
  induction fuel generalizing waiting seen with
  | zero =>
      have hfuel := hready.fuel
      obtain rfl : waiting = [] := List.eq_nil_of_length_eq_zero (by omega)
      cases hexplore
      exact .refl p text origin _
  | succ fuel ih =>
      cases waiting with
      | nil =>
          cases hexplore
          exact .refl p text origin _
      | cons t waiting =>
          rw [explore_cons] at hexplore
          split at hexplore
          · next hseen =>
              have hmore := ih hready.of_seen hexplore
              refine ⟨hmore.keeps, ?_, hmore.closes⟩
              intro u hu
              rcases List.mem_cons.mp hu with rfl | hu
              · exact hmore.keeps _ hseen
              · exact hmore.covers u hu
          · next hnew =>
              have hnew : seen.has (p.key origin t.address t.cursor) = false := by simpa using hnew
              split at hexplore
              · cases hexplore
              · next hother =>
                  have hmore := ih (hready.of_new henclosed hnew) hexplore
                  have hkeeps : ∀ key, seen.has key = true → seen'.has key = true := by
                    intro key hkey
                    apply hmore.keeps
                    rw [Visited.has_add, hkey, Bool.or_true]
                  have hhere : seen'.has (p.key origin t.address t.cursor) = true := by
                    apply hmore.keeps
                    simp [Visited.has_add]
                  refine ⟨hkeeps, ?_, ?_⟩
                  · intro u hu
                    rcases List.mem_cons.mp hu with rfl | hu
                    · exact hhere
                    · exact hmore.covers u (List.mem_append_right _ hu)
                  · intro a x hwithin hentered
                    rcases hmore.closes a x hwithin hentered with hbefore | hclosed
                    · rw [Visited.has_add, Bool.or_eq_true, decide_eq_true_eq] at hbefore
                      rcases hbefore with hkey | hbefore
                      · right
                        obtain ⟨rfl, rfl⟩ :=
                          hwithin.eq_of_key (hready.within t List.mem_cons_self) hkey
                        refine ⟨hother, fun b y hstep => ?_⟩
                        obtain ⟨u, hu, rfl, rfl⟩ := step_iff.mp hstep
                        exact hmore.covers u (List.mem_append_left _ hu)
                      · exact Or.inl hbefore
                    · exact Or.inr hclosed

/-- What was entered is closed under steps and does not accept. -/
def Barren (p : Program) (text : List Char) (origin : Nat) (seen : Visited) : Prop :=
  ∀ a x, p.Within text origin a x → seen.has (p.key origin a x) = true →
    p.instructions[a]? ≠ some .accept ∧ ∀ b y, p.Step a x b y → seen.has (p.key origin b y) = true

theorem barren_empty (p : Program) (text : List Char) (origin : Nat) :
    p.Barren text origin #[] := nofun

theorem Explored.barren (hexplored : p.Explored text origin waiting seen seen')
    (hbarren : p.Barren text origin seen) : p.Barren text origin seen' := by
  intro a x hwithin hentered
  rcases hexplored.closes a x hwithin hentered with hbefore | hclosed
  · obtain ⟨hother, hsteps⟩ := hbarren a x hwithin hbefore
    exact ⟨hother, fun b y hstep => hexplored.keeps _ (hsteps b y hstep)⟩
  · exact hclosed

theorem Barren.not_accepts (hbarren : p.Barren text origin seen) (henclosed : p.Enclosed)
    (hwithin : p.Within text origin a x) (hentered : seen.has (p.key origin a x) = true) :
    ¬ p.Accepts a x stop := by
  rintro ⟨n, hrun⟩
  induction hrun with
  | accept hat => exact (hbarren _ _ hwithin hentered).1 hat
  | step hstep _ ih =>
      exact ih (hwithin.of_step henclosed hstep) ((hbarren _ _ hwithin hentered).2 _ _ hstep)

/-! ### From place to place -/

/-- Between two places of a text there is the character after the first one. -/
theorem past_offset_le {c : Char} {rest : List Char} (hx : x.LiesIn text) (hy : y.LiesIn text)
    (hrest : x.rest = c :: rest) (hlt : x.offset < y.offset) :
    (x.past c rest).offset ≤ y.offset := by
  obtain ⟨before, htext, _, hoffset⟩ := hx
  obtain ⟨before', htext', _, hoffset'⟩ := hy
  have hsplit : before ++ x.rest = before' ++ y.rest := htext.symm.trans htext'
  obtain ⟨more, rfl⟩ := isPrefix_of_byteSize_le hsplit (by omega)
  rw [hrest, List.append_assoc] at hsplit
  have hmore := List.append_cancel_left hsplit
  cases more with
  | nil =>
      rw [List.append_nil] at hoffset'
      omega
  | cons d more =>
      obtain ⟨rfl, _⟩ := List.cons.inj hmore
      rw [byteSize_append, byteSize_cons] at hoffset'
      have hpast : (x.past c rest).offset = x.offset + c.utf8Size := rfl
      omega

/-- What a search finds is a way to acceptance from a place that is not before its start; if it finds
nothing there is no such way. -/
inductive Searched (p : Program) (text : List Char) (offset : Nat) : Option Found → Prop
  | found (found : Found) (hplace : found.start.LiesIn text) (hoffset : offset ≤ found.start.offset)
      (haccepts : p.Accepts 0 found.start found.stop) : Searched p text offset (some found)
  | missing (hnone : ∀ x stop, x.LiesIn text → offset ≤ x.offset → ¬ p.Accepts 0 x stop) :
      Searched p text offset none

theorem Searched.of_past {c : Char} {rest : List Char} {outcome : Option Found}
    (hx : x.LiesIn text) (hrest : x.rest = c :: rest) (hnone : ∀ stop, ¬ p.Accepts 0 x stop)
    (hlater : p.Searched text (x.past c rest).offset outcome) :
    p.Searched text x.offset outcome := by
  have hle : x.offset ≤ (x.past c rest).offset := Nat.le_add_right _ _
  cases hlater with
  | found found hplace hoffset haccepts => exact .found found hplace (hle.trans hoffset) haccepts
  | missing hmore =>
      refine .missing fun y stop hy hoffset => ?_
      rcases Nat.eq_or_lt_of_le hoffset with heq | hlt
      · rw [← hx.eq_of_offset hy heq]
        exact hnone stop
      · exact hmore y stop hy (past_offset_le hx hy hrest hlt)

theorem ready_start (hpos : 0 < p.size) (hplace : x.LiesIn text) (horigin : origin ≤ x.offset)
    (hfuel : 2 * p.keyBound text + 1 ≤ fuel) (seen : Visited) :
    p.Ready text origin fuel [⟨0, x, []⟩] seen := by
  refine ⟨?_, ?_⟩
  · intro t ht
    obtain rfl := List.mem_singleton.mp ht
    exact ⟨hplace, horigin, hpos⟩
  · have hunseen := seen.unseen_le (p.keyBound text)
    rw [List.length_singleton]
    omega

theorem searched_firstFrom (henclosed : p.Enclosed) (hpos : 0 < p.size)
    (hfuel : 2 * p.keyBound text + 1 ≤ fuel) {before : Option Char} {rest : List Char}
    {offset : Nat} (hplace : Cursor.LiesIn text ⟨before, rest, offset⟩) (horigin : origin ≤ offset)
    (hbarren : p.Barren text origin seen) :
    p.Searched text offset (firstFrom p fuel origin seen before rest offset) := by
  have hready : ∀ {origin before rest offset} (seen : Visited),
      Cursor.LiesIn text ⟨before, rest, offset⟩ → origin ≤ offset →
      p.Ready text origin fuel [⟨0, ⟨before, rest, offset⟩, []⟩] seen :=
    fun seen hplace horigin => ready_start hpos hplace horigin hfuel seen
  -- A failed exploration leaves nothing at its place and goes on with barren keys.
  have hfailed : ∀ {origin before rest offset} {seen seen' : Visited},
      Cursor.LiesIn text ⟨before, rest, offset⟩ → origin ≤ offset →
      p.Barren text origin seen →
      explore p origin fuel [⟨0, ⟨before, rest, offset⟩, []⟩] seen = .error seen' →
      p.Barren text origin seen' ∧ ∀ stop, ¬ p.Accepts 0 ⟨before, rest, offset⟩ stop := by
    intro origin before rest offset seen seen' hplace horigin hbarren hexplore
    have hexplored := explored_of_explore henclosed (hready seen hplace horigin) hexplore
    have hmore := hexplored.barren hbarren
    refine ⟨hmore, fun stop => ?_⟩
    exact hmore.not_accepts henclosed ⟨hplace, horigin, hpos⟩
      (hexplored.covers _ List.mem_cons_self)
  have haccepts : ∀ {origin before rest offset} {seen : Visited} {stop : Cursor} {slots : Slots},
      explore p origin fuel [⟨0, ⟨before, rest, offset⟩, []⟩] seen = .ok (stop, slots) →
      p.Accepts 0 ⟨before, rest, offset⟩ stop := by
    intro origin before rest offset seen stop slots hexplore
    obtain ⟨t, ht, haccepts⟩ := accepts_of_explore hexplore
    obtain rfl := List.mem_singleton.mp ht
    exact haccepts
  induction rest generalizing before offset origin seen with
  | nil =>
      simp only [firstFrom]
      split
      · next stop slots hexplore =>
          exact .found _ hplace (Nat.le_refl _) (haccepts hexplore)
      · next seen' hexplore =>
          obtain ⟨_, hnone⟩ := hfailed hplace horigin hbarren hexplore
          refine .missing fun x stop hx hle => ?_
          have hend := hplace.offset_add
          have hxend := hx.offset_add
          simp only [byteSize_nil] at hend
          rw [hx.eq_of_offset hplace (show x.offset = offset by omega)]
          exact hnone stop
  | cons c rest ih =>
      simp only [firstFrom]
      split
      · next stop slots hexplore =>
          exact .found _ hplace (Nat.le_refl _) (haccepts hexplore)
      · next seen' hexplore =>
          obtain ⟨hmore, hnone⟩ := hfailed hplace horigin hbarren hexplore
          have hnext : Cursor.LiesIn text ⟨some c, rest, offset + c.utf8Size⟩ := hplace.past rfl
          apply Searched.of_past hplace rfl hnone
          split
          · exact ih hnext (Nat.le_refl _) (barren_empty p text _)
          · exact ih hnext (horigin.trans (Nat.le_add_right _ _)) hmore

theorem searched_firstAt (henclosed : p.Enclosed) (hpos : 0 < p.size)
    (hfuel : 2 * p.keyBound text + 1 ≤ fuel) (hx : x.LiesIn text) :
    p.Searched text x.offset (firstAt p fuel x) :=
  searched_firstFrom henclosed hpos hfuel hx (Nat.le_refl _) (barren_empty p text _)

end Program

/-! ### Programs of terms -/

namespace Core

variable {r : Core} {text : List Char}

theorem size_pos (r : Core) : 0 < r.size := by
  induction r with
  | empty | set | look => exact Nat.one_pos
  | seq a b iha ihb => exact Nat.add_pos_left iha _
  | star g a ih =>
      unfold size
      split <;> omega
  | alt | opt | plus | group =>
      unfold size
      omega

theorem targets_code {pos next b : Nat} {i : Instruction} (hi : i ∈ r.code pos next)
    (hb : b ∈ i.targets) : pos ≤ b ∧ b < pos + r.size ∨ b = next := by
  have hloop : ∀ {greedy : Bool} {body exit : Nat}, i = loopFork greedy body exit →
      b = body ∨ b = exit := by
    rintro greedy body exit rfl
    cases greedy with
    | true => simpa [loopFork, Instruction.targets] using hb
    | false => simpa [loopFork, Instruction.targets, or_comm] using hb
  induction r generalizing pos next with
  | empty | set | look =>
      obtain rfl := List.mem_singleton.mp hi
      exact Or.inr (by simpa [Instruction.targets] using hb)
  | seq a b' iha ihb =>
      have hb := b'.size_pos
      unfold size
      rcases List.mem_append.mp hi with hi | hi
      · have ha := iha hi
        omega
      · have hb := ihb hi
        omega
  | alt a b' iha ihb =>
      have ha := a.size_pos
      have hb' := b'.size_pos
      unfold size
      rcases List.mem_cons.mp hi with rfl | hi
      · have hfork : b = pos + 1 ∨ b = pos + 1 + a.size := by
          simpa [Instruction.targets] using hb
        omega
      · rcases List.mem_append.mp hi with hi | hi
        · have hleft := iha hi
          omega
        · have hright := ihb hi
          omega
  | opt g a ih =>
      have ha := a.size_pos
      unfold size
      rcases List.mem_cons.mp hi with hfork | hi
      · have hto := hloop hfork
        omega
      · have hbody := ih hi
        omega
  | star g a ih =>
      have ha := a.size_pos
      unfold code at hi
      unfold size
      split at hi
      · next hempty =>
          rw [if_pos hempty]
          rcases List.mem_cons.mp hi with hfork | hi
          · have hto := hloop hfork
            omega
          · rcases List.mem_append.mp hi with hi | hi
            · have hbody := ih hi
              omega
            · have hto := hloop (List.mem_singleton.mp hi)
              omega
      · next hempty =>
          rw [if_neg hempty]
          rcases List.mem_cons.mp hi with hfork | hi
          · have hto := hloop hfork
            omega
          · have hbody := ih hi
            omega
  | plus g a ih =>
      have ha := a.size_pos
      unfold size
      rcases List.mem_append.mp hi with hi | hi
      · have hbody := ih hi
        omega
      · have hto := hloop (List.mem_singleton.mp hi)
        omega
  | group index name a ih =>
      have ha := a.size_pos
      unfold size
      rcases List.mem_cons.mp hi with rfl | hi
      · have hmark : b = pos + 1 := by simpa [Instruction.targets] using hb
        omega
      · rcases List.mem_append.mp hi with hi | hi
        · have hbody := ih hi
          omega
        · obtain rfl := List.mem_singleton.mp hi
          exact Or.inr (by simpa [Instruction.targets] using hb)

theorem size_ofCore (r : Core) : (Program.ofCore r).size = r.size + 1 := by
  simp [Program.ofCore, Program.size]

theorem enclosed_ofCore (r : Core) : (Program.ofCore r).Enclosed := by
  intro a i hat b hb
  rw [size_ofCore]
  have hmem : i ∈ r.code 0 r.size ++ [Instruction.accept] := by
    have hget : (r.code 0 r.size ++ [Instruction.accept])[a]? = some i := by
      simpa [Program.ofCore] using hat
    exact List.mem_of_getElem? hget
  rcases List.mem_append.mp hmem with hi | hi
  · have hto := targets_code hi hb
    omega
  · obtain rfl := List.mem_singleton.mp hi
    cases hb

theorem fuel_ofCore (r : Core) (text : List Char) :
    2 * (Program.ofCore r).keyBound text + 1 ≤ searchFuel (Program.ofCore r) (byteSize text) := by
  unfold Program.keyBound searchFuel
  omega

/-- A search with the program of a term finds what the term matches. -/
theorem searched_ofCore {x : Cursor} (hx : x.LiesIn text) :
    (Program.ofCore r).Searched text x.offset
      (firstAt (Program.ofCore r) (searchFuel (Program.ofCore r) (byteSize text)) x) := by
  apply Program.searched_firstAt (enclosed_ofCore r) _ (fuel_ofCore r text) hx
  rw [size_ofCore]
  exact Nat.succ_pos _

end Core
end Regex

open Regex TextLines

theorem TextRule.program_of_compileWith {flags : Flags} {source : String} {rule : TextRule}
    (hcompile : TextRule.compileWith flags source = .ok rule) :
    parse flags source = .ok rule.core ∧ rule.program = .ofCore rule.core := by
  unfold TextRule.compileWith at hcompile
  cases hparse : parse flags source with
  | error e =>
      rw [hparse] at hcompile
      cases hcompile
  | ok core =>
      rw [hparse] at hcompile
      cases hcompile
      exact ⟨rfl, rfl⟩

/-- A rule is read to its end, outside all groups. -/
theorem TextRule.exists_finish_of_compileWith {flags : Flags} {source : String} {rule : TextRule}
    (hcompile : TextRule.compileWith flags source = .ok rule) :
    ∃ s, Reading.finish (source.toList.length + 1) (.initial flags) source.toList = .ok s ∧
      s.enclosing = [] ∧ s.whole.core = rule.core := by
  obtain ⟨piece, hrun, _, _, hcore⟩ := parse_eq_ok_iff.mp (program_of_compileWith hcompile).1
  obtain ⟨s, hfinish, hclosed, rfl⟩ := Reading.exists_finish_of_run hrun
  exact ⟨s, hfinish, hclosed, hcore⟩

/-- A rule finds something in a text exactly if its term matches between two places of the text. -/
theorem TextRule.isMatch_iff {flags : Flags} {source : String} {rule : TextRule}
    (hcompile : TextRule.compileWith flags source = .ok rule) (text : String) :
    rule.isMatch text = true ↔
      ∃ x y, x.LiesIn text.toList ∧ rule.core.Matches x y := by
  obtain ⟨_, hprogram⟩ := program_of_compileWith hcompile
  unfold isMatch
  simp only
  rw [hprogram]
  have hsearched := Core.searched_ofCore (r := rule.core) (Cursor.liesIn_start text.toList)
  generalize firstAt (.ofCore rule.core) _ (.start text.toList) = outcome at hsearched ⊢
  cases hsearched with
  | found found hplace _ haccepts =>
      exact iff_of_true rfl ⟨_, _, hplace, Core.accepts_ofCore_iff.mp haccepts⟩
  | missing hnone =>
      refine iff_of_false nofun ?_
      rintro ⟨x, y, hx, hmatches⟩
      exact hnone x y hx (Nat.zero_le _) (Core.accepts_ofCore_iff.mpr hmatches)

/-- The rule finds something in the text: however many matches are allowed, it does not answer that
there are none. -/
def TextRule.Finds (rule : TextRule) (text : String) : Prop :=
  ∀ limit, rule.findAll text limit ≠ .ok []

theorem nextFrom_first (p : Program) (fuel : Nat) (x : Cursor) :
    nextFrom p fuel x none = firstAt p fuel x := by
  unfold nextFrom
  cases firstAt p fuel x <;> simp

theorem TextRule.findAll_eq_nil_iff {rule : TextRule} {text : String} {limit : Nat} :
    rule.findAll text limit = .ok [] ↔ rule.isMatch text = false := by
  unfold findAll isMatch
  simp only
  generalize searchFuel rule.program _ = fuel
  cases hfirst : firstAt rule.program fuel (.start text.toList) with
  | none =>
      refine iff_of_true ?_ rfl
      cases limit <;> simp [allFrom, nextFrom_first, hfirst]
  | some found =>
      refine iff_of_false ?_ (by simp)
      cases limit with
      | zero => simp [allFrom, nextFrom_first, hfirst]
      | succ limit =>
          unfold allFrom
          simp only [nextFrom_first, hfirst]
          cases allFrom rule.program fuel limit found.stop (some found.stop.offset) <;> simp

theorem TextRule.finds_iff_isMatch {rule : TextRule} {text : String} :
    rule.Finds text ↔ rule.isMatch text = true := by
  unfold Finds
  simp only [ne_eq, findAll_eq_nil_iff, Bool.not_eq_false, forall_const]

theorem TextRule.finds_iff_matches {flags : Flags} {source : String} {rule : TextRule}
    (hcompile : TextRule.compileWith flags source = .ok rule) {text : String} :
    rule.Finds text ↔ ∃ x y, x.LiesIn text.toList ∧ rule.core.Matches x y :=
  finds_iff_isMatch.trans (isMatch_iff hcompile text)

theorem TextRule.exists_of_any_isMatch {source text : String}
    (hany : (TextRule.compile source).toOption.any (·.isMatch text) = true) :
    ∃ rule, TextRule.compile source = .ok rule ∧ rule.Finds text := by
  cases hcompile : TextRule.compile source with
  | error e =>
      rw [hcompile] at hany
      cases hany
  | ok rule =>
      rw [hcompile] at hany
      exact ⟨rule, rfl, finds_iff_isMatch.mpr hany⟩

end AdaptiveRules
