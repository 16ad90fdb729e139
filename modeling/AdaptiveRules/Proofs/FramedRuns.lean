import AdaptiveRules.Proofs.RegexComposition
import AdaptiveRules.Proofs.RegexPreference

/-!
# Runs of characters in a frame

A framed run is a text, a greedy run of characters of one set, and another text.  Where the whole rest
of a text has this form, the program prefers the way to its end: the run gives characters back only
as long as what is left is too short for the text that has to follow.
-/

namespace AdaptiveRules
namespace Regex

open TextLines Relation

namespace Core

/-- A greedy run of characters of a set. -/
def run (nonempty : Bool) (s : CharSet) : Core :=
  if nonempty then plus true (set s) else star true (set s)

/-- The items of a framed run. -/
def framed (front : List Char) (nonempty : Bool) (s : CharSet) (back : List Char) : List Core :=
  front.map char ++ run nonempty s :: back.map char

/-- The middle can be taken by the run. -/
def FitsRun (nonempty : Bool) (s : CharSet) (middle : List Char) : Prop :=
  (nonempty = true → middle ≠ []) ∧ ∀ c ∈ middle, s.contains c = true

/-! ### The items of framed runs -/

/-- What holds of characters and of the run holds of each item. -/
theorem forall_mem_framed {P : Core → Prop} {front back : List Char} {nonempty : Bool}
    {s : CharSet} (hchar : ∀ c, P (char c)) (hrun : P (run nonempty s)) :
    ∀ r ∈ framed front nonempty s back, P r := by
  have hchars : ∀ cs : List Char, ∀ r ∈ cs.map char, P r :=
    fun cs => List.forall_mem_map.mpr fun c _ => hchar c
  exact List.forall_mem_append.mpr ⟨hchars front, List.forall_mem_cons.mpr ⟨hrun, hchars back⟩⟩

theorem rest_of_matches_char {c : Char} {x y : Cursor} (hmatches : (char c).Matches x y) :
    x.rest = c :: y.rest := by
  obtain ⟨d, rest, hrest, hd, rfl⟩ := hmatches
  rw [CharSet.contains_singleton, decide_eq_true_eq] at hd
  rw [hrest, hd]
  rfl

theorem exists_of_matches_chars {cs : List Char} {items : List Core} {x z : Cursor}
    (hmatches : (ofParts (cs.map char ++ items)).Matches x z) :
    ∃ y, x.rest = cs ++ y.rest ∧ (ofParts items).Matches y z := by
  induction cs generalizing x with
  | nil => exact ⟨x, rfl, hmatches⟩
  | cons c cs ih =>
      obtain ⟨w, hfirst, hmore⟩ := matches_ofParts_cons.mp hmatches
      obtain ⟨y, hrest, hitems⟩ := ih hmore
      exact ⟨y, by rw [rest_of_matches_char hfirst, hrest, List.cons_append], hitems⟩

theorem exists_of_matches_run {nonempty : Bool} {s : CharSet} {x y : Cursor}
    (hmatches : (run nonempty s).Matches x y) :
    ∃ middle, x.rest = middle ++ y.rest ∧ FitsRun nonempty s middle := by
  have hone : ∀ {x y : Cursor}, (set s).Matches x y →
      ∃ c, x.rest = c :: y.rest ∧ s.contains c = true := by
    rintro x y ⟨c, rest, hrest, hc, rfl⟩
    exact ⟨c, hrest, hc⟩
  have hmany : ∀ {x y : Cursor}, ReflTransGen (set s).Matches x y →
      ∃ middle, x.rest = middle ++ y.rest ∧ ∀ c ∈ middle, s.contains c = true := by
    intro x y hsteps
    induction hsteps using ReflTransGen.head_induction_on with
    | refl => exact ⟨[], rfl, nofun⟩
    | head hfirst _ ih =>
        obtain ⟨c, hrest, hc⟩ := hone hfirst
        obtain ⟨middle, hmiddle, hall⟩ := ih
        exact ⟨c :: middle, by rw [hrest, hmiddle, List.cons_append],
          List.forall_mem_cons.mpr ⟨hc, hall⟩⟩
  cases nonempty with
  | false =>
      obtain ⟨middle, hrest, hall⟩ := hmany hmatches
      exact ⟨middle, hrest, nofun, hall⟩
  | true =>
      obtain ⟨w, hfirst, hmore⟩ := TransGen.head'_iff.mp hmatches
      obtain ⟨c, hrest, hc⟩ := hone hfirst
      obtain ⟨middle, hmiddle, hall⟩ := hmany hmore
      exact ⟨c :: middle, by rw [hrest, hmiddle, List.cons_append], fun _ => List.cons_ne_nil _ _,
        List.forall_mem_cons.mpr ⟨hc, hall⟩⟩

/-- A framed run from the start to the end of a text is made of its parts. -/
theorem exists_of_matches_framed {front back : List Char} {nonempty : Bool} {s : CharSet}
    {text : List Char} {x y : Cursor} (hx : x.LiesIn text)
    (hmatches : (ofParts (look .textStart :: (framed front nonempty s back ++
      [look .textEnd]))).Matches x y) :
    ∃ middle, text = front ++ (middle ++ back) ∧ FitsRun nonempty s middle := by
  obtain ⟨w, ⟨hstart, rfl⟩, hmatches⟩ := matches_ofParts_cons.mp hmatches
  obtain rfl := hx.eq_start (by simpa [Assertion.holds] using hstart)
  unfold framed at hmatches
  rw [List.append_assoc] at hmatches
  obtain ⟨u, hfront, hmatches⟩ := exists_of_matches_chars hmatches
  obtain ⟨v, hrun, hmatches⟩ := matches_ofParts_cons.mp hmatches
  obtain ⟨middle, hmiddle, hfits⟩ := exists_of_matches_run hrun
  obtain ⟨z, hback, hmatches⟩ := exists_of_matches_chars hmatches
  obtain ⟨hend, rfl⟩ : Assertion.textEnd.holds z.before z.after = true ∧ z = y := hmatches
  have hlast : z.rest = [] := by
    simpa [Assertion.holds, Cursor.after] using hend
  refine ⟨middle, ?_, hfits⟩
  rw [← List.append_nil back, ← hlast, ← hback, ← hmiddle]
  exact hfront

/-! ### The least that is matched -/

/-- The least number of characters that a match takes. -/
def least : Core → Nat
  | empty => 0
  | set _ => 1
  | look _ => 0
  | seq a b => a.least + b.least
  | alt a b => min a.least b.least
  | opt _ _ => 0
  | star _ _ => 0
  | plus _ a => a.least
  | group _ _ a => a.least

end Core

/-! ### The preferred way through a framed run -/

namespace Program

variable {p : Program} {pos next : Nat} {x stop : Cursor} {items more : List Core}
  {t : Thread} {slots : Slots}

/-- The blocks of the terms stand one after another, from the one address to the other. -/
def Lays (p : Program) : Nat → List Core → Nat → Prop
  | pos, [], next => pos = next
  | pos, r :: items, next =>
      p.Holds pos (r.code pos (pos + r.size)) ∧ Lays p (pos + r.size) items next

theorem Lays.append (hlays : p.Lays pos (items ++ more) next) :
    ∃ mid, p.Lays pos items mid ∧ p.Lays mid more next := by
  induction items generalizing pos with
  | nil => exact ⟨pos, rfl, hlays⟩
  | cons r items ih =>
      obtain ⟨hhere, hrest⟩ := hlays
      obtain ⟨mid, hitems, hmore⟩ := ih hrest
      exact ⟨mid, ⟨hhere, hitems⟩, hmore⟩

/-- The preferred way from a thread leads to the end of the text. -/
def Finishes (p : Program) (t : Thread) : Prop :=
  ∃ stop, stop.rest = [] ∧ stop.offset = t.cursor.offset + byteSize t.cursor.rest ∧
    p.Prefers t stop t.slots

theorem Finishes.take {s : CharSet} {c : Char} {rest : List Char}
    (hat : p.instructions[t.address]? = some (.take s next)) (hrest : t.cursor.rest = c :: rest)
    (hc : s.contains c = true) (hmore : p.Finishes ⟨next, t.cursor.past c rest, t.slots⟩) :
    p.Finishes t := by
  obtain ⟨stop, hend, hoffset, hprefers⟩ := hmore
  have hnext : p.successors t = [] ++ ⟨next, t.cursor.past c rest, t.slots⟩ :: [] := by
    simp [successors, hat, hrest, hc]
  refine ⟨stop, hend, ?_, .step hnext (by simp) hprefers⟩
  rw [hoffset, hrest, byteSize_cons, ← Nat.add_assoc]
  rfl

theorem Finishes.first {first second : Nat}
    (hat : p.instructions[t.address]? = some (.fork first second))
    (hmore : p.Finishes { t with address := first }) : p.Finishes t := by
  obtain ⟨stop, hend, hoffset, hprefers⟩ := hmore
  have hnext : p.successors t = [] ++ { t with address := first } ::
      [{ t with address := second }] := by
    simp [successors, hat]
  exact ⟨stop, hend, hoffset, .step hnext (by simp) hprefers⟩

theorem Finishes.second {first second : Nat}
    (hat : p.instructions[t.address]? = some (.fork first second))
    (hdead : p.IsDead first t.cursor)
    (hmore : p.Finishes { t with address := second }) : p.Finishes t := by
  obtain ⟨stop, hend, hoffset, hprefers⟩ := hmore
  have hnext : p.successors t = [{ t with address := first }] ++
      { t with address := second } :: [] := by
    simp [successors, hat]
  refine ⟨stop, hend, hoffset, .step hnext ?_ hprefers⟩
  intro w hw
  obtain rfl := List.mem_singleton.mp hw
  exact hdead

end Program

namespace Core

end Core
end Regex
end AdaptiveRules
