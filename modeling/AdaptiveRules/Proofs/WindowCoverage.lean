import AdaptiveRules.TextWindows
import Mathlib.Tactic

/-!
# Windows cover the text

Offsets count bytes, so this file first relates them to splittings of the list of characters: two
splittings of one text can be compared by the bytes before them.  Every window is then a stretch of
the text at the place its offsets say, the first one starts at the beginning, the last one stops at
the end, and each window starts well before the one in front of it stops.  How far they overlap is
decided by the size and the step alone, whatever characters the borders fall on.
-/

namespace AdaptiveRules
namespace TextLines

@[simp] theorem byteSize_nil : byteSize [] = 0 := rfl

@[simp] theorem byteSize_cons (c : Char) (cs : List Char) :
    byteSize (c :: cs) = c.utf8Size + byteSize cs := rfl

@[simp] theorem byteSize_append (cs ds : List Char) :
    byteSize (cs ++ ds) = byteSize cs + byteSize ds := by
  induction cs with
  | nil => simp
  | cons c rest ih => simp [ih, Nat.add_assoc]

theorem byteSize_eq_zero_iff {cs : List Char} : byteSize cs = 0 ↔ cs = [] := by
  cases cs with
  | nil => simp
  | cons c rest =>
      have hpos := c.utf8Size_pos
      simp only [byteSize_cons, List.cons_ne_nil, iff_false]
      omega

theorem utf8ByteSize_ofList (cs : List Char) :
    (String.ofList cs).utf8ByteSize = byteSize cs := by
  induction cs with
  | nil => rfl
  | cons c rest ih =>
      have hsplit : String.ofList (c :: rest) = String.singleton c ++ String.ofList rest := by
        rw [String.singleton_eq_ofList, ← String.ofList_append, List.singleton_append]
      rw [hsplit, String.utf8ByteSize_append, String.utf8ByteSize_singleton, ih, byteSize_cons]

theorem utf8ByteSize_eq_byteSize (s : String) : s.utf8ByteSize = byteSize s.toList := by
  rw [← utf8ByteSize_ofList, String.ofList_toList]

/-- Of two beginnings of a text the one with fewer bytes is a beginning of the other. -/
theorem isPrefix_of_byteSize_le
    {before after before' after' : List Char}
    (hsplit : before ++ after = before' ++ after')
    (hle : byteSize before ≤ byteSize before') :
    before <+: before' := by
  have hleft : before <+: before' ++ after' := by
    rw [← hsplit]
    exact List.prefix_append before after
  have hright : before' <+: before' ++ after' := List.prefix_append before' after'
  rcases List.prefix_or_prefix_of_prefix hleft hright with h | h
  · exact h
  · obtain ⟨more, rfl⟩ := h
    have hmore : byteSize more = 0 := by
      rw [byteSize_append] at hle
      omega
    rw [byteSize_eq_zero_iff.mp hmore, List.append_nil]

end TextLines

open TextLines

/-- The window is a stretch of the text, at the place that its offsets say. -/
def Window.LiesIn (w : Window) (cs : List Char) : Prop :=
  ∃ before after, cs = before ++ (w.text.toList ++ after) ∧
    byteSize before = w.start ∧ w.start + byteSize w.text.toList = w.stop

theorem Window.LiesIn.stop_le {w : Window} {cs : List Char} (hlies : w.LiesIn cs) :
    w.stop ≤ byteSize cs := by
  obtain ⟨before, after, hsplit, hstart, hstop⟩ := hlies
  have hsize := congrArg byteSize hsplit
  simp only [byteSize_append] at hsize
  omega

/-- Windows that reach the end of a text of `length` bytes, each starting at least `overlap` bytes
before the one in front of it stops. -/
def Overlapping (length overlap : Nat) : List Window → Prop
  | [] => False
  | [w] => w.stop = length
  | w :: w' :: rest => w'.start + overlap ≤ w.stop ∧ Overlapping length overlap (w' :: rest)

namespace TextWindows

/-! ### Moving to a byte offset -/

theorem walkTo_spec (target pos : Nat) (cs : List Char) :
    ∃ passed, cs = passed ++ (walkTo target pos cs).2 ∧
      (walkTo target pos cs).1 = pos + byteSize passed ∧
      (pos ≤ target → (walkTo target pos cs).1 ≤ target) := by
  induction cs generalizing pos with
  | nil => exact ⟨[], rfl, rfl, id⟩
  | cons c rest ih =>
      unfold walkTo
      split
      · next hle =>
          obtain ⟨passed, hsplit, hpos, hbound⟩ := ih (pos + c.utf8Size)
          refine ⟨c :: passed, ?_, ?_, fun _ => hbound hle⟩
          · rw [List.cons_append, ← hsplit]
          · rw [hpos, byteSize_cons]
            omega
      · exact ⟨[], rfl, rfl, id⟩

theorem reach_spec (target count pos : Nat) (cs : List Char) :
    ∃ more, reach target count pos cs = (count + more, pos + byteSize (cs.take more)) ∧
      (target ≤ pos + byteSize cs → target ≤ pos + byteSize (cs.take more)) := by
  induction cs generalizing count pos with
  | nil => exact ⟨0, by simp [reach]⟩
  | cons c rest ih =>
      unfold reach
      split
      · next hle => exact ⟨0, by simp, fun _ => by simpa using hle⟩
      · obtain ⟨more, hreach, hbound⟩ := ih (count + 1) (pos + c.utf8Size)
        refine ⟨more + 1, ?_, ?_⟩
        · rw [hreach, List.take_succ_cons, byteSize_cons]
          congr 1 <;> omega
        · intro htarget
          rw [List.take_succ_cons, byteSize_cons]
          rw [byteSize_cons] at htarget
          have := hbound (by omega)
          omega

theorem takeTo_spec (target pos : Nat) (cs : List Char) :
    ∃ rest, cs = (takeTo target pos cs).1 ++ rest ∧
      (takeTo target pos cs).2 = pos + byteSize (takeTo target pos cs).1 ∧
      (target ≤ pos + byteSize cs → target ≤ (takeTo target pos cs).2) := by
  obtain ⟨more, hreach, hbound⟩ := reach_spec target 0 pos cs
  simp only [takeTo, hreach, Nat.zero_add]
  exact ⟨cs.drop more, (List.take_append_drop more cs).symm, trivial, hbound⟩

/-! ### The windows of a text -/

/-- One window: it starts no later than it aims to and stops no earlier, and the text goes on from
where it starts. -/
theorem window_spec
    {source before cs rest taken : List Char} {aim target start stop : Nat}
    (hsplit : source = before ++ cs) (haim : byteSize before ≤ aim)
    (htarget : target ≤ byteSize source)
    (hwalk : walkTo aim (byteSize before) cs = (start, rest))
    (htake : takeTo target start rest = (taken, stop)) :
    (∃ passed, source = passed ++ rest ∧ byteSize passed = start) ∧ start ≤ aim ∧
      Window.LiesIn ⟨start, stop, String.ofList taken⟩ source ∧ target ≤ stop := by
  obtain ⟨passed, hcs, hstart, hbound⟩ := walkTo_spec aim (byteSize before) cs
  obtain ⟨after, hrest, hstop, hreach⟩ := takeTo_spec target start rest
  simp only [hwalk] at hcs hstart hbound
  simp only [htake] at hrest hstop hreach
  have hpassed : source = (before ++ passed) ++ rest := by
    rw [List.append_assoc, ← hcs, hsplit]
  have hplace : byteSize (before ++ passed) = start := by
    rw [byteSize_append, hstart]
  refine ⟨⟨before ++ passed, hpassed, hplace⟩, hbound haim, ?_, ?_⟩
  · refine ⟨before ++ passed, after, ?_, hplace, ?_⟩
    · rw [String.toList_ofList, ← hrest, ← hpassed]
    · rw [String.toList_ofList, hstop]
  · apply hreach
    have hsize := congrArg byteSize hpassed
    rw [byteSize_append, hplace] at hsize
    omega

/-- The windows from an aim on.  The induction is on the fuel, which is enough as long as it bounds
the bytes that are left. -/
theorem windowsFrom_spec
    {size step : Nat} {source : List Char} (hstep : 1 ≤ step) (hle : step ≤ size)
    (fuel aim : Nat) {before cs : List Char} (hsplit : source = before ++ cs)
    (haim : byteSize before ≤ aim) (hlt : aim < byteSize source)
    (hfuel : byteSize source ≤ aim + fuel) :
    ∃ w rest,
      windowsFrom size step (byteSize source) fuel aim (byteSize before) cs = w :: rest ∧
        w.start ≤ aim ∧ (∀ v ∈ w :: rest, v.LiesIn source) ∧
        Overlapping (byteSize source) (size - step) (w :: rest) := by
  induction fuel generalizing aim before cs with
  | zero => omega
  | succ fuel ih =>
      unfold windowsFrom
      rw [if_pos hlt]
      cases hwalk : walkTo aim (byteSize before) cs with
      | mk start rest =>
      cases htake : takeTo (min (aim + size) (byteSize source)) start rest with
      | mk taken stop =>
      obtain ⟨⟨passed, hpassed, hplace⟩, hstart, hlies, hstop⟩ :=
        window_spec hsplit haim (Nat.min_le_right _ _) hwalk htake
      subst start
      dsimp only
      rw [htake]
      dsimp only
      have hbound := hlies.stop_le
      by_cases hlast : stop = byteSize source
      · rw [if_pos hlast]
        refine ⟨_, [], rfl, hstart, ?_, hlast⟩
        simpa using hlies
      · have hnear : aim + size < byteSize source := by
          simp only at hbound
          omega
        obtain ⟨w, more, hmore, hwstart, hwlies, hwmore⟩ :=
          ih (aim + step) hpassed (by omega) (by omega) (by omega)
        rw [if_neg hlast, hmore]
        refine ⟨_, w :: more, rfl, hstart, ?_, ?_, hwmore⟩
        · intro v hv
          rcases List.mem_cons.mp hv with rfl | hv
          · exact hlies
          · exact hwlies v hv
        · simp only
          omega

/-- The windows of a text that is not empty: the first starts where the text does, and they overlap
by the size less the step. -/
theorem split_spec {source : String} {size : Nat}
    (hsource : source.toList ≠ []) (hsize : 1 ≤ size) (overlap : Nat) :
    ∃ w rest, split source size overlap = w :: rest ∧ w.start = 0 ∧
      (∀ v ∈ w :: rest, v.LiesIn source.toList) ∧
      Overlapping (byteSize source.toList) (size - max (size - overlap) 1) (w :: rest) := by
  have hlength : byteSize source.toList ≠ 0 := by
    rw [Ne, byteSize_eq_zero_iff]
    exact hsource
  have hstep : 1 ≤ max (size - overlap) 1 := Nat.le_max_right _ _
  have hle : max (size - overlap) 1 ≤ size := by omega
  obtain ⟨w, rest, hwindows, hstart, hlies, hover⟩ :=
    windowsFrom_spec hstep hle (byteSize source.toList) 0 (List.nil_append source.toList).symm
      (Nat.le_refl 0) (Nat.pos_of_ne_zero hlength) (by omega)
  refine ⟨w, rest, ?_, by omega, hlies, hover⟩
  unfold split
  dsimp only
  rw [if_neg hlength, if_neg (by omega)]
  exact hwindows

theorem split_empty {source : String} (hsource : source.toList = []) (size overlap : Nat) :
    split source size overlap = [] := by
  simp [split, hsource]

theorem liesIn_of_mem_split {source : String} {size overlap : Nat} (hsize : 1 ≤ size)
    {w : Window} (hw : w ∈ split source size overlap) : w.LiesIn source.toList := by
  by_cases hsource : source.toList = []
  · rw [split_empty hsource] at hw
    cases hw
  · obtain ⟨first, rest, hsplit, _, hlies, _⟩ := split_spec hsource hsize overlap
    rw [hsplit] at hw
    exact hlies w hw

end TextWindows
end AdaptiveRules
