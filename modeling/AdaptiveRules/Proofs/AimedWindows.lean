import AdaptiveRules.Proofs.WindowCoverage
import Mathlib.Data.String.Basic

/-!
# Windows and what they aim at

A window is determined by the offset that it aims at: it starts at the last place between characters
that is not beyond the aim, and stops at the first one that is not before the end of the stretch that
it should take.  So the windows of a text follow from their aims, which advance by the step: bounds
never fall back, and a span that is no longer than the overlap, and one byte more, lies in the last
window whose aim it does not precede, whatever characters the bounds were moved over.
-/

namespace AdaptiveRules

namespace TextLines

/-- The offset falls between two characters of the text, or on one of its ends. -/
def IsBoundary (cs : List Char) (pos : Nat) : Prop :=
  ∃ before, before <+: cs ∧ byteSize before = pos

variable {before after : List Char}

theorem isBoundary_byteSize (before after : List Char) :
    IsBoundary (before ++ after) (byteSize before) :=
  ⟨before, List.prefix_append before after, rfl⟩

/-- A boundary that is not inside the beginning of a text is one of the rest. -/
theorem IsBoundary.of_append {pos : Nat} (hpos : IsBoundary (before ++ after) pos)
    (hle : byteSize before ≤ pos) : ∃ more, more <+: after ∧ pos = byteSize before + byteSize more := by
  obtain ⟨head, ⟨tail, hsplit⟩, rfl⟩ := hpos
  obtain ⟨more, rfl⟩ := isPrefix_of_byteSize_le hsplit.symm hle
  rw [List.append_assoc, List.append_cancel_left_eq] at hsplit
  exact ⟨more, ⟨tail, hsplit⟩, byteSize_append before more⟩

end TextLines

open TextLines

theorem Window.LiesIn.isBoundary {w : Window} {cs : List Char} (hlies : w.LiesIn cs) :
    IsBoundary cs w.start ∧ IsBoundary cs w.stop := by
  obtain ⟨before, after, rfl, hstart, hstop⟩ := hlies
  refine ⟨hstart ▸ isBoundary_byteSize before _, ?_⟩
  rw [← hstop, ← hstart, ← byteSize_append, ← List.append_assoc]
  exact isBoundary_byteSize _ after

/-- The window of the given size that aims at an offset. -/
structure Window.AimsAt (w : Window) (source : List Char) (size aim : Nat) : Prop where
  lies : w.LiesIn source
  start_le : w.start ≤ aim
  le_start : ∀ pos, IsBoundary source pos → pos ≤ aim → pos ≤ w.start
  le_stop : min (aim + size) (byteSize source) ≤ w.stop
  stop_le : ∀ pos, IsBoundary source pos → min (aim + size) (byteSize source) ≤ pos → w.stop ≤ pos

theorem Window.AimsAt.start_lt_stop {w : Window} {source : List Char} {size aim : Nat}
    (haims : w.AimsAt source size aim) (hsize : 1 ≤ size) (hlt : aim < byteSize source) :
    w.start < w.stop := by
  have hstart := haims.start_le
  have hstop := haims.le_stop
  omega

namespace TextWindows

/-! ### One window -/

theorem le_walkTo {target pos : Nat} {head cs : List Char} (hhead : head <+: cs)
    (hle : pos + byteSize head ≤ target) : pos + byteSize head ≤ (walkTo target pos cs).1 := by
  induction cs generalizing pos head with
  | nil =>
      rw [List.prefix_nil.mp hhead]
      exact le_refl pos
  | cons c rest ih =>
      obtain ⟨passed, _, hplace, _⟩ := walkTo_spec target pos (c :: rest)
      cases head with
      | nil =>
          rw [hplace, byteSize_nil]
          omega
      | cons d head =>
          obtain ⟨rfl, hrest⟩ := List.cons_prefix_cons.mp hhead
          rw [byteSize_cons, ← Nat.add_assoc] at hle ⊢
          unfold walkTo
          rw [if_pos (by omega)]
          exact ih hrest hle

theorem reach_le {target count pos : Nat} {head cs : List Char} (hhead : head <+: cs)
    (htarget : target ≤ pos + byteSize head) :
    (reach target count pos cs).2 ≤ pos + byteSize head := by
  induction cs generalizing count pos head with
  | nil => exact Nat.le_add_right pos _
  | cons c rest ih =>
      unfold reach
      split
      · exact Nat.le_add_right pos _
      · next hbefore =>
          cases head with
          | nil => exact absurd htarget hbefore
          | cons d head =>
              obtain ⟨rfl, hrest⟩ := List.cons_prefix_cons.mp hhead
              rw [byteSize_cons, ← Nat.add_assoc] at htarget ⊢
              exact ih hrest htarget

theorem takeTo_le {target pos : Nat} {head cs : List Char} (hhead : head <+: cs)
    (htarget : target ≤ pos + byteSize head) : (takeTo target pos cs).2 ≤ pos + byteSize head :=
  show (reach target 0 pos cs).2 ≤ _ from reach_le hhead htarget

theorem aimsAt_window {source before cs rest taken : List Char} {size aim start stop : Nat}
    (hsplit : source = before ++ cs) (hsize : 1 ≤ size) (haim : byteSize before ≤ aim)
    (hlt : aim < byteSize source) (hwalk : walkTo aim (byteSize before) cs = (start, rest))
    (htake : takeTo (min (aim + size) (byteSize source)) start rest = (taken, stop)) :
    Window.AimsAt ⟨start, stop, String.ofList taken⟩ source size aim := by
  obtain ⟨⟨passed, hpassed, rfl⟩, hstart, hlies, hstop⟩ :=
    window_spec hsplit haim (Nat.min_le_right _ _) hwalk htake
  refine ⟨hlies, hstart, ?_, hstop, ?_⟩
  · intro pos hpos hle
    rcases Nat.le_total pos (byteSize before) with hearly | hlate
    · have hbegin : byteSize before ≤ byteSize passed := by
        simpa [hwalk] using @le_walkTo aim (byteSize before) [] cs List.nil_prefix haim
      exact hearly.trans hbegin
    · obtain ⟨more, hmore, rfl⟩ := (hsplit ▸ hpos).of_append hlate
      simpa [hwalk] using le_walkTo hmore hle
  · intro pos hpos hle
    obtain ⟨more, hmore, rfl⟩ := (hpassed ▸ hpos).of_append (by omega)
    simpa [htake] using takeTo_le hmore hle

/-! ### Rows of windows -/

/-- Windows that aim at an offset and at one step further each, up to the first that stops where the
text does. -/
inductive Row (source : List Char) (size step : Nat) : Nat → List Window → Prop
  | last {aim : Nat} {w : Window} (haims : w.AimsAt source size aim)
      (hstop : w.stop = byteSize source) : Row source size step aim [w]
  | more {aim : Nat} {w : Window} {ws : List Window} (haims : w.AimsAt source size aim)
      (hstop : w.stop < byteSize source) (hrest : Row source size step (aim + step) ws) :
      Row source size step aim (w :: ws)

theorem row_windowsFrom {size step : Nat} {source : List Char} (hstep : 1 ≤ step)
    (hle : step ≤ size) (fuel aim : Nat) {before cs : List Char} (hsplit : source = before ++ cs)
    (haim : byteSize before ≤ aim) (hlt : aim < byteSize source)
    (hfuel : byteSize source ≤ aim + fuel) :
    Row source size step aim
      (windowsFrom size step (byteSize source) fuel aim (byteSize before) cs) := by
  induction fuel generalizing aim before cs with
  | zero => omega
  | succ fuel ih =>
      unfold windowsFrom
      rw [if_pos hlt]
      cases hwalk : walkTo aim (byteSize before) cs with
      | mk start rest =>
      cases htake : takeTo (min (aim + size) (byteSize source)) start rest with
      | mk taken stop =>
      have haims := aimsAt_window hsplit (hstep.trans hle) haim hlt hwalk htake
      obtain ⟨⟨passed, hpassed, rfl⟩, _⟩ :=
        window_spec hsplit haim (Nat.min_le_right _ _) hwalk htake
      have hstart : byteSize passed ≤ aim := haims.start_le
      have hreach : min (aim + size) (byteSize source) ≤ stop := haims.le_stop
      have hbound : stop ≤ byteSize source := haims.lies.stop_le
      dsimp only
      rw [htake]
      dsimp only
      by_cases hlast : stop = byteSize source
      · rw [if_pos hlast]
        exact .last haims hlast
      · rw [if_neg hlast]
        exact .more haims (show stop < _ by omega)
          (ih (aim + step) hpassed (by omega) (by omega) (by omega))

/-- The windows of a text that is not empty are a row from its beginning on. -/
theorem row_split {source : String} {size : Nat} (hsource : source.toList ≠ []) (hsize : 1 ≤ size)
    (overlap : Nat) :
    Row source.toList size (max (size - overlap) 1) 0 (split source size overlap) := by
  have hlength : byteSize source.toList ≠ 0 := by
    rw [Ne, byteSize_eq_zero_iff]
    exact hsource
  unfold split
  dsimp only
  rw [if_neg hlength, if_neg (by omega)]
  exact row_windowsFrom (Nat.le_max_right _ _) (by omega) (byteSize source.toList) 0
    (List.nil_append source.toList).symm (Nat.le_refl 0) (Nat.pos_of_ne_zero hlength) (by omega)

variable {source : List Char} {size step aim : Nat} {ws : List Window}

theorem Row.exists_cons (hrow : Row source size step aim ws) :
    ∃ w rest, ws = w :: rest ∧ w.AimsAt source size aim := by
  cases hrow with
  | last haims => exact ⟨_, _, rfl, haims⟩
  | more haims => exact ⟨_, _, rfl, haims⟩

/-- A property that holds of all windows which aim into the text holds of a whole row. -/
theorem Row.forall_mem (hrow : Row source size step aim ws) (hle : step ≤ size)
    (hlt : aim < byteSize source) {P : Window → Prop}
    (hone : ∀ w at_, w.AimsAt source size at_ → at_ < byteSize source → P w) : ∀ w ∈ ws, P w := by
  induction hrow with
  | @last aim w haims => simpa using hone w aim haims hlt
  | @more aim w ws haims hstop _ ih =>
      have hreach := haims.le_stop
      exact List.forall_mem_cons.mpr ⟨hone w aim haims hlt, ih (by omega)⟩

/-- The second window goes on where the first one leaves off: no bound falls back, and there is no
gap between them. -/
structure GoesOn (v w : Window) : Prop where
  start_le : v.start ≤ w.start
  stop_le : v.stop ≤ w.stop
  meets : w.start ≤ v.stop

theorem goesOn_of_aimsAt {v w : Window} (hle : step ≤ size) (hv : v.AimsAt source size aim)
    (hw : w.AimsAt source size (aim + step)) (hstop : v.stop < byteSize source) : GoesOn v w where
  start_le := hw.le_start v.start hv.lies.isBoundary.1 (hv.start_le.trans (Nat.le_add_right _ _))
  stop_le := by
    have hreach := hw.le_stop
    exact hv.stop_le w.stop hw.lies.isBoundary.2 (by omega)
  meets := by
    have hreach := hv.le_stop
    have hstart := hw.start_le
    omega

theorem Row.isChain (hrow : Row source size step aim ws) (hle : step ≤ size) :
    ws.IsChain GoesOn := by
  induction hrow with
  | last => exact List.isChain_singleton _
  | more haims hstop hrest ih =>
      obtain ⟨v, rest, rfl, hv⟩ := hrest.exists_cons
      exact List.isChain_cons_cons.mpr ⟨goesOn_of_aimsAt hle haims hv hstop, ih⟩

/-- The last window stops where the text does, and no other one. -/
theorem Row.exists_eq_append (hrow : Row source size step aim ws) :
    ∃ others w, ws = others ++ [w] ∧ w.stop = byteSize source ∧
      ∀ v ∈ others, v.stop < byteSize source := by
  induction hrow with
  | @last _ w _ hstop => exact ⟨[], w, rfl, hstop, by simp⟩
  | @more _ v _ _ hstop _ ih =>
      obtain ⟨others, w, rfl, hlast, hothers⟩ := ih
      exact ⟨v :: others, w, rfl, hlast, List.forall_mem_cons.mpr ⟨hstop, hothers⟩⟩

/-- A short span lies in the last window whose aim it does not precede, or in the last one of all. -/
theorem Row.exists_mem_of_span (hrow : Row source size step aim ws) {start stop : Nat}
    (haim : aim ≤ start) (hshort : stop - start ≤ size - step + 1) (hle : step ≤ size)
    (hstop : stop ≤ byteSize source) :
    ∃ w ∈ ws, w.start ≤ start ∧ stop ≤ w.stop := by
  induction hrow with
  | @last _ w haims hlast =>
      have hstart := haims.start_le
      exact ⟨w, List.mem_cons_self, by omega, by omega⟩
  | @more aim w ws haims _ _ ih =>
      by_cases hnext : aim + step ≤ start
      · obtain ⟨v, hv, hinside⟩ := ih hnext
        exact ⟨v, List.mem_cons_of_mem w hv, hinside⟩
      · have hstart := haims.start_le
        have hreach := haims.le_stop
        exact ⟨w, List.mem_cons_self, by omega, by omega⟩

end TextWindows

/-! ### Slices of a text -/

/-- Both bounds of the window fall between characters, and its text is what lies between them. -/
structure Window.IsSlice (w : Window) (source : String) : Prop where
  start : String.Pos.Raw.IsValid source ⟨w.start⟩
  stop : String.Pos.Raw.IsValid source ⟨w.stop⟩
  text : String.Pos.Raw.extract source ⟨w.start⟩ ⟨w.stop⟩ = w.text

theorem TextLines.utf8Len_eq_byteSize (cs : List Char) : String.utf8Len cs = byteSize cs := by
  induction cs with
  | nil => rfl
  | cons c rest ih => rw [String.utf8Len_cons, ih, byteSize_cons, Nat.add_comm]

theorem TextLines.IsBoundary.isValid {source : String} {pos : Nat}
    (hpos : IsBoundary source.toList pos) : String.Pos.Raw.IsValid source ⟨pos⟩ := by
  obtain ⟨before, ⟨after, hsplit⟩, rfl⟩ := hpos
  refine String.Pos.Raw.isValid_iff_exists_append.mpr
    ⟨String.ofList before, String.ofList after, ?_, ?_⟩
  · rw [← String.ofList_append, hsplit, String.ofList_toList]
  · rw [← utf8ByteSize_ofList]
    rfl

theorem Window.LiesIn.isSlice {w : Window} {source : String} (hlies : w.LiesIn source.toList) :
    w.IsSlice source := by
  refine ⟨hlies.isBoundary.1.isValid, hlies.isBoundary.2.isValid, ?_⟩
  obtain ⟨before, after, hsplit, hstart, hstop⟩ := hlies
  have hextract := String.extract_of_valid before w.text.toList after
  rwa [List.append_assoc, ← hsplit, utf8Len_eq_byteSize, utf8Len_eq_byteSize, hstart, hstop,
    String.ofList_toList, String.ofList_toList] at hextract

namespace TextWindows

/-- Windows that cover a text from its beginning to its end and hold every span of it that takes no
more than so many bytes. -/
structure Cover (source : String) (reach : Nat) (ws : List Window) : Prop where
  nonempty : ws ≠ []
  proper : ∀ w ∈ ws, w.start < w.stop
  slices : ∀ w ∈ ws, w.IsSlice source
  first : ∀ w ∈ ws.head?, w.start = 0
  last : ∀ w ∈ ws.getLast?, w.stop = source.utf8ByteSize
  others : ∀ w ∈ ws.dropLast, w.stop < source.utf8ByteSize
  chain : ws.IsChain GoesOn
  spans : ∀ start stop, start ≤ stop → stop ≤ source.utf8ByteSize → stop - start ≤ reach →
    ∃ w ∈ ws, w.start ≤ start ∧ stop ≤ w.stop

/-- An empty text has no windows; those of any other text cover it. -/
theorem split_covers (source : String) {size : Nat} (hsize : 1 ≤ size) (overlap : Nat) :
    (source = "" → split source size overlap = []) ∧
      (source ≠ "" →
        Cover source (size - max 1 (size - overlap) + 1) (split source size overlap)) := by
  refine ⟨fun hempty => split_empty (by rw [hempty]; rfl) size overlap, fun hne => ?_⟩
  have hsource : source.toList ≠ [] := by simpa using hne
  have hlength : 0 < byteSize source.toList := by
    rw [Nat.pos_iff_ne_zero, Ne, byteSize_eq_zero_iff]
    exact hsource
  have hle : max (size - overlap) 1 ≤ size := by omega
  have hrow := row_split hsource hsize overlap
  obtain ⟨first, rest, hfirst, haims⟩ := hrow.exists_cons
  obtain ⟨others, last, hlast, hend, hothers⟩ := hrow.exists_eq_append
  rw [← utf8ByteSize_eq_byteSize] at hend hothers
  refine {
    nonempty := by rw [hfirst]; exact List.cons_ne_nil _ _
    proper := hrow.forall_mem hle hlength fun w _ haims hlt => haims.start_lt_stop hsize hlt
    slices := hrow.forall_mem hle hlength fun w _ haims _ => haims.lies.isSlice
    first := ?_
    last := ?_
    others := ?_
    chain := hrow.isChain hle
    spans := ?_ }
  · rw [hfirst]
    rintro w ⟨⟩
    exact Nat.le_zero.mp haims.start_le
  · rw [hlast, List.getLast?_concat]
    rintro w ⟨⟩
    exact hend
  · rwa [hlast, List.dropLast_concat]
  · intro start stop _ hbound hshort
    rw [Nat.max_comm] at hshort
    rw [utf8ByteSize_eq_byteSize] at hbound
    exact hrow.exists_mem_of_span (Nat.zero_le start) hshort hle hbound

/-- Characters of several bytes move the bounds of all windows but the first start and the last
stop. -/
theorem split_covers_wide :
    split "aé€b" 3 1 = [⟨0, 3, "aé"⟩, ⟨1, 6, "é€"⟩, ⟨3, 7, "€b"⟩] ∧ "aé€b" ≠ "" ∧
      Cover "aé€b" 2 (split "aé€b" 3 1) :=
  ⟨by decide +kernel, by decide, (split_covers "aé€b" (show 1 ≤ 3 by decide) 1).2 (by decide)⟩

end TextWindows
end AdaptiveRules
