import AdaptiveRules.Paragraphs
import AdaptiveRules.Proofs.WindowCoverage
import Mathlib.Data.List.TakeWhile
import Mathlib.Tactic

/-!
# Paragraphs are the runs of filled lines

The loop over the lines keeps the lines of the paragraph under way and the row it starts at.  What
it has done at a row follows from the lines above: the paragraphs that ended there are cut
already, and the lines it holds are the filled ones right above, back to a blank line or to the
start.  So each maximal run of filled lines becomes one block, in order, and no line that is not
blank is lost or repeated.
-/

namespace AdaptiveRules

namespace TextLines

variable {cs taken line : List Char}

/-! ### Lines -/

/-- A line with something on it besides white space. -/
def IsFilled (line : List Char) : Prop := trim line ≠ []

theorem trim_eq_nil_iff (cs : List Char) : trim cs = [] ↔ isBlankList cs = true := by
  unfold trim trimEnd trimStart isBlankList
  rw [List.reverse_eq_nil_iff, List.dropWhile_eq_nil_iff, List.all_eq_true]
  constructor
  · intro hrest c hc
    rw [← List.takeWhile_append_dropWhile (p := UnicodeProperties.isWhiteSpace) (l := cs)] at hc
    rcases List.mem_append.mp hc with htaken | hdropped
    · exact List.mem_takeWhile_imp htaken
    · exact hrest c (List.mem_reverse.mpr hdropped)
  · intro hall c hc
    exact hall c ((List.dropWhile_suffix _).subset (List.mem_reverse.mp hc))

theorem isFilled_iff : IsFilled line ↔ ¬ isBlankList line = true := (trim_eq_nil_iff line).not

theorem not_isFilled (hblank : isBlankList line = true) : ¬ IsFilled line :=
  fun hfilled => isFilled_iff.mp hfilled hblank

instance : DecidablePred IsFilled := fun line => inferInstanceAs (Decidable (trim line ≠ []))

theorem dropReturn_suffix (cs : List Char) : dropReturn cs <:+ cs := by
  unfold dropReturn
  split
  · exact List.suffix_cons _ _
  · exact List.suffix_rfl

/-- Drops a carriage return at the end. -/
def withoutReturn (line : List Char) : List Char := (dropReturn line.reverse).reverse

/-- A text is split at its line feeds, and carriage returns before them are dropped.  Nothing after
the last of them is no line. -/
def splitLines (cs : List Char) : List (List Char) :=
  (cs.splitOn '\n').dropLast.map withoutReturn ++
    ((cs.splitOn '\n').getLast?.toList.filter fun line => line ≠ [])

theorem splitLines_of_notMem (hfeed : '\n' ∉ cs) :
    splitLines cs = if cs = [] then [] else [cs] := by
  rw [splitLines, List.splitOn_eq_singleton hfeed]
  split <;> simp_all

theorem splitLines_append_feed (hfeed : '\n' ∉ line) (rest : List Char) :
    splitLines (line ++ '\n' :: rest) = withoutReturn line :: splitLines rest := by
  have hparts := List.splitOn_ne_nil '\n' rest
  rw [splitLines, List.splitOn_append_cons_self_of_not_mem hfeed,
    List.dropLast_cons_of_ne_nil hparts, List.getLast?_cons, splitLines]
  cases hlast : (rest.splitOn '\n').getLast? with
  | none => exact absurd (List.getLast?_eq_none_iff.mp hlast) hparts
  | some l => simp

theorem linesFrom_eq (hfeed : '\n' ∉ taken) (cs : List Char) :
    linesFrom taken cs = splitLines (taken.reverse ++ cs) := by
  induction cs generalizing taken with
  | nil =>
      rw [List.append_nil, splitLines_of_notMem (by simpa using hfeed), linesFrom]
      simp
  | cons c rest ih =>
      rw [linesFrom]
      split
      · next heq =>
          subst heq
          rw [splitLines_append_feed (by simpa using hfeed), ih List.not_mem_nil, withoutReturn,
            List.reverse_reverse]
          rfl
      · next hne =>
          rw [ih (by simpa using ⟨Ne.symm hne, hfeed⟩), List.reverse_cons, List.append_assoc]
          rfl

theorem lines_eq_splitLines (cs : List Char) : lines cs = splitLines cs :=
  linesFrom_eq List.not_mem_nil cs

theorem feed_notMem_of_mem_linesFrom (hfeed : '\n' ∉ taken) (hline : line ∈ linesFrom taken cs) :
    '\n' ∉ line := by
  induction cs generalizing taken with
  | nil =>
      unfold linesFrom at hline
      split at hline
      · cases hline
      · rw [List.mem_singleton.mp hline]
        simpa using hfeed
  | cons c rest ih =>
      unfold linesFrom at hline
      split at hline
      · rcases List.mem_cons.mp hline with rfl | hlater
        · intro hmem
          exact hfeed ((dropReturn_suffix taken).subset (List.mem_reverse.mp hmem))
        · exact ih List.not_mem_nil hlater
      · next hne => exact ih (by simpa using ⟨Ne.symm hne, hfeed⟩) hline

theorem feed_notMem_of_mem_splitLines (hline : line ∈ splitLines cs) : '\n' ∉ line :=
  feed_notMem_of_mem_linesFrom List.not_mem_nil (lines_eq_splitLines cs ▸ hline)

end TextLines

namespace Paragraphs

open TextLines

variable {lines taken rest : List (List Char)} {row first last : Nat} {line : List Char}

/-! ### Runs -/

/-- The lines from one row to another, which are filled, while the lines beside them are not. -/
structure IsRun (lines : List (List Char)) (first last : Nat) : Prop where
  ordered : first ≤ last
  inside : last < lines.length
  filled : ∀ i line, first ≤ i → i ≤ last → lines[i]? = some line → IsFilled line
  before : ∀ i line, i + 1 = first → lines[i]? = some line → ¬ IsFilled line
  after : ∀ line, lines[last + 1]? = some line → ¬ IsFilled line

/-- The lines from one row to another, both included. -/
def between (lines : List (List Char)) (first last : Nat) : List (List Char) :=
  (lines.drop first).take (last + 1 - first)

theorem IsRun.length_between (hrun : IsRun lines first last) :
    (between lines first last).length = last + 1 - first := by
  have := hrun.inside
  rw [between, List.length_take, List.length_drop]
  omega

theorem IsRun.exists_line (hrun : IsRun lines first last) {i : Nat} (hi : i ≤ last) :
    ∃ line, lines[i]? = some line :=
  ⟨_, List.getElem?_eq_getElem (lt_of_le_of_lt hi hrun.inside)⟩

theorem IsRun.first_le {first' last' : Nat} (hrun : IsRun lines first last)
    (hother : IsRun lines first' last') (hle : first' ≤ last) : first' ≤ first := by
  by_contra hlt
  obtain ⟨line, hline⟩ := hrun.exists_line (i := first' - 1) (by omega)
  exact hother.before _ line (by omega) hline (hrun.filled _ line (by omega) (by omega) hline)

theorem IsRun.last_le {first' last' : Nat} (hrun : IsRun lines first last)
    (hother : IsRun lines first' last') (hle : first ≤ last') : last ≤ last' := by
  by_contra hlt
  obtain ⟨line, hline⟩ := hrun.exists_line (i := last' + 1) (by omega)
  exact hother.after line hline (hrun.filled _ line (by omega) (by omega) hline)

/-- Two runs with a common row are the same. -/
theorem IsRun.eq_of_overlap {first' last' : Nat} (hrun : IsRun lines first last)
    (hother : IsRun lines first' last') (hle : first ≤ last') (hge : first' ≤ last) :
    first = first' ∧ last = last' :=
  ⟨le_antisymm (hother.first_le hrun hle) (hrun.first_le hother hge),
    le_antisymm (hrun.last_le hother hle) (hother.last_le hrun hge)⟩

/-! ### The loop over the lines -/

/-- The paragraphs that the loop cuts, each by the row it starts at and its lines. -/
def gather : Nat → List (List Char) → Nat → List (List Char) → List (Nat × List (List Char))
  | _, taken, first, [] => if taken.isEmpty then [] else [(first, taken.reverse)]
  | row, taken, first, line :: rest =>
      if isBlankList line then
        if taken.isEmpty then gather (row + 1) [] first rest
        else (first, taken.reverse) :: gather (row + 1) [] first rest
      else gather (row + 1) (line :: taken) (if taken.isEmpty then row else first) rest

theorem blocksFrom_eq (row : Nat) (taken : List (List Char)) (first : Nat)
    (rest : List (List Char)) :
    blocksFrom row taken first rest =
      (gather row taken first rest).map fun p => blockOf p.1 p.2 := by
  induction rest generalizing row taken first with
  | nil =>
      unfold blocksFrom gather
      split <;> rfl
  | cons line rest ih =>
      unfold blocksFrom gather
      split
      · split
        · exact ih ..
        · rw [ih, List.map_cons]
      · exact ih ..

theorem flatMap_gather (row : Nat) (taken : List (List Char)) (first : Nat)
    (rest : List (List Char)) :
    (gather row taken first rest).flatMap Prod.snd = taken.reverse ++ rest.filter (IsFilled ·) := by
  induction rest generalizing row taken first with
  | nil =>
      unfold gather
      split
      · next hnone => simp [List.isEmpty_iff.mp hnone]
      · simp
  | cons line rest ih =>
      unfold gather
      split
      · next hblank =>
          have hskip : (line :: rest).filter (IsFilled ·) = rest.filter (IsFilled ·) :=
            List.filter_cons_of_neg (by simpa using not_isFilled hblank)
          rw [hskip]
          split
          · next hnone => rw [ih, List.isEmpty_iff.mp hnone]
          · rw [List.flatMap_cons, ih, List.reverse_nil, List.nil_append]
      · next hfilled =>
          rw [ih, List.filter_cons_of_pos (by simpa using isFilled_iff.mpr hfilled),
            List.reverse_cons, List.append_assoc, List.singleton_append]

/-! ### What the loop holds -/

/-- The lines of the run that starts at a row. -/
def IsRunAt (lines : List (List Char)) (first : Nat) (run : List (List Char)) : Prop :=
  ∃ last, IsRun lines first last ∧ run = between lines first last

/-- At some row of the text, the lines in hand are filled and stand right above, and the line before
them, if there is one, is not filled. -/
structure Holds (lines above taken rest : List (List Char)) : Prop where
  split : lines = above ++ taken.reverse ++ rest
  filled : ∀ l ∈ taken, IsFilled l
  before : ∀ l, above.getLast? = some l → ¬ IsFilled l

namespace Holds

variable {above : List (List Char)}

theorem start (lines : List (List Char)) : Holds lines [] [] lines :=
  ⟨rfl, fun _ hl => absurd hl List.not_mem_nil, fun _ hl => nomatch hl⟩

theorem keep (hholds : Holds lines above taken (line :: rest)) (hfilled : IsFilled line) :
    Holds lines above (line :: taken) rest where
  split := by rw [hholds.split]; simp
  filled := List.forall_mem_cons.mpr ⟨hfilled, hholds.filled⟩
  before := hholds.before

theorem skip (hholds : Holds lines above taken (line :: rest)) (hblank : ¬ IsFilled line) :
    Holds lines (above ++ taken.reverse ++ [line]) [] rest where
  split := by rw [hholds.split]; simp
  filled := fun _ hl => absurd hl List.not_mem_nil
  before := by
    intro l hl
    rw [List.getLast?_concat, Option.some.injEq] at hl
    exact hl ▸ hblank

theorem length_lines (hholds : Holds lines above taken rest) :
    lines.length = above.length + taken.length + rest.length := by
  rw [hholds.split]
  simp [Nat.add_assoc]

theorem getElem?_rest (hholds : Holds lines above taken rest) (i : Nat) :
    lines[above.length + taken.length + i]? = rest[i]? := by
  have hlength : (above ++ taken.reverse).length = above.length + taken.length := by simp
  rw [hholds.split, ← hlength, List.getElem?_append_right (Nat.le_add_right _ _),
    Nat.add_sub_cancel_left]

theorem between_eq (hholds : Holds lines above taken rest) (hsome : taken ≠ []) :
    between lines above.length (above.length + taken.length - 1) = taken.reverse := by
  have hpos := List.length_pos_iff.mpr hsome
  have hcount : above.length + taken.length - 1 + 1 - above.length = taken.reverse.length := by
    rw [List.length_reverse]
    omega
  rw [between, hcount, hholds.split, List.append_assoc, List.drop_left, List.take_left]

theorem isRun (hholds : Holds lines above taken rest) (hsome : taken ≠ [])
    (hafter : ∀ l, rest[0]? = some l → ¬ IsFilled l) :
    IsRun lines above.length (above.length + taken.length - 1) := by
  have hpos := List.length_pos_iff.mpr hsome
  refine ⟨by omega, by rw [hholds.length_lines]; omega, ?_, ?_, ?_⟩
  · intro i line hfirst hlast hline
    rw [hholds.split, List.append_assoc, List.getElem?_append_right hfirst,
      List.getElem?_append_left (by simp; omega)] at hline
    exact hholds.filled line (List.mem_reverse.mp (List.mem_of_getElem? hline))
  · intro i line hi hline
    rw [hholds.split, List.append_assoc, List.getElem?_append_left (by omega)] at hline
    refine hholds.before line ?_
    rw [List.getLast?_eq_getElem?, ← hi, Nat.add_sub_cancel]
    exact hline
  · intro line hline
    rw [Nat.sub_add_cancel (by omega)] at hline
    exact hafter line (hholds.getElem?_rest 0 ▸ hline)

/-- If no filled line follows, then a run from the lines in hand on is made of them or starts
later. -/
theorem isRunAt_iff (hholds : Holds lines above taken rest)
    (hafter : ∀ l, rest[0]? = some l → ¬ IsFilled l) {run : List (List Char)} :
    above.length ≤ first ∧ IsRunAt lines first run ↔
      (taken ≠ [] ∧ first = above.length ∧ run = taken.reverse) ∨
        (above.length + taken.length + 1 ≤ first ∧ IsRunAt lines first run) := by
  constructor
  · rintro ⟨hle, last, hrun, rfl⟩
    rcases lt_trichotomy first (above.length + taken.length) with hlt | heq | hgt
    · have hsome : taken ≠ [] := by
        rintro rfl
        simp at hlt
        omega
      have hordered := hrun.ordered
      obtain ⟨rfl, rfl⟩ :=
        hrun.eq_of_overlap (hholds.isRun hsome hafter) (by omega) (by omega)
      exact .inl ⟨hsome, rfl, hholds.between_eq hsome⟩
    · obtain ⟨line, hline⟩ := hrun.exists_line hrun.ordered
      have hfilled := hrun.filled first line le_rfl hrun.ordered hline
      rw [heq] at hline
      exact absurd hfilled (hafter line (hholds.getElem?_rest 0 ▸ hline))
    · exact .inr ⟨hgt, last, hrun, rfl⟩
  · rintro (⟨hsome, rfl, rfl⟩ | ⟨hle, hrun⟩)
    · exact ⟨le_rfl, _, hholds.isRun hsome hafter, (hholds.between_eq hsome).symm⟩
    · exact ⟨by omega, hrun⟩

/-- The row of the first line in hand stays when a line is kept. -/
theorem kept_first (hfirst : taken ≠ [] → first = above.length) :
    (if taken.isEmpty then above.length + taken.length else first) = above.length := by
  split
  · next hempty => simp [List.isEmpty_iff.mp hempty]
  · next hsome => exact hfirst (by simpa using hsome)

/-- The row below the lines in hand and a blank line. -/
theorem skip_length (above taken : List (List Char)) (line : List Char) :
    (above ++ taken.reverse ++ [line]).length + ([] : List (List Char)).length =
      above.length + taken.length + 1 := by
  simp [Nat.add_assoc]

/-- The loop cuts just the runs from the lines in hand on.  A filled line is kept with what is above
it; a blank one settles the lines in hand, and the loop starts over below it with none. -/
theorem mem_gather_iff (hholds : Holds lines above taken rest)
    (hfirst : taken ≠ [] → first = above.length) {p : Nat × List (List Char)} :
    p ∈ gather (above.length + taken.length) taken first rest ↔
      above.length ≤ p.1 ∧ IsRunAt lines p.1 p.2 := by
  induction rest generalizing above taken first with
  | nil =>
      -- No run starts below the last line, so what is in hand is all that is left.
      have hnone : ¬ (above.length + taken.length + 1 ≤ p.1 ∧ IsRunAt lines p.1 p.2) := by
        rintro ⟨hle, last, hrun, -⟩
        have hlength := hholds.length_lines
        have := hrun.ordered
        have := hrun.inside
        rw [List.length_nil] at hlength
        omega
      rw [hholds.isRunAt_iff (fun _ hl => nomatch hl), or_iff_left hnone, gather]
      split
      · next hempty => simp [List.isEmpty_iff.mp hempty]
      · next hsome =>
          have hsome : taken ≠ [] := by simpa using hsome
          rw [List.mem_singleton, Prod.ext_iff, hfirst hsome]
          exact (and_iff_right hsome).symm
  | cons line rest ih =>
      rw [gather]
      split
      · next hblank =>
          have hblank := not_isFilled hblank
          have hlater : p ∈ gather (above.length + taken.length + 1) [] first rest ↔
              above.length + taken.length + 1 ≤ p.1 ∧ IsRunAt lines p.1 p.2 := by
            rw [← skip_length above taken line]
            exact ih (hholds.skip hblank) fun h => absurd rfl h
          rw [hholds.isRunAt_iff (fun l hl => Option.some.inj hl ▸ hblank)]
          split
          · next hempty =>
              have hempty := List.isEmpty_iff.mp hempty
              rw [or_iff_right (fun h => h.1 hempty)]
              exact hlater
          · next hsome =>
              have hsome : taken ≠ [] := by simpa using hsome
              obtain rfl := hfirst hsome
              rw [List.mem_cons, Prod.ext_iff, and_iff_right hsome]
              exact or_congr_right hlater
      · next hfilled =>
          exact ih (hholds.keep (isFilled_iff.mpr hfilled)) fun _ => kept_first hfirst

/-- The loop cuts them in order, with a line in between. -/
theorem pairwise_gather (hholds : Holds lines above taken rest)
    (hfirst : taken ≠ [] → first = above.length) :
    (gather (above.length + taken.length) taken first rest).Pairwise
      fun p q => p.1 + p.2.length < q.1 := by
  induction rest generalizing above taken first with
  | nil =>
      rw [gather]
      split
      · exact List.Pairwise.nil
      · exact List.pairwise_singleton _ _
  | cons line rest ih =>
      rw [gather]
      split
      · next hblank =>
          have hskip := hholds.skip (not_isFilled hblank)
          have hlater : (gather (above.length + taken.length + 1) [] first rest).Pairwise
              fun p q => p.1 + p.2.length < q.1 := by
            rw [← skip_length above taken line]
            exact ih hskip fun h => absurd rfl h
          have hbelow : ∀ q ∈ gather (above.length + taken.length + 1) [] first rest,
              above.length + taken.length + 1 ≤ q.1 := by
            rw [← skip_length above taken line]
            exact fun q hq => ((hskip.mem_gather_iff fun h => absurd rfl h).mp hq).1
          split
          · exact hlater
          · next hsome =>
              have hsome : taken ≠ [] := by simpa using hsome
              refine List.pairwise_cons.mpr ⟨fun q hq => ?_, hlater⟩
              rw [hfirst hsome, List.length_reverse]
              exact hbelow q hq
      · next hfilled =>
          exact ih (hholds.keep (isFilled_iff.mpr hfilled)) fun _ => kept_first hfirst

end Holds

/-! ### The blocks -/

theorem joinLines_eq (lines : List (List Char)) : joinLines lines = ['\n'].intercalate lines := by
  induction lines with
  | nil => rfl
  | cons l rest ih =>
      cases rest with
      | nil => rw [List.intercalate_singleton, joinLines]
      | cons second rest =>
          rw [List.intercalate_cons_cons, ← ih, List.append_assoc, List.singleton_append]
          rfl

/-- What the blocks of a text are made of: the row each starts at and its lines. -/
def runs (lines : List (List Char)) : List (Nat × List (List Char)) := gather 0 [] 0 lines

theorem mem_runs_iff {p : Nat × List (List Char)} : p ∈ runs lines ↔ IsRunAt lines p.1 p.2 :=
  ((Holds.start lines).mem_gather_iff fun h => absurd rfl h).trans (and_iff_right (Nat.zero_le _))

theorem pairwise_runs (lines : List (List Char)) :
    (runs lines).Pairwise fun p q => p.1 + p.2.length < q.1 :=
  (Holds.start lines).pairwise_gather fun h => absurd rfl h

theorem extract_eq (source : String) :
    extract source = (runs (splitLines source.toList)).map fun p => blockOf p.1 p.2 := by
  rw [extract, lines_eq_splitLines, blocksFrom_eq, runs]

theorem IsRun.getLast?_between (hrun : IsRun lines first last) :
    (between lines first last).getLast? = lines[last]? := by
  have hordered := hrun.ordered
  rw [List.getLast?_eq_getElem?, hrun.length_between, between,
    List.getElem?_take_of_lt (by omega), List.getElem?_drop]
  congr 1
  omega

/-- A run has a line, and its lines are lines of the text. -/
theorem IsRunAt.bounds {run : List (List Char)} (hrun : IsRunAt lines first run) :
    0 < run.length ∧ first + run.length ≤ lines.length := by
  obtain ⟨last, hrun, rfl⟩ := hrun
  have hordered := hrun.ordered
  have hinside := hrun.inside
  rw [hrun.length_between]
  omega

theorem IsRunAt.isRun {run : List (List Char)} (hrun : IsRunAt lines first run) :
    IsRun lines first (first + run.length - 1) ∧
      run = between lines first (first + run.length - 1) := by
  obtain ⟨last, hrun, rfl⟩ := hrun
  have hordered := hrun.ordered
  have hlast : first + (last + 1 - first) - 1 = last := by omega
  rw [hrun.length_between, hlast]
  exact ⟨hrun, rfl⟩

theorem splitOn_joinLines {run : List (List Char)} (hrun : IsRunAt lines first run)
    (hfeed : ∀ l ∈ lines, '\n' ∉ l) : (joinLines run).splitOn '\n' = run := by
  have hpos := hrun.bounds.1
  obtain ⟨last, -, rfl⟩ := hrun
  rw [joinLines_eq, List.splitOn_intercalate]
  · intro l hl
    exact hfeed l (List.mem_of_mem_drop (List.mem_of_mem_take hl))
  · exact List.length_pos_iff.mp hpos

theorem mem_rows_iff :
    (first, last) ∈ (runs lines).map (fun p => (p.1, p.1 + p.2.length - 1)) ↔
      IsRun lines first last := by
  rw [List.mem_map]
  constructor
  · rintro ⟨p, hp, heq⟩
    obtain ⟨rfl, rfl⟩ := Prod.mk.inj heq
    exact (mem_runs_iff.mp hp).isRun.1
  · intro hrun
    have hordered := hrun.ordered
    refine ⟨(first, between lines first last), mem_runs_iff.mpr ⟨last, hrun, rfl⟩, ?_⟩
    rw [hrun.length_between, Prod.mk.injEq]
    omega

theorem pairwise_rows (lines : List (List Char)) :
    ((runs lines).map fun p => (p.1, p.1 + p.2.length - 1)).Pairwise
      fun p q => p.2 + 1 < q.1 := by
  rw [List.pairwise_map]
  refine (pairwise_runs lines).imp_of_mem fun hp _ hlt => ?_
  have hpos := (mem_runs_iff.mp hp).bounds.1
  omega

theorem flatMap_runs (hfeed : ∀ l ∈ lines, '\n' ∉ l) :
    (runs lines).flatMap (fun p => (joinLines p.2).splitOn '\n') = lines.filter (IsFilled ·) := by
  have hparts : ∀ p ∈ runs lines, (joinLines p.2).splitOn '\n' = p.2 :=
    fun p hp => splitOn_joinLines (mem_runs_iff.mp hp) hfeed
  rw [List.flatMap_congr hparts]
  exact flatMap_gather 0 [] 0 lines

/-- The block of a run names the rows of the run, stops after its last line and holds its lines. -/
theorem block_of_mem_runs {p : Nat × List (List Char)} (hp : p ∈ runs lines) :
    ∃ stop, lines[(blockOf p.1 p.2).stop.row]? = some stop ∧
      (blockOf p.1 p.2).stop.column = (String.ofList stop).utf8ByteSize ∧
      (blockOf p.1 p.2).content =
        String.ofList (['\n'].intercalate (between lines p.1 (blockOf p.1 p.2).stop.row)) := by
  obtain ⟨hrun, hlines⟩ := (mem_runs_iff.mp hp).isRun
  obtain ⟨stop, hstop⟩ := hrun.exists_line le_rfl
  have hlast : p.2.getLast? = some stop := by rw [hlines, hrun.getLast?_between, hstop]
  refine ⟨stop, hstop, ?_, ?_⟩
  · rw [utf8ByteSize_ofList, blockOf, hlast, Option.getD_some]
  · rw [← joinLines_eq]
    exact congrArg (fun run => String.ofList (joinLines run)) hlines

/-- The extractor returns one block for each run of filled lines, in the order of the text and
with a blank line between two of them.  The block starts in the first column of its first line and
stops after the last byte of its last line, and its content is its lines joined by line
feeds.  Read line by line, the blocks hold the filled lines of the text, each once and in
order.  Every block is made of at least one line, and of lines inside the text, so the row that it
stops at is one of them. -/
theorem extract_partitions (source : String) :
    let lines := splitLines source.toList
    let rows := (extract source).map fun b => (b.start.row, b.stop.row)
    (∀ first last, (first, last) ∈ rows ↔ IsRun lines first last) ∧
      rows.Pairwise (fun p q => p.2 + 1 < q.1) ∧
      (∀ b ∈ extract source, ∃ stop, lines[b.stop.row]? = some stop ∧
        b.start.column = 0 ∧ b.stop.column = (String.ofList stop).utf8ByteSize ∧
        b.content = String.ofList (['\n'].intercalate (between lines b.start.row b.stop.row)) ∧
        b.nodeType = "paragraph") ∧
      (extract source).flatMap (fun b => b.content.toList.splitOn '\n') =
        lines.filter (IsFilled ·) ∧
      extract source = (runs lines).map (fun p => blockOf p.1 p.2) ∧
      ∀ p ∈ runs lines, 0 < p.2.length ∧ p.1 + p.2.length ≤ lines.length := by
  intro lines rows
  have hrows : rows = (runs lines).map fun p => (p.1, p.1 + p.2.length - 1) := by
    simp only [rows, extract_eq, List.map_map]
    rfl
  have hfeed : ∀ l ∈ lines, '\n' ∉ l := fun l hl => feed_notMem_of_mem_splitLines hl
  refine ⟨fun first last => ?_, ?_, fun b hb => ?_, ?_, extract_eq source, fun p hp => ?_⟩
  · rw [hrows]
    exact mem_rows_iff
  · rw [hrows]
    exact pairwise_rows lines
  · rw [extract_eq] at hb
    obtain ⟨p, hp, rfl⟩ := List.mem_map.mp hb
    obtain ⟨stop, hstop, hcolumn, hcontent⟩ := block_of_mem_runs hp
    exact ⟨stop, hstop, rfl, hcolumn, hcontent, rfl⟩
  · rw [extract_eq, List.flatMap_map]
    simp only [blockOf, String.toList_ofList]
    exact flatMap_runs hfeed
  · exact (mem_runs_iff.mp hp).bounds

theorem extract_partitions_mixedBreaks :
    let lines := splitLines "a\r\n b\n\u00a0\r\n\n c\r".toList
    IsRun lines 0 1 ∧ IsRun lines 4 4 ∧ ¬ IsRun lines 2 2 := by
  have hrows : (extract "a\r\n b\n\u00a0\r\n\n c\r").map (fun b => (b.start.row, b.stop.row)) =
      [(0, 1), (4, 4)] := by decide +kernel
  have hruns := (extract_partitions "a\r\n b\n\u00a0\r\n\n c\r").1
  simp only [hrows] at hruns
  exact ⟨(hruns 0 1).mp (by decide), (hruns 4 4).mp (by decide),
    fun hrun => absurd ((hruns 2 2).mpr hrun) (by decide)⟩

end Paragraphs
end AdaptiveRules
