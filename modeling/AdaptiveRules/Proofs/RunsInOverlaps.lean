import AdaptiveRules.Proofs.LetterRunRecovery

/-!
# Runs of letters that fit into the overlap

In a text of ASCII characters windows start and stop exactly where they aim.  A run of letters that is
no longer than the overlap lies in the last window that starts before it does, and does not reach the
end of that window, so it is returned.  There is one exception: a run that takes all of the stretch
which two windows share touches an edge of both, and each of them drops it as the other one's.
-/

namespace AdaptiveRules

open TextLines

/-! ### Windows of ASCII text -/

theorem TextLines.byteSize_of_ascii {cs : List Char} (hascii : ∀ c ∈ cs, c.toNat < 128) :
    byteSize cs = cs.length := by
  induction cs with
  | nil => rfl
  | cons c rest ih =>
      obtain ⟨hc, hrest⟩ := List.forall_mem_cons.mp hascii
      have hone : c.utf8Size = 1 := by
        rw [Char.utf8Size_eq_one_iff, UInt32.le_iff_toNat_le]
        exact Nat.le_of_lt_succ hc
      rw [byteSize_cons, hone, ih hrest, List.length_cons, Nat.add_comm]

theorem TextLines.isBoundary_of_ascii {cs : List Char} (hascii : ∀ c ∈ cs, c.toNat < 128) {pos : Nat}
    (hpos : pos ≤ byteSize cs) : IsBoundary cs pos := by
  refine ⟨cs.take pos, List.take_prefix pos cs, ?_⟩
  rw [byteSize_of_ascii hascii] at hpos
  rw [byteSize_of_ascii fun c hc => hascii c (List.mem_of_mem_take hc), List.length_take,
    Nat.min_eq_left hpos]

namespace Window.AimsAt

variable {w : Window} {source : List Char} {size aim : Nat}

theorem start_eq (haims : w.AimsAt source size aim) (hascii : ∀ c ∈ source, c.toNat < 128)
    (hlt : aim < byteSize source) : w.start = aim :=
  Nat.le_antisymm haims.start_le
    (haims.le_start aim (isBoundary_of_ascii hascii hlt.le) (Nat.le_refl aim))

theorem stop_eq (haims : w.AimsAt source size aim) (hascii : ∀ c ∈ source, c.toNat < 128) :
    w.stop = min (aim + size) (byteSize source) :=
  Nat.le_antisymm
    (haims.stop_le _ (isBoundary_of_ascii hascii (Nat.min_le_right _ _)) (Nat.le_refl _))
    haims.le_stop

end Window.AimsAt

/-- The match takes all of a stretch that two windows of a text share. -/
structure MatchInstance.FillsOverlap (m : MatchInstance) (size overlap length : Nat) : Prop where
  long : m.stop = m.start + overlap
  aligned : size - overlap ∣ m.start
  behind : 0 < m.start
  before : m.stop < length

namespace MatchRecovery

open TextWindows

variable {source : List Char} {size step aim start stop : Nat} {ws : List Window}
  {before : Option Window}

/-- A span that starts before a row does, or where the row starts and a window goes on, lies inside no
window of the row. -/
theorem not_insideSome (hrow : Row source size step aim ws)
    (hascii : ∀ c ∈ source, c.toNat < 128) (hstep : 1 ≤ step) (hle : step ≤ size)
    (hlt : aim < byteSize source)
    (hearly : start < aim ∨ start = aim ∧ before.any (fun v => aim < v.stop) = true) :
    ¬ InsideSome before ws start stop := by
  have hout : ∀ {w : Window} {after : Option Window}, w.AimsAt source size aim →
      ¬ Inside w before after start stop := by
    intro w after haims hinside
    have hplace := haims.start_eq hascii hlt
    have hstart := hinside.start_le
    rcases hearly with hearly | ⟨hsame, hcut⟩
    · omega
    · have hnone := hinside.left (by omega)
      rw [hplace, hcut] at hnone
      cases hnone
  induction hrow generalizing before with
  | last haims =>
      rintro (hinside | hnone)
      · exact hout haims hinside
      · exact hnone
  | @more aim w ws haims hstop hrest ih =>
      rintro (hinside | hinside)
      · exact hout haims hinside
      · have hend := haims.stop_eq hascii
        refine ih (by omega) (Or.inl (by omega)) (fun hnext hinside => ?_) hinside
        have hplace := hnext.start_eq hascii (by omega)
        have hstart := hinside.start_le
        omega

theorem inside_iff_of_ascii {w v : Window} (haims : w.AimsAt source size aim)
    (hnext : v.AimsAt source size (aim + step)) (hascii : ∀ c ∈ source, c.toNat < 128)
    (hlt : step < size) (hend : w.stop < byteSize source) (hplace : w.start = aim)
    (hstart : aim ≤ start) (hleft : start = w.start → before.any (fun u => w.start < u.stop) = false) :
    Inside w before (some v) start stop ↔ stop < aim + size := by
  have hreach := haims.stop_eq hascii
  have hbegin := hnext.start_eq hascii (by omega)
  have hover : (some v).any (fun u => u.start < w.stop) = true := by
    simp only [Option.any_some, decide_eq_true_eq]
    omega
  constructor
  · intro hinside
    have hle := hinside.stop_le
    by_contra hnot
    have hnone := hinside.right (by omega)
    rw [hover] at hnone
    cases hnone
  · exact fun hinner => ⟨by omega, by omega, hleft, by omega⟩

/-- A short span lies inside some window of a row that begins before it, unless it starts where one
window does and stops where the one before it does. -/
theorem insideSome_iff_of_ascii (hrow : Row source size step aim ws)
    (hascii : ∀ c ∈ source, c.toNat < 128) (hstep : 1 ≤ step) (hlt : step < size)
    (hstart : aim < start ∨ aim = start ∧ start = 0) (hbefore : aim = 0 → before = none)
    (hshort : stop ≤ start + (size - step)) (hproper : start < stop)
    (hstop : stop ≤ byteSize source) :
    InsideSome before ws start stop ↔
      ¬ (stop = start + (size - step) ∧ step ∣ start - aim ∧ 0 < start ∧
        stop < byteSize source) := by
  have haim : aim < byteSize source := by omega
  have hleft : ∀ {w : Window}, w.AimsAt source size aim → start = w.start →
      before.any (fun v => w.start < v.stop) = false := by
    intro w haims hsame
    have hplace := haims.start_eq hascii haim
    rw [hbefore (by omega)]
    rfl
  induction hrow generalizing before with
  | @last aim w haims hend =>
      have hreach := haims.stop_eq hascii
      have hplace := haims.start_eq hascii haim
      have hinside : Inside w before none start stop :=
        ⟨by omega, by omega, hleft haims, fun _ => rfl⟩
      refine iff_of_true (Or.inl hinside) ?_
      rintro ⟨hlong, haligned, hpos, hshort⟩
      have hfar := Nat.le_of_dvd (by omega) haligned
      omega
  | @more aim w ws haims hend hrest ih =>
      have hreach := haims.stop_eq hascii
      have hplace := haims.start_eq hascii haim
      obtain ⟨v, rest, rfl, hv⟩ := hrest.exists_cons
      have hhere : Inside w before (some v) start stop ↔ stop < aim + size :=
        inside_iff_of_ascii haims hv hascii hlt hend hplace (by omega) (hleft haims)
      have hsame : InsideSome before (w :: v :: rest) start stop ↔
          Inside w before (some v) start stop ∨ InsideSome (some w) (v :: rest) start stop := Iff.rfl
      rw [hsame, hhere]
      -- Only a span that starts with the next window may touch an edge of both.
      rcases Nat.lt_trichotomy start (aim + step) with hearly | rfl | hlate
      · refine iff_of_true (Or.inl (by omega)) ?_
        rintro ⟨_, haligned, hpos, _⟩
        have hfar := Nat.le_of_dvd (by omega) haligned
        omega
      · have hnone : ¬ InsideSome (some w) (v :: rest) (aim + step) stop := by
          refine not_insideSome hrest hascii hstep hlt.le (by omega) (Or.inr ⟨rfl, ?_⟩)
          simp only [Option.any_some, decide_eq_true_eq]
          omega
        rw [or_iff_left hnone, Nat.add_sub_cancel_left]
        constructor
        · rintro hinner ⟨hlong, _⟩
          omega
        · intro hnot
          by_contra hlong
          exact hnot ⟨by omega, Nat.dvd_refl step, by omega, by omega⟩
      · have hcut : ∀ {u : Window}, u.AimsAt source size (aim + step) → start = u.start →
            (some w).any (fun u' => u.start < u'.stop) = false := by
          intro u hu hsame
          have hbegin := hu.start_eq hascii (by omega)
          omega
        have hshift : step ∣ start - (aim + step) ↔ step ∣ start - aim := by
          have hsplit : start - aim = start - (aim + step) + step := by omega
          rw [hsplit, Nat.dvd_add_self_right]
        have hlater : InsideSome (some w) (v :: rest) start stop ↔
            ¬ (stop = start + (size - step) ∧ step ∣ start - (aim + step) ∧ 0 < start ∧
              stop < byteSize source) :=
          ih (Or.inl hlate) (by omega) (by omega) hcut
        rw [hlater, hshift]
        refine or_iff_right_of_imp ?_
        rintro hinner ⟨hlong, haligned, _, _⟩
        have hfar := Nat.le_of_dvd (by omega) (hshift.mpr haligned)
        omega

end MatchRecovery

/-! ### Maximal runs in windows -/

/-- A maximal run of a text that fits into a window of it is one of the window. -/
theorem IsMaximalRun.in_window {source : String} {m : MatchInstance} (hm : IsMaximalRun source m)
    {w : Window} (hlies : w.LiesIn source.toList) (hstart : w.start ≤ m.start)
    (hstop : m.stop ≤ w.stop) : ∃ n, IsMaximalRun w.text n ∧ m = n.shifted w.start := by
  obtain ⟨left, right, hspells, hleft, hright⟩ := hm
  obtain ⟨head, tail, hsource, hhead, htail⟩ := hlies
  have hsame := hsource.symm.trans hspells.split
  have hmstart := hspells.start_eq
  have hmstop := hspells.stop_eq
  obtain ⟨gap, rfl⟩ := isPrefix_of_byteSize_le hsame (by omega)
  rw [List.append_assoc, List.append_cancel_left_eq, ← List.append_assoc] at hsame
  rw [byteSize_append] at hmstart
  obtain ⟨more, hmore⟩ := isPrefix_of_byteSize_le hsame.symm (by rw [byteSize_append]; omega)
  have hafter : right = more ++ tail := by
    rw [← hmore, List.append_assoc, List.append_cancel_left_eq] at hsame
    exact hsame.symm
  refine ⟨{ m with start := m.start - w.start, stop := m.stop - w.start },
    ⟨gap, more, ⟨?_, ?_, ?_, hspells.nonempty, hspells.lower⟩, ?_, ?_⟩, ?_⟩
  · rw [← hmore, List.append_assoc]
  · simp only
    omega
  · simp only
    omega
  · intro c hc
    refine hleft c ?_
    rw [List.getLast?_append, Option.mem_def.mp hc]
    rfl
  · intro c hc
    refine hright c ?_
    rw [hafter, List.head?_append, Option.mem_def.mp hc]
    rfl
  · have hbegin : m.start - w.start + w.start = m.start := by omega
    have hend : m.stop - w.start + w.start = m.stop := by omega
    simp only [MatchInstance.shifted, hbegin, hend]

theorem IsMaximalRun.bounds {source : String} {m : MatchInstance} (hm : IsMaximalRun source m) :
    m.start < m.stop ∧ m.stop ≤ byteSize source.toList := by
  obtain ⟨left, right, hspells, _⟩ := hm
  have hsome : byteSize m.text.toList ≠ 0 := byteSize_eq_zero_iff.not.mpr hspells.nonempty
  have hlength := congrArg byteSize hspells.split
  simp only [byteSize_append] at hlength
  have hstart := hspells.start_eq
  have hstop := hspells.stop_eq
  omega

/-- Of two maximal runs neither contains the other. -/
theorem IsMaximalRun.eq_of_covers {source : String} {k m : MatchInstance}
    (hk : IsMaximalRun source k) (hm : IsMaximalRun source m) (hcovers : k.Covers m) :
    k.start = m.start ∧ k.stop = m.stop ∧ k.text = m.text := by
  obtain ⟨before, after, hspells, _, hright⟩ := hk
  obtain ⟨hfirst, hlast⟩ := hcovers
  have hkstart := hspells.start_eq
  have hkstop := hspells.stop_eq
  obtain ⟨_, _, hm', _⟩ := id hm
  have hmstop := hm'.stop_eq
  rcases hm.eq_or_later hspells.split hspells.lower hright (by omega) with
    ⟨hplace, htext⟩ | ⟨c, _, _, hbeyond⟩
  · refine ⟨by omega, ?_, (String.toList_inj.mp htext).symm⟩
    rw [hmstop, htext, hplace, hkstop, hkstart]
  · have hpos := c.utf8Size_pos
    omega

namespace MatchRecovery

open TextWindows

variable {source : String} {w : Window} {before after : Option Window} {ws : List Window}
  {here found : List MatchInstance} {m : MatchInstance} {p : RulePattern}

theorem exists_mem_uncut_iff (hlies : w.LiesIn source.toList) (hhere : IsRunList w.text here)
    (hm : IsMaximalRun source m) :
    (∃ n ∈ uncut w before after here, n.start = m.start ∧ n.stop = m.stop ∧ n.text = m.text) ↔
      Inside w before after m.start m.stop := by
  obtain ⟨head, tail, _, _, hend⟩ := id hlies
  constructor
  · rintro ⟨n, hn, hstart, hstop, _⟩
    obtain ⟨k, hk, rfl, hleft, hright⟩ := mem_uncut.mp hn
    obtain ⟨first, last, hspells, _⟩ := hhere.sound k hk
    have hsize := congrArg byteSize hspells.split
    have hkstart := hspells.start_eq
    have hkstop := hspells.stop_eq
    simp only [byteSize_append] at hsize
    simp only [MatchInstance.shifted] at hstart hstop
    refine ⟨by omega, by omega, fun hsame => hleft (by omega), fun hsame => hright ?_⟩
    rw [utf8ByteSize_eq_byteSize]
    omega
  · intro hinside
    obtain ⟨n, hn, rfl⟩ := hm.in_window hlies hinside.start_le hinside.stop_le
    obtain ⟨k, hk, hstart, hstop, htext⟩ := hhere.complete n hn
    have hplace : (n.shifted w.start).start = n.start + w.start := rfl
    have hreach : (n.shifted w.start).stop = n.stop + w.start := rfl
    refine ⟨k.shifted w.start, mem_uncut.mpr ⟨k, hk, rfl, fun hzero => ?_, fun hsize => ?_⟩,
      ?_, ?_, htext⟩
    · exact hinside.left (by omega)
    · rw [utf8ByteSize_eq_byteSize] at hsize
      exact hinside.right (by omega)
    · exact congrArg (· + w.start) hstart
    · exact congrArg (· + w.start) hstop

/-- Windows return a maximal run of the source exactly if the run lies inside one of them. -/
theorem exists_mem_iff_insideSome (hfinds : FindsRuns p) (hlies : ∀ w ∈ ws, w.LiesIn source.toList)
    (hmatch : matchWindows p before ws = .ok (.ok found)) (hm : IsMaximalRun source m) :
    (∃ n ∈ found, n.start = m.start ∧ n.stop = m.stop ∧ n.text = m.text) ↔
      InsideSome before ws m.start m.stop := by
  induction ws generalizing before found with
  | nil =>
      cases hmatch
      simp [InsideSome]
  | cons w rest ih =>
      have hw := hlies w List.mem_cons_self
      unfold matchWindows at hmatch
      rcases hfinds w.text with ⟨e, herror⟩ | ⟨here, hok, hhere⟩
      · rw [herror] at hmatch
        cases hmatch
      rw [hok] at hmatch
      cases hmore : matchWindows p (some w) rest with
      | error i =>
          rw [hmore] at hmatch
          cases hmatch
      | ok outcome =>
      rw [hmore] at hmatch
      cases outcome with
      | error e => cases hmatch
      | ok more =>
      cases hmatch
      have hrest := ih (fun v hv => hlies v (List.mem_cons_of_mem w hv)) hmore
      simp only [List.mem_append, or_and_right, exists_or]
      rw [exists_mem_uncut_iff hw hhere hm, hrest]
      exact Iff.rfl

/-- How often a match is returned at the given place, with the given text. -/
def timesReturned (m : MatchInstance) (found : List MatchInstance) : Nat :=
  found.countP fun n => n.start == m.start && n.stop == m.stop && n.text == m.text

theorem timesReturned_pos_iff :
    0 < timesReturned m found ↔
      ∃ n ∈ found, n.start = m.start ∧ n.stop = m.stop ∧ n.text = m.text := by
  simp [timesReturned, List.countP_pos_iff, and_assoc]

theorem timesReturned_le_one (hfound : found.Pairwise fun n k => n.start < k.start) :
    timesReturned m found ≤ 1 := by
  induction found with
  | nil => exact Nat.zero_le 1
  | cons n rest ih =>
      obtain ⟨hfirst, hrest⟩ := List.pairwise_cons.mp hfound
      have hcount : timesReturned m (n :: rest) = timesReturned m rest +
          if (n.start == m.start && n.stop == m.stop && n.text == m.text) = true then 1 else 0 :=
        List.countP_cons
      split at hcount
      · next hsame =>
          have hnone : timesReturned m rest = 0 := by
            by_contra hsome
            obtain ⟨k, hk, hplace, _⟩ := timesReturned_pos_iff.mp (Nat.pos_of_ne_zero hsome)
            simp only [Bool.and_eq_true, beq_iff_eq] at hsame
            have hlt := hfirst k hk
            omega
          omega
      · have hle := ih hrest
        omega

/-- What the outermost matches leave out of maximal runs are second copies. -/
theorem timesReturned_keepOutermost {all : List MatchInstance}
    (hruns : ∀ n ∈ all, IsMaximalRun source n) :
    0 < timesReturned m (keepOutermost all) ↔
      ∃ n ∈ all, n.start = m.start ∧ n.stop = m.stop ∧ n.text = m.text := by
  rw [timesReturned_pos_iff]
  constructor
  · rintro ⟨n, hn, hsame⟩
    exact ⟨n, mem_of_mem_keepOutermost hn, hsame⟩
  · rintro ⟨n, hn, hstart, hstop, htext⟩
    obtain ⟨k, hk, hcovers⟩ := exists_covers_keepOutermost hn
    obtain ⟨hkstart, hkstop, hktext⟩ :=
      (hruns k (mem_of_mem_keepOutermost hk)).eq_of_covers (hruns n hn) hcovers
    exact ⟨k, hk, hkstart.trans hstart, hkstop.trans hstop, hktext.trans htext⟩

theorem byWindows_of_first {s : RecoverySettings} {all : List MatchInstance}
    (hfirst : attempt p s.overlap source (attemptSize s 0) = .ok (.ok all)) :
    byWindows p s source = .ok (.ok (keepOutermost all)) := by
  obtain ⟨more, hmore⟩ : ∃ more, max s.retries 1 = more + 1 :=
    Nat.exists_eq_add_one.mpr (Nat.le_max_right s.retries 1)
  have hmatch : matchWindows p none (split source (max s.windowSize 1)
      (min s.overlap (max s.windowSize 1 - 1))) = .ok (.ok all) := hfirst
  unfold byWindows
  rw [hmore, attempts, hmatch]

/-- Of an ASCII source whose windows overlap, an attempt that succeeds at once returns each maximal run
of letters that is no longer than the overlap, and once only, unless it fills a stretch which two
windows share: then each of the two leaves it to the other. -/
theorem runs_returned_once_iff (hfinds : FindsRuns p) {s : RecoverySettings}
    (hoverlap : 1 ≤ s.overlap) (hsize : s.overlap < s.windowSize)
    (hascii : ∀ c ∈ source.toList, c.toNat < 128) (hfirst : Succeeds p s source 0) :
    ∃ found, byWindows p s source = .ok (.ok found) ∧
      ∀ m, IsMaximalRun source m → m.stop - m.start ≤ s.overlap →
        (timesReturned m found = 1 ↔
          ¬ m.FillsOverlap s.windowSize s.overlap source.utf8ByteSize) ∧
        (m.FillsOverlap s.windowSize s.overlap source.utf8ByteSize → timesReturned m found = 0) := by
  obtain ⟨all, hall⟩ := hfirst
  have hfull : attemptSize s 0 = s.windowSize := Nat.max_eq_left (by omega)
  refine ⟨keepOutermost all, byWindows_of_first hall, fun m hm hshort => ?_⟩
  rw [hfull] at hall
  have hruns : ∀ n ∈ all, IsMaximalRun source n := fun n hn =>
    (isRunUpTo_of_attempt hfinds (by omega) hall hn).isMaximalRun (not_seam (by omega))
  obtain ⟨hproper, hbound⟩ := hm.bounds
  have hsource : source.toList ≠ [] := by
    rw [Ne, ← byteSize_eq_zero_iff]
    omega
  have hrow := row_split hsource (show 1 ≤ s.windowSize by omega) s.overlap
  rw [Nat.max_eq_left (by omega)] at hrow
  have hshared : min s.overlap (s.windowSize - 1) = s.overlap := by omega
  unfold attempt at hall
  rw [hshared] at hall
  have hlies : ∀ w ∈ split source s.windowSize s.overlap, w.LiesIn source.toList := fun w hw =>
    liesIn_of_mem_split (by omega) hw
  have hpos : 0 < timesReturned m (keepOutermost all) ↔
      ¬ m.FillsOverlap s.windowSize s.overlap source.utf8ByteSize := by
    rw [timesReturned_keepOutermost hruns, exists_mem_iff_insideSome hfinds hlies hall hm,
      insideSome_iff_of_ascii hrow hascii (by omega) (by omega) (by omega) (fun _ => rfl)
        (by omega) (by omega) hbound, not_iff_not, utf8ByteSize_eq_byteSize,
      Nat.sub_sub_self hsize.le, Nat.sub_zero]
    exact ⟨fun ⟨hlong, haligned, hbehind, hbefore⟩ => ⟨hlong, haligned, hbehind, hbefore⟩,
      fun hfills => ⟨hfills.long, hfills.aligned, hfills.behind, hfills.before⟩⟩
  have hle := timesReturned_le_one (m := m) (pairwise_start_keepOutermost all)
  constructor
  · rw [← hpos]
    omega
  · intro hfills
    by_contra hsome
    exact hpos.mp (Nat.pos_of_ne_zero hsome) hfills

/-- The second run takes the two characters that two windows of four share. -/
theorem runs_returned_once_iff_shared :
    ∃ found, byWindows (shortSightedReading 4) ⟨4, 2, 1⟩ " ab cd e" = .ok (.ok found) ∧
      timesReturned (.plain "ab" 1 3) found = 1 ∧ timesReturned (.plain "cd" 4 6) found = 0 := by
  have hstarts : Succeeds (shortSightedReading 4) ⟨4, 2, 1⟩ " ab cd e" 0 := ⟨_, rfl⟩
  obtain ⟨found, hfound, hreturned⟩ := runs_returned_once_iff (findsRuns_shortSightedReading 4)
    (by decide) (by decide) (by simp) hstarts
  have hfirst : IsMaximalRun " ab cd e" (.plain "ab" 1 3) :=
    ⟨[' '], " cd e".toList, ⟨rfl, rfl, rfl, by decide, List.all_eq_true.mp (by decide)⟩,
      by simp [ClosedLeft], by simp [ClosedRight]⟩
  have hsecond : IsMaximalRun " ab cd e" (.plain "cd" 4 6) :=
    ⟨" ab ".toList, " e".toList, ⟨rfl, rfl, rfl, by decide, List.all_eq_true.mp (by decide)⟩,
      by simp [ClosedLeft], by simp [ClosedRight]⟩
  refine ⟨found, hfound, (hreturned _ hfirst (by decide)).1.mpr ?_,
    (hreturned _ hsecond (by decide)).2 ⟨rfl, by decide, by decide, by decide⟩⟩
  rintro ⟨_, haligned, _⟩
  revert haligned
  decide

end MatchRecovery
end AdaptiveRules
