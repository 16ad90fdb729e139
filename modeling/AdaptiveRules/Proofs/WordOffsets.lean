import AdaptiveRules.Proofs.RecoveredSpans

/-!
# Offsets that are words

Sizes and offsets are words of 64 bits, and they are added before anything is compared with the length
of the text, so a sum may be too large for a word.  Here a text is cut with every sum checked, with
slices that are only taken between boundaries, and with a limit on the rounds of every loop.  No check
ever fails: the loop ends with the first window that reaches the end of the text, so whoever goes on
has a size below the length of the text, and the next sum is below twice that length.
-/

namespace AdaptiveRules

open TextLines

/-- Why a text cannot be cut. -/
inductive OffsetFault
  /-- A sum is not a word. -/
  | overflow
  /-- A slice does not run from one boundary to a later one. -/
  | badSlice
  /-- A loop is not over after as many rounds as it may take. -/
  | unfinished
  deriving DecidableEq

namespace WordOffsets

def add (a b : Nat) : Except OffsetFault Nat :=
  if a + b < UInt64.size then .ok (a + b) else .error .overflow

def isBoundary (source : String) (pos : Nat) : Bool := String.Pos.Raw.isValid source ⟨pos⟩

/-- The last boundary that is not behind a position. -/
def floorBoundary (source : String) : Nat → Nat
  | 0 => 0
  | pos + 1 => if isBoundary source (pos + 1) then pos + 1 else floorBoundary source pos

/-- The first boundary that is not before a position. -/
def ceilBoundary (source : String) : Nat → Nat → Except OffsetFault Nat
  | 0, pos =>
      if pos < source.utf8ByteSize && !isBoundary source pos then .error .unfinished else .ok pos
  | rounds + 1, pos =>
      if pos < source.utf8ByteSize && !isBoundary source pos then do
        ceilBoundary source rounds (← add pos 1)
      else .ok pos

def slice (source : String) (start stop : Nat) : Except OffsetFault String :=
  if start ≤ stop ∧ isBoundary source start ∧ isBoundary source stop then
    .ok (String.Pos.Raw.extract source ⟨start⟩ ⟨stop⟩)
  else .error .badSlice

/-- The window of a size that aims at a position. -/
def windowAt (source : String) (size rounds aim : Nat) : Except OffsetFault Window := do
  let start := floorBoundary source aim
  let stop ← ceilBoundary source rounds (min (← add aim size) source.utf8ByteSize)
  return ⟨start, stop, ← slice source start stop⟩

/-- The windows that aim at a position and at one step further each.  The last number is that of the
rounds that are left, the one before it that of the rounds within each of them. -/
def windowsFrom (source : String) (size step within : Nat) :
    Nat → Nat → Except OffsetFault (List Window)
  | 0, _ => .error .unfinished
  | rounds + 1, aim =>
      if aim < source.utf8ByteSize then do
        let w ← windowAt source size within aim
        if w.stop = source.utf8ByteSize then return [w]
        else return w :: (← windowsFrom source size step within rounds (← add aim step))
      else return []

/-- The windows of a text, cut in at most so many rounds. -/
def cut (rounds : Nat) (source : String) (size overlap : UInt64) :
    Except OffsetFault (List Window) :=
  if source.utf8ByteSize = 0 then return []
  else if size = 0 then return [⟨0, source.utf8ByteSize, source⟩]
  else windowsFrom source size.toNat (max (size.toNat - overlap.toNat) 1) rounds rounds 0

variable {source : String} {size step aim rounds within pos : Nat} {w : Window} {ws : List Window}

/-! ### Sums and boundaries -/

theorem add_eq {a b : Nat} (hlt : a + b < UInt64.size) : add a b = .ok (a + b) := if_pos hlt

theorem isBoundary_iff : isBoundary source pos = true ↔ IsBoundary source.toList pos := by
  rw [isBoundary, String.Pos.Raw.isValid_eq_true_iff]
  constructor
  · intro hvalid
    obtain ⟨before, after, hsplit, rfl⟩ := exists_split_of_isValid hvalid
    rw [hsplit]
    exact isBoundary_byteSize before after
  · exact fun hpos => hpos.isValid

theorem floorBoundary_eq {i : Nat} (hpos : IsBoundary source.toList pos) (hle : pos ≤ i)
    (hlast : ∀ p, IsBoundary source.toList p → p ≤ i → p ≤ pos) : floorBoundary source i = pos := by
  induction i with
  | zero => exact (Nat.le_zero.mp hle).symm
  | succ i ih =>
      rw [floorBoundary]
      split
      · next hhere => exact Nat.le_antisymm (hlast _ (isBoundary_iff.mp hhere) le_rfl) hle
      · next hhere =>
          have hne : pos ≠ i + 1 := fun heq => hhere (isBoundary_iff.mpr (heq ▸ hpos))
          exact ih (by omega) fun p hp hple => hlast p hp (by omega)

/-- The boundary is the first one that is not before the position. -/
structure IsCeil (source : String) (i pos : Nat) : Prop where
  boundary : IsBoundary source.toList pos
  le : i ≤ pos
  end_le : pos ≤ source.utf8ByteSize
  first : ∀ p, IsBoundary source.toList p → i ≤ p → pos ≤ p

theorem IsCeil.goesOn_iff {i : Nat} (hceil : IsCeil source i pos) :
    (i < source.utf8ByteSize && !isBoundary source i) = true ↔ i < pos := by
  have hend := hceil.end_le
  rw [Bool.and_eq_true, decide_eq_true_eq, Bool.not_eq_true', ← Bool.not_eq_true, isBoundary_iff]
  constructor
  · rintro ⟨_, hhere⟩
    have hne : i ≠ pos := fun heq => hhere (heq ▸ hceil.boundary)
    exact lt_of_le_of_ne hceil.le hne
  · intro hlt
    exact ⟨by omega, fun hhere => Nat.not_le.mpr hlt (hceil.first i hhere le_rfl)⟩

theorem ceilBoundary_eq {i : Nat} (hsource : source.utf8ByteSize < UInt64.size)
    (hceil : IsCeil source i pos) (hrounds : pos ≤ i + rounds) :
    ceilBoundary source rounds i = .ok pos := by
  have hle := hceil.le
  have hend := hceil.end_le
  induction rounds generalizing i with
  | zero =>
      rw [ceilBoundary, if_neg (by rw [hceil.goesOn_iff]; omega), show i = pos by omega]
  | succ rounds ih =>
      rw [ceilBoundary]
      split
      · next hgo =>
          have hlt := hceil.goesOn_iff.mp hgo
          have hnext : IsCeil source (i + 1) pos :=
            ⟨hceil.boundary, hlt, hend, fun p hp hle => hceil.first p hp (by omega)⟩
          rw [add_eq (by omega)]
          exact ih hnext (by omega) hlt
      · next hstop =>
          rw [hceil.goesOn_iff] at hstop
          rw [show i = pos by omega]

/-! ### Windows -/

theorem slice_eq (hlies : w.LiesIn source.toList) : slice source w.start w.stop = .ok w.text := by
  obtain ⟨hstart, hstop⟩ := hlies.isBoundary
  have hle : w.start ≤ w.stop := by
    obtain ⟨_, _, _, _, hsize⟩ := hlies
    omega
  rw [slice, if_pos ⟨hle, isBoundary_iff.mpr hstart, isBoundary_iff.mpr hstop⟩,
    hlies.isSlice.text]

theorem windowAt_eq (hsource : source.utf8ByteSize < UInt64.size)
    (haims : w.AimsAt source.toList size aim) (hsum : aim + size < UInt64.size)
    (hwithin : source.utf8ByteSize ≤ within) : windowAt source size within aim = .ok w := by
  have hlies := haims.lies
  obtain ⟨hstart, hstop⟩ := hlies.isBoundary
  have hfloor : floorBoundary source aim = w.start :=
    floorBoundary_eq hstart haims.start_le haims.le_start
  have hend := hlies.stop_le
  have hceil : IsCeil source (min (aim + size) source.utf8ByteSize) w.stop := by
    rw [utf8ByteSize_eq_byteSize]
    exact ⟨hstop, haims.le_stop, by rwa [utf8ByteSize_eq_byteSize], haims.stop_le⟩
  rw [← utf8ByteSize_eq_byteSize] at hend
  have hreach : ceilBoundary source within (min (aim + size) source.utf8ByteSize) = .ok w.stop :=
    ceilBoundary_eq hsource hceil (by omega)
  simp [windowAt, add_eq hsum, bind, Except.bind, pure, Except.pure, hfloor, hreach, slice_eq hlies]

/-- A row of windows is cut without a fault.  Only its first window may have a size that is above the
length of the text: whatever goes on has not reached the end of the text. -/
theorem windowsFrom_eq (hrow : TextWindows.Row source.toList size step aim ws)
    (hsource : source.utf8ByteSize < 2 ^ 63) (hstep : 1 ≤ step) (hle : step ≤ size)
    (hlt : aim < source.utf8ByteSize) (hsum : aim + size < UInt64.size)
    (hwithin : source.utf8ByteSize ≤ within) (hrounds : source.utf8ByteSize ≤ aim + rounds) :
    windowsFrom source size step within rounds aim = .ok ws := by
  have hwords : 2 ^ 63 + 2 ^ 63 = UInt64.size := rfl
  induction hrow generalizing rounds with
  | @last aim w haims hstop =>
      obtain ⟨rounds, rfl⟩ : ∃ more, rounds = more + 1 := ⟨rounds - 1, by omega⟩
      rw [← utf8ByteSize_eq_byteSize] at hstop
      rw [windowsFrom, if_pos hlt, windowAt_eq (by omega) haims hsum hwithin]
      simp [bind, Except.bind, pure, Except.pure, hstop]
  | @more aim w ws haims hstop _ ih =>
      obtain ⟨rounds, rfl⟩ : ∃ more, rounds = more + 1 := ⟨rounds - 1, by omega⟩
      have hreach := haims.le_stop
      rw [← utf8ByteSize_eq_byteSize] at hstop hreach
      have hnear : aim + size < source.utf8ByteSize := by omega
      have hleft : source.utf8ByteSize ≤ aim + step + rounds := by omega
      have hrest := ih (by omega) (by omega) hleft
      rw [windowsFrom, if_pos hlt, windowAt_eq (by omega) haims hsum hwithin]
      simp [bind, Except.bind, pure, Except.pure, hstop.ne, add_eq (show aim + step < _ by omega),
        hrest]

theorem length_le_of_row (hrow : TextWindows.Row source.toList size step aim ws) (hstep : 1 ≤ step)
    (hle : step ≤ size) (hlt : aim < source.utf8ByteSize) :
    aim + ws.length ≤ source.utf8ByteSize := by
  induction hrow with
  | last => exact hlt
  | @more aim w ws haims hstop _ ih =>
      have hreach := haims.le_stop
      rw [← utf8ByteSize_eq_byteSize] at hstop hreach
      have hrest := ih (by omega)
      rw [List.length_cons]
      omega

theorem cut_eq (hsource : source.utf8ByteSize < 2 ^ 63) (size overlap : UInt64)
    (hrounds : source.utf8ByteSize ≤ rounds) :
    cut rounds source size overlap =
      .ok (TextWindows.split source size.toNat overlap.toNat) := by
  have hempty : source.utf8ByteSize = 0 ↔ source.toList = [] := by
    rw [utf8ByteSize_eq_byteSize, byteSize_eq_zero_iff]
  by_cases hzero : source.utf8ByteSize = 0
  · rw [cut, if_pos hzero, TextWindows.split_empty (hempty.mp hzero)]
    rfl
  · by_cases hsize : size = 0
    · subst hsize
      rw [cut, if_neg hzero, if_pos rfl, TextWindows.split]
      simp only [← utf8ByteSize_eq_byteSize, if_neg hzero]
      rfl
    · have hpos : 1 ≤ size.toNat :=
        Nat.one_le_iff_ne_zero.mpr fun hnone => hsize (UInt64.toNat_inj.mp hnone)
      have hrow := TextWindows.row_split (mt hempty.mpr hzero) hpos overlap.toNat
      have hword : size.toNat < UInt64.size := size.toNat_lt
      rw [cut, if_neg hzero, if_neg hsize]
      exact windowsFrom_eq hrow hsource (Nat.le_max_right _ _) (by omega) (by omega) (by omega)
        hrounds (by omega)

end WordOffsets

namespace TextWindows

theorem liesIn_of_mem {source : String} {size overlap : Nat} {w : Window}
    (hw : w ∈ split source size overlap) : w.LiesIn source.toList := by
  rcases Nat.eq_zero_or_pos size with rfl | hsize
  · unfold split at hw
    dsimp only at hw
    split at hw
    · cases hw
    · rw [if_pos rfl, List.mem_singleton] at hw
      subst hw
      exact ⟨[], [], by simp, rfl, Nat.zero_add _⟩
  · exact liesIn_of_mem_split hsize hw

theorem length_split_le (source : String) (size overlap : Nat) :
    (split source size overlap).length ≤ source.utf8ByteSize := by
  by_cases hempty : source.toList = []
  · rw [split_empty hempty]
    exact Nat.zero_le _
  · have hlength : 0 < source.utf8ByteSize := by
      rw [utf8ByteSize_eq_byteSize, Nat.pos_iff_ne_zero, Ne, byteSize_eq_zero_iff]
      exact hempty
    rcases Nat.eq_zero_or_pos size with rfl | hsize
    · rw [split]
      simp only [← utf8ByteSize_eq_byteSize, if_neg hlength.ne']
      exact hlength
    · have hrow := row_split hempty hsize overlap
      have hfits := WordOffsets.length_le_of_row hrow (Nat.le_max_right _ _) (by omega) hlength
      omega

end TextWindows

namespace MatchRecovery

open TextWindows

variable {p : RulePattern} {s : RecoverySettings} {source : String}

/-! ### Recovery with another way to cut -/

/-- The attempts, where the source is cut in the given way, which may fail. -/
def attemptsBy (cut : Nat → Nat → Except OffsetFault (List Window)) (p : RulePattern) (overlap : Nat) :
    Nat → Nat → MatchError → Except OffsetFault (Attempt (List MatchInstance))
  | 0, _, last => return .ok (.error last)
  | more + 1, size, _ => do
      match matchWindows p none (← cut size (min overlap (size - 1))) with
      | .error i => return .error i
      | .ok (.ok found) => return .ok (.ok (keepOutermost found))
      | .ok (.error e) => attemptsBy cut p overlap more (max (size / 2) 1) e

def byWindowsBy (cut : Nat → Nat → Except OffsetFault (List Window)) (p : RulePattern)
    (s : RecoverySettings) : Except OffsetFault (Attempt (List MatchInstance)) :=
  attemptsBy cut p s.overlap (max s.retries 1) (max s.windowSize 1) ⟨"chunked recovery failed"⟩

/-- The way to cut is right for windows that are not empty, no larger than the bound, and overlap by less
than their size. -/
def CutsProper (cut : Nat → Nat → Except OffsetFault (List Window)) (source : String)
    (bound : Nat) : Prop :=
  ∀ size overlap, 1 ≤ size → size ≤ bound → overlap < size →
    cut size overlap = .ok (split source size overlap)

theorem attemptsBy_eq {cut : Nat → Nat → Except OffsetFault (List Window)} {bound : Nat}
    (hcut : CutsProper cut source bound) {overlap more size : Nat} (hsize : 1 ≤ size)
    (hbound : size ≤ bound) (last : MatchError) :
    attemptsBy cut p overlap more size last = .ok (attempts p overlap source more size last) := by
  induction more generalizing size last with
  | zero => rfl
  | succ more ih =>
      have hproper := hcut size (min overlap (size - 1)) hsize hbound (by omega)
      have hhalf : max (size / 2) 1 ≤ bound := Nat.max_le.mpr ⟨by omega, by omega⟩
      unfold attemptsBy attempts
      rw [hproper]
      simp only [bind, Except.bind]
      cases matchWindows p none (split source size (min overlap (size - 1))) with
      | error i => rfl
      | ok outcome =>
          cases outcome with
          | ok found => rfl
          | error e => exact ih (Nat.le_max_right _ _) hhalf e

theorem byWindowsBy_eq {cut : Nat → Nat → Except OffsetFault (List Window)}
    (hcut : CutsProper cut source (max s.windowSize 1)) :
    byWindowsBy cut p s = .ok (byWindows p s source) :=
  attemptsBy_eq hcut (Nat.le_max_right _ _) le_rfl _

/-- A text below half of the words is cut without a fault, whatever size and overlap are, into no more
windows than it has bytes, all of them slices of it.  Recovery comes to the same whatever way to cut it
is given that is right for windows which are not empty and overlap by less than their size: it never
asks for others. -/
theorem windows_safe (source : String) :
    (source.utf8ByteSize < 2 ^ 63 → ∀ size overlap : UInt64, ∀ rounds ≥ source.utf8ByteSize,
      WordOffsets.cut rounds source size overlap = .ok (split source size.toNat overlap.toNat)) ∧
      (∀ size overlap, (split source size overlap).length ≤ source.utf8ByteSize ∧
        ∀ w ∈ split source size overlap,
          w.start ≤ w.stop ∧ w.stop ≤ source.utf8ByteSize ∧ w.IsSlice source) ∧
      ∀ p s cut, CutsProper cut source (max s.windowSize 1) →
        byWindowsBy cut p s = .ok (byWindows p s source) := by
  refine ⟨fun hsource size overlap rounds hrounds =>
    WordOffsets.cut_eq hsource size overlap hrounds, fun size overlap => ⟨?_, fun w hw => ?_⟩,
    fun p s cut hcut => byWindowsBy_eq hcut⟩
  · exact length_split_le source size overlap
  · have hlies := liesIn_of_mem hw
    have hend := hlies.stop_le
    rw [← utf8ByteSize_eq_byteSize] at hend
    refine ⟨?_, hend, hlies.isSlice⟩
    obtain ⟨_, _, _, _, hsize⟩ := hlies
    omega

/-- Size and overlap may be the largest word, and recovery that is told to use windows of no size asks
for none of them. -/
theorem windows_safe_largest :
    WordOffsets.cut 7 "aé€b" 18446744073709551615 18446744073709551615 = .ok [⟨0, 7, "aé€b"⟩] ∧
      WordOffsets.cut 7 "aé€b" 6 18446744073709551615 = .ok [⟨0, 6, "aé€"⟩, ⟨1, 7, "é€b"⟩] ∧
      byWindowsBy (fun size overlap =>
          if overlap < size then .ok (split "aé€b" size overlap) else .error .badSlice)
        (shortSightedReading 6) ⟨0, 5, 0⟩ = .ok (byWindows (shortSightedReading 6) ⟨0, 5, 0⟩ "aé€b") := by
  obtain ⟨hwords, _, hrecovery⟩ := windows_safe "aé€b"
  refine ⟨?_, ?_, hrecovery _ _ _ fun size overlap _ _ hless => if_pos hless⟩
  · rw [hwords (by decide) _ _ 7 (by decide)]
    decide +kernel
  · rw [hwords (by decide) _ _ 7 (by decide)]
    decide +kernel

end MatchRecovery
end AdaptiveRules
