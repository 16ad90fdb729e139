import AdaptiveRules.Proofs.ExpressibleExamples

/-!
# Classes that fit the middles

The class for the middles is chosen by what letters and numbers are in all scripts, but its letters
are those of ASCII, and among the numbers its word characters only know the decimal digits and those
that count as letters.  So a class that is not the one for anything solid has to be fitted: one
accented letter among letters, or one fraction among words, is not in it.  Apart from that each middle
is matched in full, and a rule that is made with the class matches an example that it was made from
exactly if the class fits the middle of the example.
-/

namespace AdaptiveRules

namespace CharSet

/-- The ranges ascend from a code point on. -/
def ascendsFrom : Nat → List (Nat × Nat) → Bool
  | _, [] => true
  | next, (lo, hi) :: rest => next ≤ lo && lo ≤ hi && ascendsFrom (hi + 1) rest

theorem inRanges_gapsFrom_of_lt {ranges : List (Nat × Nat)} {next n : Nat}
    (hascends : ascendsFrom next ranges = true) (hlt : n < next) :
    inRanges (gapsFrom next ranges) n = false := by
  induction ranges generalizing next with
  | nil =>
      unfold gapsFrom
      split
      · simp [inRanges, hlt]
      · rfl
  | cons r rest ih =>
      obtain ⟨lo, hi⟩ := r
      simp only [ascendsFrom, Bool.and_eq_true, decide_eq_true_eq] at hascends
      unfold gapsFrom
      split
      · simp [inRanges, hlt]
      · exact ih hascends.2 (by omega)

theorem inRanges_gapsFrom {ranges : List (Nat × Nat)} {next n : Nat}
    (hascends : ascendsFrom next ranges = true) (hle : next ≤ n) (hmax : n ≤ maxCodePoint) :
    inRanges (gapsFrom next ranges) n = !inRanges ranges n := by
  induction ranges generalizing next with
  | nil =>
      have hnext : next ≤ maxCodePoint := hle.trans hmax
      simp [gapsFrom, inRanges, hnext, Nat.not_lt.mpr hle, hmax]
  | cons r rest ih =>
      obtain ⟨lo, hi⟩ := r
      simp only [ascendsFrom, Bool.and_eq_true, decide_eq_true_eq] at hascends
      obtain ⟨⟨hlo, hhi⟩, hrest⟩ := hascends
      -- The gap before the range only matters to what lies in it.
      have hbehind : lo ≤ n → inRanges (gapsFrom next ((lo, hi) :: rest)) n =
          inRanges (gapsFrom (hi + 1) rest) n := by
        intro hin
        rw [gapsFrom]
        split
        · rw [inRanges, if_neg (by omega), if_neg (by omega)]
        · rfl
      rcases Nat.lt_or_ge n lo with hbefore | hin
      · rw [gapsFrom, if_pos (by omega), inRanges, inRanges, if_neg (by omega), if_pos (by omega),
          if_pos hbefore]
        rfl
      · rw [hbehind hin, inRanges, if_neg (by omega)]
        by_cases hend : n ≤ hi
        · rw [if_pos hend, inRanges_gapsFrom_of_lt hrest (by omega)]
          rfl
        · rw [if_neg hend]
          exact ih hrest (by omega)

theorem contains_complement {s : CharSet} (hascends : ascendsFrom 0 s.ranges = true) (c : Char) :
    s.complement.contains c = !s.contains c := by
  refine inRanges_gapsFrom hascends (Nat.zero_le _) ?_
  have hvalid := c.valid
  unfold UInt32.isValidChar Nat.isValidChar at hvalid
  unfold maxCodePoint Char.toNat
  omega

end CharSet

namespace Generalization

open Regex Reading UnicodeProperties

variable {middles : List (List Char)} {m : List Char} {c : Char}

/-! ### Characters of the classes -/

theorem isAlpha_iff : c.isAlpha = true ↔
    65 ≤ c.toNat ∧ c.toNat ≤ 90 ∨ 97 ≤ c.toNat ∧ c.toNat ≤ 122 := by
  have hcases : c.isAlpha = (c.isUpper || c.isLower) := rfl
  have hupper : c.isUpper = decide (c.val ≥ 65 ∧ c.val ≤ 90) := rfl
  have hlower : c.isLower = (decide (c.val ≥ 97) && decide (c.val ≤ 122)) := rfl
  simp only [hcases, hupper, hlower, Bool.or_eq_true, Bool.and_eq_true, decide_eq_true_eq,
    ge_iff_le, UInt32.le_iff_toNat_le]
  rfl

theorem isDigit_iff : c.isDigit = true ↔ 48 ≤ c.toNat ∧ c.toNat ≤ 57 := by
  simp only [Char.isDigit, Bool.and_eq_true, decide_eq_true_eq, ge_iff_le, UInt32.le_iff_toNat_le]
  rfl

theorem contains_letters (c : Char) :
    (CharSet.mk [(65, 90), (97, 122)]).contains c = c.isAlpha := by
  rw [Bool.eq_iff_iff, isAlpha_iff]
  simp only [CharSet.contains, CharSet.inRanges]
  split_ifs <;> simp <;> omega

theorem contains_solid (c : Char) : whiteSpace.complement.contains c = !isWhiteSpace c :=
  CharSet.contains_complement (by decide +kernel) c

theorem lt_of_isAlphanum (hc : c.isAlphanum = true) : c.toNat < 128 := by
  rw [Char.isAlphanum, Bool.or_eq_true, isAlpha_iff, isDigit_iff] at hc
  omega

theorem isWordChar_of_isAlphanum (hc : c.isAlphanum = true) : isWordChar c = true := by
  obtain ⟨_, _, _, _, hword, _⟩ := ascii_classes (lt_of_isAlphanum hc)
  rw [isWordChar, hword, hc]
  rfl

/-! ### Middles and their class -/

/-- No middle is empty, and all their characters are such. -/
def AllOf (p : Char → Bool) (middles : List (List Char)) : Prop :=
  ∀ m ∈ middles, m ≠ [] ∧ ∀ c ∈ m, p c = true

theorem all_iff_allOf (p : Char → Bool) (middles : List (List Char)) :
    (middles.all fun m => !m.isEmpty && m.all p) = true ↔ AllOf p middles := by
  simp [AllOf]

-- The instances go through `List.all`, so that no characters are tried that are not there.
instance (p : Char → Bool) (middles : List (List Char)) : Decidable (AllOf p middles) :=
  decidable_of_iff _ (all_iff_allOf p middles)

/-- The class that the middles call for has the characters of the text: if all middles are letters,
those of the text are letters of ASCII, and if all are letters and numbers, those of the text are word
characters. -/
def ClassFits (middles : List (List Char)) (m : List Char) : Prop :=
  (AllOf isAlphabetic middles → ∀ c ∈ m, c.isAlpha = true) ∧
    (AllOf isAlphanumeric middles → ∀ c ∈ m, isWordChar c = true)

theorem all_iff_classFits (middles : List (List Char)) (m : List Char) :
    ((AllOf isAlphabetic middles → m.all Char.isAlpha = true) ∧
      (AllOf isAlphanumeric middles → m.all isWordChar = true)) ↔ ClassFits middles m := by
  simp only [ClassFits, List.all_eq_true]

instance (middles : List (List Char)) (m : List Char) : Decidable (ClassFits middles m) :=
  decidable_of_iff _ (all_iff_classFits middles m)

/-- The class of the middles is a run that takes a solid one of them exactly if it fits it. -/
theorem exists_runs_classOf (middles : List (List Char)) :
    ∃ nonempty s q, RunsSolid (classOf middles) nonempty s q ∧
      ∀ m ∈ middles, (∀ c ∈ m, isWhiteSpace c = false) →
        (Core.FitsRun nonempty s m ↔ ClassFits middles m) := by
  unfold classOf
  simp only [all_iff_allOf]
  split
  case isFalse halphanumeric =>
    obtain ⟨q, hq⟩ := exists_runsSolid_anythingSolid
    refine ⟨_, _, q, hq, fun m hm hsolid => iff_of_true ⟨nofun, fun c hc => ?_⟩ ⟨?_, ?_⟩⟩
    · simp [contains_solid, hsolid c hc]
    · intro halphabetic
      refine absurd (fun k hk => ⟨(halphabetic k hk).1, fun c hc => ?_⟩) halphanumeric
      rw [isAlphanumeric, (halphabetic k hk).2 c hc]
      rfl
    · exact fun h => absurd h halphanumeric
  case isTrue halphanumeric =>
  split
  case isTrue halphabetic =>
    obtain ⟨q, hq⟩ := exists_runsSolid_letters
    refine ⟨_, _, q, hq, fun m hm _ => ?_⟩
    simp only [Core.FitsRun, contains_letters]
    constructor
    · rintro ⟨_, hall⟩
      exact ⟨fun _ => hall, fun _ c hc => isWordChar_of_isAlphanum (by simp [Char.isAlphanum, hall c hc])⟩
    · rintro ⟨hall, _⟩
      exact ⟨fun _ => (halphabetic m hm).1, hall halphabetic⟩
  case isFalse halphabetic =>
  split
  case isTrue hdigits =>
    obtain ⟨q, hq⟩ := exists_runsSolid_digits
    refine ⟨_, _, q, hq, fun m hm _ => iff_of_true ⟨fun _ => (hdigits m hm).1, fun c hc => ?_⟩
      ⟨fun h => absurd h halphabetic, fun _ c hc => ?_⟩⟩
    · have hdigit := (hdigits m hm).2 c hc
      have hc : c.toNat < 128 := lt_of_isAlphanum (by simp [Char.isAlphanum, hdigit])
      rw [(ascii_classes hc).2.2.2.1, hdigit]
    · exact isWordChar_of_isAlphanum (by simp [Char.isAlphanum, (hdigits m hm).2 c hc])
  case isFalse =>
    obtain ⟨q, hq⟩ := exists_runsSolid_wordCharacters
    refine ⟨_, _, q, hq, fun m hm _ => ?_⟩
    constructor
    · rintro ⟨_, hall⟩
      exact ⟨fun h => absurd h halphabetic, fun _ => hall⟩
    · rintro ⟨_, hall⟩
      exact ⟨fun _ => (halphanumeric m hm).1, hall halphanumeric⟩

/-! ### Whole matches -/

theorem matchesWhole_classOf_iff (hm : m ∈ middles) (hsolid : ∀ c ∈ m, isWhiteSpace c = false) :
    matchesWhole (classOf middles) (String.ofList m) = true ↔ ClassFits middles m := by
  obtain ⟨nonempty, s, q, ⟨⟨piece, hcls, hq⟩, hdepth, hroom, _⟩, hfits⟩ := exists_runs_classOf middles
  have hrule : (classOf middles).toList = framedText [] (classOf middles) [] := by
    simp [framedText, escape]
  have hchecked : Checkable (classOf middles) := by
    refine (checkable_iff hcls hq hrule).mpr ⟨depth_anchoredPiece_framedPieces hdepth [] [], ?_⟩
    rw [room_anchoredPiece_framedPieces (by simp) (by simp), Piece.unit, roomLimit]
    simp only [List.length_nil]
    omega
  rw [matchesWhole_iff hcls hq hrule, ← hfits m hm hsolid]
  simp [hchecked]

/-- What lies between the common start and the common end of the items. -/
def middleIn (sample : List (List Char)) (item : List Char) : List Char :=
  middle (commonStartOf sample).length (commonEndOf sample).length item

/-- The common start and the common end overlap in no item. -/
def Apart (sample : List (List Char)) : Prop :=
  ∀ e ∈ sample, (commonStartOf sample).length + (commonEndOf sample).length ≤ e.length

instance (sample : List (List Char)) : Decidable (Apart sample) :=
  inferInstanceAs (Decidable (∀ e ∈ sample, _ ≤ _))

theorem matchesWhole_candidate_iff {sample : List (List Char)} {e : List Char} (he : e ∈ sample)
    (hsolid : ∀ c ∈ middleIn sample e, isWhiteSpace c = false) (hapart : Apart sample)
    (hchecked : Checkable (candidate sample)) :
    matchesWhole (candidate sample) (String.ofList e) = true ↔
      ClassFits (sample.map (middleIn sample)) (middleIn sample e) := by
  have hne := List.ne_nil_of_mem he
  have hstart := (isCommonStart_commonStartOf hne _).mpr (List.prefix_refl _) e he
  have hend := (isCommonEnd_commonEndOf hne _).mpr (List.suffix_refl _) e he
  obtain ⟨nonempty, s, q, ⟨⟨piece, hcls, hq⟩, _, _, _⟩, hfits⟩ :=
    exists_runs_classOf (sample.map (middleIn sample))
  rw [matchesWhole_iff hcls hq (toList_candidate sample), String.toList_ofList,
    exists_fitsRun_iff hstart hend, ← hfits _ (List.mem_map_of_mem he) hsolid]
  simp [hchecked, hapart e he, middleIn]

/-- The class for solid middles matches one of them in full exactly if it fits it: of letters those of
ASCII, of letters and numbers those that are word characters.  So a rule that can be checked, and whose
start and end do not overlap, matches an example it was made from exactly if the class fits the
middle. -/
theorem classOf_fits_iff {middles : List (List Char)}
    (hsolid : ∀ m ∈ middles, ∀ c ∈ m, isWhiteSpace c = false) :
    (∀ m ∈ middles,
      matchesWhole (classOf middles) (String.ofList m) = true ↔ ClassFits middles m) ∧
      ∀ sample, sample.map (middleIn sample) = middles → Apart sample →
        Checkable (candidate sample) → ∀ e ∈ sample,
          (matchesWhole (candidate sample) (String.ofList e) = true ↔
            ClassFits middles (middleIn sample e)) := by
  refine ⟨fun m hm => matchesWhole_classOf_iff hm (hsolid m hm), ?_⟩
  rintro sample rfl hapart hchecked e he
  exact matchesWhole_candidate_iff he (hsolid _ (List.mem_map_of_mem he)) hapart hchecked

/-- An accented letter among letters is not matched, nor is an example with one between its start and
its end; without the accent both are. -/
theorem classOf_fits_iff_accents :
    matchesWhole (classOf [['e'], ['é']]) "e" = true ∧
      matchesWhole (classOf [['e'], ['é']]) "é" = false ∧
      matchesWhole (candidate [['t', 'e', 's'], ['t', 'é', 's']]) "tes" = true ∧
      matchesWhole (candidate [['t', 'e', 's'], ['t', 'é', 's']]) "tés" = false := by
  have hspaces : ∀ m ∈ [['e'], ['é']], m.all (!isWhiteSpace ·) = true := by decide +kernel
  simp only [List.all_eq_true, Bool.not_eq_true'] at hspaces
  obtain ⟨hclass, hrule⟩ := classOf_fits_iff hspaces
  have hplain : matchesWhole (candidate [['t', 'e', 's'], ['t', 'é', 's']]) "tes" = true := by
    decide +kernel
  have hchecked : Checkable (candidate [['t', 'e', 's'], ['t', 'é', 's']]) := by
    unfold matchesWhole at hplain
    split at hplain
    · exact ⟨_, ‹_›⟩
    · cases hplain
  have hexamples := hrule [['t', 'e', 's'], ['t', 'é', 's']] (by decide +kernel) (by decide +kernel)
    hchecked
  refine ⟨(hclass ['e'] (by simp)).mpr (by decide +kernel), ?_, hplain, ?_⟩
  · rw [← Bool.not_eq_true]
    exact mt (hclass ['é'] (by simp)).mp (by decide +kernel)
  · rw [← Bool.not_eq_true]
    exact mt (hexamples ['t', 'é', 's'] (by simp)).mp (by decide +kernel)

-- A fraction is alphanumeric and no word character.
example : ¬ ClassFits [['½'], ['b']] ['½'] := by decide +kernel

end Generalization
end AdaptiveRules
