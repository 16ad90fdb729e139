import AdaptiveRules.Instant
import AdaptiveRules.Proofs.NumberReading

/-!
# Times are read as they were written

Days are counted in eras of 400 years, and years of an era begin in March, so that the leap day comes
last.  A day then has one place in its year and one date, from which it is counted again.  Every field
of a time is written with leading zeros and ends before a mark, so it is read back whatever follows.
-/

namespace AdaptiveRules

/-- A step that gives a value passes it on. -/
theorem bind_of_eq_some {α β : Type} {x : Option α} {a : α} (hx : x = some a)
    (f : α → Option β) : (x >>= f) = f a := by
  rw [hx]
  rfl

namespace Instant

open JsonParser (AreDigits EndsDigits areDigits_toDigits areDigits_zeros)

/-! ### Calendar -/

/-- The years of an era go on for 365 days and a leap day in every fourth one, but not in the
hundredth. -/
def startOfYear (yoe : Int) : Int := 365 * yoe + yoe / 4 - yoe / 100

theorem startOfYear_le {doe yoe : Int} (hlow : 0 ≤ doe) (hhigh : doe < 146097)
    (hyoe : yoe = (doe - doe / 1460 + doe / 36524 - doe / 146096) / 365) :
    startOfYear yoe ≤ doe ∧ doe ≤ startOfYear yoe + 365 ∧
      (doe = startOfYear yoe + 365 →
        (yoe + 1) % 4 = 0 ∧ ((yoe + 1) % 100 ≠ 0 ∨ (yoe + 1) % 400 = 0)) := by
  unfold startOfYear
  by_cases hlast : doe = 146096
  · subst hlast
    norm_num at hyoe
    subst hyoe
    norm_num
  have hbefore : doe / 146096 = 0 := by omega
  rw [hbefore] at hyoe
  have hcentury : doe / 36524 = yoe / 100 := by
    have : yoe / 100 = 0 ∨ yoe / 100 = 1 ∨ yoe / 100 = 2 ∨ yoe / 100 = 3 := by omega
    omega
  rw [hcentury] at hyoe
  have hfours : yoe / 4 ≤ doe / 1460 := by omega
  refine ⟨by omega, by omega, fun hleap => ?_⟩
  have hfourth : (yoe + 1) % 4 = 0 := by
    -- Otherwise the leap days so far are the full periods of four years, and the day is too late.
    by_contra hother
    have hdoe : doe =
        1460 * (yoe / 4) + (365 * (yoe % 4) + (yoe / 4 - yoe / 100) + 365) := by omega
    have hrest : 0 ≤ yoe / 4 - yoe / 100 ∧ yoe / 4 - yoe / 100 ≤ 99 := by omega
    have hmod : yoe % 4 ≤ 2 := by omega
    have hsame : doe / 1460 = yoe / 4 := by
      clear hyoe
      omega
    omega
  exact ⟨hfourth, by omega⟩

/-- Five months, counted from March or August, have 153 days. -/
theorem monthOfYear_bounds {doy mp : Int} (hlow : 0 ≤ doy) (hhigh : doy ≤ 365)
    (hmp : mp = (5 * doy + 2) / 153) :
    0 ≤ mp ∧ mp ≤ 11 ∧ (153 * mp + 2) / 5 ≤ doy ∧ doy < (153 * (mp + 1) + 2) / 5 := by
  omega

theorem daysOfDate_eq {era yoe : Int} {month day : Nat} (hlow : 0 ≤ yoe) (hhigh : yoe < 400) :
    daysOfDate (yoe + era * 400 + if month ≤ 2 then 1 else 0) month day =
      era * 146097 + (startOfYear yoe +
        ((153 * (if month > 2 then (month : Int) - 3 else month + 9) + 2) / 5 + day - 1)) -
          719468 := by
  have hyear : (if month ≤ 2 then (yoe + era * 400 + if month ≤ 2 then 1 else 0) - 1
      else (yoe + era * 400 + if month ≤ 2 then 1 else 0)) = yoe + era * 400 := by
    split <;> simp
  have hera : (yoe + era * 400) / 400 = era := by omega
  unfold daysOfDate startOfYear
  simp (disch := decide) only [hyear, Int.fdiv_eq_ediv_of_nonneg, hera, add_sub_cancel_right,
    mul_comm yoe]

/-- Months are counted from March. -/
theorem day_le_daysInMonth {era yoe doy mp : Int} {month day : Nat} (hmp0 : 0 ≤ mp)
    (hmp11 : mp ≤ 11) (hmonth : (month : Int) = if mp < 10 then mp + 3 else mp - 9)
    (hday : (day : Int) = doy - (153 * mp + 2) / 5 + 1) (hdoy : doy ≤ 365)
    (hlast : doy < (153 * (mp + 1) + 2) / 5)
    (hleap : doy = 365 → (yoe + 1) % 4 = 0 ∧ ((yoe + 1) % 100 ≠ 0 ∨ (yoe + 1) % 400 = 0)) :
    day ≤ daysInMonth (yoe + era * 400 + if month ≤ 2 then 1 else 0) month := by
  unfold daysInMonth
  split
  · next hfebruary =>
      subst hfebruary
      obtain rfl : mp = 11 := by
        split at hmonth <;> omega
      by_cases hdoy' : doy = 365
      · have hyear : isLeapYear (yoe + era * 400 + if 2 ≤ 2 then 1 else 0) = true := by
          obtain ⟨hfour, hhundred⟩ := hleap hdoy'
          simp only [isLeapYear, le_refl, if_true, Bool.and_eq_true, beq_iff_eq, Bool.or_eq_true,
            bne_iff_ne]
          omega
        rw [if_pos hyear]
        omega
      · have hfew : day ≤ 28 := by omega
        refine hfew.trans ?_
        generalize isLeapYear _ = leap
        cases leap <;> decide
  · split
    · next hthirty =>
        simp only [List.mem_cons, List.not_mem_nil, or_false] at hthirty
        split at hmonth <;> omega
    · omega

/-- The date of a day is in the calendar, and the day is counted from it. -/
theorem daysOfDate_dateOfDays {days year : Int} {month day : Nat}
    (hdate : dateOfDays days = (year, month, day)) :
    daysOfDate year month day = days ∧ 1 ≤ month ∧ month ≤ 12 ∧ 1 ≤ day ∧
      day ≤ daysInMonth year month := by
  obtain ⟨era, hera⟩ : ∃ era, era = (days + 719468) / 146097 := ⟨_, rfl⟩
  obtain ⟨doe, hdoe⟩ : ∃ doe, doe = days + 719468 - era * 146097 := ⟨_, rfl⟩
  obtain ⟨yoe, hyoe⟩ : ∃ yoe, yoe = (doe - doe / 1460 + doe / 36524 - doe / 146096) / 365 :=
    ⟨_, rfl⟩
  obtain ⟨doy, hdoy⟩ : ∃ doy, doy = doe - startOfYear yoe := ⟨_, rfl⟩
  obtain ⟨mp, hmp⟩ : ∃ mp, mp = (5 * doy + 2) / 153 := ⟨_, rfl⟩
  have hparts : dateOfDays days =
      (yoe + era * 400 + (if (if mp < 10 then mp + 3 else mp - 9) ≤ 2 then 1 else 0),
        (if mp < 10 then mp + 3 else mp - 9).toNat, (doy - (153 * mp + 2) / 5 + 1).toNat) := by
    rw [hmp, hdoy, hyoe, hdoe, hera]
    unfold dateOfDays startOfYear
    simp (disch := decide) only [Int.fdiv_eq_ediv_of_nonneg]
  obtain ⟨hstart, hend, hleap⟩ := startOfYear_le (by omega) (by omega) hyoe
  obtain ⟨hmp0, hmp11, hfirst, hlast⟩ := monthOfYear_bounds (by omega) (by omega) hmp
  have hyoe400 : 0 ≤ yoe ∧ yoe < 400 := by omega
  obtain ⟨hyear, hmonth, hday⟩ := Prod.mk.inj (hdate.symm.trans hparts) |>.imp id Prod.mk.inj
  have hmonth' : (month : Int) = if mp < 10 then mp + 3 else mp - 9 := by
    rw [hmonth]
    split <;> omega
  have hday' : (day : Int) = doy - (153 * mp + 2) / 5 + 1 := by omega
  have hmp' : (if month > 2 then (month : Int) - 3 else month + 9) = mp := by
    split at hmonth' <;> split <;> omega
  rw [← hmonth'] at hyear
  obtain rfl : year = yoe + era * 400 + if month ≤ 2 then 1 else 0 := by
    rw [hyear]
    norm_cast
  refine ⟨?_, ?_, ?_, ?_, ?_⟩
  · rw [daysOfDate_eq hyoe400.1 hyoe400.2, hmp']
    omega
  · split at hmonth' <;> omega
  · split at hmonth' <;> omega
  · omega
  · exact day_le_daysInMonth hmp0 hmp11 hmonth' hday' (by omega) hlast fun h => hleap (by omega)

/-! ### Fields -/

variable {ds rest : List Char} {width n : Nat} {c : Char}

/-- A visible character of the basic alphabet. -/
def IsVisible (c : Char) : Prop := 32 < c.toNat ∧ c.toNat < 127

theorem IsVisible.not_isWhiteSpace (hc : IsVisible c) :
    UnicodeProperties.isWhiteSpace c = false := by
  obtain ⟨hlow, hhigh⟩ := hc
  simp [UnicodeProperties.isWhiteSpace, UnicodeProperties.whiteSpace, CharSet.contains,
    UnicodeBinaryProperties.whiteSpace, CharSet.inRanges]
  omega

theorem isVisible_of_isDigit (hc : c.isDigit = true) : IsVisible c := by
  simp only [Char.isDigit, Bool.and_eq_true, decide_eq_true_eq] at hc
  have hlow : 48 ≤ c.val.toNat := hc.1
  have hhigh : c.val.toNat ≤ 57 := hc.2
  show 32 < c.val.toNat ∧ c.val.toNat < 127
  omega

theorem dropBlanks_cons (hc : IsVisible c) (rest : List Char) :
    dropBlanks (c :: rest) = c :: rest :=
  List.dropWhile_cons_of_neg (by simp [hc.not_isWhiteSpace])

theorem digitsValue_eq (ds : List Char) : digitsValue ds = Nat.ofDigitChars 10 ds 0 := by
  simp only [digitsValue, Nat.ofDigitChars, mul_comm]
  rfl

theorem takeWhile_digits (hds : AreDigits ds) (hrest : EndsDigits rest) :
    (ds ++ rest).takeWhile Char.isDigit = ds :=
  congrArg Prod.fst (JsonParser.digitsOf_append hds hrest)

theorem readNumber_append (hds : AreDigits ds) (hsome : ds ≠ []) (hlength : ds.length = width)
    (rest : List Char) : readNumber width (ds ++ rest) = some (digitsValue ds, rest) := by
  obtain ⟨d, more, rfl⟩ := List.exists_cons_of_ne_nil hsome
  have hblanks : dropBlanks (d :: more ++ rest) = d :: more ++ rest :=
    dropBlanks_cons (isVisible_of_isDigit (hds d List.mem_cons_self)) _
  have htaken : ((d :: more ++ rest).take width).takeWhile Char.isDigit = d :: more := by
    rw [List.take_append_of_le_length hlength.ge, List.take_of_length_le hlength.le]
    have hwhole := takeWhile_digits hds (show EndsDigits [] by rintro _ ⟨⟩)
    rwa [List.append_nil] at hwhole
  unfold readNumber
  simp only [hblanks, htaken]
  rw [if_neg (by simp), List.drop_left]

theorem areDigits_padNat (width n : Nat) : AreDigits (padNat width n).toList := by
  rw [padNat, String.toList_ofList]
  exact (areDigits_zeros _).append (areDigits_toDigits n)

theorem padNat_ne_nil (width n : Nat) : (padNat width n).toList ≠ [] := by
  rw [padNat, String.toList_ofList]
  simp [Nat.toDigits_ne_nil]

theorem digitsValue_padNat (width n : Nat) : digitsValue (padNat width n).toList = n := by
  rw [padNat, String.toList_ofList, digitsValue_eq, Nat.ofDigitChars_append,
    Nat.ofDigitChars_replicate_zero, mul_zero]
  exact Nat.ofDigitChars_ten_toDigits

theorem length_padNat (hwidth : 0 < width) (hn : n < 10 ^ width) :
    (padNat width n).toList.length = width := by
  have hshort := (Nat.length_toDigits_le_iff (b := 10) (by norm_num) hwidth).mpr hn
  rw [padNat, String.toList_ofList, List.length_append, List.length_replicate]
  omega

theorem readNumber_padNat (hwidth : 0 < width) (hn : n < 10 ^ width) (rest : List Char) :
    readNumber width ((padNat width n).toList ++ rest) = some (n, rest) := by
  rw [readNumber_append (areDigits_padNat width n) (padNat_ne_nil width n)
    (length_padNat hwidth hn), digitsValue_padNat]

theorem readMark_cons (hc : IsVisible c) (rest : List Char) :
    readMark c (c :: rest) = some rest := by
  unfold readMark
  rw [dropBlanks_cons hc]
  exact if_pos rfl

theorem readYear_minus (hds : AreDigits ds) (hsome : ds ≠ []) (hrest : EndsDigits rest) :
    readYear ('-' :: (ds ++ rest)) = some (-(digitsValue ds : Int), rest) := by
  unfold readYear
  rw [dropBlanks_cons (show IsVisible '-' by unfold IsVisible; decide)]
  simp only [takeWhile_digits hds hrest]
  rw [if_neg (by simpa using hsome), List.drop_left]

theorem readYear_plus (hds : AreDigits ds) (hsome : ds ≠ []) (hrest : EndsDigits rest) :
    readYear ('+' :: (ds ++ rest)) = some ((digitsValue ds : Int), rest) := by
  unfold readYear
  rw [dropBlanks_cons (show IsVisible '+' by unfold IsVisible; decide)]
  simp only [takeWhile_digits hds hrest]
  rw [if_neg (by simpa using hsome), List.drop_left]

theorem readYear_digit (hc : c.isDigit = true) (rest : List Char) :
    readYear (c :: rest) = (readNumber 4 (c :: rest)).map fun p => ((p.1 : Int), p.2) := by
  unfold readYear
  rw [dropBlanks_cons (isVisible_of_isDigit hc)]
  split
  · next heq =>
      cases heq
      exact absurd hc Bool.false_ne_true
  · next heq =>
      cases heq
      exact absurd hc Bool.false_ne_true
  · rfl

theorem readYear_yearText (year : Int) (rest : List Char) :
    readYear ((yearText year).toList ++ '-' :: rest) = some (year, '-' :: rest) := by
  have hends : EndsDigits ('-' :: rest) := .of_notDigit rfl rest
  have hdigits := areDigits_padNat 4 year.natAbs
  have hsome := padNat_ne_nil 4 year.natAbs
  unfold yearText
  split
  · obtain ⟨d, more, hcs⟩ := List.exists_cons_of_ne_nil (padNat_ne_nil 4 year.toNat)
    have hd := areDigits_padNat 4 year.toNat d (hcs ▸ List.mem_cons_self)
    have hread := readNumber_padNat (by norm_num) (by omega : year.toNat < 10 ^ 4) ('-' :: rest)
    rw [hcs, List.cons_append] at hread ⊢
    rw [readYear_digit hd, hread, Option.map_some, Int.toNat_of_nonneg (by omega)]
  · by_cases hneg : year < 0
    · have hread := readYear_minus hdigits hsome hends
      rw [digitsValue_padNat] at hread
      rw [if_pos hneg, String.toList_append, show "-".toList = ['-'] from rfl, List.append_assoc,
        List.singleton_append, hread, show -(year.natAbs : Int) = year by omega]
    · have hread := readYear_plus hdigits hsome hends
      rw [digitsValue_padNat] at hread
      rw [if_neg hneg, String.toList_append, show "+".toList = ['+'] from rfl, List.append_assoc,
        List.singleton_append, hread, show (year.natAbs : Int) = year by omega]

/-- A fraction of a second in groups of three places. -/
theorem readFraction_fractionText (hn : n < 10 ^ 9) (hrest : EndsDigits rest)
    (hpoint : rest.head? ≠ some '.') :
    readFraction ((fractionText n).toList ++ rest) = some (n, rest) := by
  have hplaces : ∀ width k, 0 < width → width ≤ 9 → k < 10 ^ width → k * 10 ^ (9 - width) = n →
      readFraction ('.' :: ((padNat width k).toList ++ rest)) = some (n, rest) := by
    intro width k hwidth hnine hk hvalue
    have hlength := length_padNat hwidth hk
    unfold readFraction
    simp only [takeWhile_digits (areDigits_padNat width k) hrest]
    rw [if_neg (by simpa using padNat_ne_nil width k), List.drop_left,
      List.take_of_length_le (hlength.le.trans hnine), hlength, digitsValue_padNat]
    exact congrArg (fun m => some (m, rest)) hvalue
  have hpoint' : ".".toList = ['.'] := rfl
  unfold fractionText
  split
  · next hzero =>
      rw [hzero, show "".toList = [] from rfl, List.nil_append]
      unfold readFraction
      split
      · exact absurd rfl hpoint
      · rfl
  · split
    · rw [String.toList_append, hpoint', List.append_assoc, List.singleton_append]
      exact hplaces 3 _ (by norm_num) (by norm_num) (by omega) (by omega)
    · split
      · rw [String.toList_append, hpoint', List.append_assoc, List.singleton_append]
        exact hplaces 6 _ (by norm_num) (by norm_num) (by omega) (by omega)
      · rw [String.toList_append, hpoint', List.append_assoc, List.singleton_append]
        exact hplaces 9 _ (by norm_num) (by norm_num) hn (by omega)

/-! ### Times -/

/-- The time is one of the calendar that is read, and a leap second ends a minute. -/
structure InCalendar (t : Instant) : Prop where
  year : (dateOfDays (t.seconds.fdiv 86400)).1.natAbs ≤ 262142
  nanos : t.nanos < 2000000000
  leap : 1000000000 ≤ t.nanos → t.secondsOfDay % 60 = 59

theorem secondsOfDay_lt (t : Instant) : t.secondsOfDay < 86400 := by
  unfold secondsOfDay
  rw [Int.fdiv_eq_ediv_of_nonneg _ (by norm_num)]
  omega

theorem seconds_eq (t : Instant) : t.seconds.fdiv 86400 * 86400 + t.secondsOfDay = t.seconds := by
  unfold secondsOfDay
  rw [Int.fdiv_eq_ediv_of_nonneg _ (by norm_num)]
  omega

theorem toList_toRfc3339 {t : Instant} {year : Int} {month day : Nat}
    (hdate : dateOfDays (t.seconds.fdiv 86400) = (year, month, day)) :
    t.toRfc3339.toList = (yearText year).toList ++ '-' :: ((padNat 2 month).toList ++
      '-' :: ((padNat 2 day).toList ++ 'T' :: ((padNat 2 (t.secondsOfDay / 3600)).toList ++
        ':' :: ((padNat 2 (t.secondsOfDay / 60 % 60)).toList ++
          ':' :: ((padNat 2 (t.secondsOfDay % 60 +
            if t.nanos ≥ 1000000000 then 1 else 0)).toList ++
              ((fractionText (if t.nanos ≥ 1000000000 then t.nanos - 1000000000
                else t.nanos)).toList ++ ['Z'])))))) := by
  simp [toRfc3339, dateText, hourMinuteText, hdate]

/-- A time of the calendar is read as it was written. -/
theorem ofRfc3339?_toRfc3339 {t : Instant} (ht : t.InCalendar) :
    ofRfc3339? t.toRfc3339 = some t := by
  obtain ⟨hyear, hnanos, hleap⟩ := ht
  obtain ⟨year, month, day, hdate⟩ : ∃ year month day,
      dateOfDays (t.seconds.fdiv 86400) = (year, month, day) := ⟨_, _, _, rfl⟩
  obtain ⟨hdays, hmonth, hmonth', hday, hday'⟩ := daysOfDate_dateOfDays hdate
  rw [hdate] at hyear
  have hday31 : day ≤ 31 := by
    refine hday'.trans ?_
    unfold daysInMonth
    split <;> [split; split] <;> norm_num
  have hclock := t.secondsOfDay_lt
  have hdash : IsVisible '-' := by unfold IsVisible; decide
  have hcolon : IsVisible ':' := by unfold IsVisible; decide
  have hoffset : readOffset (dropBlanks ['Z']) = some (0, []) := by
    rw [dropBlanks_cons (show IsVisible 'Z' by unfold IsVisible; decide)]
    rfl
  have htext := toList_toRfc3339 hdate
  set second := t.secondsOfDay % 60 + if t.nanos ≥ 1000000000 then 1 else 0 with hsecond
  set nanos := if t.nanos ≥ 1000000000 then t.nanos - 1000000000 else t.nanos with hfraction
  have hsecond60 : second ≤ 60 := by
    rw [hsecond]
    split <;> omega
  have hnanos9 : nanos < 10 ^ 9 := by
    rw [hfraction]
    split <;> omega
  unfold ofRfc3339?
  rw [htext]
  refine (bind_of_eq_some (readYear_yearText _ _) _).trans ?_
  refine (bind_of_eq_some (readMark_cons hdash _) _).trans ?_
  refine (bind_of_eq_some (readNumber_padNat (by norm_num) (by omega) _) _).trans ?_
  refine (bind_of_eq_some (readMark_cons hdash _) _).trans ?_
  refine (bind_of_eq_some (readNumber_padNat (by norm_num) (by omega) _) _).trans ?_
  refine (bind_of_eq_some (rfl : some _ = some _) _).trans ?_
  refine (bind_of_eq_some (readNumber_padNat (by norm_num) (by omega) _) _).trans ?_
  refine (bind_of_eq_some (readMark_cons hcolon _) _).trans ?_
  refine (bind_of_eq_some (readNumber_padNat (by norm_num) (by omega) _) _).trans ?_
  refine (bind_of_eq_some (readMark_cons hcolon _) _).trans ?_
  refine (bind_of_eq_some (readNumber_padNat (by norm_num) (by omega) _) _).trans ?_
  refine (bind_of_eq_some (readFraction_fractionText hnanos9 (.of_notDigit rfl []) (by simp)) _).trans ?_
  refine (bind_of_eq_some hoffset _).trans ?_
  refine (if_neg (by decide)).trans ?_
  refine (if_neg (by omega)).trans ?_
  refine (if_neg (by simp only [Int.natAbs_zero]; omega)).trans ?_
  refine (if_neg (by simp only at hyear; omega)).trans ?_
  show some (⟨daysOfDate year month day * 86400 + ((t.secondsOfDay / 3600 * 3600 +
    t.secondsOfDay / 60 % 60 * 60 + if second = 60 then 59 else second : Nat) : Int) - 0,
    if second = 60 then nanos + 1000000000 else nanos⟩ : Instant) = some t
  have hseconds : (t.secondsOfDay / 3600 * 3600 + t.secondsOfDay / 60 % 60 * 60 +
      if second = 60 then 59 else second) = t.secondsOfDay ∧
        (if second = 60 then nanos + 1000000000 else nanos) = t.nanos := by
    by_cases hnano : t.nanos ≥ 1000000000
    · have hlast := hleap hnano
      rw [if_pos hnano] at hsecond hfraction
      rw [if_pos (by omega), if_pos (by omega)]
      omega
    · rw [if_neg hnano] at hsecond hfraction
      rw [if_neg (by omega), if_neg (by omega)]
      omega
  rw [hdays, hseconds.1, hseconds.2, sub_zero, seconds_eq]

end Instant
end AdaptiveRules
