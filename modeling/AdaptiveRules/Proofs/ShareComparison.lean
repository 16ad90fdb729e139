import AdaptiveRules.MatchCache
import Mathlib

/-!
# Comparing shares

A share is the quotient of two whole numbers as a floating-point number, that is, rounded to 53 bits.
Rounding goes by the number only, so equal fractions have equal shares however they are written.  It
errs by less than the 2⁵²nd part of the number, and different fractions of small whole numbers are
further apart than that.  So two shares compare as the fractions do, as long as the product of their
totals is below 2⁵¹.
-/

namespace AdaptiveRules

namespace Rounding

open Float.Model Float.Model.UnpackedFloat

variable {em other : ExtendedMantissa} {x y : ℚ} {m n s u a b : Nat} {e f : Int}

/-! ### Mantissas with two more bits -/

/-- The two bits tell where the number lies between the mantissa and the next one. -/
def Represents (em : ExtendedMantissa) (y : ℚ) : Prop :=
  match em with
  | ⟨m, false, false⟩ => y = m
  | ⟨m, false, true⟩ => m < y ∧ y < m + 1 / 2
  | ⟨m, true, false⟩ => y = m + 1 / 2
  | ⟨m, true, true⟩ => m + 1 / 2 < y ∧ y < m + 1

theorem Represents.bounds (hem : Represents em y) : em.mantissa ≤ y ∧ y < em.mantissa + 1 := by
  rcases em with ⟨m, round, sticky⟩
  cases round <;> cases sticky <;> simp only [Represents] at hem ⊢ <;> constructor <;> linarith

theorem Represents.unique (hem : Represents em y) (hother : Represents other y) : em = other := by
  have hsame : em.mantissa = other.mantissa := by
    obtain ⟨hlow, hhigh⟩ := hem.bounds
    obtain ⟨hlow', hhigh'⟩ := hother.bounds
    have hle : em.mantissa < other.mantissa + 1 := by exact_mod_cast hlow.trans_lt hhigh'
    have hge : other.mantissa < em.mantissa + 1 := by exact_mod_cast hlow'.trans_lt hhigh
    omega
  rcases em with ⟨m, round, sticky⟩
  rcases other with ⟨n, round', sticky'⟩
  obtain rfl : m = n := hsame
  cases round <;> cases sticky <;> cases round' <;> cases sticky' <;>
    simp only [Represents] at hem hother <;> first | rfl | linarith

theorem Represents.shiftRightOne (hem : Represents em y) : Represents em.shiftRightOne (y / 2) := by
  rcases em with ⟨m, round, sticky⟩
  have hshift : (⟨m, round, sticky⟩ : ExtendedMantissa).shiftRightOne =
      ⟨m / 2, m % 2 != 0, round || sticky⟩ := rfl
  have hparts : (m : ℚ) = 2 * ((m / 2 : Nat) : ℚ) + ((m % 2 : Nat) : ℚ) := by
    exact_mod_cast (Nat.div_add_mod m 2).symm
  rw [hshift]
  -- The last bit of the mantissa becomes the first bit behind it.
  rcases Nat.mod_two_eq_zero_or_one m with hm | hm <;> rw [hm] at hparts ⊢ <;>
    cases round <;> cases sticky <;> simp [Represents] at hem ⊢ <;>
      first | linarith | (constructor <;> linarith)

theorem Represents.shiftRight (hem : Represents em y) (k : Nat) :
    Represents (em >>> k) (y / 2 ^ k) := by
  change Represents (k.repeat ExtendedMantissa.shiftRightOne em) _
  induction k with
  | zero => simpa [Nat.repeat] using hem
  | succ k ih =>
      rw [Nat.repeat, pow_succ, ← div_div]
      exact ih.shiftRightOne

theorem represents_of_value (hvalue : (m : ℚ) * 2 ^ e = x) :
    Represents (.ofMantissaAndAccuracy m .exact) (x / 2 ^ e) := by
  rw [← hvalue, mul_div_cancel_right₀ _ (by positivity)]
  rfl

/-- The remainder of a division gives the bits behind the quotient. -/
theorem represents_quotient (m : Nat) (hn : 0 < n) :
    Represents (.ofMantissaAndAccuracy (m / n) (accuracyOfFraction (m % n) n)) (m / n) := by
  have hn' : (0 : ℚ) < n := by exact_mod_cast hn
  have hsplit : (m : ℚ) / n = (m / n : Nat) + (m % n : Nat) / n := by
    have hparts : (m : ℚ) = n * ((m / n : Nat) : ℚ) + ((m % n : Nat) : ℚ) := by
      exact_mod_cast (Nat.div_add_mod m n).symm
    nth_rewrite 1 [hparts]
    field_simp
  have hless : ((m % n : Nat) : ℚ) / n < 1 := by
    rw [div_lt_one hn']
    exact_mod_cast Nat.mod_lt m hn
  rw [hsplit]
  unfold accuracyOfFraction
  split
  next hzero =>
    rw [hzero]
    simp [ExtendedMantissa.ofMantissaAndAccuracy, Represents]
  next hsome =>
    have hpos : (0 : ℚ) < ((m % n : Nat) : ℚ) / n := by
      apply div_pos _ hn'
      exact_mod_cast Nat.pos_of_ne_zero hsome
    rcases lt_trichotomy (2 * (m % n)) n with hlow | hhalf | hhigh
    · have hfraction : ((m % n : Nat) : ℚ) / n < 1 / 2 := by
        rw [div_lt_div_iff₀ hn' two_pos]
        exact_mod_cast (by omega : m % n * 2 < 1 * n)
      rw [Nat.compare_eq_lt.mpr hlow]
      exact ⟨by linarith, by linarith⟩
    · have hfraction : ((m % n : Nat) : ℚ) / n = 1 / 2 := by
        rw [div_eq_div_iff hn'.ne' two_ne_zero]
        exact_mod_cast (by omega : m % n * 2 = 1 * n)
      rw [Nat.compare_eq_eq.mpr hhalf, hfraction]
      rfl
    · have hfraction : 1 / 2 < ((m % n : Nat) : ℚ) / n := by
        rw [div_lt_div_iff₀ two_pos hn']
        exact_mod_cast (by omega : 1 * n < m % n * 2)
      rw [Nat.compare_eq_gt.mpr hhigh]
      exact ⟨by linarith, by linarith⟩

theorem roundedMantissa_bounds (em : ExtendedMantissa) :
    em.mantissa ≤ em.roundedMantissa ∧ em.roundedMantissa ≤ em.mantissa + 1 := by
  rcases em with ⟨m, round, sticky⟩
  cases round <;> cases sticky <;>
    simp [ExtendedMantissa.roundedMantissa, ExtendedMantissa.accuracy, Accuracy.roundToNearestEven]
  omega

/-! ### Full mantissas -/

def IsFull (m : Nat) : Prop := 2 ^ 52 ≤ m ∧ m < 2 ^ 53

theorem isFull_iff : IsFull m ↔ m.log2 = 52 := by
  constructor
  · intro hm
    exact (Nat.log2_eq_iff (by have := hm.1; omega)).mpr hm
  · intro hm
    exact (Nat.log2_eq_iff (by rintro rfl; simp at hm)).mp hm

theorem IsFull.lt_of_exponent_lt (hm : IsFull m) (hn : IsFull n) (hef : e < f) :
    (m : ℚ) * 2 ^ e < n * 2 ^ f := by
  have hupper : (m : ℚ) < 2 ^ 53 := by exact_mod_cast hm.2
  have hlower : (2 : ℚ) ^ 52 ≤ n := by exact_mod_cast hn.1
  have hstep : (2 : ℚ) ^ (e + 1) ≤ 2 ^ f := zpow_le_zpow_right₀ one_le_two hef
  calc (m : ℚ) * 2 ^ e < 2 ^ 53 * 2 ^ e := mul_lt_mul_of_pos_right hupper (by positivity)
    _ = 2 ^ 52 * 2 ^ (e + 1) := by rw [zpow_add_one₀ two_ne_zero]; ring
    _ ≤ n * 2 ^ f := mul_le_mul hlower hstep (by positivity) (by positivity)

theorem IsFull.lt_iff (hm : IsFull m) (hn : IsFull n) :
    (m : ℚ) * 2 ^ e < n * 2 ^ f ↔ e < f ∨ e = f ∧ m < n := by
  rcases lt_trichotomy e f with hless | rfl | hmore
  · exact iff_of_true (hm.lt_of_exponent_lt hn hless) (Or.inl hless)
  · rw [mul_lt_mul_iff_left₀ (by positivity)]
    simp
  · exact iff_of_false (hn.lt_of_exponent_lt hm hmore).not_gt (by omega)

theorem IsFull.eq_of_value_eq (hm : IsFull m) (hn : IsFull n)
    (hvalue : (m : ℚ) * 2 ^ e = n * 2 ^ f) : m = n ∧ e = f := by
  have hnot : ¬ (e < f ∨ e = f ∧ m < n) := (hm.lt_iff hn).not.mp hvalue.not_lt
  have hnot' : ¬ (f < e ∨ f = e ∧ n < m) := (hn.lt_iff hm).not.mp hvalue.not_gt
  omega

theorem lt_finite_iff (hm : IsFull m) (hn : IsFull n) (hm' : 0 < m) (hn' : 0 < n) :
    (UnpackedFloat.finite .positive m e hm').lt (.finite .positive n f hn') = true ↔
      (m : ℚ) * 2 ^ e < n * 2 ^ f := by
  rw [hm.lt_iff hn]
  unfold UnpackedFloat.lt UnpackedFloat.compare
  rw [beq_iff_eq, Option.some.injEq, Ordering.then_eq_lt]
  simp [Int.compare_eq_lt, Nat.compare_eq_lt]

/-! ### What a number is rounded to -/

structure RoundsTo (x : ℚ) (m : Nat) (e : Int) : Prop where
  full : IsFull m
  rounded : ∃ (em : ExtendedMantissa) (f : Int), IsFull em.mantissa ∧ Represents em (x / 2 ^ f) ∧
    (m : ℚ) * 2 ^ e = em.roundedMantissa * 2 ^ f

theorem roundsTo_of_value (hm : IsFull m) (hvalue : (m : ℚ) * 2 ^ e = x) : RoundsTo x m e :=
  ⟨hm, .ofMantissaAndAccuracy m .exact, e, hm, represents_of_value hvalue, rfl⟩

theorem bounds_of_represents (hem : IsFull em.mantissa) (hrep : Represents em (x / 2 ^ e)) :
    (2 : ℚ) ^ (52 + e) ≤ x ∧ x < 2 ^ (53 + e) := by
  have hpos : (0 : ℚ) < 2 ^ e := by positivity
  obtain ⟨hlow, hhigh⟩ := hrep.bounds
  have hleast : (2 : ℚ) ^ 52 ≤ em.mantissa := by exact_mod_cast hem.1
  have hmost : (em.mantissa : ℚ) + 1 ≤ 2 ^ 53 := by exact_mod_cast hem.2
  rw [le_div_iff₀ hpos] at hlow
  rw [div_lt_iff₀ hpos] at hhigh
  rw [zpow_add₀ two_ne_zero, zpow_add₀ two_ne_zero]
  constructor
  · exact (mul_le_mul_of_nonneg_right hleast hpos.le).trans hlow
  · exact hhigh.trans_le (mul_le_mul_of_nonneg_right hmost hpos.le)

/-- Rounding goes by the number only. -/
theorem RoundsTo.unique (hm : RoundsTo x m e) (hn : RoundsTo x n f) : m = n ∧ e = f := by
  obtain ⟨em, g, hfull, hrep, hvalue⟩ := hm.rounded
  obtain ⟨em', g', hfull', hrep', hvalue'⟩ := hn.rounded
  have hexponent : g = g' := by
    obtain ⟨hlow, hhigh⟩ := bounds_of_represents hfull hrep
    obtain ⟨hlow', hhigh'⟩ := bounds_of_represents hfull' hrep'
    have hle := (zpow_lt_zpow_iff_right₀ one_lt_two).mp (hlow.trans_lt hhigh')
    have hge := (zpow_lt_zpow_iff_right₀ one_lt_two).mp (hlow'.trans_lt hhigh)
    omega
  -- Now both round the same mantissa and bits; a carry can still be written in one way only.
  subst hexponent
  obtain rfl := hrep.unique hrep'
  exact hm.full.eq_of_value_eq hn.full (hvalue.trans hvalue'.symm)

theorem RoundsTo.error (hm : RoundsTo x m e) : |(m : ℚ) * 2 ^ e - x| ≤ x / 2 ^ 52 := by
  obtain ⟨em, g, hfull, hrep, hvalue⟩ := hm.rounded
  have hpos : (0 : ℚ) < 2 ^ g := by positivity
  have hscaled : |(em.roundedMantissa : ℚ) - x / 2 ^ g| ≤ x / 2 ^ g / 2 ^ 52 := by
    obtain ⟨hlow, hhigh⟩ := hrep.bounds
    have hleast : (2 : ℚ) ^ 52 ≤ em.mantissa := by exact_mod_cast hfull.1
    have hround : (em.mantissa : ℚ) ≤ em.roundedMantissa ∧
        (em.roundedMantissa : ℚ) ≤ em.mantissa + 1 := by exact_mod_cast roundedMantissa_bounds em
    have hunit : (1 : ℚ) ≤ x / 2 ^ g / 2 ^ 52 := by
      rw [le_div_iff₀ (by positivity)]
      linarith
    rw [abs_le]
    constructor <;> linarith [hround.1, hround.2]
  calc |(m : ℚ) * 2 ^ e - x| = |((em.roundedMantissa : ℚ) - x / 2 ^ g) * 2 ^ g| := by
        rw [hvalue, sub_mul, div_mul_cancel₀ _ hpos.ne']
    _ = |(em.roundedMantissa : ℚ) - x / 2 ^ g| * 2 ^ g := by rw [abs_mul, abs_of_pos hpos]
    _ ≤ x / 2 ^ g / 2 ^ 52 * 2 ^ g := mul_le_mul_of_nonneg_right hscaled hpos.le
    _ = x / 2 ^ 52 := by field_simp

theorem RoundsTo.lt_of_gap (hm : RoundsTo x m e) (hn : RoundsTo y n f) (hy : y ≤ 1)
    (hgap : x + 1 / 2 ^ 51 < y) : (m : ℚ) * 2 ^ e < n * 2 ^ f := by
  have hleft := (abs_le.mp hm.error).2
  have hright := (abs_le.mp hn.error).1
  norm_num at hleft hright hgap
  linarith

/-- The exponents of shares and of small whole numbers are far from the ends. -/
theorem RoundsTo.exponent_bounds (hm : RoundsTo x m e) (hlow : 1 / 2 ^ 53 ≤ x)
    (hhigh : x ≤ 2 ^ 53) : -1074 ≤ e ∧ e ≤ 971 := by
  obtain ⟨herror, herror'⟩ := abs_le.mp hm.error
  have hleast : (2 : ℚ) ^ 52 ≤ m := by exact_mod_cast hm.full.1
  have hmost : (m : ℚ) < 2 ^ 53 := by exact_mod_cast hm.full.2
  have hpos : (0 : ℚ) < 2 ^ e := by positivity
  constructor
  · have hvalue : (2 : ℚ) ^ (-54 : Int) ≤ m * 2 ^ e := by
      norm_num at hlow herror ⊢
      linarith
    have hless : (2 : ℚ) ^ (-54 : Int) < 2 ^ (53 + e) := by
      rw [zpow_add₀ two_ne_zero]
      exact hvalue.trans_lt (mul_lt_mul_of_pos_right hmost hpos)
    have := (zpow_lt_zpow_iff_right₀ one_lt_two).mp hless
    omega
  · have hvalue : (m : ℚ) * 2 ^ e ≤ 2 ^ (54 : Int) := by
      norm_num at hhigh herror' ⊢
      linarith
    have hless : (2 : ℚ) ^ (52 + e) ≤ 2 ^ (54 : Int) := by
      rw [zpow_add₀ two_ne_zero]
      exact (mul_le_mul_of_nonneg_right hleast hpos.le).trans hvalue
    have := (zpow_le_zpow_iff_right₀ one_lt_two).mp hless
    omega

/-! ### How the operations round -/

theorem mantissa_shiftRight (em : ExtendedMantissa) (k : Nat) :
    (em >>> k).mantissa = em.mantissa / 2 ^ k := by
  change (k.repeat ExtendedMantissa.shiftRightOne em).mantissa = _
  induction k with
  | zero => simp [Nat.repeat]
  | succ k ih =>
      rw [Nat.repeat, pow_succ, ← Nat.div_div_eq_div_mul, ← ih]
      rfl

theorem mantissa_ofMantissaAndAccuracy (m : Nat) (accuracy : Accuracy) :
    (ExtendedMantissa.ofMantissaAndAccuracy m accuracy).mantissa = m := by
  rcases accuracy with _ | order
  · rfl
  · cases order <;> rfl

/-- Away from the least exponent, numbers get full mantissas. -/
theorem targetExponent_eq (hm : -1022 ≤ m.log2 + e) :
    Format.binary64.targetExponent (totalExponent m e) = m.log2 + e - 52 := by
  simp only [Format.targetExponent, totalExponent, Format.mantissaBits, Format.minExponent]
  norm_num
  omega

theorem isFull_shiftRight (hm : 52 ≤ m.log2) : IsFull (m / 2 ^ (m.log2 - 52)) := by
  have hne : m ≠ 0 := by
    rintro rfl
    simp at hm
  have hpos : 0 < 2 ^ (m.log2 - 52) := by positivity
  constructor
  · rw [Nat.le_div_iff_mul_le hpos, ← pow_add, Nat.add_sub_cancel' hm]
    exact Nat.log2_self_le hne
  · rw [Nat.div_lt_iff_lt_mul hpos, ← pow_add, show 53 + (m.log2 - 52) = m.log2 + 1 by omega]
    exact Nat.lt_log2_self

theorem shiftToTargetExponent_of_isFull (hm : IsFull m) (he : -1074 ≤ e) :
    shiftToTargetExponent Format.binary64 m e .exact = (.ofMantissaAndAccuracy m .exact, e) := by
  have hlog := isFull_iff.mp hm
  unfold shiftToTargetExponent
  rw [targetExponent_eq (by omega), hlog]
  simp only [shiftToExponent]
  rw [show (((52 : Nat) : Int) + e - 52 - e : Int).toNat = 0 by omega]
  simp [HShiftRight.hShiftRight, Nat.repeat]

/-- A mantissa that got one bit too many is shifted by one. -/
theorem shiftToTargetExponent_carried (he : -1074 ≤ e) :
    shiftToTargetExponent Format.binary64 (2 ^ 53) e .exact =
      (.ofMantissaAndAccuracy (2 ^ 52) .exact, e + 1) := by
  unfold shiftToTargetExponent
  rw [targetExponent_eq (by rw [Nat.log2_two_pow]; omega), Nat.log2_two_pow]
  simp only [shiftToExponent]
  rw [show (((53 : Nat) : Int) + e - 52 - e : Int).toNat = 1 by omega]
  rfl

/-- A mantissa of enough bits is shifted to 53, rounded, and shifted once more if that carries. -/
theorem exists_roundWithAccuracy {accuracy : Accuracy} (hm : 52 ≤ m.log2)
    (he : -1022 ≤ m.log2 + e)
    (hrep : Represents (.ofMantissaAndAccuracy m accuracy) (x / 2 ^ e)) :
    ∃ n f, ∃ hn : 0 < n, RoundsTo x n f ∧
      roundWithAccuracy Format.binary64 .positive m e accuracy = .finite .positive n f hn := by
  set k := m.log2 - 52 with hk
  set em := ExtendedMantissa.ofMantissaAndAccuracy m accuracy >>> k with hem
  have hfirst : shiftToTargetExponent Format.binary64 m e accuracy = (em, e + k) := by
    unfold shiftToTargetExponent
    rw [targetExponent_eq he]
    simp only [shiftToExponent]
    rw [show (m.log2 + e - 52 - e : Int).toNat = k by omega]
  have hfull : IsFull em.mantissa := by
    rw [hem, mantissa_shiftRight, mantissa_ofMantissaAndAccuracy]
    exact isFull_shiftRight hm
  have hshifted : Represents em (x / 2 ^ (e + k)) := by
    have hshift := hrep.shiftRight k
    rwa [div_div, ← zpow_natCast, ← zpow_add₀ two_ne_zero] at hshift
  obtain ⟨hlow, hhigh⟩ := roundedMantissa_bounds em
  unfold roundWithAccuracy
  rw [hfirst]
  simp only
  by_cases hcarry : em.roundedMantissa < 2 ^ 53
  · have hround : IsFull em.roundedMantissa := ⟨hfull.1.trans hlow, hcarry⟩
    have hpos : 0 < em.roundedMantissa := (by norm_num : 0 < 2 ^ 52).trans_le hround.1
    rw [shiftToTargetExponent_of_isFull hround (by omega)]
    exact ⟨em.roundedMantissa, e + k, hpos, ⟨hround, em, e + k, hfull, hshifted, rfl⟩,
      dif_neg hpos.ne'⟩
  · have hround : em.roundedMantissa = 2 ^ 53 := by
      have hmost := hfull.2
      omega
    have hvalue : ((2 ^ 52 : Nat) : ℚ) * 2 ^ (e + k + 1) = em.roundedMantissa * 2 ^ (e + k) := by
      rw [hround, zpow_add_one₀ two_ne_zero]
      push_cast
      ring
    rw [hround, shiftToTargetExponent_carried (by omega)]
    exact ⟨2 ^ 52, e + k + 1, by norm_num,
      ⟨⟨le_refl _, by norm_num⟩, em, e + k, hfull, hshifted, hvalue⟩, rfl⟩

theorem divCore_eq (hm : IsFull m) (hn : IsFull n) (hlow : -1022 ≤ e - f - 1) :
    divCore Format.binary64 m e n f =
      (m * 2 ^ 53 / n, e - f - 53, accuracyOfFraction (m * 2 ^ 53 % n) n) := by
  have htarget : Format.binary64.targetExponent (totalExponent m e - totalExponent n f) =
      e - f - 53 := by
    simp only [Format.targetExponent, totalExponent, Format.mantissaBits, Format.minExponent,
      isFull_iff.mp hm, isFull_iff.mp hn]
    norm_num
    omega
  unfold divCore
  rw [htarget, min_eq_right (by omega)]
  simp only
  rw [Nat.shiftLeft_eq, show (e - f - (e - f - 53)).toNat = 53 by omega]

/-! ### Packing -/

theorem unpack_pack (hm : IsFull m) (hm' : 0 < m) (hlow : -1074 ≤ e) (hhigh : e ≤ 971) :
    (Float.Model.pack (.finite .positive m e hm')).unpack = .finite .positive m e hm' := by
  set biased := (e + ((2 ^ (11 - 1) - 1 : Nat) : Int) + ((52 : Nat) : Int)).toNat with hbiased
  have hexponent : (BitVec.ofNat 11 biased).toNat = biased := by
    rw [BitVec.toNat_ofNat, Nat.mod_eq_of_lt (by omega)]
  have hmost : BitVec.ofNat 11 biased ≠ -1#11 := fun heq => by
    have hbits : biased = 2047 := hexponent.symm.trans (congrArg BitVec.toNat heq)
    omega
  have hleast : BitVec.ofNat 11 biased ≠ 0#11 := fun heq => by
    have hbits : biased = 0 := hexponent.symm.trans (congrArg BitVec.toNat heq)
    omega
  have hmantissa : (1#1 ++ BitVec.ofNat 52 m).toNat = m := by
    obtain ⟨hlow, hhigh⟩ := hm
    rw [BitVec.toNat_append, ← Nat.shiftLeft_add_eq_or_of_lt (BitVec.isLt _), BitVec.toNat_ofNat]
    simp
    omega
  have hpack : UnpackedFloat.pack Format.binary64 (.finite .positive m e hm') =
      packComponents Format.binary64 .positive (BitVec.ofNat 11 biased) (BitVec.ofNat 52 m) := by
    show (if 2 ^ 11 ≤ biased + 1 then _ else if m.log2 + 1 = 53 then _ else _) = _
    rw [if_neg (by omega), if_pos (by rw [isFull_iff.mp hm])]
    rfl
  show UnpackedFloat.unpack Format.binary64 (UnpackedFloat.pack Format.binary64 _) = _
  rw [hpack]
  unfold UnpackedFloat.unpack
  simp only [unpackExponent_packComponents, unpackMantissa_packComponents,
    unpackSign_packComponents]
  rw [if_neg hmost, if_neg hleast]
  congr 1
  rw [hexponent]
  show (biased : Int) - (1023 + 52) = e
  omega

/-! ### Whole numbers and quotients -/

/-- The float is the number with the full mantissa and the exponent. -/
def IsNumber (value : Float) (m : Nat) (e : Int) : Prop :=
  IsFull m ∧ ∃ hm, value.toModel.unpack = .finite .positive m e hm

theorem exists_isNumber_of_round {value : Float} {accuracy : Accuracy} (hm : 52 ≤ m.log2)
    (he : -1022 ≤ m.log2 + e)
    (hrep : Represents (.ofMantissaAndAccuracy m accuracy) (x / 2 ^ e))
    (hlow : 1 / 2 ^ 53 ≤ x) (hhigh : x ≤ 2 ^ 53)
    (hvalue : value.toModel =
      Float.Model.pack (roundWithAccuracy Format.binary64 .positive m e accuracy)) :
    ∃ n f, RoundsTo x n f ∧ IsNumber value n f := by
  obtain ⟨n, f, hn, hround, heq⟩ := exists_roundWithAccuracy hm he hrep
  obtain ⟨hleast, hmost⟩ := hround.exponent_bounds hlow hhigh
  exact ⟨n, f, hround, hround.full, hn, by rw [hvalue, heq, unpack_pack hround.full hn hleast hmost]⟩

theorem log2_mul_two_pow (hn : 0 < n) (k : Nat) : (n * 2 ^ k).log2 = n.log2 + k := by
  rw [Nat.log2_eq_iff (by positivity), pow_add, add_right_comm, pow_add]
  constructor
  · exact Nat.mul_le_mul_right _ (Nat.log2_self_le hn.ne')
  · exact Nat.mul_lt_mul_of_pos_right Nat.lt_log2_self (by positivity)

/-- How far the mantissa of a whole number is shifted to be full. -/
def lift (n : Nat) : Nat := 52 - n.log2

theorem log2_lifted (hn : 0 < n) (hsmall : n < 2 ^ 53) : (n * 2 ^ lift n).log2 = 52 := by
  have hlog : n.log2 < 53 := (Nat.log2_lt hn.ne').mpr hsmall
  rw [log2_mul_two_pow hn, lift]
  omega

theorem lifted_value (n : Nat) : ((n * 2 ^ lift n : Nat) : ℚ) * 2 ^ (-(lift n : Int)) = n := by
  rw [zpow_neg, zpow_natCast]
  push_cast
  field_simp

/-- Where an operation rounds a whole number that is not too large, it stays as it is. -/
theorem isNumber_of_round {value : Float} (hn : 0 < n) (hsmall : n < 2 ^ 53) (hm : 52 ≤ m.log2)
    (he : -1022 ≤ m.log2 + e) (hexact : (m : ℚ) * 2 ^ e = n)
    (hvalue : value.toModel =
      Float.Model.pack (roundWithAccuracy Format.binary64 .positive m e .exact)) :
    IsNumber value (n * 2 ^ lift n) (-lift n) := by
  have hlow : (1 : ℚ) / 2 ^ 53 ≤ n := by
    have hone : (1 : ℚ) ≤ n := by exact_mod_cast hn
    norm_num
    linarith
  have hhigh : (n : ℚ) ≤ 2 ^ 53 := by exact_mod_cast hsmall.le
  obtain ⟨r, f, hround, hnumber⟩ :=
    exists_isNumber_of_round hm he (represents_of_value hexact) hlow hhigh hvalue
  obtain ⟨rfl, rfl⟩ :=
    (roundsTo_of_value (isFull_iff.mpr (log2_lifted hn hsmall)) (lifted_value n)).unique hround
  exact hnumber

theorem isNumber_toFloat (hn : 0 < n) (hsmall : n < 2 ^ 53) :
    IsNumber n.toUInt64.toFloat (n * 2 ^ lift n) (-lift n) := by
  have hbits := log2_lifted hn hsmall
  have hlift : lift n ≤ 52 := Nat.sub_le ..
  refine isNumber_of_round hn hsmall hbits.ge (by omega) (lifted_value n) ?_
  have hlog : n.log2 < 53 := (Nat.log2_lt hn.ne').mpr hsmall
  have hsame : n.toUInt64.toNat = n := by
    simp
    omega
  show Float.Model.pack (UnpackedFloat.normalize _ (n.toUInt64.toNat : Int) 0 .positive) = _
  rw [hsame]
  unfold UnpackedFloat.normalize
  rw [Int.compare_eq_gt.mpr (by omega)]
  simp only [Int.toNat_natCast, UnpackedFloat.round]
  rw [targetExponent_eq (by omega)]
  simp only [decreaseExponent]
  rw [Nat.shiftLeft_eq, show ((0 : Int) - (n.log2 + 0 - 52)).toNat = lift n by unfold lift; omega,
    zero_sub]

/-- A whole number is read as itself, multiplied by one. -/
theorem isNumber_ofScientific (hn : 0 < n) (hsmall : n < 2 ^ 53) :
    IsNumber (Float.ofScientific n false 0) (n * 2 ^ lift n) (-lift n) := by
  obtain ⟨_, hm, hunpack⟩ := isNumber_toFloat hn hsmall
  have hbits : (n * 2 ^ lift n * 2 ^ 52).log2 = 104 := by
    rw [log2_mul_two_pow hm, log2_lifted hn hsmall]
  have hlift : lift n ≤ 52 := Nat.sub_le ..
  have hexact : ((n * 2 ^ lift n * 2 ^ 52 : Nat) : ℚ) * 2 ^ (-(lift n : Int) + -52) = n := by
    calc _ = ((n * 2 ^ lift n : Nat) : ℚ) * 2 ^ (-(lift n : Int)) := by
          rw [Nat.cast_mul, zpow_add₀ two_ne_zero, mul_mul_mul_comm]
          norm_num
      _ = n := lifted_value n
  refine isNumber_of_round hn hsmall (by omega) (by omega) hexact ?_
  have hone : (Float.exactlyRepresentablePowersOfTen[0]).toModel.unpack =
      .finite .positive (2 ^ 52) (-52) (by norm_num) := rfl
  unfold Float.ofScientific
  rw [dif_pos ⟨hsmall, by norm_num⟩]
  show Float.Model.pack (UnpackedFloat.mul _ n.toUInt64.toFloat.toModel.unpack _) = _
  rw [hunpack, hone]
  rfl

theorem quotient_value (hn : 0 < n) :
    (m : ℚ) * 2 ^ e / (n * 2 ^ f) / 2 ^ (e - f - 53) = ((m * 2 ^ 53 : Nat) : ℚ) / n := by
  rw [zpow_sub₀ two_ne_zero, zpow_sub₀ two_ne_zero]
  push_cast
  field_simp

/-- The share of a part is its quotient, rounded. -/
theorem exists_isNumber_shareOf (hs : 0 < s) (hsu : s ≤ u) (hsmall : u < 2 ^ 53) :
    ∃ m e, RoundsTo ((s : ℚ) / u) m e ∧ IsNumber (shareOf s u) m e := by
  have hu : 0 < u := hs.trans_le hsu
  have hu' : (0 : ℚ) < u := by exact_mod_cast hu
  obtain ⟨hm, hm', hpart⟩ := isNumber_ofScientific hs (hsu.trans_lt hsmall)
  obtain ⟨hn, hn', htotal⟩ := isNumber_ofScientific hu hsmall
  set m := s * 2 ^ lift s
  set n := u * 2 ^ lift u
  have hexponents : lift s ≤ 52 ∧ lift u ≤ 52 := ⟨Nat.sub_le .., Nat.sub_le ..⟩
  have hbits : 52 ≤ (m * 2 ^ 53 / n).log2 := by
    have hlarge : 2 ^ 52 ≤ m * 2 ^ 53 / n := by
      rw [Nat.le_div_iff_mul_le hn']
      exact Nat.mul_le_mul hm.1 hn.2.le
    exact (Nat.le_log2 (by omega)).mpr hlarge
  have hrep : Represents (.ofMantissaAndAccuracy (m * 2 ^ 53 / n)
      (accuracyOfFraction (m * 2 ^ 53 % n) n))
        ((s : ℚ) / u / 2 ^ ((-lift s : Int) - -lift u - 53)) := by
    rw [← lifted_value s, ← lifted_value u, quotient_value hn']
    exact represents_quotient _ hn'
  have hlow : (1 : ℚ) / 2 ^ 53 ≤ s / u := by
    rw [div_le_div_iff₀ (by positivity) hu']
    exact_mod_cast (by nlinarith : 1 * u ≤ s * 2 ^ 53)
  have hhigh : (s : ℚ) / u ≤ 2 ^ 53 := by
    rw [div_le_iff₀ hu']
    exact_mod_cast (by nlinarith : s ≤ 2 ^ 53 * u)
  refine exists_isNumber_of_round hbits (by omega) hrep hlow hhigh ?_
  rw [shareOf, if_neg hu.ne']
  show Float.Model.pack (UnpackedFloat.div _ _ _) = _
  rw [hpart, htotal]
  simp only [UnpackedFloat.div]
  rw [divCore_eq hm hn (by omega)]
  rfl

theorem unpack_shareOf_zero (hu : 0 < u) (hsmall : u < 2 ^ 53) :
    (shareOf 0 u).toModel.unpack = .zero .positive := by
  obtain ⟨_, _, htotal⟩ := isNumber_ofScientific hu hsmall
  have hzero : (Float.ofScientific 0 false 0).toModel.unpack = .zero .positive := rfl
  rw [shareOf, if_neg hu.ne']
  show (Float.Model.pack (UnpackedFloat.div _ _ _)).unpack = _
  rw [hzero, htotal]
  simp only [UnpackedFloat.div]
  rfl

/-- Fractions that differ do so by at least the inverse of the product of their totals. -/
theorem gap_of_lt (hu : 0 < u) (hb : 0 < b) (hsmall : u * b < 2 ^ 51)
    (hless : (s : ℚ) / u < a / b) : (s : ℚ) / u + 1 / 2 ^ 51 < a / b := by
  have hu' : (0 : ℚ) < u := by exact_mod_cast hu
  have hb' : (0 : ℚ) < b := by exact_mod_cast hb
  have hsmall' : (u : ℚ) * b < 2 ^ 51 := by exact_mod_cast hsmall
  have hcross : s * b + 1 ≤ a * u := by
    rw [div_lt_div_iff₀ hu' hb'] at hless
    exact_mod_cast hless
  have hcross' : (s : ℚ) * b + 1 ≤ a * u := by exact_mod_cast hcross
  calc (s : ℚ) / u + 1 / 2 ^ 51 < s / u + 1 / (u * b) := by gcongr
    _ = (s * b + 1) / (u * b) := by field_simp
    _ ≤ a * u / (u * b) := by gcongr
    _ = a / b := by field_simp

theorem lt_iff_unpack (value limit : Float) :
    value < limit ↔ value.toModel.unpack.lt limit.toModel.unpack = true := by
  show decide (value.toModel.unpack.lt limit.toModel.unpack = true) = true ↔ _
  rw [decide_eq_true_eq]

end Rounding

open Rounding

/-- Shares compare as the fractions that they are of. -/
theorem shareOf_lt_iff {s u a b : Nat} (hsu : s ≤ u) (hu : 0 < u) (hab : a ≤ b) (hb : 0 < b)
    (hsmall : u * b < 2 ^ 51) : shareOf s u < shareOf a b ↔ (s : ℚ) / u < a / b := by
  have husmall : u < 2 ^ 53 := by nlinarith
  have hbsmall : b < 2 ^ 53 := by nlinarith
  have hu' : (0 : ℚ) < u := by exact_mod_cast hu
  have hb' : (0 : ℚ) < b := by exact_mod_cast hb
  rw [lt_iff_unpack]
  rcases Nat.eq_zero_or_pos s with rfl | hs <;> rcases Nat.eq_zero_or_pos a with rfl | ha
  · rw [unpack_shareOf_zero hu husmall, unpack_shareOf_zero hb hbsmall]
    simp [Float.Model.UnpackedFloat.lt, Float.Model.UnpackedFloat.compare]
  · obtain ⟨n, f, _, _, hn, hlimit⟩ := exists_isNumber_shareOf ha hab hbsmall
    have hpos : (0 : ℚ) < a / b := by positivity
    rw [unpack_shareOf_zero hu husmall, hlimit]
    simpa [Float.Model.UnpackedFloat.lt, Float.Model.UnpackedFloat.compare] using hpos
  · obtain ⟨m, e, _, _, hm, hshare⟩ := exists_isNumber_shareOf hs hsu husmall
    have hpos : (0 : ℚ) ≤ s / u := by positivity
    rw [unpack_shareOf_zero hb hbsmall, hshare]
    simpa [Float.Model.UnpackedFloat.lt, Float.Model.UnpackedFloat.compare] using hpos
  · obtain ⟨m, e, hround, hm, hm', hshare⟩ := exists_isNumber_shareOf hs hsu husmall
    obtain ⟨n, f, hround', hn, hn', hlimit⟩ := exists_isNumber_shareOf ha hab hbsmall
    have hx : (s : ℚ) / u ≤ 1 := (div_le_one hu').mpr (by exact_mod_cast hsu)
    have hy : (a : ℚ) / b ≤ 1 := (div_le_one hb').mpr (by exact_mod_cast hab)
    rw [hshare, hlimit, lt_finite_iff hm hn]
    -- Errors are smaller than the gap between different fractions; equal ones need uniqueness.
    rcases lt_trichotomy ((s : ℚ) / u) (a / b) with hless | hsame | hmore
    · exact iff_of_true (hround.lt_of_gap hround' hy (gap_of_lt hu hb hsmall hless)) hless
    · rw [hsame] at hround
      obtain ⟨rfl, rfl⟩ := hround.unique hround'
      exact iff_of_false (lt_irrefl _) hsame.not_lt
    · have hgap := gap_of_lt hb hu (by rwa [mul_comm]) hmore
      exact iff_of_false (hround'.lt_of_gap hround hx hgap).not_gt hmore.not_gt

end AdaptiveRules
