import AdaptiveRules.JsonParser
import AdaptiveRules.JsonPrinter
import Mathlib

/-!
# Numbers of a JSON text

A whole number of at most 64 bits is read as itself.  A number with a point or a negative exponent is
read as some floating-point number: its digits are scaled down, and that does not overflow.
-/

namespace AdaptiveRules
namespace JsonParser

variable {cs ds whole places rest : List Char} {n k taken : Nat} {e : Int} {negative : Bool}

/-! ### Digits -/

def AreDigits (ds : List Char) : Prop := ∀ d ∈ ds, d.isDigit = true

def EndsDigits (rest : List Char) : Prop := ∀ c ∈ rest.head?, c.isDigit = false

theorem AreDigits.tail {d : Char} (hds : AreDigits (d :: ds)) : AreDigits ds :=
  fun c hc => hds c (List.mem_cons_of_mem _ hc)

theorem AreDigits.append (hwhole : AreDigits whole) (hplaces : AreDigits places) :
    AreDigits (whole ++ places) := fun d hd => (List.mem_append.mp hd).elim (hwhole d) (hplaces d)

theorem areDigits_toDigits (n : Nat) : AreDigits (Nat.toDigits 10 n) :=
  fun _ hd => Nat.isDigit_of_mem_toDigits (by norm_num) (by norm_num) hd

theorem areDigits_zeros (n : Nat) : AreDigits (List.replicate n '0') := fun _ hd => by
  rw [List.eq_of_mem_replicate hd]
  rfl

theorem digit_le_nine {d : Char} (hd : d.isDigit = true) : d.toNat - '0'.toNat ≤ 9 := by
  simp only [Char.isDigit, Bool.and_eq_true, decide_eq_true_eq] at hd
  have hupper : d.val.toNat ≤ 57 := hd.2
  show d.val.toNat - 48 ≤ 9
  omega

theorem digitsOf_append (hds : AreDigits ds) (hrest : EndsDigits rest) :
    digitsOf (ds ++ rest) = (ds, rest) := by
  unfold digitsOf
  rw [List.takeWhile_append_of_pos hds, List.dropWhile_append_of_pos hds]
  cases rest with
  | nil => simp
  | cons c more =>
      have hc : c.isDigit = false := hrest c rfl
      rw [List.takeWhile_cons_of_neg (by simp [hc]), List.dropWhile_cons_of_neg (by simp [hc]),
        List.append_nil]

theorem le_ofDigitChars (ds : List Char) (n : Nat) : n ≤ Nat.ofDigitChars 10 ds n := by
  induction ds generalizing n with
  | nil => exact le_refl n
  | cons d more ih =>
      rw [Nat.ofDigitChars_cons]
      exact le_trans (by omega) (ih _)

theorem ofDigitChars_lt (hds : AreDigits ds) (n : Nat) :
    Nat.ofDigitChars 10 ds n < (n + 1) * 10 ^ ds.length := by
  induction ds generalizing n with
  | nil => simp
  | cons d more ih =>
      have hd : d.toNat - '0'.toNat ≤ 9 := digit_le_nine (hds d List.mem_cons_self)
      rw [Nat.ofDigitChars_cons]
      calc _ < (10 * n + (d.toNat - '0'.toNat) + 1) * 10 ^ more.length := ih hds.tail _
        _ ≤ (n + 1) * 10 * 10 ^ more.length := Nat.mul_le_mul_right _ (by omega)
        _ = (n + 1) * 10 ^ (d :: more).length := by rw [List.length_cons, pow_succ]; ring

/-! ### Gathering digits -/

theorem gather_cons (n taken : Nat) (d : Char) (ds : List Char) :
    gather n taken (d :: ds) = if 10 * n + (d.toNat - '0'.toNat) < UInt64.size then
      gather (10 * n + (d.toNat - '0'.toNat)) (taken + 1) ds else (n, taken) := by
  rw [gather, mul_comm n 10]
  rfl

theorem gather_eq (hsmall : Nat.ofDigitChars 10 ds n < UInt64.size) :
    gather n taken ds = (Nat.ofDigitChars 10 ds n, taken + ds.length) := by
  induction ds generalizing n taken with
  | nil => rfl
  | cons d more ih =>
      rw [Nat.ofDigitChars_cons] at hsmall ⊢
      rw [gather_cons, if_pos ((le_ofDigitChars more _).trans_lt hsmall), ih hsmall,
        List.length_cons, add_assoc, add_comm 1]

theorem le_gather (n taken : Nat) (ds : List Char) : taken ≤ (gather n taken ds).2 := by
  induction ds generalizing n taken with
  | nil => exact le_refl _
  | cons d more ih =>
      rw [gather_cons]
      split
      · exact (Nat.le_succ _).trans (ih _ _)
      · exact le_refl _

/-- One more digit is gathered as long as there is room for it. -/
theorem gather_pos (hds : AreDigits ds) (hsome : ds ≠ []) (hn : n < 10 ^ 16) :
    0 < (gather n 0 ds).2 := by
  cases ds with
  | nil => exact absurd rfl hsome
  | cons d more =>
      have hd : d.toNat - '0'.toNat ≤ 9 := digit_le_nine (hds d List.mem_cons_self)
      rw [gather_cons, if_pos (by rw [show UInt64.size = 18446744073709551616 from rfl]; omega)]
      exact le_gather _ 1 more

/-! ### The parts of a number -/

/-- Digits in front of the point: a zero does not lead others. -/
structure WholeDigits (ds : List Char) : Prop where
  digits : AreDigits ds
  notNone : ds ≠ []
  lead : ds.head? = some '0' → ds.length = 1

theorem wholeDigits_toDigits (n : Nat) : WholeDigits (Nat.toDigits 10 n) where
  digits := areDigits_toDigits n
  notNone := Nat.toDigits_ne_nil
  lead hlead := by
    have hdigits := areDigits_toDigits n
    have hvalue : Nat.ofDigitChars 10 (Nat.toDigits 10 n) 0 = n := Nat.ofDigitChars_ten_toDigits
    have hlength := @Nat.length_toDigits_le_iff 10 n
    cases hcs : Nat.toDigits 10 n with
    | nil => exact absurd hcs Nat.toDigits_ne_nil
    | cons d more =>
        rw [hcs] at hlead hvalue hdigits hlength
        obtain rfl : d = '0' := Option.some.inj hlead
        -- The number is that of the other digits, so it needs no more of them.
        by_contra hmore
        have hpos : 0 < more.length := by
          rw [List.length_cons] at hmore
          omega
        have hless : n < 10 ^ more.length := by
          have := ofDigitChars_lt hdigits.tail 0
          rw [Nat.ofDigitChars_cons] at hvalue
          simpa [← hvalue] using this
        have := (hlength (by norm_num) hpos).mpr hless
        rw [List.length_cons] at this
        omega

theorem EndsDigits.of_notDigit {c : Char} (hc : c.isDigit = false) (cs : List Char) :
    EndsDigits (c :: cs) := fun d hd => by
  cases hd
  exact hc

/-- No part of a number begins here. -/
def EndsNumber (rest : List Char) : Prop :=
  ∀ c ∈ rest.head?, c.isDigit = false ∧ c ≠ '.' ∧ c ≠ 'e' ∧ c ≠ 'E'

theorem EndsNumber.endsDigits (hrest : EndsNumber rest) : EndsDigits rest :=
  fun c hc => (hrest c hc).1

theorem readExponentPart_of_endsNumber (hrest : EndsNumber rest) :
    readExponentPart rest = some (0, false, rest) := by
  unfold readExponentPart
  split
  · exact absurd rfl (hrest 'e' rfl).2.2.1
  · exact absurd rfl (hrest 'E' rfl).2.2.2
  · rfl

/-- Adds a digit to an exponent that is not too large already. -/
def exponentStep (acc : Nat) (d : Char) : Nat :=
  if acc < 1 <<< 31 then acc * 10 + (d.toNat - 48) else acc

theorem le_foldl_exponentStep (ds : List Char) (n : Nat) : n ≤ ds.foldl exponentStep n := by
  induction ds generalizing n with
  | nil => exact le_refl n
  | cons d more ih =>
      have hstep : n ≤ exponentStep n d := by
        unfold exponentStep
        split <;> omega
      exact hstep.trans (ih _)

theorem readExponent_minus (hds : AreDigits ds) (hsome : ds ≠ []) (hrest : EndsDigits rest) :
    readExponent ('-' :: (ds ++ rest)) =
      some (-(((ds.dropWhile (· == '0')).foldl exponentStep 0 : Nat) : Int), rest) := by
  obtain ⟨d, more, rfl⟩ := List.exists_cons_of_ne_nil hsome
  unfold readExponent
  simp only
  rw [digitsOf_append hds hrest]
  rfl

/-- The first digit of a number that is not zero is not zero. -/
theorem exists_toDigits_cons (hn : 0 < n) :
    ∃ d more, Nat.toDigits 10 n = d :: more ∧ d ≠ '0' := by
  obtain ⟨d, more, hcs⟩ := List.exists_cons_of_ne_nil (Nat.toDigits_ne_nil (n := n) (b := 10))
  refine ⟨d, more, hcs, ?_⟩
  rintro rfl
  have hshort : more = [] := by
    have hlead := (wholeDigits_toDigits n).lead
    rw [hcs] at hlead
    exact List.eq_nil_of_length_eq_zero (Nat.succ_injective (hlead rfl))
  have hvalue : Nat.ofDigitChars 10 (Nat.toDigits 10 n) 0 = n := Nat.ofDigitChars_ten_toDigits
  rw [hcs, hshort] at hvalue
  exact hn.ne hvalue

/-- An exponent below zero is read as one. -/
theorem exists_readExponent_minus (hn : 0 < n) :
    ∃ e : Int, e < 0 ∧ ∀ rest, EndsDigits rest →
      readExponent ('-' :: (Nat.toDigits 10 n ++ rest)) = some (e, rest) := by
  refine ⟨_, ?_, fun rest hrest =>
    readExponent_minus (areDigits_toDigits n) Nat.toDigits_ne_nil hrest⟩
  have hdigits := areDigits_toDigits n
  obtain ⟨d, more, hcs, hd⟩ := exists_toDigits_cons hn
  rw [hcs] at hdigits ⊢
  have hfirst : 0 < exponentStep 0 d := by
    have hdigit := hdigits d List.mem_cons_self
    simp only [Char.isDigit, Bool.and_eq_true, decide_eq_true_eq] at hdigit
    have hlower : 48 ≤ d.val.toNat := hdigit.1
    have hne : d.val.toNat ≠ 48 := fun heq => hd (Char.ext (UInt32.toNat_inj.mp heq))
    show 0 < 0 * 10 + (d.val.toNat - 48)
    omega
  rw [List.dropWhile_cons_of_neg (by simpa using hd), List.foldl_cons]
  have := hfirst.trans_le (le_foldl_exponentStep more _)
  omega

theorem WholeDigits.allowed (hds : WholeDigits ds) :
    (ds.isEmpty || (ds.head? == some '0' && decide (ds.length > 1))) = false := by
  have hlead := hds.lead
  have hsome := hds.notNone
  by_cases hzero : ds.head? = some '0'
  · simp [hlead hzero, hsome]
  · simp [hzero, hsome]

theorem readUnsigned_whole (hds : WholeDigits ds)
    (hsmall : Nat.ofDigitChars 10 ds 0 < UInt64.size) (hrest : EndsNumber rest) :
    readUnsigned false (ds ++ rest) = some (.int (Nat.ofDigitChars 10 ds 0), rest) := by
  have hall : ds.length - (0 + ds.length) = 0 := by omega
  unfold readUnsigned
  rw [digitsOf_append hds.digits hrest.endsDigits]
  simp only [hds.allowed, gather_eq hsmall, hall]
  rw [if_neg Bool.false_ne_true]
  split
  · exact absurd rfl (hrest '.' rfl).2.1
  · rw [readExponentPart_of_endsNumber hrest]
    rfl

/-- A number that is scaled down does not overflow. -/
theorem exists_scaleSteps (fuel : Nat) (x : Float) (he : e < 0) :
    ∃ y, Decimal.scaleSteps fuel x e = some y := by
  induction fuel generalizing x e with
  | zero => exact ⟨x, rfl⟩
  | succ fuel ih =>
      unfold Decimal.scaleSteps
      split
      · rw [if_neg (by omega)]
        exact ⟨_, rfl⟩
      · split
        · exact ⟨x, rfl⟩
        · rw [if_neg (by omega)]
          exact ih _ (by omega)

/-- Digits that an exponent below zero follows. -/
theorem exists_readUnsigned_exponent (negative : Bool) (hds : WholeDigits ds)
    (hsmall : Nat.ofDigitChars 10 ds 0 < UInt64.size) (he : e < 0) :
    ∃ x, ∀ cs rest, EndsDigits cs → cs.head? ≠ some '.' →
      readExponentPart cs = some (e, true, rest) →
      readUnsigned negative (ds ++ cs) = some (.float x, rest) := by
  obtain ⟨x, hx⟩ := exists_scaleSteps 40 (Float.ofScientific (Nat.ofDigitChars 10 ds 0) false 0) he
  refine ⟨if negative then -x else x, fun cs rest hends hpoint hexp => ?_⟩
  have hall : ds.length - (0 + ds.length) = 0 := by omega
  have hscaled : Decimal.scaled (Nat.ofDigitChars 10 ds 0) (((0 : Nat) : Int) + e) = some x := by
    rw [Nat.cast_zero, zero_add]
    exact hx
  unfold readUnsigned
  rw [digitsOf_append hds.digits hends]
  simp only [hds.allowed, gather_eq hsmall, hall]
  rw [if_neg Bool.false_ne_true]
  split
  · exact absurd rfl hpoint
  · rw [hexp]
    simp only [Bool.true_or, if_true, Option.bind_eq_bind, Option.bind_some, hscaled]
    rfl

/-- Digits in front of a point and behind it, and perhaps an exponent below zero. -/
theorem exists_readUnsigned_point (negative : Bool) (hwhole : WholeDigits whole)
    (hshort : whole.length ≤ 16) (hplaces : AreDigits places) (hsome : places ≠ []) (he : e ≤ 0) :
    ∃ x, ∀ cs rest any, EndsDigits cs → readExponentPart cs = some (e, any, rest) →
      readUnsigned negative (whole ++ '.' :: (places ++ cs)) = some (.float x, rest) := by
  have hvalue : Nat.ofDigitChars 10 whole 0 < 10 ^ 16 := by
    have := ofDigitChars_lt hwhole.digits 0
    rw [zero_add, one_mul] at this
    exact this.trans_le (Nat.pow_le_pow_right (by norm_num) hshort)
  have hsmall : Nat.ofDigitChars 10 whole 0 < UInt64.size :=
    hvalue.trans_le (by rw [show UInt64.size = 18446744073709551616 from rfl]; norm_num)
  have hextra := gather_pos hplaces hsome hvalue
  set gathered := gather (Nat.ofDigitChars 10 whole 0) 0 places with hgathered
  obtain ⟨x, hx⟩ := exists_scaleSteps 40 (Float.ofScientific gathered.1 false 0)
    (by omega : ((0 : Nat) : Int) - gathered.2 + e < 0)
  refine ⟨if negative then -x else x, fun cs rest any hends hexp => ?_⟩
  have hall : whole.length - (0 + whole.length) = 0 := by omega
  have hscaled : Decimal.scaled gathered.1 (((0 : Nat) : Int) - gathered.2 + e) = some x := hx
  unfold readUnsigned
  rw [digitsOf_append hwhole.digits (.of_notDigit rfl _)]
  simp only [hwhole.allowed, gather_eq hsmall, hall, digitsOf_append hplaces hends, if_true,
    ← hgathered, hexp, Option.bind_eq_bind, Option.bind_some, hscaled]
  rw [if_neg Bool.false_ne_true, if_neg (by simpa using hsome)]
  rfl

/-! ### Numbers as they are written -/

/-- The number is read, whatever follows it. -/
structure WritesNumber (j : Json) (cs : List Char) : Prop where
  starts : ∃ c more, cs = c :: more ∧ (c = '-' ∨ c.isDigit = true)
  reads : ∀ rest, EndsNumber rest → readNumber (cs ++ rest) = some (j, rest)

theorem readNumber_unsigned {d : Char} (hd : d.isDigit = true) (more : List Char) :
    readNumber (d :: more) = readUnsigned false (d :: more) := by
  unfold readNumber
  split
  next heq =>
    cases (List.cons.inj heq).1
    exact absurd hd Bool.false_ne_true
  next => rfl

theorem writesNumber_nat (hn : n < UInt64.size) : WritesNumber (.int n) (Nat.toDigits 10 n) := by
  have hds := wholeDigits_toDigits n
  have hvalue : Nat.ofDigitChars 10 (Nat.toDigits 10 n) 0 = n := Nat.ofDigitChars_ten_toDigits
  obtain ⟨d, more, hcs⟩ := List.exists_cons_of_ne_nil hds.notNone
  have hd : d.isDigit = true := hds.digits d (hcs ▸ List.mem_cons_self)
  refine ⟨⟨d, more, hcs, Or.inr hd⟩, fun rest hrest => ?_⟩
  have hread := readUnsigned_whole hds (hvalue.symm ▸ hn) hrest
  rw [hvalue] at hread
  rw [hcs, List.cons_append] at hread ⊢
  rw [readNumber_unsigned hd, hread]

/-- A text without sign that is read as a floating-point number, whatever follows it. -/
structure WritesFraction (cs : List Char) : Prop where
  startsDigit : ∃ d more, cs = d :: more ∧ d.isDigit = true
  reads : ∀ negative, ∃ x, ∀ rest, EndsNumber rest →
    readUnsigned negative (cs ++ rest) = some (.float x, rest)

theorem WritesFraction.exists_writesNumber (hcs : WritesFraction cs) (x : Float) :
    ∃ y, WritesNumber (.float y) (Decimal.signed x (String.ofList cs)).toList := by
  unfold Decimal.signed
  split
  · obtain ⟨y, hy⟩ := hcs.reads true
    rw [String.toList_append, show "-".toList = ['-'] from rfl, String.toList_ofList]
    exact ⟨y, ⟨'-', cs, rfl, Or.inl rfl⟩, hy⟩
  · obtain ⟨y, hy⟩ := hcs.reads false
    obtain ⟨d, more, rfl, hd⟩ := hcs.startsDigit
    rw [String.toList_ofList]
    refine ⟨y, ⟨d, more, rfl, Or.inr hd⟩, fun rest hrest => ?_⟩
    rw [List.cons_append, readNumber_unsigned hd]
    exact hy rest hrest

theorem WholeDigits.startsDigit (hds : WholeDigits ds) (cs : List Char) :
    ∃ d more, ds ++ cs = d :: more ∧ d.isDigit = true := by
  obtain ⟨d, more, rfl⟩ := List.exists_cons_of_ne_nil hds.notNone
  exact ⟨d, more ++ cs, rfl, hds.digits d List.mem_cons_self⟩

theorem writesFraction_point (hwhole : WholeDigits whole) (hshort : whole.length ≤ 16)
    (hplaces : AreDigits places) (hsome : places ≠ []) :
    WritesFraction (whole ++ '.' :: places) where
  startsDigit := hwhole.startsDigit _
  reads negative := by
    obtain ⟨x, hx⟩ := exists_readUnsigned_point negative hwhole hshort hplaces hsome le_rfl
    refine ⟨x, fun rest hrest => ?_⟩
    rw [List.append_assoc, List.cons_append]
    exact hx rest rest false hrest.endsDigits (readExponentPart_of_endsNumber hrest)

end JsonParser

/-! ### Floating-point numbers -/

namespace Decimal

open JsonParser

/-- Zeros behind a whole number do not lead it. -/
theorem wholeDigits_shifted {n k : Nat} (hzero : n = 0 → k = 0) :
    WholeDigits (Nat.toDigits 10 n ++ List.replicate k '0') where
  digits := (areDigits_toDigits n).append (areDigits_zeros k)
  notNone := by simp [Nat.toDigits_ne_nil]
  lead hlead := by
    rcases Nat.eq_zero_or_pos n with rfl | hn
    · simp [hzero rfl]
    · obtain ⟨d, more, hcs, hd⟩ := exists_toDigits_cons hn
      rw [hcs] at hlead
      exact absurd (Option.some.inj hlead) hd

/-- The first of the digits of a number, at least one and perhaps not all. -/
theorem wholeDigits_take {n k : Nat} (hk : 0 < k) :
    WholeDigits ((Nat.toDigits 10 n).take k) where
  digits := fun d hd => areDigits_toDigits n d (List.mem_of_mem_take hd)
  notNone := by simp [Nat.toDigits_ne_nil, hk.ne']
  lead hlead := by
    have hlength := (wholeDigits_toDigits n).lead (by rwa [List.head?_take, if_neg hk.ne'] at hlead)
    rw [List.length_take, hlength]
    omega

/-- Positional notation with at most 16 digits in front of the point. -/
theorem writesFraction_positional {s : Scaled} (hzero : s.digits = 0 → s.exponent = 0)
    (htop : s.exponent + digitCount s.digits ≤ 16) :
    WritesFraction (s.positional ++ if isWhole s then ".0" else "").toList := by
  unfold digitCount at htop
  unfold Scaled.positional isWhole zeros
  by_cases hexp : s.exponent ≥ 0
  · have hwhole : WholeDigits (Nat.toDigits 10 s.digits ++ List.replicate s.exponent.toNat '0') :=
      wholeDigits_shifted fun h => by simp [hzero h]
    have hlength : (Nat.toDigits 10 s.digits ++ List.replicate s.exponent.toNat '0').length ≤ 16 := by
      rw [List.length_append, List.length_replicate]
      omega
    simpa [hexp] using writesFraction_point hwhole hlength (areDigits_zeros 1) (by simp)
  · by_cases hmany : (Nat.toDigits 10 s.digits).length > (-s.exponent).toNat
    · have hplaces : AreDigits ((Nat.toDigits 10 s.digits).drop
          ((Nat.toDigits 10 s.digits).length - (-s.exponent).toNat)) :=
        fun d hd => areDigits_toDigits _ d (List.mem_of_mem_drop hd)
      have hsome : (Nat.toDigits 10 s.digits).drop
          ((Nat.toDigits 10 s.digits).length - (-s.exponent).toNat) ≠ [] := by
        rw [Ne, List.drop_eq_nil_iff]
        omega
      have hlength : ((Nat.toDigits 10 s.digits).take
          ((Nat.toDigits 10 s.digits).length - (-s.exponent).toNat)).length ≤ 16 := by
        rw [List.length_take]
        omega
      simpa [hexp, hmany] using
        writesFraction_point (wholeDigits_take (by omega)) hlength hplaces hsome
    · have hplaces : AreDigits (List.replicate ((-s.exponent).toNat -
          (Nat.toDigits 10 s.digits).length) '0' ++ Nat.toDigits 10 s.digits) :=
        (areDigits_zeros _).append (areDigits_toDigits _)
      have hsome : List.replicate ((-s.exponent).toNat - (Nat.toDigits 10 s.digits).length) '0' ++
          Nat.toDigits 10 s.digits ≠ [] := by simp [Nat.toDigits_ne_nil]
      simpa [hexp, hmany] using
        writesFraction_point (wholeDigits_toDigits 0) (by simp) hplaces hsome

theorem toList_toString_neg {e : Int} (he : e < 0) :
    (toString e).toList = '-' :: Nat.toDigits 10 e.natAbs := by
  obtain ⟨n, rfl⟩ := Int.eq_negSucc_of_lt_zero he
  show ("-" ++ (n + 1).repr).toList = _
  rw [String.toList_append, Nat.toList_repr]
  rfl

/-- An exponent below zero behind a mark. -/
theorem exists_readExponentPart {e : Int} (he : e < 0) :
    ∃ f : Int, f < 0 ∧ ∀ rest, EndsDigits rest →
      readExponentPart ('e' :: ((toString e).toList ++ rest)) = some (f, true, rest) := by
  obtain ⟨f, hf, hread⟩ := exists_readExponent_minus (Int.natAbs_pos.mpr he.ne)
  refine ⟨f, hf, fun rest hrest => ?_⟩
  rw [toList_toString_neg he]
  show (readExponent ('-' :: (Nat.toDigits 10 e.natAbs ++ rest))).map _ = _
  rw [hread rest hrest]
  rfl

/-- A number below one, with an exponent. -/
theorem writesFraction_scientific {s : Scaled} (htop : s.exponent + digitCount s.digits ≤ 0) :
    WritesFraction s.scientific.toList := by
  obtain ⟨d, more, hds⟩ := List.exists_cons_of_ne_nil (Nat.toDigits_ne_nil (n := s.digits) (b := 10))
  have hdigits : AreDigits (d :: more) := hds ▸ areDigits_toDigits s.digits
  have hd : d.isDigit = true := hdigits d List.mem_cons_self
  have hfirst : WholeDigits [d] :=
    ⟨fun c hc => List.mem_singleton.mp hc ▸ hd, List.cons_ne_nil _ _, fun _ => rfl⟩
  unfold digitCount at htop
  unfold Scaled.scientific
  rw [hds] at htop ⊢
  set e := s.exponent + ((d :: more).length - 1 : Nat) with he
  obtain ⟨f, hf, hread⟩ : ∃ f : Int, f < 0 ∧ ∀ rest, EndsDigits rest →
      readExponentPart ('e' :: ((toString e).toList ++ rest)) = some (f, true, rest) := by
    refine exists_readExponentPart ?_
    rw [List.length_cons] at htop he
    omega
  cases more with
  | nil =>
      have htext : (String.singleton d ++ "e" ++ toString e).toList =
          [d] ++ 'e' :: (toString e).toList := by simp
      show WritesFraction (String.singleton d ++ "e" ++ toString e).toList
      rw [htext]
      refine ⟨hfirst.startsDigit _, fun negative => ?_⟩
      have hsmall : Nat.ofDigitChars 10 [d] 0 < UInt64.size :=
        (ofDigitChars_lt hfirst.digits 0).trans (by norm_num [UInt64.size])
      obtain ⟨x, hx⟩ := exists_readUnsigned_exponent negative hfirst hsmall hf
      refine ⟨x, fun rest hrest => ?_⟩
      rw [List.append_assoc, List.cons_append]
      exact hx _ rest (.of_notDigit rfl _) (by simp) (hread rest hrest.endsDigits)
  | cons place more =>
      have htext : (String.singleton d ++ "." ++ String.ofList (place :: more) ++ "e" ++
          toString e).toList = [d] ++ '.' :: (place :: more ++ 'e' :: (toString e).toList) := by simp
      show WritesFraction (String.singleton d ++ "." ++ String.ofList (place :: more) ++ "e" ++
        toString e).toList
      rw [htext]
      refine ⟨hfirst.startsDigit _, fun negative => ?_⟩
      obtain ⟨x, hx⟩ := exists_readUnsigned_point negative hfirst (by simp) hdigits.tail
        (List.cons_ne_nil _ _) hf.le
      refine ⟨x, fun rest hrest => ?_⟩
      simpa using hx _ rest true (.of_notDigit rfl _) (hread rest hrest.endsDigits)

/-! ### The shortest decimal -/

theorem digitCount_le {n k : Nat} (hk : 0 < k) (hn : n < 10 ^ k) : digitCount n ≤ k :=
  (Nat.length_toDigits_le_iff (by norm_num) hk).mpr hn

theorem digitCount_div_ten {n : Nat} (hn : 10 ≤ n) : digitCount (n / 10) + 1 = digitCount n := by
  unfold digitCount
  rw [Nat.toDigits_of_base_le (by norm_num) hn, List.length_append]
  rfl

/-- The number is below ten to the power of 16, and only one without exponent is zero. -/
structure Scaled.Moderate (s : Scaled) : Prop where
  plainZero : s.digits = 0 → s.exponent = 0
  top : s.exponent + digitCount s.digits ≤ 16

theorem Scaled.Moderate.trim {s : Scaled} (hs : s.Moderate) (fuel : Nat) :
    (s.trim fuel).Moderate := by
  induction fuel generalizing s with
  | zero => exact hs
  | succ fuel ih =>
      unfold Scaled.trim
      split
      · next hzeros =>
          have hten : 10 ≤ s.digits := by omega
          have hcount := digitCount_div_ten hten
          refine ih ⟨fun h => ?_, ?_⟩
          · simp only at h
            omega
          · have := hs.top
            simp only
            omega
      · exact hs

/-- What is left of a number below ten to the power of 15 in front of a decimal place. -/
theorem scaled_quotient_lt {mid den : Nat} {e : Int} (hmid : mid < den * 10 ^ 15) (he : e ≤ 14) :
    mid * Nat.pow 10 (-e).toNat / (den * Nat.pow 10 e.toNat) < 10 ^ (15 - e).toNat := by
  have hden : 0 < den := Nat.pos_of_ne_zero fun h => by simp [h] at hmid
  show mid * 10 ^ (-e).toNat / (den * 10 ^ e.toNat) < 10 ^ (15 - e).toNat
  rw [Nat.div_lt_iff_lt_mul (by positivity)]
  rcases le_or_gt 0 e with hpos | hneg
  · have hsum : 10 ^ (15 - e).toNat * 10 ^ e.toNat = 10 ^ 15 := by
      rw [← pow_add]
      congr 1
      omega
    rw [show (-e).toNat = 0 by omega, pow_zero, mul_one, mul_left_comm, hsum]
    exact hmid
  · rw [show e.toNat = 0 by omega, show (15 - e).toNat = 15 + (-e).toNat by omega, pow_add,
      pow_zero, mul_one, mul_right_comm, mul_comm (10 ^ 15)]
    exact Nat.mul_lt_mul_of_pos_right hmid (by positivity)

/-- The decimals of so many digits next to a number below ten to the power of 15. -/
theorem Interval.moderate_withDigits {i : Interval} {top : Int} {n : Nat} {s : Scaled}
    (hmid : i.mid < i.den * 10 ^ 15) (htop : top ≤ n + 14) (hs : i.withDigits top n = some s) :
    s.Moderate := by
  have hless := scaled_quotient_lt hmid (sub_le_iff_le_add'.mpr htop)
  unfold Interval.withDigits at hs
  simp only at hs
  set e := top - n with he
  set k := i.mid * Nat.pow 10 (-e).toNat / (i.den * Nat.pow 10 e.toNat) with hk
  have hmoderate : ∀ d, d ≠ 0 → d ≤ k + 1 → (⟨d, e⟩ : Scaled).Moderate := by
    intro d hd hdk
    have hcount : digitCount d ≤ (16 - e).toNat := by
      refine digitCount_le (by omega) ?_
      rw [show (16 - e).toNat = (15 - e).toNat + 1 by omega, pow_succ]
      omega
    refine ⟨fun h => absurd h hd, ?_⟩
    simp only
    omega
  have hlower : (i.holds k e && k != 0) = true → (⟨k, e⟩ : Scaled).Moderate := fun h =>
    hmoderate k (by simpa using (Bool.and_eq_true_iff.mp h).2) (Nat.le_succ k)
  have hupper : (⟨k + 1, e⟩ : Scaled).Moderate := hmoderate (k + 1) (Nat.succ_ne_zero k) le_rfl
  split at hs
  · next hkeep _ =>
      split at hs <;> cases hs
      · exact hlower hkeep
      · exact hupper
  · next hkeep _ =>
      cases hs
      exact hlower hkeep
  · cases hs
    exact hupper
  · cases hs

theorem Interval.moderate_shortestFrom {i : Interval} {top : Int} {n : Nat}
    (hmid : i.mid < i.den * 10 ^ 15) (htop : top ≤ n + 14) (more : Nat) :
    (i.shortestFrom top more n).Moderate := by
  induction more generalizing n with
  | zero =>
      unfold Interval.shortestFrom
      cases hs : i.withDigits top n with
      | some s => exact moderate_withDigits hmid htop hs
      | none =>
          have hcount : digitCount (i.mid / i.den) ≤ 15 :=
            digitCount_le (by norm_num) (Nat.div_lt_of_lt_mul hmid)
          refine ⟨fun _ => rfl, ?_⟩
          simp only [Option.getD_none]
          omega
  | succ more ih =>
      unfold Interval.shortestFrom
      split
      · next hs => exact moderate_withDigits hmid htop hs
      · exact ih (by omega)

theorem decimalExponent_le {num den : Nat} (hnum : num < den * 10 ^ 15) :
    decimalExponent num den ≤ 15 := by
  unfold decimalExponent
  split
  · exact_mod_cast digitCount_le (by norm_num) (Nat.div_lt_of_lt_mul hnum)
  · omega

theorem Interval.mid_ofBinary_lt {m : Nat} {q : Int} (hm : m < 2 ^ 53) (hq : q ≤ -52)
    (narrow : Bool) :
    (Interval.ofBinary m q narrow).mid < (Interval.ofBinary m q narrow).den * 10 ^ 15 := by
  show 4 * m * 1 <<< (q - 2).toNat < 1 <<< (2 - q).toNat * 10 ^ 15
  rw [show (q - 2).toNat = 0 by omega, Nat.one_shiftLeft, Nat.one_shiftLeft, pow_zero, mul_one]
  have hden : 2 ^ 54 ≤ 2 ^ (2 - q).toNat := Nat.pow_le_pow_right (by norm_num) (by omega)
  omega

/-- The bits of numbers below two. -/
theorem moderate_ofBits {bits : Nat} (hbits : bits < 2 ^ 62) : (ofBits bits).Moderate := by
  have hfraction : bits % 1 <<< 52 < 2 ^ 52 := Nat.mod_lt _ (by norm_num)
  have hbiased : (bits >>> 52) % 1 <<< 11 < 1024 := by
    rw [Nat.shiftRight_eq_div_pow]
    exact (Nat.mod_le _ _).trans_lt (Nat.div_lt_of_lt_mul hbits)
  unfold ofBits
  set fraction := bits % 1 <<< 52
  set biased := (bits >>> 52) % 1 <<< 11
  have hmid := Interval.mid_ofBinary_lt
    (m := if biased = 0 then fraction else fraction + 1 <<< 52)
    (q := if biased = 0 then -1074 else (biased : Int) - 1075)
    (by split <;> norm_num <;> omega) (by split <;> omega) (fraction == 0 && biased > 1)
  exact (Interval.moderate_shortestFrom hmid
    ((decimalExponent_le hmid).trans (by norm_num)) 17).trim 20

/-! ### Numbers from zero to one -/

open Float.Model Float.Model.UnpackedFloat

def IsShare (x : Float) : Prop := 0 ≤ x ∧ x ≤ 1

theorem le_iff_unpack (x y : Float) : x ≤ y ↔ x.toModel.unpack.le y.toModel.unpack = true := by
  show decide (x.toModel.unpack.le y.toModel.unpack = true) = true ↔ _
  rw [decide_eq_true_eq]

/-- One is a full mantissa with this exponent, and smaller numbers have no larger exponents. -/
theorem IsShare.unpack {x : Float} (hx : IsShare x) :
    (∃ s, x.toModel.unpack = .zero s) ∨
      ∃ m e, ∃ hm : 0 < m, x.toModel.unpack = .finite .positive m e hm ∧ e ≤ -52 := by
  have hlow : (UnpackedFloat.zero .positive).le x.toModel.unpack = true :=
    (le_iff_unpack 0 x).mp hx.1
  have hhigh : x.toModel.unpack.le (.finite .positive (2 ^ 52) (-52) (by norm_num)) = true :=
    (le_iff_unpack x 1).mp hx.2
  cases hu : x.toModel.unpack with
  | zero s => exact Or.inl ⟨s, rfl⟩
  | finite s m e hm =>
      rw [hu] at hlow hhigh
      cases s with
      | negative => simp [UnpackedFloat.le, UnpackedFloat.compare] at hlow
      | positive =>
          refine Or.inr ⟨m, e, hm, rfl, ?_⟩
          simp only [UnpackedFloat.le, UnpackedFloat.compare, Option.any_some] at hhigh
          by_contra hgt
          rw [Int.compare_eq_gt.mpr (by omega)] at hhigh
          cases hhigh
  | notANumber =>
      rw [hu] at hlow
      simp [UnpackedFloat.le, UnpackedFloat.compare] at hlow
  | infinity s =>
      rw [hu] at hlow hhigh
      cases s <;> simp [UnpackedFloat.le, UnpackedFloat.compare] at hlow hhigh

theorem IsShare.isFinite {x : Float} (hx : IsShare x) : Json.isFinite x = true := by
  show (!x.toModel.unpack.isNaN && !x.toModel.unpack.isInf) = true
  rcases hx.unpack with ⟨s, hu⟩ | ⟨m, e, hm, hu, _⟩ <;> rw [hu] <;> rfl

theorem toNat_packComponents (exponent : BitVec 11) (mantissa : BitVec 52) :
    (packComponents Format.binary64 .positive exponent mantissa).toNat =
      exponent.toNat * 2 ^ 52 + mantissa.toNat := by
  show (0#1 ++ exponent ++ mantissa).toNat = _
  rw [BitVec.toNat_append, ← Nat.shiftLeft_add_eq_or_of_lt mantissa.isLt, BitVec.toNat_append]
  simp [Nat.shiftLeft_eq]

theorem toNat_pack_lt {m : Nat} {e : Int} (hm : 0 < m) (he : e ≤ -52) :
    (UnpackedFloat.pack Format.binary64 (.finite .positive m e hm)).toNat < 2 ^ 62 := by
  set biased := (e + ((2 ^ (11 - 1) - 1 : Nat) : Int) + ((52 : Nat) : Int)).toNat with hbiased
  have hexponent : (BitVec.ofNat 11 biased).toNat ≤ 1023 := by
    rw [BitVec.toNat_ofNat]
    omega
  have hmantissa := (BitVec.ofNat 52 m).isLt
  show BitVec.toNat (if 2 ^ 11 ≤ biased + 1 then packedInfinity Format.binary64 .positive
    else if m.log2 + 1 = 53 then
      packComponents Format.binary64 .positive (BitVec.ofNat 11 biased) (BitVec.ofNat 52 m)
    else packComponents Format.binary64 .positive 0#11 (BitVec.ofNat 52 m)) < 2 ^ 62
  rw [if_neg (by omega)]
  split <;> rw [toNat_packComponents]
  · omega
  · simp only [BitVec.toNat_zero]
    omega

theorem IsShare.moderate {x : Float} (hx : IsShare x) : (shortest x).Moderate := by
  unfold shortest
  split
  · exact ⟨fun _ => rfl, by decide⟩
  · next hzero =>
      apply moderate_ofBits
      rcases hx.unpack with ⟨s, hu⟩ | ⟨m, e, hm, hu, he⟩
      · refine absurd ?_ hzero
        show x.toModel.unpack.beq (.zero .positive) = true
        rw [hu]
        rfl
      · show (UnpackedFloat.pack Format.binary64 x.toModel.unpack.abs).toNat < 2 ^ 62
        rw [hu]
        exact toNat_pack_lt hm he

theorem exists_writesNumber_share {x : Float} (hx : IsShare x) :
    ∃ y, WritesNumber (.float y) (Json.numberText x).toList := by
  have hmoderate := hx.moderate
  unfold Json.numberText compact pointed
  rw [if_pos hx.isFinite]
  simp only
  split
  · have h := (writesFraction_positional hmoderate.plainZero hmoderate.top).exists_writesNumber x
    rwa [String.ofList_toList] at h
  · next htop =>
      have h := (writesFraction_scientific (s := shortest x) (by
        have := hmoderate.top
        simp at htop
        omega)).exists_writesNumber x
      rwa [String.ofList_toList] at h

end Decimal
end AdaptiveRules
