import PageQuery.Proofs.Text.Basic
import PageQuery.Number.Double
import Mathlib.Data.Rat.Floor
/-!
Doubles as exact rationals, and the whole numbers that are doubles.

`Double.toRat` is the number that a double stands for, and `Double.floor` is its floor. A natural number
below `2 ^ 53` is a double as it is (`nearest_whole`), so no rounding touches it, and its decimal digits are
read as that double again (`readNumeral_naturalDigits`).
-/

namespace PageQuery.Number

open Text

/-! ## 1. The value of a double -/

namespace Double

/-- The number without its sign. -/
def absolute (x : Double) : ℚ := x.significand * 2 ^ x.exponent

/-- The number that a double stands for. -/
def toRat (x : Double) : ℚ := if x.negative then -x.absolute else x.absolute

theorem toRat_withSign_false {x : Double} (h : x.negative = false) :
    (x.withSign false).toRat = x.toRat := by
  simp [toRat, absolute, withSign, h]

@[simp] theorem toRat_zero (negative : Bool) : (zero negative).toRat = 0 := by
  simp [toRat, absolute, zero]

theorem magnitude_snd_pos (x : Double) : 0 < x.magnitude.2 := by
  unfold magnitude
  split
  · exact Nat.one_pos
  · exact Nat.two_pow_pos _

/-- The quotient that a double is computed with is its value. -/
theorem absolute_eq (x : Double) : x.absolute = (x.magnitude.1 : ℚ) / x.magnitude.2 := by
  unfold absolute magnitude
  split
  · next hExponent =>
    obtain ⟨k, hk⟩ := Int.eq_ofNat_of_zero_le hExponent
    rw [hk]
    simp
  · next hExponent =>
    obtain ⟨k, hk⟩ := Int.eq_ofNat_of_zero_le (show 0 ≤ -x.exponent by omega)
    have hNegative : x.exponent = -(k : ℤ) := by omega
    rw [hNegative]
    simp [div_eq_mul_inv]

/-- The quotient of a negative number is rounded away from zero. -/
theorem neg_ediv_natCast (n : Nat) {d : Nat} (h : 0 < d) :
    -(n : ℤ) / d = -((n + d - 1) / d : Nat) := by
  have hDivision := Nat.div_add_mod (n + d - 1) d
  have hRest := Nat.mod_lt (n + d - 1) h
  generalize (n + d - 1) / d = q at hDivision ⊢
  generalize (n + d - 1) % d = r at hDivision hRest
  have hParts : ((d - 1 - r : ℤ) + d * -(q : ℤ) = -n) ∧ (0 : ℤ) ≤ d - 1 - r ∧
      (d - 1 - r : ℤ) < d := by
    refine ⟨?_, by omega, by omega⟩
    rw [Int.mul_neg]
    omega
  exact ((Int.ediv_emod_unique (by omega)).mpr hParts).1

/-- The floor of a double is that of the number it stands for. -/
theorem floor_eq (x : Double) : x.floor = ⌊x.toRat⌋ := by
  have hPos := x.magnitude_snd_pos
  unfold floor toRat
  rw [absolute_eq]
  cases x.negative with
  | false =>
    simp [Rat.floor_natCast_div_natCast]
  | true =>
    simp [Int.floor_neg, Rat.ceil_natCast_div_natCast, neg_ediv_natCast _ hPos]

/-! ## 2. Whole numbers that are doubles -/

theorem divideHalfEven_one (n : Nat) : divideHalfEven n 1 = n := by
  simp [divideHalfEven, Nat.mod_one]

theorem leadingExponent_whole {n : Nat} (h : n ≠ 0) : leadingExponent n 1 = n.log2 := by
  have hLow := Nat.log2_self_le h
  have hOne : Nat.log2 1 = 0 := by decide
  unfold leadingExponent
  rw [hOne]
  simp [Nat.pow_eq]
  omega

/-- Rounding that ends in a canonical form without a carry gives that form. -/
theorem nearest_of_canonical {n d m : Nat} {e : Int} (hSome : n ≠ 0)
    (hExponent : max (leadingExponent n d - 52) (-1074) = e)
    (hSignificand : (if 0 ≤ e then divideHalfEven n (d * Nat.pow 2 e.toNat)
      else divideHalfEven (n * Nat.pow 2 (-e).toNat) d) = m)
    (hCanonical : IsCanonical m e) : nearest n d = some ⟨false, m, e, hCanonical⟩ := by
  have hNoCarry : m ≠ Nat.pow 2 53 := Nat.ne_of_lt hCanonical.1
  unfold nearest
  simp only [hSome, hExponent, hSignificand, hNoCarry, if_false]
  exact dif_pos hCanonical

/-- Shifting a number shifts its leading bit. -/
theorem shift_bounds {n : Nat} (h : n ≠ 0) (k : Nat) :
    2 ^ (n.log2 + k) ≤ n * 2 ^ k ∧ n * 2 ^ k < 2 ^ (n.log2 + k + 1) := by
  constructor
  · rw [Nat.pow_add]
    exact Nat.mul_le_mul_right _ (Nat.log2_self_le h)
  · rw [Nat.add_right_comm, Nat.pow_add]
    exact Nat.mul_lt_mul_of_pos_right Nat.lt_log2_self (Nat.two_pow_pos k)

/-- Below `2 ^ 53` a whole number is a double. Its leading bit is brought to the place that the format has
for it, and nothing is cut off below. -/
theorem nearest_whole {n : Nat} (h : n < 2 ^ 53) :
    ∃ x, nearest n 1 = some x ∧ x.negative = false ∧ x.toRat = n := by
  by_cases hZero : n = 0
  · subst hZero
    exact ⟨zero false, rfl, rfl, by simp⟩
  · have hBits : n.log2 < 53 := (Nat.log2_lt hZero).mpr h
    obtain ⟨k, hk⟩ : ∃ k, n.log2 + k = 52 := ⟨52 - n.log2, by omega⟩
    have hExponent : max (leadingExponent n 1 - 52) (-1074) = -(k : ℤ) := by
      rw [leadingExponent_whole hZero]
      omega
    have hSignificand : (if 0 ≤ -(k : ℤ) then divideHalfEven n (1 * Nat.pow 2 (-(k : ℤ)).toNat)
        else divideHalfEven (n * Nat.pow 2 (-(-(k : ℤ))).toNat) 1) = n * 2 ^ k := by
      split
      · obtain rfl : k = 0 := by omega
        simp [divideHalfEven_one]
      · simp [divideHalfEven_one]
    obtain ⟨hLeading, hFits⟩ := shift_bounds hZero k
    rw [hk] at hLeading hFits
    have hCanonical : IsCanonical (n * 2 ^ k) (-(k : ℤ)) :=
      ⟨hFits, by omega, by omega, .inl hLeading⟩
    refine ⟨_, nearest_of_canonical hZero hExponent hSignificand hCanonical, rfl, ?_⟩
    simp [toRat, absolute]

end Double

/-! ## 3. Decimal digits -/

theorem isDigit_eq (c : Char) : isDigit c = c.isDigit := by
  simp [isDigit, Char.isDigit, Char.le_def]

theorem isDigit_of_mem_naturalDigits {n : Nat} {c : Char} (h : c ∈ naturalDigits n) :
    isDigit c = true := by
  rw [isDigit_eq]
  exact Nat.isDigit_of_mem_toDigits (by omega) (by omega) h

theorem naturalOf_naturalDigits (n : Nat) : naturalOf (naturalDigits n) = n :=
  Nat.ofDigitChars_toDigits (by omega) (by omega)

theorem isDigit_iff {c : Char} : isDigit c = true ↔ 48 ≤ c.toNat ∧ c.toNat ≤ 57 := by
  simp [isDigit, Char.le_def, UInt32.le_iff_toNat_le]

theorem not_isBlank_of_isDigit {c : Char} (h : isDigit c = true) : isBlank c = false := by
  rw [isDigit_iff] at h
  simp only [isBlank, Bool.or_eq_false_iff, Bool.and_eq_false_iff, decide_eq_false_iff_not,
    beq_eq_false_iff_ne]
  omega

theorem toLower_of_isDigit {c : Char} (h : isDigit c = true) : c.toLower = c := by
  rw [isDigit_iff] at h
  unfold Char.toLower
  refine dif_neg fun hUpper => ?_
  have hLow := UInt32.le_iff_toNat_le.mp hUpper.1
  have hCode : c.toNat = c.val.toNat := rfl
  simp at hLow
  omega

/-- There is nothing to trim from a number's digits. -/
theorem trimChars_naturalDigits (n : Nat) : trimChars (naturalDigits n) = naturalDigits n :=
  trimChars_of_no_blanks fun _ hMem => not_isBlank_of_isDigit (isDigit_of_mem_naturalDigits hMem)

/-- The digits of a number, as they follow a sign or none, are the decimal of that number. -/
theorem ofUnsigned?_naturalDigits (negative : Bool) (n : Nat) :
    Decimal.ofUnsigned? negative (naturalDigits n) = some ⟨negative, n, 0⟩ := by
  have hWhole : (naturalDigits n).takeWhile isDigit = naturalDigits n :=
    List.takeWhile_eq_self_iff.mpr fun _ => isDigit_of_mem_naturalDigits
  have hRest : (naturalDigits n).dropWhile isDigit = [] :=
    List.dropWhile_eq_nil_iff.mpr fun _ => isDigit_of_mem_naturalDigits
  have hSome : naturalDigits n ≠ [] := Nat.toDigits_ne_nil
  unfold Decimal.ofUnsigned?
  rw [hWhole, hRest]
  simp [hSome, naturalOf_naturalDigits]

/-- A decimal that is a whole number and a double is that double. -/
theorem Decimal.nearest_whole {n : Nat} (h : n < 2 ^ 53) :
    ∃ x : Double, Decimal.nearest ⟨false, n, 0⟩ = .finite x ∧ x.toRat = n := by
  unfold Decimal.nearest
  by_cases hZero : n = 0
  · subst hZero
    exact ⟨Double.zero false, by simp, by simp⟩
  · have hPlaces : (naturalDigits n).length ≤ 53 := by
      refine (Nat.length_toDigits_le_iff (by omega) (by omega)).mpr (h.trans ?_)
      exact Nat.pow_lt_pow_left (by omega) (by omega)
    obtain ⟨x, hNearest, hSign, hValue⟩ := Double.nearest_whole h
    refine ⟨x.withSign false, ?_, by rw [Double.toRat_withSign_false hSign, hValue]⟩
    have hLow : ¬ ((naturalDigits n).length + (0 : ℤ) < -330) := by omega
    have hHigh : ¬ 330 < (naturalDigits n).length + (0 : ℤ) := by omega
    simp only [hZero, hLow, hHigh, or_self, if_false]
    simp [hNearest]

/-- A numeral that starts with a digit has no sign and is no word. -/
theorem readNumeral_of_isDigit {c : Char} (hDigit : isDigit c = true) (rest : List Char) :
    readNumeral (c :: rest) = (Decimal.ofUnsigned? false (c :: rest)).map Decimal.nearest := by
  have hWord : ∀ first others, isDigit first = false →
      ¬ String.ofList ((c :: rest).map Char.toLower) = String.ofList (first :: others) := by
    intro first others hLetter hSame
    rw [String.ofList_inj, List.map_cons, toLower_of_isDigit hDigit] at hSame
    obtain rfl : c = first := (List.cons.inj hSame).1
    simp [hDigit] at hLetter
  unfold readNumeral
  split
  next negative body hBody =>
    obtain ⟨rfl, rfl⟩ : negative = false ∧ body = c :: rest := by
      split at hBody
      · next hMinus =>
        obtain rfl : c = '-' := (List.cons.inj hMinus).1
        cases hDigit
      · next hPlus =>
        obtain rfl : c = '+' := (List.cons.inj hPlus).1
        cases hDigit
      · obtain ⟨rfl, rfl⟩ := Prod.mk.inj hBody
        exact ⟨rfl, rfl⟩
    have hInfinite : ¬ (String.ofList ((c :: rest).map Char.toLower) = "inf" ∨
        String.ofList ((c :: rest).map Char.toLower) = "infinity") :=
      not_or.mpr ⟨hWord 'i' ['n', 'f'] rfl, hWord 'i' ['n', 'f', 'i', 'n', 'i', 't', 'y'] rfl⟩
    have hNan : ¬ String.ofList ((c :: rest).map Char.toLower) = "nan" := hWord 'n' ['a', 'n'] rfl
    simp only [hInfinite, hNan, if_false]

/-- The digits of a whole number that is a double are read as that number. -/
theorem readNumeral_naturalDigits {n : Nat} (h : n < 2 ^ 53) :
    ∃ x : Double, readNumeral (naturalDigits n) = some (.finite x) ∧ x.toRat = n := by
  obtain ⟨x, hNearest, hValue⟩ := Decimal.nearest_whole h
  refine ⟨x, ?_, hValue⟩
  cases hDigits : naturalDigits n with
  | nil => exact absurd hDigits Nat.toDigits_ne_nil
  | cons c rest =>
    have hDigit : isDigit c = true := isDigit_of_mem_naturalDigits (hDigits ▸ List.mem_cons_self)
    rw [readNumeral_of_isDigit hDigit, ← hDigits, ofUnsigned?_naturalDigits, Option.map_some, hNearest]

end PageQuery.Number
