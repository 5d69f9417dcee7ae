import BoxDiagram.Decimal.Reading
import BoxDiagram.Proofs.Decimal.Numerals
import BoxDiagram.Proofs.Decimal.Rounded

/-!
# The double that a decimal is read as

A decimal is read as the double that it is rounded to.  Small ones are a product or a quotient
of doubles that stand for the digits and for a power of ten; others are rounded at once; and
those that are far too large or too small are the infinity and zero.
-/

namespace BoxDiagram

open Float.Model Float.Model.UnpackedFloat

variable {m e : Nat}

/-! ### Powers of ten -/

/-- Up to the power 22, the fifth powers in the powers of ten fit into 53 bits. -/
theorem unpack_powerOfTen (k : Fin 23) :
  ∃ hm, Float.exactlyRepresentablePowersOfTen[k].toModel.unpack
    = .finite .positive (5 ^ k.val * 2 ^ (52 - (5 ^ k.val).log2))
        (k.val + (5 ^ k.val).log2 - 52) hm
  := by
  fin_cases k <;> exact ⟨by decide, rfl⟩

theorem valueOf?_powerOfTen (k : Fin 23) :
  valueOf? Float.exactlyRepresentablePowersOfTen[k] = some (10 ^ k.val)
  := by
  obtain ⟨hm, hparts⟩ := unpack_powerOfTen k
  have hlog : (5 ^ k.val).log2 ≤ 52 := by
    have hbits : ∀ k : Fin 23, (5 ^ k.val).log2 ≤ 52 := by decide
    apply hbits k
  rw [valueOf?_of_unpack hm hparts, zpow_sub₀ (by norm_num), zpow_add₀ (by norm_num)]
  clear hparts hm
  generalize (5 ^ k.val).log2 = l at hlog
  congr 1
  have hsplit : (2 : ℚ) ^ (52 - l) * 2 ^ l = 2 ^ 52 := by
    rw [← pow_add, Nat.sub_add_cancel hlog]
  have hten : (10 : ℚ) ^ k.val = 5 ^ k.val * 2 ^ k.val := by
    rw [← mul_pow]
    norm_num
  push_cast
  rw [zpow_natCast, zpow_natCast, hten, mul_div_assoc', div_eq_iff (by positivity)]
  calc (5 : ℚ) ^ k.val * 2 ^ (52 - l) * (2 ^ k.val * 2 ^ l)
    _ = 5 ^ k.val * 2 ^ k.val * (2 ^ (52 - l) * 2 ^ l) := by ring
    _ = 5 ^ k.val * 2 ^ k.val * 2 ^ 52 := by rw [hsplit]
    _ = _ := by norm_num

/-! ### Products and quotients of digits and powers of ten -/

/-- Digits in front of a number of zeros are read as the double that the product is rounded to. -/
theorem valueOf?_ofScientific_mul (hm : 0 < m) (he : e ≤ 2048) :
  valueOf? (Float.ofScientific m false e) = doubleOf? (m * 10 ^ e)
  := by
  rw [Float.ofScientific]
  split
  · next hfast =>
    have hten := valueOf?_powerOfTen ⟨e, by omega⟩
    apply valueOf?_mul (valueOf?_toUInt64 hfast.1) hten
    · exact_mod_cast hm
    · positivity
  · have hexact : UnpackedFloat.ofScientific Format.binary64 m (e : ℤ)
        = UnpackedFloat.mul Format.binary64
          (.finite .positive (m * 2 ^ 53) (-53) (by positivity))
          (.finite .positive (10 ^ e) 0 (by positivity)) := by
      have hbits : Format.binary64.exponentBits = 11 := rfl
      rw [UnpackedFloat.ofScientific, dif_neg hm.ne', if_neg, if_neg, if_pos (by omega)]
      · simp only [Nat.shiftLeft_eq]
        rfl
      · rw [hbits]
        omega
      · rw [hbits]
        omega
    have hexponent : (-53 : ℤ) + 0 ≤ max ((m * 2 ^ 53 * 10 ^ e).log2 + ((-53 : ℤ) + 0) - 52) (-1074)
        := by
      have hlog : 53 ≤ (m * 2 ^ 53 * 10 ^ e).log2 := by
        rw [Nat.le_log2 (by positivity), Nat.mul_comm m, Nat.mul_assoc]
        apply Nat.le_mul_of_pos_right
        positivity
      omega
    have hcut := isCut_mul .positive .positive (by positivity) (by positivity) hexponent
    rw [← hexact] at hcut
    have hvalue : ((m * 2 ^ 53 : Nat) : ℚ) * 2 ^ (-53 : ℤ) * ((10 ^ e : Nat) * 2 ^ (0 : ℤ))
        = m * 10 ^ e := by
      have hinverse : (2 : ℚ) ^ 53 * 2 ^ (-53 : ℤ) = 1 := by norm_num
      rw [Nat.cast_mul, Nat.cast_pow, Nat.cast_pow, Nat.cast_ofNat, Nat.cast_ofNat, zpow_zero,
        mul_one, mul_assoc (m : ℚ), hinverse, mul_one]
    rw [hvalue] at hcut
    apply hcut.valueOf?_eq (by positivity) rfl

/-- Digits behind a point are read as the double that the quotient is rounded to. -/
theorem valueOf?_ofScientific_div (hm : 0 < m) (hpos : 0 < e) (he : e ≤ 2048 + m.log2) :
  valueOf? (Float.ofScientific m true e) = doubleOf? (m / 10 ^ e)
  := by
  rw [Float.ofScientific]
  split
  · next hfast =>
    have hten := valueOf?_powerOfTen ⟨e, by omega⟩
    apply valueOf?_div (valueOf?_toUInt64 hfast.1) hten
    · exact_mod_cast hm
    · positivity
  · have hexact : UnpackedFloat.ofScientific Format.binary64 m (Int.negOfNat e)
        = UnpackedFloat.div Format.binary64 (.finite .positive m 0 hm)
          (.finite .positive (10 ^ e) 0 (by positivity)) := by
      have hbits : Format.binary64.exponentBits = 11 := rfl
      have hneg : Int.negOfNat e = -(e : ℤ) := Int.negOfNat_eq
      rw [hneg, UnpackedFloat.ofScientific, dif_neg hm.ne', if_neg, if_neg, if_neg (by omega)]
      · simp only [neg_neg, Int.toNat_natCast]
      · rw [hbits]
        omega
      · rw [hbits]
        omega
    have hvalue : (m : ℚ) * 2 ^ (0 : ℤ) / ((10 ^ e : Nat) * 2 ^ (0 : ℤ)) = m / 10 ^ e := by
      push_cast
      rw [mul_one, mul_one]
    have hcut : IsCut .positive (m / 10 ^ e)
        (UnpackedFloat.ofScientific Format.binary64 m (Int.negOfNat e)) := by
      rw [hexact, ← hvalue]
      apply isCut_div .positive .positive
    apply hcut.valueOf?_eq (by positivity) rfl

/-! ### Every decimal -/

/-- The number of digits tells the size of a number. -/
theorem natText_bounds (hm : 0 < m) :
  10 ^ ((natText m).length - 1) ≤ m ∧ m < 10 ^ (natText m).length
  := by
  have hlength : 0 < (natText m).length := List.length_pos_of_ne_nil (natText_ne_nil m)
  constructor
  · by_contra hlt
    by_cases hone : (natText m).length = 1
    · rw [hone, Nat.sub_self, pow_zero] at hlt
      omega
    · have hshort := (Nat.length_toDigits_le_iff (b := 10) (n := m) (by decide)
        (by omega : 0 < (natText m).length - 1)).mpr (not_le.mp hlt)
      rw [← natText] at hshort
      omega
  · rw [← Nat.length_toDigits_le_iff (by decide) hlength, natText]

theorem nearestFloat_of_small {e : ℤ} (h : e + (natText m).length < -400) :
  nearestFloat m e = 0.0
  := by
  rw [nearestFloat.eq_def]
  apply if_pos
  rw [natText] at h
  simp [h]

theorem nearestFloat_of_large {e : ℤ} (hm : 0 < m) (h : 400 < e + (natText m).length) :
  nearestFloat m e = 1.0 / 0.0
  := by
  rw [natText] at h
  rw [nearestFloat.eq_def]
  dsimp only
  rw [if_neg, if_pos h]
  simp
  omega

theorem nearestFloat_ofNat {k : Nat} (hm : 0 < m) (hhigh : k + (natText m).length ≤ 400) :
  nearestFloat m (.ofNat k) = Float.ofScientific m false k
  := by
  rw [natText] at hhigh
  rw [nearestFloat.eq_def]
  dsimp only
  rw [if_neg, if_neg]
  · simp
    omega
  · simp
    omega

theorem nearestFloat_negSucc {k : Nat} (hm : 0 < m) (hlow : k ≤ 399 + (natText m).length)
    (hhigh : (natText m).length ≤ k + 401) :
  nearestFloat m (.negSucc k) = Float.ofScientific m true (k + 1)
  := by
  rw [natText] at hlow hhigh
  rw [nearestFloat.eq_def]
  dsimp only
  rw [if_neg, if_neg]
  · omega
  · simp
    omega

theorem two_pow_le_ten_pow {j k : Nat} (h : j ≤ 3 * k) :
  (2 : ℚ) ^ j ≤ 10 ^ k
  := by
  calc (2 : ℚ) ^ j
    _ ≤ 2 ^ (3 * k) := pow_le_pow_right₀ (by norm_num) h
    _ = (2 ^ 3) ^ k := pow_mul 2 3 k
    _ ≤ 10 ^ k := by
        apply pow_le_pow_left₀ (by norm_num)
        norm_num

/-- The number of digits and the exponent tell the size of a decimal. -/
theorem decimal_bounds (hm : 0 < m) (e : ℤ) :
  10 ^ (e + (natText m).length - 1) ≤ (m : ℚ) * 10 ^ e
    ∧ (m : ℚ) * 10 ^ e < 10 ^ (e + (natText m).length)
  := by
  have hlength : 0 < (natText m).length := List.length_pos_of_ne_nil (natText_ne_nil m)
  have hpower : (0 : ℚ) < 10 ^ e := by positivity
  obtain ⟨hleast, hmost⟩ := natText_bounds hm
  constructor
  · have hdigits : (10 : ℚ) ^ ((natText m).length - 1) ≤ m := by exact_mod_cast hleast
    have hsplit : e + (natText m).length - 1 = ((natText m).length - 1 : Nat) + e := by omega
    rw [hsplit, zpow_add₀ (by norm_num), zpow_natCast]
    apply mul_le_mul_of_nonneg_right hdigits hpower.le
  · have hdigits : (m : ℚ) < 10 ^ (natText m).length := by exact_mod_cast hmost
    rw [add_comm, zpow_add₀ (by norm_num), zpow_natCast]
    apply mul_lt_mul_of_pos_right hdigits hpower

/-- A decimal that is read as zero is below half of the least positive double. -/
theorem decimal_lt_of_small {e : ℤ} (hm : 0 < m) (h : e + (natText m).length < -400) :
  (m : ℚ) * 10 ^ e < 2 ^ (-1075 : ℤ)
  := by
  calc (m : ℚ) * 10 ^ e
    _ < 10 ^ (e + (natText m).length) := (decimal_bounds hm e).2
    _ ≤ 10 ^ (-400 : ℤ) := zpow_le_zpow_right₀ (by norm_num) h.le
    _ ≤ 2 ^ (-1075 : ℤ) := by
        rw [zpow_neg, zpow_neg, zpow_ofNat, zpow_ofNat]
        apply inv_anti₀ (by positivity)
        apply two_pow_le_ten_pow (by norm_num)

/-- A decimal that is read as the infinity is twice the limit of doubles or more. -/
theorem le_decimal_of_large {e : ℤ} (hm : 0 < m) (h : 400 < e + (natText m).length) :
  2 * doubleLimit ≤ (m : ℚ) * 10 ^ e
  := by
  calc 2 * doubleLimit
    _ = 2 ^ (1025 : ℤ) := (zpow_one_add₀ two_ne_zero 1024).symm
    _ ≤ 10 ^ (400 : ℤ) := by
        rw [zpow_ofNat, zpow_ofNat]
        apply two_pow_le_ten_pow (by norm_num)
    _ ≤ 10 ^ (e + (natText m).length - 1) := by
        apply zpow_le_zpow_right₀ (by norm_num)
        omega
    _ ≤ m * 10 ^ e := (decimal_bounds hm e).1

/-- A decimal is read as the double that it is rounded to. -/
theorem valueOf?_nearestFloat (hm : 0 < m) (e : ℤ) :
  valueOf? (nearestFloat m e) = doubleOf? (m * 10 ^ e)
  := by
  by_cases hsmall : e + (natText m).length < -400
  · have hround := roundBinary_of_lt (by positivity) (decimal_lt_of_small hm hsmall)
    rw [nearestFloat_of_small hsmall, doubleOf?, hround, if_pos (by norm_num [doubleLimit])]
    rfl
  · by_cases hlarge : 400 < e + (natText m).length
    · have hround := doubleLimit_le_roundBinary (le_decimal_of_large hm hlarge)
      rw [nearestFloat_of_large hm hlarge, doubleOf?, if_neg hround.not_gt]
      rfl
    · cases e with
      | ofNat k =>
          rw [Int.ofNat_eq_natCast] at hsmall hlarge
          rw [nearestFloat_ofNat hm (by omega), Int.ofNat_eq_natCast, zpow_natCast]
          apply valueOf?_ofScientific_mul hm (by omega)
      | negSucc k =>
          have hbits : (natText m).length - 1 ≤ m.log2 := by
            rw [Nat.le_log2 hm.ne']
            apply le_trans _ (natText_bounds hm).1
            apply Nat.pow_le_pow_left (by norm_num)
          rw [nearestFloat_negSucc hm (by omega) (by omega), zpow_negSucc, ← div_eq_mul_inv]
          apply valueOf?_ofScientific_div hm (Nat.succ_pos k) (by omega)

end BoxDiagram
