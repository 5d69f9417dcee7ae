import BoxDiagram.Proofs.Decimal.Bounds
import BoxDiagram.Proofs.Decimal.Halves

/-!
# The double that a number is rounded to

A positive number is rounded to a multiple of the last place that a double of its size has: 53
bits of the number are kept, or fewer below the least size with 53 bits.  Products and quotients
of doubles are rounded so, unless the result is too large and becomes an infinity, and a double
is known by the number it stands for.
-/

namespace BoxDiagram

open Float.Model Float.Model.UnpackedFloat

/-- The exponent of the last place that a double keeps of a number. -/
def lastPlace (q : ℚ) : ℤ := max (Int.log 2 q - 52) (-1074)

/-- The multiple of its last place that a number is rounded to. -/
def roundBinary (q : ℚ) : ℚ := roundRat (q / 2 ^ lastPlace q) * 2 ^ lastPlace q

/-- The numbers from here on are beyond all doubles. -/
def doubleLimit : ℚ := 2 ^ (1024 : ℤ)

/-- The number of the double that a positive number is rounded to, unless this is the infinity. -/
def doubleOf? (q : ℚ) : Option ℚ :=
  if roundBinary q < doubleLimit then some (roundBinary q) else none

variable {em : ExtendedMantissa} {sign : Sign} {m : Nat} {e : Int} {accuracy : Accuracy}
  {u : UnpackedFloat} {y q : ℚ}

/-! ### The last place -/

theorem log_two_eq {k : ℤ} (hle : 2 ^ k ≤ q) (hlt : q < 2 ^ (k + 1)) :
  Int.log 2 q = k
  := by
  have hpos : 0 < q := lt_of_lt_of_le (by positivity) hle
  have hupper := (Int.lt_zpow_iff_log_lt (b := 2) (by norm_num) hpos (x := k + 1)).mp
    (by exact_mod_cast hlt)
  have hlower := (Int.zpow_le_iff_le_log (b := 2) (by norm_num) hpos (x := k)).mp
    (by exact_mod_cast hle)
  omega

theorem lastPlace_of_lt (hpos : 0 < q) (hlt : q < 2 ^ (-1021 : ℤ)) :
  lastPlace q = -1074
  := by
  have hupper := (Int.lt_zpow_iff_log_lt (b := 2) (by norm_num) hpos (x := -1021)).mp
    (by exact_mod_cast hlt)
  rw [lastPlace]
  omega

/-- A mantissa is known up to its last bit, so it tells the last place of the number. -/
theorem lastPlace_of_represents (hy : Represents (.ofMantissaAndAccuracy m accuracy) y)
    (hpos : 0 < y) (he : e ≤ max (m.log2 + e - 52) (-1074)) :
  lastPlace (y * 2 ^ e) = max (m.log2 + e - 52) (-1074)
  := by
  have hpower : (0 : ℚ) < 2 ^ e := by positivity
  obtain ⟨hle, hlt⟩ := hy.bounds
  rw [mantissa_ofMantissaAndAccuracy] at hle hlt
  by_cases hm : m = 0
  · rw [hm, Nat.log2_zero] at he ⊢
    rw [hm, Nat.cast_zero, zero_add] at hlt
    have hsmall : y * 2 ^ e < 2 ^ (-1021 : ℤ) := by
      calc y * 2 ^ e
        _ < 1 * 2 ^ e := mul_lt_mul_of_pos_right hlt hpower
        _ ≤ 2 ^ (-1021 : ℤ) := by
            rw [one_mul]
            apply zpow_le_zpow_right₀ (by norm_num)
            omega
    rw [lastPlace_of_lt (mul_pos hpos hpower) hsmall]
    omega
  · rw [lastPlace, log_two_eq (k := m.log2 + e)]
    · have hself : (2 : ℚ) ^ m.log2 ≤ m := by exact_mod_cast Nat.log2_self_le hm
      rw [zpow_add₀ (by norm_num), zpow_natCast]
      apply mul_le_mul_of_nonneg_right (hself.trans hle) hpower.le
    · have hnext : (m : ℚ) + 1 ≤ 2 ^ (m.log2 + 1) := by exact_mod_cast Nat.lt_log2_self
      rw [add_right_comm, zpow_add₀ (by norm_num)]
      apply mul_lt_mul_of_pos_right _ hpower
      exact_mod_cast hlt.trans_le hnext

/-! ### Numbers that are cut down -/

/-- The rounded mantissa is the nearest whole number, and the even one of two. -/
theorem Represents.roundsTo (h : Represents em y) :
  RoundsTo y em.roundedMantissa
  := by
  obtain ⟨m, round, sticky⟩ := em
  match round, sticky with
  | false, false =>
      have hy : y = m := h
      rw [hy]
      exact_mod_cast RoundsTo.self m
  | false, true =>
      obtain ⟨hlow, hhigh⟩ : m < y ∧ y < m + 1 / 2 := h
      apply RoundsTo.of_lt
      rw [abs_lt]
      change -(1 / 2) < y - (m : ℤ) ∧ y - (m : ℤ) < 1 / 2
      push_cast
      constructor <;> linarith
  | true, false =>
      have hy : y = m + 1 / 2 := h
      have hrounded : ExtendedMantissa.roundedMantissa ⟨m, true, false⟩ = m + m % 2 := rfl
      rw [hrounded, hy]
      obtain hparity | hparity := Nat.mod_two_eq_zero_or_one m
      · constructor
        case near => norm_num [hparity]
        case even =>
          intro _
          omega
      · constructor
        case near => norm_num [hparity]
        case even =>
          intro _
          push_cast
          omega
  | true, true =>
      obtain ⟨hlow, hhigh⟩ : m + 1 / 2 < y ∧ y < m + 1 := h
      apply RoundsTo.of_lt
      rw [abs_lt]
      change -(1 / 2) < y - ((m + 1 : Nat) : ℤ) ∧ y - ((m + 1 : Nat) : ℤ) < 1 / 2
      push_cast
      constructor <;> linarith

theorem roundBinary_nonneg (hq : 0 < q) :
  0 ≤ roundBinary q
  := by
  have hround : 0 ≤ roundRat (q / 2 ^ lastPlace q) := by
    apply (roundsTo_roundRat _).le_of_le
    positivity
  rw [roundBinary]
  positivity

theorem abs_sub_roundBinary_le (q : ℚ) :
  |q - roundBinary q| ≤ 2 ^ lastPlace q / 2
  := by
  have hpower : (0 : ℚ) < 2 ^ lastPlace q := by positivity
  have hnear := (roundsTo_roundRat (q / 2 ^ lastPlace q)).near
  calc |q - roundBinary q|
    _ = |(q / 2 ^ lastPlace q - roundRat (q / 2 ^ lastPlace q)) * 2 ^ lastPlace q| := by
        rw [sub_mul, div_mul_cancel₀ _ hpower.ne', roundBinary]
    _ = |q / 2 ^ lastPlace q - roundRat (q / 2 ^ lastPlace q)| * 2 ^ lastPlace q := by
        rw [abs_mul, abs_of_pos hpower]
    _ ≤ 1 / 2 * 2 ^ lastPlace q := mul_le_mul_of_nonneg_right hnear hpower.le
    _ = 2 ^ lastPlace q / 2 := by ring

/-- Above the least size with 53 bits, the last place is a small part of a number. -/
theorem lastPlace_le_of_le (h : 2 ^ (-1022 : ℤ) ≤ q) :
  2 ^ lastPlace q ≤ q / 2 ^ 52
  := by
  have hpos : 0 < q := lt_of_lt_of_le (by positivity) h
  have hlog := (Int.zpow_le_iff_le_log (b := 2) (by norm_num) hpos (x := -1022)).mp
    (by exact_mod_cast h)
  have hplace : lastPlace q = Int.log 2 q - 52 := by
    rw [lastPlace]
    omega
  have hself := Int.zpow_log_le_self (b := 2) (by norm_num) hpos
  rw [hplace, zpow_sub₀ (by norm_num)]
  apply div_le_div_of_nonneg_right _ (by positivity)
  exact_mod_cast hself

/-- A number below half of the least positive double is rounded to zero. -/
theorem roundBinary_of_lt (hpos : 0 < q) (h : q < 2 ^ (-1075 : ℤ)) :
  roundBinary q = 0
  := by
  have hplace : lastPlace q = -1074 := by
    apply lastPlace_of_lt hpos
    apply h.trans
    apply zpow_lt_zpow_right₀ (by norm_num)
    norm_num
  have hround : RoundsTo (q / 2 ^ (-1074 : ℤ)) 0 := by
    apply RoundsTo.of_lt
    rw [Int.cast_zero, sub_zero, abs_of_pos (by positivity), div_lt_iff₀ (by positivity)]
    apply h.trans_eq
    rw [show (-1075 : ℤ) = -1 + -1074 by norm_num, zpow_add₀ (by norm_num)]
    norm_num
  rw [roundBinary, hplace, (roundsTo_roundRat _).unique hround, Int.cast_zero, zero_mul]

/-- Small doubles are evenly spaced, so a small number that is nearer to one of them than a number
that is rounded to it is rounded to it too. -/
theorem roundBinary_of_closer {r : ℚ} (hq : 0 < q) (hqSmall : q < 2 ^ (-1021 : ℤ)) (hr : 0 < r)
    (hrSmall : r < 2 ^ (-1021 : ℤ)) (hcloser : |roundBinary q - r| ≤ |roundBinary q - q|) :
  roundBinary r = roundBinary q
  := by
  rw [roundBinary, lastPlace_of_lt hq hqSmall] at hcloser
  rw [roundBinary, roundBinary, lastPlace_of_lt hq hqSmall, lastPlace_of_lt hr hrSmall]
  have hunit : (0 : ℚ) < 2 ^ (-1074 : ℤ) := by positivity
  generalize (2 : ℚ) ^ (-1074 : ℤ) = unit at hunit hcloser ⊢
  have hscale : ∀ (p : ℚ) (n : ℤ), |p / unit - n| = |n * unit - p| / unit := by
    intro p n
    have hdifference : p / unit - n = (p - n * unit) / unit := by
      rw [sub_div, mul_div_cancel_right₀ _ hunit.ne']
    rw [hdifference, abs_div, abs_of_pos hunit, abs_sub_comm]
  have hsame : RoundsTo (r / unit) (roundRat (q / unit)) := by
    apply (roundsTo_roundRat _).of_abs_le
    rw [hscale, hscale]
    apply div_le_div_of_nonneg_right hcloser hunit.le
  rw [(roundsTo_roundRat _).unique hsame]

/-- A number of twice the limit is rounded beyond all doubles. -/
theorem doubleLimit_le_roundBinary (h : 2 * doubleLimit ≤ q) :
  doubleLimit ≤ roundBinary q
  := by
  have hleast : (2 : ℚ) ^ (-1022 : ℤ) ≤ q := by
    have hlimit : (2 : ℚ) ^ (-1022 : ℤ) ≤ doubleLimit :=
      zpow_le_zpow_right₀ (by norm_num) (by norm_num)
    have hpositive : (0 : ℚ) ≤ 2 ^ (-1022 : ℤ) := by positivity
    linarith
  have hplace := lastPlace_le_of_le hleast
  obtain ⟨-, hhigh⟩ := abs_le.mp (abs_sub_roundBinary_le q)
  have hpos : 0 < q := lt_of_lt_of_le (by positivity) hleast
  have hhalf : q / 2 ^ 52 ≤ q / 2 := by
    apply div_le_div_of_nonneg_left hpos.le (by norm_num)
    norm_num
  linarith

theorem unpackedValue?_rounded {n : Nat} (hn : n ≤ 2 ^ 53) :
  unpackedValue? (if h : n = 0 then .zero sign
      else if n < 2 ^ 53 then .finite sign n e (Nat.pos_of_ne_zero h)
      else .finite sign (2 ^ 52) (e + 1) (Nat.two_pow_pos 52))
    = some (withSign sign (n * 2 ^ e))
  := by
  split
  · next hzero =>
    rw [hzero, Nat.cast_zero, zero_mul]
    cases sign <;> simp [unpackedValue?, withSign]
  · split
    · rfl
    · next hnot =>
      have heq : n = 2 ^ 53 := by omega
      rw [unpackedValue?, heq, zpow_add₀ (by norm_num)]
      congr 2
      push_cast
      ring

/-- What a number is cut down to stands for the number rounded to its last place. -/
theorem IsCut.value (h : IsCut sign q u) (hq : 0 < q) :
  unpackedValue? u = some (withSign sign (roundBinary q))
  := by
  obtain ⟨m, e, accuracy, y, hy, he, rfl, rfl⟩ := h
  have hpos : 0 < y := (pos_iff_pos_of_mul_pos hq).mpr (by positivity)
  have hplace := lastPlace_of_represents hy hpos he
  obtain ⟨k, hk⟩ : ∃ k : Nat, max (m.log2 + e - 52) (-1074) = e + k :=
    ⟨(max (m.log2 + e - 52) (-1074) - e).toNat, by omega⟩
  have hfirst : shiftToTargetExponent Format.binary64 m e accuracy
      = (ExtendedMantissa.ofMantissaAndAccuracy m accuracy >>> k, e + k) := by
    rw [shiftToTargetExponent_eq, hk, add_sub_cancel_left, Int.toNat_natCast]
  have hround := (hy.shiftRight k).rounded_le (hy.cut hk).1
  have hquotient : y * 2 ^ e / 2 ^ (e + (k : ℤ)) = y / 2 ^ k := by
    rw [zpow_add₀ (by norm_num), zpow_natCast]
    field_simp
  rw [roundWithAccuracy_eq sign hfirst hround (by omega), unpackedValue?_rounded hround,
    roundBinary, hplace, hk, hquotient,
    (roundsTo_roundRat _).unique (hy.shiftRight k).roundsTo, Int.cast_natCast]

theorem finite_lt_doubleLimit {hm : 0 < m} (h : Canonical (.finite sign m e hm)) (he : e ≤ 971) :
  (m : ℚ) * 2 ^ e < doubleLimit
  := by
  obtain ⟨hmost, -, -⟩ := h
  have hbits : (m : ℚ) < 2 ^ 53 := by exact_mod_cast hmost
  calc (m : ℚ) * 2 ^ e
    _ < 2 ^ 53 * 2 ^ e := mul_lt_mul_of_pos_right hbits (by positivity)
    _ ≤ 2 ^ 53 * 2 ^ (971 : ℤ) := by
        apply mul_le_mul_of_nonneg_left _ (by positivity)
        apply zpow_le_zpow_right₀ (by norm_num) he
    _ = doubleLimit := by
        rw [doubleLimit, ← zpow_natCast, ← zpow_add₀ (by norm_num)]
        norm_num

theorem doubleLimit_le_finite {hm : 0 < m} (h : Canonical (.finite sign m e hm)) (he : 971 < e) :
  doubleLimit ≤ (m : ℚ) * 2 ^ e
  := by
  obtain ⟨-, -, hleast⟩ := h
  have hbits : (2 : ℚ) ^ 52 ≤ m := by exact_mod_cast hleast.resolve_right (by omega)
  calc doubleLimit
    _ = 2 ^ 52 * 2 ^ (972 : ℤ) := by
        rw [doubleLimit, ← zpow_natCast, ← zpow_add₀ (by norm_num)]
        norm_num
    _ ≤ 2 ^ 52 * 2 ^ e := by
        apply mul_le_mul_of_nonneg_left _ (by positivity)
        apply zpow_le_zpow_right₀ (by norm_num) he
    _ ≤ m * 2 ^ e := mul_le_mul_of_nonneg_right hbits (by positivity)

/-- A double that a positive number is cut down to stands for the rounded number, unless this is
beyond all doubles. -/
theorem IsCut.valueOf?_eq (h : IsCut .positive q u) (hq : 0 < q) {x : Float}
    (hx : x.toModel = Float.Model.pack u) :
  valueOf? x = doubleOf? q
  := by
  have hcanonical := h.roundedFrom.canonical
  have hvalue := h.value hq
  have hnonneg := roundBinary_nonneg hq
  rw [withSign] at hvalue
  rw [valueOf?, hx, doubleOf?]
  cases u with
  | infinity _ => contradiction
  | notANumber => contradiction
  | zero s =>
      have hzero : roundBinary q = 0 := (Option.some.inj hvalue).symm
      rw [unpack_zero, hzero, if_pos (by norm_num [doubleLimit])]
      rfl
  | finite s m e hm =>
      have hpos : (0 : ℚ) < m * 2 ^ e := by positivity
      cases s with
      | negative =>
          have hneg : -((m : ℚ) * 2 ^ e) = roundBinary q := Option.some.inj hvalue
          linarith
      | positive =>
          have heq : (m : ℚ) * 2 ^ e = roundBinary q := Option.some.inj hvalue
          rw [← heq]
          by_cases he : e ≤ 971
          · rw [unpack_pack hcanonical he, if_pos (finite_lt_doubleLimit hcanonical he)]
            rfl
          · rw [not_le] at he
            rw [unpack_pack_overflow he, if_neg (doubleLimit_le_finite hcanonical he).not_gt]
            rfl

/-! ### Doubles with positive numbers -/

variable {x w : Float} {v a b : ℚ}

/-- The bits of a positive double are known by its parts. -/
theorem toNat_of_unpack {b : BitVec Format.binary64.numBits} {hm : 0 < m}
    (h : UnpackedFloat.unpack Format.binary64 b = .finite .positive m e hm) :
  e ≤ 971 ∧ b.toNat = if m < 2 ^ 52 then m else (e + 1075).toNat * 2 ^ 52 + (m - 2 ^ 52)
  := by
  have hbound : b.toNat < 2 ^ 64 := b.isLt
  have hfraction : b.toNat % 2 ^ 52 < 2 ^ 52 := Nat.mod_lt _ (Nat.two_pow_pos 52)
  have hbits := ofBitVec_unpackSign b
  rw [unpack_eq] at h
  dsimp only at h
  generalize Sign.ofBitVec (unpackSign b) = sign at h hbits
  split at h
  · split at h <;> contradiction
  · split at h
    · split at h
      · contradiction
      · injection h with hsign hmantissa hexponent
        subst hsign hmantissa hexponent
        have hbit : b.toNat / 2 ^ 63 % 2 ≠ 1 := by simpa using hbits
        rw [if_pos hfraction]
        omega
    · injection h with hsign hmantissa hexponent
      subst hsign hmantissa hexponent
      have hbit : b.toNat / 2 ^ 63 % 2 ≠ 1 := by simpa using hbits
      rw [if_neg (by omega)]
      omega

theorem toNat_of_unpack_infinity {b : BitVec Format.binary64.numBits}
    (h : UnpackedFloat.unpack Format.binary64 b = .infinity .positive) :
  b.toNat = 2047 * 2 ^ 52
  := by
  have hbound : b.toNat < 2 ^ 64 := b.isLt
  have hbits := ofBitVec_unpackSign b
  rw [unpack_eq] at h
  dsimp only at h
  generalize Sign.ofBitVec (unpackSign b) = sign at h hbits
  split at h
  · split at h
    · injection h with hsign
      subst hsign
      have hbit : b.toNat / 2 ^ 63 % 2 ≠ 1 := by simpa using hbits
      omega
    · contradiction
  · split at h
    · split at h <;> contradiction
    · contradiction

/-- A double is known by its bits. -/
theorem eq_of_toNat
    (h : x.toModel.toBits.toBitVec.toNat = w.toModel.toBits.toBitVec.toNat) :
  x = w
  := by
  obtain ⟨⟨bits, _⟩⟩ := x
  obtain ⟨⟨bits', _⟩⟩ := w
  have heq : bits = bits' := UInt64.toBitVec_inj.mp (BitVec.eq_of_toNat_eq h)
  subst heq
  rfl

/-- The exponent of canonical parts is the last place of the number. -/
theorem lastPlace_of_canonical {hm : 0 < m} (h : Canonical (.finite sign m e hm)) :
  lastPlace (m * 2 ^ e) = e
  := by
  obtain ⟨hmost, hleast, hbits⟩ := h
  have hpower : (0 : ℚ) < 2 ^ e := by positivity
  have hlog : ∀ k : Nat, (m : ℚ) < 2 ^ k → (m : ℚ) * 2 ^ e < 2 ^ (e + k) := by
    intro k hk
    rw [add_comm, zpow_add₀ (by norm_num), zpow_natCast]
    apply mul_lt_mul_of_pos_right hk hpower
  by_cases hnormal : 2 ^ 52 ≤ m
  · have hlow : (2 : ℚ) ^ (e + 52) ≤ m * 2 ^ e := by
      have hcast : (2 : ℚ) ^ (52 : Nat) ≤ m := by exact_mod_cast hnormal
      rw [add_comm, zpow_add₀ (by norm_num)]
      apply mul_le_mul_of_nonneg_right _ hpower.le
      exact_mod_cast hcast
    have hhigh : (m : ℚ) * 2 ^ e < 2 ^ (e + 52 + 1) := by
      rw [add_assoc]
      exact_mod_cast hlog 53 (by exact_mod_cast hmost)
    rw [lastPlace, log_two_eq hlow hhigh]
    omega
  · have hlow := hlog 52 (by exact_mod_cast not_le.mp hnormal)
    obtain rfl : e = -1074 := by omega
    apply lastPlace_of_lt (by positivity)
    apply hlow.trans
    apply zpow_lt_zpow_right₀ (by norm_num)
    norm_num

theorem lt_doubleLimit_of_value (hx : valueOf? x = some v) (hv : 0 < v) :
  v < doubleLimit
  := by
  obtain ⟨m, e, hm, hparts⟩ := exists_finite_of_pos hx hv
  have hcanonical := canonical_toModel x
  have heq := hx.symm.trans (valueOf?_of_unpack hm hparts)
  rw [hparts] at hcanonical
  rw [Option.some.inj heq]
  apply finite_lt_doubleLimit hcanonical (toNat_of_unpack hparts).1

/-- There is one double for each positive number. -/
theorem eq_of_value (hx : valueOf? x = some v) (hw : valueOf? w = some v) (hv : 0 < v) :
  x = w
  := by
  obtain ⟨m, e, hm, hparts⟩ := exists_finite_of_pos hx hv
  obtain ⟨m', e', hm', hparts'⟩ := exists_finite_of_pos hw hv
  have hvalue := Option.some.inj (hx.symm.trans (valueOf?_of_unpack hm hparts))
  have hvalue' := Option.some.inj (hw.symm.trans (valueOf?_of_unpack hm' hparts'))
  have hplace := canonical_toModel x
  have hplace' := canonical_toModel w
  rw [hparts] at hplace
  rw [hparts'] at hplace'
  obtain rfl : e = e' := by
    rw [← lastPlace_of_canonical hplace, ← lastPlace_of_canonical hplace', ← hvalue, ← hvalue']
  obtain rfl : m = m' := by
    have hpower : (2 : ℚ) ^ e ≠ 0 := by positivity
    have hcast : (m : ℚ) = m' := mul_right_cancel₀ hpower (hvalue.symm.trans hvalue')
    exact_mod_cast hcast
  apply eq_of_toNat
  exact (toNat_of_unpack hparts).2.trans (toNat_of_unpack hparts').2.symm

/-- A double above zero is the infinity or stands for a positive number. -/
theorem eq_infinity_or_value_of_pos (h : 0.0 < x) :
  x = 1.0 / 0.0 ∨ ∃ v, valueOf? x = some v ∧ 0 < v
  := by
  obtain hinfinite | ⟨v, hv, hle⟩ := atLeast_of_pos h
  · left
    apply eq_of_toNat
    rw [toNat_of_unpack_infinity hinfinite]
    rfl
  · right
    use v, hv
    apply leastPositive_pos.trans_le hle

theorem valueOf?_mul (hx : valueOf? x = some a) (hw : valueOf? w = some b) (ha : 0 < a)
    (hb : 0 < b) :
  valueOf? (x * w) = doubleOf? (a * b)
  := by
  obtain ⟨m, e, hm, hparts⟩ := exists_finite_of_pos hx ha
  obtain ⟨m', e', hm', hparts'⟩ := exists_finite_of_pos hw hb
  have hcanonical := canonical_toModel x
  have hcanonical' := canonical_toModel w
  obtain rfl := Option.some.inj (hx.symm.trans (valueOf?_of_unpack hm hparts))
  obtain rfl := Option.some.inj (hw.symm.trans (valueOf?_of_unpack hm' hparts'))
  rw [hparts] at hcanonical
  rw [hparts'] at hcanonical'
  apply (isCut_mul .positive .positive hm hm' (exponent_mul_le hcanonical hcanonical')).valueOf?_eq
  · apply mul_pos ha hb
  · rw [← hparts, ← hparts']
    rfl

theorem valueOf?_div (hx : valueOf? x = some a) (hw : valueOf? w = some b) (ha : 0 < a)
    (hb : 0 < b) :
  valueOf? (x / w) = doubleOf? (a / b)
  := by
  obtain ⟨m, e, hm, hparts⟩ := exists_finite_of_pos hx ha
  obtain ⟨m', e', hm', hparts'⟩ := exists_finite_of_pos hw hb
  obtain rfl := Option.some.inj (hx.symm.trans (valueOf?_of_unpack hm hparts))
  obtain rfl := Option.some.inj (hw.symm.trans (valueOf?_of_unpack hm' hparts'))
  apply (isCut_div .positive .positive hm hm').valueOf?_eq
  · apply div_pos ha hb
  · rw [← hparts, ← hparts']
    rfl

end BoxDiagram
