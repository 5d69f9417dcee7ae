import BoxDiagram.Proofs.Decimal.Doubles

/-!
# Rounding to the nearest double

Arithmetic on doubles cuts an exact result down to 53 bits and keeps two more bits that tell
how what was cut off compares with a half.  The result that is rounded by these bits lies on
the same side of every representable number as the exact one.
-/

namespace BoxDiagram

open Float.Model Float.Model.UnpackedFloat

/-- A number that a double can stand for, with room below the greatest ones. -/
def Representable (c : ℚ) : Prop :=
  ∃ n k : ℤ, n.natAbs ≤ 2 ^ 53 ∧ -1074 ≤ k ∧ k ≤ 970 ∧ c = n * 2 ^ k

/-- A number is rounded to another: no representable number lies between them, unless it is
one of them. -/
structure Nearest (v r : ℚ) : Prop where
  le : ∀ c, Representable c → v ≤ c → r ≤ c
  ge : ∀ c, Representable c → c ≤ v → c ≤ r

theorem representable_zero :
  Representable 0
  := by
  use 0, 0
  simp

theorem Representable.neg {c : ℚ} (h : Representable c) :
  Representable (-c)
  := by
  obtain ⟨n, k, hn, hleast, hmost, rfl⟩ := h
  refine ⟨-n, k, ?_, hleast, hmost, ?_⟩
  · rwa [Int.natAbs_neg]
  · rw [Int.cast_neg, neg_mul]

theorem Nearest.neg {v r : ℚ} (h : Nearest v r) :
  Nearest (-v) (-r)
  := by
  constructor
  · intro c hc hle
    have hge := h.ge (-c) hc.neg (by linarith)
    linarith
  · intro c hc hle
    have hge := h.le (-c) hc.neg (by linarith)
    linarith

/-! ### Bits that were cut off -/

/-- What a mantissa and its two further bits tell about a number. -/
def Represents (em : ExtendedMantissa) (y : ℚ) : Prop :=
  match em.roundBit, em.stickyBit with
  | false, false => y = em.mantissa
  | false, true => em.mantissa < y ∧ y < em.mantissa + 1 / 2
  | true, false => y = em.mantissa + 1 / 2
  | true, true => em.mantissa + 1 / 2 < y ∧ y < em.mantissa + 1

theorem represents_exact (m : Nat) :
  Represents (.ofMantissaAndAccuracy m .exact) m
  := rfl

variable {em : ExtendedMantissa} {y : ℚ}

theorem Represents.bounds (h : Represents em y) :
  em.mantissa ≤ y ∧ y < em.mantissa + 1
  := by
  obtain ⟨m, round, sticky⟩ := em
  cases round <;> cases sticky <;> simp only [Represents] at h ⊢
  · rw [h]
    constructor <;> linarith
  · constructor <;> linarith
  · rw [h]
    constructor <;> linarith
  · constructor <;> linarith

theorem Represents.shiftRightOne (h : Represents em y) :
  Represents em.shiftRightOne (y / 2)
  := by
  obtain ⟨m, round, sticky⟩ := em
  have hhalf : (m : ℚ) = 2 * ((m / 2 : Nat) : ℚ) + ((m % 2 : Nat) : ℚ) := by
    exact_mod_cast (Nat.div_add_mod m 2).symm
  obtain hparity | hparity := Nat.mod_two_eq_zero_or_one m <;> rw [hparity] at hhalf <;>
    cases round <;> cases sticky <;>
    simp [Represents, ExtendedMantissa.shiftRightOne, hparity] at h hhalf ⊢ <;>
    grind

/-- Cutting off more bits divides by a power of two. -/
theorem Represents.shiftRight (h : Represents em y) (k : Nat) :
  Represents (em >>> k) (y / 2 ^ k)
  := by
  induction k with
  | zero =>
      rw [pow_zero, div_one]
      apply h
  | succ k ih =>
      have hstep : em >>> (k + 1) = (em >>> k).shiftRightOne := rfl
      rw [hstep, pow_succ, ← div_div]
      apply ih.shiftRightOne

/-- A mantissa is rounded to itself or to its successor, and to itself if nothing was cut off. -/
theorem Represents.rounded_eq (h : Represents em y) :
  em.roundedMantissa = em.mantissa ∨ em.roundedMantissa = em.mantissa + 1 ∧ y ≠ em.mantissa
  := by
  obtain ⟨m, round, sticky⟩ := em
  match round, sticky with
  | false, false => apply Or.inl rfl
  | false, true => apply Or.inl rfl
  | true, false =>
      have hy : y = m + 1 / 2 := h
      have hne : y ≠ m := by
        rw [hy]
        linarith
      have hrounded : ExtendedMantissa.roundedMantissa ⟨m, true, false⟩ = m + m % 2 := rfl
      rw [hrounded]
      obtain hparity | hparity := Nat.mod_two_eq_zero_or_one m <;> rw [hparity]
      · apply Or.inl rfl
      · apply Or.inr ⟨rfl, hne⟩
  | true, true =>
      obtain ⟨hlt, -⟩ : m + 1 / 2 < y ∧ y < m + 1 := h
      apply Or.inr ⟨rfl, by linarith⟩

/-- The rounded mantissa is on the same side of every whole number. -/
theorem Represents.rounded_le (h : Represents em y) {n : Nat} (hn : y ≤ n) :
  em.roundedMantissa ≤ n
  := by
  obtain ⟨hle, -⟩ := h.bounds
  obtain heq | ⟨heq, hne⟩ := h.rounded_eq
  · rw [heq]
    exact_mod_cast hle.trans hn
  · have hlt : (em.mantissa : ℚ) < n := (lt_of_le_of_ne hle hne.symm).trans_le hn
    rw [heq]
    exact_mod_cast hlt

theorem Represents.le_rounded (h : Represents em y) {n : Nat} (hn : n ≤ y) :
  n ≤ em.roundedMantissa
  := by
  obtain ⟨-, hlt⟩ := h.bounds
  have hle : n ≤ em.mantissa := by
    have hsucc : (n : ℚ) < (em.mantissa + 1 : Nat) := by
      push_cast
      linarith
    have hsucc' : n < em.mantissa + 1 := by exact_mod_cast hsucc
    omega
  obtain heq | ⟨heq, -⟩ := h.rounded_eq <;> omega

/-! ### Cutting down to 53 bits -/

/-- The exponent with which a mantissa has 53 bits, or the least exponent. -/
theorem targetExponent_eq (m : Nat) (e : Int) :
  Format.binary64.targetExponent (totalExponent m e) = max (m.log2 + e - 52) (-1074)
  := by
  have hbits : Format.binary64.mantissaBits = 53 := rfl
  have hleast : Format.binary64.minExponent = -1074 := rfl
  rw [Format.targetExponent, totalExponent, hbits, hleast]
  omega

theorem shiftToTargetExponent_eq (m : Nat) (e : Int) (accuracy : Accuracy) :
  shiftToTargetExponent Format.binary64 m e accuracy
    = let k := (max (m.log2 + e - 52) (-1074) - e).toNat
      (ExtendedMantissa.ofMantissaAndAccuracy m accuracy >>> k, e + k)
  := by
  rw [← targetExponent_eq]
  rfl

/-- Rounding keeps a mantissa of at most 53 bits, and halves the only larger one there can be. -/
theorem roundWithAccuracy_eq (sign : Sign) {m : Nat} {e e' : Int} {accuracy : Accuracy}
    {em : ExtendedMantissa} (hfirst : shiftToTargetExponent Format.binary64 m e accuracy = (em, e'))
    (hle : em.roundedMantissa ≤ 2 ^ 53) (hleast : -1074 ≤ e') :
  roundWithAccuracy Format.binary64 sign m e accuracy
    = if h : em.roundedMantissa = 0 then .zero sign
      else if em.roundedMantissa < 2 ^ 53 then
        .finite sign em.roundedMantissa e' (Nat.pos_of_ne_zero h)
      else .finite sign (2 ^ 52) (e' + 1) (Nat.two_pow_pos 52)
  := by
  have hrun : roundWithAccuracy Format.binary64 sign m e accuracy
      = let last := shiftToTargetExponent Format.binary64 em.roundedMantissa e' .exact
        if h : last.1.mantissa = 0 then .zero sign
        else .finite sign last.1.mantissa last.2 (Nat.pos_of_ne_zero h) := by
    rw [roundWithAccuracy, hfirst]
  rw [hrun, shiftToTargetExponent_eq]
  by_cases hlt : em.roundedMantissa < 2 ^ 53
  · have hlog : em.roundedMantissa.log2 ≤ 52 := by
      by_cases hzero : em.roundedMantissa = 0
      · rw [hzero]
        decide
      · have hlog := (Nat.log2_lt hzero).mpr hlt
        omega
    have hshift : (max (em.roundedMantissa.log2 + e' - 52) (-1074) - e').toNat = 0 := by omega
    simp only [hshift, hlt, if_true]
    have hkeep : (ExtendedMantissa.ofMantissaAndAccuracy em.roundedMantissa .exact >>> 0).mantissa
      = em.roundedMantissa := rfl
    simp only [hkeep, Nat.cast_zero, add_zero]
  · have heq : em.roundedMantissa = 2 ^ 53 := by omega
    have hshift : (max ((2 ^ 53 : Nat).log2 + e' - 52) (-1074) - e').toNat = 1 := by
      rw [Nat.log2_two_pow]
      omega
    simp only [heq, hshift]
    rfl

theorem zpow_of_le {j k : Int} (h : j ≤ k) :
  (2 : ℚ) ^ k = (2 ^ (k - j).toNat : Nat) * 2 ^ j
  := by
  have hsplit : k = ((k - j).toNat : Int) + j := by omega
  conv_lhs => rw [hsplit]
  rw [zpow_add₀ (by norm_num), zpow_natCast]
  push_cast
  rfl

/-- A number with at most 53 bits is a whole multiple of a smaller power of two, or at most the
least number with 53 bits over a greater one. -/
theorem Representable.cases {c : ℚ} (h : Representable c) (hc : 0 ≤ c) (e : Int) :
  (∃ n : Nat, c = n * 2 ^ e) ∨ -1074 < e ∧ c ≤ 2 ^ 52 * 2 ^ e
  := by
  obtain ⟨n, k, hn, hleast, -, rfl⟩ := h
  have hpos : (0 : ℚ) < 2 ^ k := by positivity
  have hnonneg : 0 ≤ n := by
    have hcast : (0 : ℚ) ≤ n := nonneg_of_mul_nonneg_left hc hpos
    exact_mod_cast hcast
  obtain ⟨n, rfl⟩ := Int.eq_ofNat_of_zero_le hnonneg
  by_cases hk : e ≤ k
  · left
    use n * 2 ^ (k - e).toNat
    rw [zpow_of_le hk]
    push_cast
    ring
  · right
    use by omega
    have hbound : (n : ℚ) ≤ 2 ^ 53 := by
      have hbound : n ≤ 2 ^ 53 := hn
      exact_mod_cast hbound
    have hhalf : (2 : ℚ) ^ (k + 1) ≤ 2 ^ e := zpow_le_zpow_right₀ (by norm_num) (by omega)
    calc ((n : Int) : ℚ) * 2 ^ k
      _ ≤ 2 ^ 53 * 2 ^ k := by
          apply mul_le_mul_of_nonneg_right _ hpos.le
          exact_mod_cast hbound
      _ = 2 ^ 52 * 2 ^ (k + 1) := by
          rw [zpow_add₀ (by norm_num)]
          ring
      _ ≤ 2 ^ 52 * 2 ^ e := by
          apply mul_le_mul_of_nonneg_left hhalf
          positivity

/-- A mantissa with 53 bits, or with the least exponent, is rounded to the nearest. -/
theorem Represents.nearest (h : Represents em y) {e : Int} (hbits : 2 ^ 52 ≤ y ∨ e = -1074) :
  Nearest (y * 2 ^ e) (em.roundedMantissa * 2 ^ e)
  := by
  have hpos : (0 : ℚ) < 2 ^ e := by positivity
  have hy : 0 ≤ y := by
    apply le_trans _ h.bounds.1
    positivity
  constructor
  · intro c hc hle
    have hnonneg : 0 ≤ c := le_trans (by positivity) hle
    obtain ⟨n, rfl⟩ | ⟨hleast, hmost⟩ := hc.cases hnonneg e
    · have hn : y ≤ n := le_of_mul_le_mul_right hle hpos
      apply mul_le_mul_of_nonneg_right _ hpos.le
      exact_mod_cast h.rounded_le hn
    · have hlow : 2 ^ 52 ≤ y := hbits.resolve_right (by omega)
      have heq : y = (2 ^ 52 : Nat) := by
        push_cast
        apply le_antisymm _ hlow
        apply le_of_mul_le_mul_right (hle.trans hmost) hpos
      apply le_trans _ hle
      apply mul_le_mul_of_nonneg_right _ hpos.le
      rw [heq]
      exact_mod_cast h.rounded_le heq.le
  · intro c hc hle
    by_cases hnonneg : 0 ≤ c
    · obtain ⟨n, rfl⟩ | ⟨hleast, hmost⟩ := hc.cases hnonneg e
      · have hn : (n : ℚ) ≤ y := le_of_mul_le_mul_right hle hpos
        apply mul_le_mul_of_nonneg_right _ hpos.le
        exact_mod_cast h.le_rounded hn
      · have hlow : ((2 ^ 52 : Nat) : ℚ) ≤ y := by
          push_cast
          apply hbits.resolve_right (by omega)
        apply hmost.trans
        apply mul_le_mul_of_nonneg_right _ hpos.le
        exact_mod_cast h.le_rounded hlow
    · have hround : (0 : ℚ) ≤ em.roundedMantissa * 2 ^ e := by positivity
      linarith

theorem Nearest.withSign {v r : ℚ} (h : Nearest v r) (sign : Sign) :
  Nearest (withSign sign v) (withSign sign r)
  := by
  cases sign with
  | positive => apply h
  | negative => apply h.neg

/-- An unpacked double in canonical form stands for a number that an exact number is rounded to. -/
structure RoundedFrom (v : ℚ) (u : UnpackedFloat) : Prop where
  canonical : Canonical u
  value : ∃ r, unpackedValue? u = some r ∧ Nearest v r

theorem mantissa_ofMantissaAndAccuracy (m : Nat) (accuracy : Accuracy) :
  (ExtendedMantissa.ofMantissaAndAccuracy m accuracy).mantissa = m
  := by
  match accuracy with
  | .exact | .inexact .lt | .inexact .eq | .inexact .gt => rfl

/-- Cutting a mantissa down to 53 bits, or to the least exponent, leaves a number of so many
bits. -/
theorem Represents.cut {m : Nat} {e : Int} {accuracy : Accuracy} {k : Nat}
    (h : Represents (.ofMantissaAndAccuracy m accuracy) y)
    (hk : max (m.log2 + e - 52) (-1074) = e + k) :
  y / 2 ^ k ≤ (2 ^ 53 : Nat) ∧ (2 ^ 52 ≤ y / 2 ^ k ∨ e + k = -1074)
  := by
  have hpow : (0 : ℚ) < 2 ^ k := by positivity
  obtain ⟨hle, hlt⟩ := h.bounds
  rw [mantissa_ofMantissaAndAccuracy] at hle hlt
  constructor
  · have hlog : (m : ℚ) + 1 ≤ 2 ^ (m.log2 + 1) := by exact_mod_cast Nat.lt_log2_self
    have hbits : (2 : ℚ) ^ (m.log2 + 1) ≤ 2 ^ (53 + k) := by
      apply pow_le_pow_right₀ (by norm_num)
      omega
    rw [div_le_iff₀ hpow, Nat.cast_pow, Nat.cast_ofNat, ← pow_add]
    linarith
  · by_cases hmin : e + k = -1074
    · apply Or.inr hmin
    · left
      have hm : m ≠ 0 := by
        rintro rfl
        rw [Nat.log2_zero] at hk
        omega
      have hself : (2 : ℚ) ^ m.log2 ≤ m := by exact_mod_cast Nat.log2_self_le hm
      have hlogk : 52 + k = m.log2 := by omega
      rw [le_div_iff₀ hpow, ← pow_add, hlogk]
      linarith

/-- A rounded mantissa is written in canonical form, with one bit less if it has 54. -/
theorem roundedFrom_rounded {sign : Sign} {n : Nat} {e : Int} {v : ℚ} (hn : n ≤ 2 ^ 53)
    (hleast : -1074 ≤ e) (hbits : 2 ^ 52 ≤ n ∨ e = -1074)
    (h : Nearest (withSign sign v) (withSign sign (n * 2 ^ e))) :
  RoundedFrom (withSign sign v)
    (if h : n = 0 then .zero sign
      else if n < 2 ^ 53 then .finite sign n e (Nat.pos_of_ne_zero h)
      else .finite sign (2 ^ 52) (e + 1) (Nat.two_pow_pos 52))
  := by
  by_cases hzero : n = 0
  · rw [dif_pos hzero]
    rw [hzero, Nat.cast_zero, zero_mul] at h
    refine ⟨trivial, 0, rfl, ?_⟩
    cases sign with
    | positive => apply h
    | negative =>
        have hneg : withSign .negative 0 = 0 := neg_zero
        rwa [hneg] at h
  · rw [dif_neg hzero]
    by_cases hlt : n < 2 ^ 53
    · rw [if_pos hlt]
      exact ⟨⟨hlt, hleast, hbits⟩, _, rfl, h⟩
    · have heq : n = 2 ^ 53 := by omega
      have hcarry : (2 : ℚ) ^ 53 * 2 ^ e = ((2 ^ 52 : Nat) : ℚ) * 2 ^ (e + 1) := by
        rw [zpow_add₀ (by norm_num) e]
        push_cast
        ring
      rw [if_neg hlt]
      refine ⟨⟨by norm_num, by omega, Or.inl le_rfl⟩, _, rfl, ?_⟩
      rw [← hcarry]
      rw [heq] at h
      push_cast at h
      apply h

/-- Rounding by the bits that were cut off is rounding to the nearest, if the exponent is no
greater than the one that is aimed at. -/
theorem roundedFrom_roundWithAccuracy (sign : Sign) {m : Nat} {e : Int} {accuracy : Accuracy}
    (hy : Represents (.ofMantissaAndAccuracy m accuracy) y)
    (he : e ≤ max (m.log2 + e - 52) (-1074)) :
  RoundedFrom (withSign sign (y * 2 ^ e)) (roundWithAccuracy Format.binary64 sign m e accuracy)
  := by
  obtain ⟨k, hk⟩ : ∃ k : Nat, max (m.log2 + e - 52) (-1074) = e + k :=
    ⟨(max (m.log2 + e - 52) (-1074) - e).toNat, by omega⟩
  have hfirst : shiftToTargetExponent Format.binary64 m e accuracy
      = (ExtendedMantissa.ofMantissaAndAccuracy m accuracy >>> k, e + k) := by
    rw [shiftToTargetExponent_eq, hk, add_sub_cancel_left, Int.toNat_natCast]
  have hleast : -1074 ≤ e + k := by omega
  have hcut := hy.shiftRight k
  obtain ⟨hmost, hbits⟩ := hy.cut hk
  have hround := hcut.rounded_le hmost
  have hrounded :
      2 ^ 52 ≤ (ExtendedMantissa.ofMantissaAndAccuracy m accuracy >>> k).roundedMantissa
        ∨ e + k = -1074 := by
    apply hbits.imp_left
    intro hlow
    apply hcut.le_rounded
    exact_mod_cast hlow
  have hvalue : y / 2 ^ k * (2 : ℚ) ^ (e + k) = y * 2 ^ e := by
    rw [zpow_add₀ (by norm_num), zpow_natCast]
    field_simp
  rw [roundWithAccuracy_eq sign hfirst hround hleast, ← hvalue]
  apply roundedFrom_rounded hround hleast hrounded
  apply (hcut.nearest hbits).withSign

/-- An unpacked double is what a positive number is cut down to, by a mantissa and an accuracy that
represent it with an exponent no greater than the one that is aimed at. -/
def IsCut (sign : Sign) (q : ℚ) (u : UnpackedFloat) : Prop :=
  ∃ (m : Nat) (e : Int) (accuracy : Accuracy) (y : ℚ),
    Represents (.ofMantissaAndAccuracy m accuracy) y ∧ e ≤ max (m.log2 + e - 52) (-1074)
      ∧ y * 2 ^ e = q ∧ roundWithAccuracy Format.binary64 sign m e accuracy = u

theorem IsCut.roundedFrom {sign : Sign} {q : ℚ} {u : UnpackedFloat} (h : IsCut sign q u) :
  RoundedFrom (withSign sign q) u
  := by
  obtain ⟨m, e, accuracy, y, hy, he, rfl, rfl⟩ := h
  apply roundedFrom_roundWithAccuracy sign hy he

end BoxDiagram
