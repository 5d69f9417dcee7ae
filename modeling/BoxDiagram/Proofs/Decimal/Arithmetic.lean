import BoxDiagram.Geometry
import BoxDiagram.Proofs.Decimal.Nearest

/-!
# Arithmetic on doubles

A sum, a difference, a product or a quotient of doubles that stand for numbers is the exact
result, rounded to the nearest.  It is an infinity if the exact result is too large, and then
it is on the same side of every representable number as well.
-/

namespace BoxDiagram

open Float.Model Float.Model.UnpackedFloat

theorem Nearest.refl (v : ℚ) :
  Nearest v v
  := by
  constructor
  · intro c _ h
    apply h
  · intro c _ h
    apply h

/-! ### Rounding -/

theorem log2_mul_two_pow {m : Nat} (hm : m ≠ 0) (k : Nat) :
  (m * 2 ^ k).log2 = m.log2 + k
  := by
  rw [Nat.log2_eq_iff (by positivity)]
  have hself := Nat.log2_self_le hm
  have hlt := @Nat.lt_log2_self m
  constructor
  · rw [pow_add]
    apply Nat.mul_le_mul_right _ hself
  · rw [show m.log2 + k + 1 = m.log2 + 1 + k by omega, pow_add]
    apply Nat.mul_lt_mul_of_pos_right hlt (Nat.two_pow_pos k)

theorem roundedFrom_round (sign : Sign) {m : Nat} (hm : m ≠ 0) (e : Int) :
  RoundedFrom (withSign sign (m * 2 ^ e)) (UnpackedFloat.round Format.binary64 sign m e)
  := by
  obtain ⟨k, hk⟩ : ∃ k, (e - max (m.log2 + e - 52) (-1074)).toNat = k := ⟨_, rfl⟩
  have hround : UnpackedFloat.round Format.binary64 sign m e
      = roundWithAccuracy Format.binary64 sign (m * 2 ^ k) (e - k) .exact := by
    rw [UnpackedFloat.round, targetExponent_eq, decreaseExponent, hk, Nat.shiftLeft_eq]
  have hvalue : ((m * 2 ^ k : Nat) : ℚ) * 2 ^ (e - k) = m * 2 ^ e := by
    rw [zpow_of_le (by omega : e - k ≤ e), sub_sub_cancel, Int.toNat_natCast]
    push_cast
    ring
  have hlog := log2_mul_two_pow hm k
  rw [hround, ← hvalue]
  apply roundedFrom_roundWithAccuracy sign (represents_exact _)
  rw [hlog]
  omega

theorem roundedFrom_normalize (m e : Int) (zeroSign : Sign) :
  RoundedFrom (m * 2 ^ e) (UnpackedFloat.normalize Format.binary64 m e zeroSign)
  := by
  rw [UnpackedFloat.normalize]
  split
  · next hlt =>
      have hneg := Int.compare_eq_lt.mp hlt
      have h := roundedFrom_round .negative (m := (-m).toNat) (by omega) e
      have hcast : (((-m).toNat : Nat) : ℚ) = -m := by
        have hcast : (((-m).toNat : Nat) : Int) = -m := by omega
        exact_mod_cast hcast
      rwa [hcast, withSign, neg_mul, neg_neg] at h
  · next heq =>
      obtain rfl := Int.compare_eq_eq.mp heq
      refine ⟨trivial, 0, rfl, ?_⟩
      rw [Int.cast_zero, zero_mul]
      apply Nearest.refl
  · next hgt =>
      have hpos := Int.compare_eq_gt.mp hgt
      have h := roundedFrom_round .positive (m := m.toNat) (by omega) e
      have hcast : ((m.toNat : Nat) : ℚ) = m := by
        have hcast : ((m.toNat : Nat) : Int) = m := by omega
        exact_mod_cast hcast
      rwa [hcast, withSign] at h

/-! ### Sums and differences -/

theorem roundedFrom_self {u : UnpackedFloat} (hu : Canonical u) {a : ℚ}
    (ha : unpackedValue? u = some a) :
  RoundedFrom a u
  := ⟨hu, a, ha, Nearest.refl a⟩

theorem roundedFrom_zero (sign : Sign) :
  RoundedFrom 0 (.zero sign)
  := ⟨trivial, 0, rfl, Nearest.refl 0⟩

theorem cast_apply_mul (sign : Sign) (m k : Nat) (e : Int) :
  ((sign.apply (m * 2 ^ k : Nat) : Int) : ℚ) * 2 ^ e = withSign sign (m * 2 ^ (k + e))
  := by
  rw [zpow_add₀ (by norm_num), zpow_natCast]
  cases sign <;> simp only [Sign.apply, withSign] <;> push_cast <;> ring

theorem roundedFrom_add {u w : UnpackedFloat} (hu : Canonical u) (hw : Canonical w) {a b : ℚ}
    (ha : unpackedValue? u = some a) (hb : unpackedValue? w = some b) :
  RoundedFrom (a + b) (UnpackedFloat.add Format.binary64 u w)
  := by
  match u, w, ha, hb with
  | .zero sign, .zero sign', rfl, rfl =>
      rw [add_zero, UnpackedFloat.add]
      split <;> apply roundedFrom_zero
  | .zero sign, .finite sign' m e hm, rfl, hb =>
      rw [zero_add]
      apply roundedFrom_self hw hb
  | .finite sign m e hm, .zero sign', ha, rfl =>
      rw [add_zero]
      apply roundedFrom_self hu ha
  | .finite sign m e hm, .finite sign' m' e' hm', rfl, rfl =>
      have hleft : ((e - min e e').toNat : Int) + min e e' = e := by omega
      have hright : ((e' - min e e').toNat : Int) + min e e' = e' := by omega
      have h := roundedFrom_normalize (sign.apply (m * 2 ^ (e - min e e').toNat : Nat)
        + sign'.apply (m' * 2 ^ (e' - min e e').toNat : Nat)) (min e e') .positive
      rw [Int.cast_add, add_mul, cast_apply_mul, cast_apply_mul, hleft, hright] at h
      rw [UnpackedFloat.add]
      simp only [decreaseExponent, Nat.shiftLeft_eq]
      apply h

/-- The difference of unpacked doubles is a sum. -/
theorem unpacked_sub (u w : UnpackedFloat) :
  UnpackedFloat.sub Format.binary64 u w = UnpackedFloat.add Format.binary64 u w.neg
  := by
  match u, w with
  | .notANumber, w => cases w <;> rfl
  | .infinity _, .notANumber => rfl
  | .infinity _, .infinity _ => rfl
  | .infinity _, .zero _ => rfl
  | .infinity _, .finite _ _ _ _ => rfl
  | .zero _, .notANumber => rfl
  | .zero _, .infinity _ => rfl
  | .zero _, .zero _ => rfl
  | .zero _, .finite _ _ _ _ => rfl
  | .finite _ _ _ _, .notANumber => rfl
  | .finite _ _ _ _, .infinity _ => rfl
  | .finite _ _ _ _, .zero _ => rfl
  | .finite sign m e _, .finite sign' m' e' _ =>
      have hneg : ∀ n : Int, (-sign').apply n = -sign'.apply n := by
        intro n
        cases sign' with
        | positive => rfl
        | negative => apply (neg_neg n).symm
      rw [UnpackedFloat.sub, UnpackedFloat.neg, UnpackedFloat.add]
      simp only [hneg, Int.sub_eq_add_neg]

theorem canonical_neg {u : UnpackedFloat} (hu : Canonical u) :
  Canonical u.neg
  := by
  cases u <;> apply hu

theorem unpackedValue?_neg (u : UnpackedFloat) :
  unpackedValue? u.neg = (unpackedValue? u).map (- ·)
  := by
  match u with
  | .notANumber | .infinity _ => rfl
  | .zero _ => simp [UnpackedFloat.neg, unpackedValue?]
  | .finite .positive m e hm => rfl
  | .finite .negative m e hm => simp [UnpackedFloat.neg, unpackedValue?, withSign]

/-! ### Products and quotients -/

theorem withSign_mul (sign sign' : Sign) (a b : ℚ) :
  withSign (sign * sign') (a * b) = withSign sign a * withSign sign' b
  := by
  cases sign <;> cases sign'
  · apply (neg_mul_neg a b).symm
  · apply (neg_mul a b).symm
  · apply (mul_neg a b).symm
  · rfl

/-- A product is cut down to 53 bits if the product of the mantissas has enough of them. -/
theorem isCut_mul (sign sign' : Sign) {m m' : Nat} {e e' : Int} (hm : 0 < m) (hm' : 0 < m')
    (he : e + e' ≤ max ((m * m').log2 + (e + e') - 52) (-1074)) :
  IsCut (sign * sign') (m * 2 ^ e * (m' * 2 ^ e'))
    (UnpackedFloat.mul Format.binary64 (.finite sign m e hm) (.finite sign' m' e' hm'))
  := by
  refine ⟨m * m', e + e', .exact, (m * m' : Nat), represents_exact _, he, ?_, rfl⟩
  rw [zpow_add₀ (by norm_num)]
  push_cast
  ring

/-- The product of canonical mantissas has enough bits. -/
theorem exponent_mul_le {sign sign' : Sign} {m m' : Nat} {e e' : Int} {hm : 0 < m} {hm' : 0 < m'}
    (h : Canonical (.finite sign m e hm)) (h' : Canonical (.finite sign' m' e' hm')) :
  e + e' ≤ max ((m * m').log2 + (e + e') - 52) (-1074)
  := by
  obtain ⟨-, -, h⟩ := h
  obtain ⟨-, -, h'⟩ := h'
  by_cases hsmall : e = -1074 ∧ e' = -1074
  · omega
  · have hbits : 2 ^ 52 ≤ m * m' := by
      obtain hm52 | hm52 : 2 ^ 52 ≤ m ∨ 2 ^ 52 ≤ m' := by omega
      · apply hm52.trans (Nat.le_mul_of_pos_right m hm')
      · apply hm52.trans (Nat.le_mul_of_pos_left m' hm)
    have hlog := (Nat.le_log2 (Nat.mul_pos hm hm').ne').mpr hbits
    omega

theorem roundedFrom_mul {u w : UnpackedFloat} (hu : Canonical u) (hw : Canonical w) {a b : ℚ}
    (ha : unpackedValue? u = some a) (hb : unpackedValue? w = some b) :
  RoundedFrom (a * b) (UnpackedFloat.mul Format.binary64 u w)
  := by
  match u, w, ha, hb with
  | .zero sign, .zero sign', rfl, rfl =>
      rw [mul_zero]
      apply roundedFrom_zero
  | .zero sign, .finite sign' m e hm, rfl, hb =>
      rw [zero_mul]
      apply roundedFrom_zero
  | .finite sign m e hm, .zero sign', ha, rfl =>
      rw [mul_zero]
      apply roundedFrom_zero
  | .finite sign m e hm, .finite sign' m' e' hm', rfl, rfl =>
      rw [← withSign_mul]
      apply (isCut_mul sign sign' hm hm' (exponent_mul_le hu hw)).roundedFrom

/-- The accuracy of a fraction tells how it compares with zero and with a half. -/
theorem represents_fraction (q : Nat) {r d : Nat} (hlt : r < d) :
  Represents (.ofMantissaAndAccuracy q (accuracyOfFraction r d)) ((q : ℚ) + r / d)
  := by
  have hpos : (0 : ℚ) < d := by exact_mod_cast (Nat.zero_le r).trans_lt hlt
  have hless : (r : ℚ) / d < 1 := by
    rw [div_lt_one hpos]
    exact_mod_cast hlt
  by_cases hzero : r = 0
  · rw [accuracyOfFraction, if_pos hzero, hzero, Nat.cast_zero, zero_div, add_zero]
    apply represents_exact
  · have hmore : (0 : ℚ) < r / d := by
      apply div_pos _ hpos
      exact_mod_cast Nat.pos_of_ne_zero hzero
    rw [accuracyOfFraction, if_neg hzero]
    cases hcompare : compare (2 * r) d with
    | lt =>
        have hhalf : (r : ℚ) / d < 1 / 2 := by
          rw [div_lt_div_iff₀ hpos (by norm_num)]
          have hcast : ((2 * r : Nat) : ℚ) < d := by exact_mod_cast Nat.compare_eq_lt.mp hcompare
          push_cast at hcast
          linarith
        have hbetween : (q : ℚ) < q + r / d ∧ (q : ℚ) + r / d < q + 1 / 2 := by
          constructor <;> linarith
        apply hbetween
    | eq =>
        have hhalf : (r : ℚ) / d = 1 / 2 := by
          rw [div_eq_div_iff hpos.ne' (by norm_num)]
          have hcast : ((2 * r : Nat) : ℚ) = d := by exact_mod_cast Nat.compare_eq_eq.mp hcompare
          push_cast at hcast
          linarith
        rw [hhalf]
        rfl
    | gt =>
        have hhalf : 1 / 2 < (r : ℚ) / d := by
          rw [div_lt_div_iff₀ (by norm_num) hpos]
          have hcast : (d : ℚ) < ((2 * r : Nat) : ℚ) := by
            exact_mod_cast Nat.compare_eq_gt.mp hcompare
          push_cast at hcast
          linarith
        have hbetween : (q : ℚ) + 1 / 2 < q + r / d ∧ (q : ℚ) + r / d < q + 1 := by
          constructor <;> linarith
        apply hbetween

/-- What is left of a division tells how the quotient compares with a half. -/
theorem represents_quotient (m : Nat) {d : Nat} (hd : 0 < d) :
  Represents (.ofMantissaAndAccuracy (m / d) (accuracyOfFraction (m % d) d)) ((m : ℚ) / d)
  := by
  have hne : (d : ℚ) ≠ 0 := by exact_mod_cast hd.ne'
  have hsplit : (m : ℚ) = ((m / d : Nat) : ℚ) * d + ((m % d : Nat) : ℚ) := by
    exact_mod_cast (Nat.div_add_mod' m d).symm
  have hquotient : (m : ℚ) / d = ((m / d : Nat) : ℚ) + ((m % d : Nat) : ℚ) / d := by
    rw [div_eq_iff hne, add_mul, div_mul_cancel₀ _ hne, ← hsplit]
  rw [hquotient]
  apply represents_fraction _ (Nat.mod_lt m hd)

/-- A dividend with enough more bits than the divisor has a quotient of 53 bits. -/
theorem le_quotient {m d k : Nat} (hm : 0 < m) (hd : 0 < d) (hk : d.log2 + 53 ≤ m.log2 + k) :
  2 ^ 52 ≤ m * 2 ^ k / d
  := by
  have hself := Nat.log2_self_le hm.ne'
  have hlt := @Nat.lt_log2_self d
  rw [Nat.le_div_iff_mul_le hd]
  calc 2 ^ 52 * d
    _ ≤ 2 ^ 52 * 2 ^ (d.log2 + 1) := Nat.mul_le_mul_left _ hlt.le
    _ = 2 ^ (d.log2 + 53) := by rw [← pow_add]; congr 1; omega
    _ ≤ 2 ^ (m.log2 + k) := Nat.pow_le_pow_right (by norm_num) hk
    _ = 2 ^ m.log2 * 2 ^ k := pow_add 2 _ _
    _ ≤ m * 2 ^ k := Nat.mul_le_mul_right _ hself

theorem withSign_div (sign sign' : Sign) (a b : ℚ) :
  withSign (sign / sign') (a / b) = withSign sign a / withSign sign' b
  := by
  cases sign <;> cases sign'
  · apply (neg_div_neg_eq a b).symm
  · apply (neg_div b a).symm
  · apply (div_neg a).symm
  · rfl

/-- A quotient is cut down to 53 bits. -/
theorem isCut_div (sign sign' : Sign) {m m' : Nat} {e e' : Int} (hm : 0 < m) (hm' : 0 < m') :
  IsCut (sign / sign') (m * 2 ^ e / (m' * 2 ^ e'))
    (UnpackedFloat.div Format.binary64 (.finite sign m e hm) (.finite sign' m' e' hm'))
  := by
  obtain ⟨t, ht⟩ : ∃ t,
      min (e - e') (max (totalExponent m e - totalExponent m' e' - 53) (-1074)) = t := ⟨_, rfl⟩
  have htarget : Format.binary64.targetExponent (totalExponent m e - totalExponent m' e')
      = max (totalExponent m e - totalExponent m' e' - 53) (-1074) := rfl
  have hcore : divCore Format.binary64 m e m' e'
      = (m * 2 ^ (e - e' - t).toNat / m', t,
        accuracyOfFraction (m * 2 ^ (e - e' - t).toNat % m') m') := by
    rw [divCore, htarget, ht]
    simp only [Nat.shiftLeft_eq]
  rw [totalExponent, totalExponent] at ht
  obtain ⟨k, hk⟩ : ∃ k : Nat, e - e' - t = k := ⟨(e - e' - t).toNat, by omega⟩
  have hexponent : t ≤ max ((m * 2 ^ k / m').log2 + t - 52) (-1074) := by
    by_cases hleast : t ≤ -1074
    · omega
    · -- above the least exponent the quotient has at least 53 bits
      have hbits := le_quotient (k := k) hm hm' (by omega)
      have hlog := (Nat.le_log2 (by omega)).mpr hbits
      omega
  have hvalue : ((m * 2 ^ k : Nat) : ℚ) / m' * 2 ^ t = m * 2 ^ e / (m' * 2 ^ e') := by
    have hsplit : e = k + t + e' := by omega
    have hpos : (m' : ℚ) ≠ 0 := by exact_mod_cast hm'.ne'
    rw [hsplit, zpow_add₀ (by norm_num), zpow_add₀ (by norm_num), zpow_natCast]
    push_cast
    field_simp
  refine ⟨_, t, _, _, represents_quotient (m * 2 ^ k) hm', hexponent, hvalue, ?_⟩
  rw [UnpackedFloat.div, hcore, hk, Int.toNat_natCast]

theorem roundedFrom_div {u w : UnpackedFloat} {a b : ℚ} (ha : unpackedValue? u = some a)
    (hb : unpackedValue? w = some b) (hne : b ≠ 0) :
  RoundedFrom (a / b) (UnpackedFloat.div Format.binary64 u w)
  := by
  match u, w, ha, hb with
  | _, .zero sign', _, rfl => contradiction
  | .zero sign, .finite sign' m e hm, rfl, hb =>
      rw [zero_div]
      apply roundedFrom_zero
  | .finite sign m e hm, .finite sign' m' e' hm', rfl, rfl =>
      rw [← withSign_div]
      apply (isCut_div sign sign' hm hm').roundedFrom

end BoxDiagram
