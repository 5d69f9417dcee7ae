import BoxDiagram.Proofs.Decimal.Doubles
import BoxDiagram.Proofs.Decimal.Halves
import BoxDiagram.Proofs.Decimal.Numerals

/-!
# Coordinates as they are written

A coordinate is written as a fixed-point number: a sign, a whole number, and at most three
decimals.  Which number that is follows from one of two rules.  A coordinate that is almost
whole is written as the whole number nearest to it, any other as the nearest thousandth.  Both
rules keep the order of coordinates, and no coordinate changes sides where they meet, because
everything between a coordinate that is almost whole and its whole number is almost whole too.
-/

namespace BoxDiagram

/-! ### Fixed-point numbers -/

/-- A number without an exponent: the whole part has no zero in front unless it is zero, and
the decimals, of which there are at most three, do not end in a zero. -/
structure FixedPoint where
  negative : Bool
  whole : Text
  fraction : Text
  whole_ne : whole ≠ []
  whole_digits : IsDigits whole
  whole_zero : whole.head? = some '0' → whole = ['0']
  fraction_digits : IsDigits fraction
  fraction_length : fraction.length ≤ 3
  fraction_last : fraction.getLast? ≠ some '0'

namespace FixedPoint

/-- The number as a text. -/
def text (p : FixedPoint) : Text := signed p.negative (p.whole ++ decimals p.fraction)

/-- The number that the digits spell. -/
def value (p : FixedPoint) : ℚ :=
  signedNumber p.negative (natOfDigits (p.whole ++ p.fraction) / 10 ^ p.fraction.length)

theorem number?_text (p : FixedPoint) :
  number? p.text = some p.value
  := by
  have hempty : readExponent [] = some 0 := rfl
  have h := readNumeral_parts p.whole_digits p.whole_ne p.fraction_digits (by simp) hempty
    p.negative
  rw [List.append_nil] at h
  rw [number?, text, h, Option.bind_some, ofNumeral_decimal, value, zero_sub, zpow_neg,
    zpow_natCast, ← div_eq_mul_inv]

theorem eq_zero_of_asciiDigit {c : Char} (h : c.isDigit = true) (hzero : asciiDigit c % 10 = 0) :
  c = '0'
  := by
  have hbounds : 48 ≤ c.toNat ∧ c.toNat ≤ 57 := Char.isDigit_iff_toNat.mp h
  rw [asciiDigit] at hzero
  have hnat : c.toNat = 48 := by omega
  exact Char.toNat_inj.mp hnat

/-- There are decimals only if the number is not whole. -/
theorem fraction_eq_nil_iff (p : FixedPoint) :
  p.fraction = [] ↔ ∃ n : ℤ, p.value = n
  := by
  constructor
  case mp =>
    intro h
    rw [value, h, List.length_nil, pow_zero, div_one, signedNumber]
    split
    · use -natOfDigits (p.whole ++ [])
      push_cast
      rfl
    · use natOfDigits (p.whole ++ [])
      push_cast
      rfl
  case mpr =>
    rintro ⟨n, hn⟩
    rcases List.eq_nil_or_concat' p.fraction with h | ⟨init, c, hlast⟩
    · apply h
    · have hdigit : c.isDigit = true := p.fraction_digits c (by simp [hlast])
      have hunits : natOfDigits (p.whole ++ p.fraction) = n.natAbs * 10 ^ p.fraction.length := by
        have habs : |p.value| = natOfDigits (p.whole ++ p.fraction) / 10 ^ p.fraction.length := by
          rw [value, abs_signedNumber, abs_of_nonneg (by positivity)]
        rw [hn, ← Int.cast_abs, ← Int.natCast_natAbs, eq_div_iff (by positivity)] at habs
        exact_mod_cast habs.symm
      -- Units behind the point that make a whole number end in a zero.
      rw [hlast, ← List.append_assoc, natOfDigits_append, List.length_append,
        List.length_singleton, pow_one, pow_succ, ← mul_assoc] at hunits
      have hzero : c = '0' := by
        apply eq_zero_of_asciiDigit hdigit
        have hsingle : natOfDigits [c] = asciiDigit c := by simp [natOfDigits]
        omega
      apply absurd _ p.fraction_last
      rw [hlast, hzero, List.getLast?_concat]

/-- The whole number `n` or its opposite. -/
def ofWhole (negative : Bool) (n : Nat) : FixedPoint where
  negative
  whole := natText n
  fraction := []
  whole_ne := natText_ne_nil n
  whole_digits := isDigits_natText n
  whole_zero h := by
    rw [head?_natText n h]
    rfl
  fraction_digits := by
    intro c hc
    contradiction
  fraction_length := Nat.zero_le 3
  fraction_last := by simp

theorem value_ofWhole (negative : Bool) (n : Nat) :
  (ofWhole negative n).value = signedNumber negative n
  := by
  simp only [value, ofWhole, List.append_nil, natOfDigits_natText, List.length_nil, pow_zero,
    div_one]

/-- The three decimals of `n / 1000`. -/
def paddedThousandths (n : Nat) : Text :=
  List.replicate (3 - (natText (n % 1000)).length) '0' ++ natText (n % 1000)

theorem length_paddedThousandths (n : Nat) :
  (paddedThousandths n).length = 3
  := by
  have hlength : (natText (n % 1000)).length ≤ 3 := by
    rw [natText, Nat.length_toDigits_le_iff (by decide) (by decide)]
    omega
  rw [paddedThousandths, List.length_append, List.length_replicate]
  omega

/-- Without the zeros at their end, the decimals of `n / 1000` have the same value. -/
theorem exists_dropped_thousandths (n : Nat) :
  let fraction := Text.dropEndWhile (· == '0') (paddedThousandths n)
  ∃ k, fraction.length + k = 3 ∧ natOfDigits fraction * 10 ^ k = n % 1000
  := by
  intro fraction
  obtain ⟨k, hk⟩ := Text.exists_dropEndWhile '0' (paddedThousandths n)
  use k
  constructor
  · rw [← length_paddedThousandths n, hk, List.length_append, List.length_replicate]
  · rw [← natOfDigits_append_zeros, ← hk, paddedThousandths, natOfDigits_append,
      natOfDigits_replicate, Nat.zero_mul, Nat.zero_add, natOfDigits_natText]

/-- The thousandths `n / 1000` or their opposite. -/
def ofThousandths (negative : Bool) (n : Nat) : FixedPoint where
  negative
  whole := natText (n / 1000)
  fraction := Text.dropEndWhile (· == '0') (paddedThousandths n)
  whole_ne := natText_ne_nil _
  whole_digits := isDigits_natText _
  whole_zero h := by
    rw [head?_natText _ h]
    rfl
  fraction_digits := by
    have hpadded : IsDigits (paddedThousandths n) :=
      isDigits_append.mpr ⟨isDigits_replicate _, isDigits_natText _⟩
    apply hpadded.of_subset (Text.dropEndWhile_subset _ _)
  fraction_length := by
    obtain ⟨k, hk, -⟩ := exists_dropped_thousandths n
    omega
  fraction_last := Text.getLast?_dropEndWhile '0' _

theorem text_ofThousandths (negative : Bool) (n : Nat) :
  (ofThousandths negative n).text = signed negative (thousandthsText n)
  := rfl

theorem value_ofThousandths (negative : Bool) (n : Nat) :
  (ofThousandths negative n).value = signedNumber negative (n / 1000)
  := by
  obtain ⟨k, hk, hunits⟩ := exists_dropped_thousandths n
  simp only [value, ofThousandths]
  congr 1
  generalize Text.dropEndWhile (· == '0') (paddedThousandths n) = fraction at hk hunits ⊢
  have hthousand : 10 ^ fraction.length * 10 ^ k = 1000 := by
    rw [← pow_add, hk]
    rfl
  rw [natOfDigits_append, natOfDigits_natText, div_eq_div_iff (by positivity) (by positivity)]
  norm_cast
  calc (n / 1000 * 10 ^ fraction.length + natOfDigits fraction) * 1000
    _ = (n / 1000 * 1000 + natOfDigits fraction * 10 ^ k) * 10 ^ fraction.length := by
        rw [← hthousand]
        ring
    _ = n * 10 ^ fraction.length := by rw [hunits, Nat.div_add_mod']

end FixedPoint

/-! ### The two rules -/

/-- A number is at most a thousand millionth part away from the whole number nearest to it. -/
def AlmostWhole (v : ℚ) : Prop := |v - roundRat v| ≤ max |v| |(roundRat v : ℚ)| / 1000000000

instance (v : ℚ) : Decidable (AlmostWhole v) :=
  inferInstanceAs (Decidable (_ ≤ _))

/-- The number that is written for a coordinate. -/
def writtenCoordinate (v : ℚ) : ℚ :=
  if AlmostWhole v then roundRat v else roundRat (1000 * v) / 1000

variable {v w : ℚ}

/-- What lies between a number that is almost whole and its whole number is almost whole, and is
nearest to the same whole number. -/
theorem AlmostWhole.of_between (h : AlmostWhole v)
    (hbetween : v ≤ w ∧ w ≤ roundRat v ∨ roundRat v ≤ w ∧ w ≤ v) :
  roundRat w = roundRat v ∧ AlmostWhole w
  := by
  have hsplit : |v - roundRat v| = |v - w| + |w - roundRat v| := by
    obtain ⟨hvw, hw⟩ | ⟨hw, hwv⟩ := hbetween
    · rw [abs_of_nonpos (by linarith), abs_of_nonpos (by linarith), abs_of_nonpos (by linarith)]
      ring
    · rw [abs_of_nonneg (by linarith), abs_of_nonneg (by linarith), abs_of_nonneg (by linarith)]
      ring
  have hnear : |w - roundRat v| ≤ |v - roundRat v| := by
    rw [hsplit]
    apply le_add_of_nonneg_left (abs_nonneg _)
  have hround : roundRat w = roundRat v :=
    (roundsTo_roundRat w).unique ((roundsTo_roundRat v).of_abs_le hnear)
  use hround
  rw [AlmostWhole, hround]
  rw [AlmostWhole] at h
  generalize (roundRat v : ℚ) = n at *
  -- What the tolerance may lose on the way from one to the other is less than the way.
  have habs : |v| ≤ |w| + |v - w| := by
    have htriangle := abs_add_le w (v - w)
    rwa [add_sub_cancel] at htriangle
  have hmax : max |v| |n| ≤ max |w| |n| + |v - w| := by
    apply max_le
    · apply habs.trans
      apply add_le_add_left (le_max_left _ _)
    · apply (le_max_right |w| |n|).trans
      apply le_add_of_nonneg_right (abs_nonneg _)
  have hway := abs_nonneg (v - w)
  linarith

theorem roundRat_mono (h : v ≤ w) :
  roundRat v ≤ roundRat w
  := (roundsTo_roundRat v).mono (roundsTo_roundRat w) h

/-- The order of coordinates is kept. -/
theorem monotone_writtenCoordinate :
  Monotone writtenCoordinate
  := by
  intro v w hle
  rw [writtenCoordinate, writtenCoordinate]
  split_ifs with hv hw hw
  · exact_mod_cast roundRat_mono hle
  · -- A number above one that is almost whole, but not above its whole number, is almost whole.
    have habove : (roundRat v : ℚ) ≤ w := by
      by_contra hlt
      apply hw (hv.of_between (Or.inl ⟨hle, (not_le.mp hlt).le⟩)).2
    rw [le_div_iff₀ (by norm_num)]
    have hthousand : ((roundRat v * 1000 : ℤ) : ℚ) ≤ 1000 * w := by
      push_cast
      linarith
    exact_mod_cast (roundsTo_roundRat _).le_of_le hthousand
  · have hbelow : v ≤ roundRat w := by
      by_contra hlt
      apply hv (hw.of_between (Or.inr ⟨(not_le.mp hlt).le, hle⟩)).2
    rw [div_le_iff₀ (by norm_num)]
    have hthousand : 1000 * v ≤ ((roundRat w * 1000 : ℤ) : ℚ) := by
      push_cast
      linarith
    exact_mod_cast (roundsTo_roundRat _).ge_of_ge hthousand
  · apply div_le_div_of_nonneg_right _ (by norm_num)
    have hthousand : 1000 * v ≤ 1000 * w := by linarith
    exact_mod_cast roundRat_mono hthousand

/-- What is written is as near as either rule allows. -/
theorem abs_writtenCoordinate_sub_le (v : ℚ) :
  |writtenCoordinate v - v| ≤ max (1 / 2000) (max |v| |(roundRat v : ℚ)| / 1000000000)
  := by
  rw [writtenCoordinate]
  split_ifs with h
  · rw [abs_sub_comm]
    apply h.trans (le_max_right _ _)
  · apply le_trans _ (le_max_left _ _)
    have hnear := (roundsTo_roundRat (1000 * v)).near
    rw [abs_le] at hnear ⊢
    obtain ⟨hlow, hhigh⟩ := hnear
    constructor
    · rw [neg_le_sub_iff_le_add, ← sub_le_iff_le_add, le_div_iff₀ (by norm_num)]
      linarith
    · rw [sub_le_iff_le_add, div_le_iff₀ (by norm_num)]
      linarith

/-! ### What is written -/

theorem intText_eq (n : ℤ) :
  intText n = (FixedPoint.ofWhole (n < 0) n.natAbs).text
  := by
  cases n with
  | ofNat n => simp [intText, FixedPoint.text, FixedPoint.ofWhole, decimals, signed]
  | negSucc n => simp [intText, FixedPoint.text, FixedPoint.ofWhole, decimals, signed]

theorem rat_abs_eq (v : ℚ) :
  v.abs = |v|
  := by
  rw [Rat.abs]
  split
  · next h => rw [abs_of_nonneg h]
  · next h => rw [abs_of_neg (not_le.mp h)]

/-- The tolerance is a part of the larger of the two numbers. -/
theorem coordinateTextOfRat_eq (v : ℚ) :
  coordinateTextOfRat v
    = if AlmostWhole v then intText (roundRat v)
      else signed (v < 0) (thousandthsText (roundHalfEven (v.num.natAbs * 1000) v.den))
  := by
  have hmax : (if |v| < |(roundRat v : ℚ)| then |(roundRat v : ℚ)| else |v|)
      = max |v| |(roundRat v : ℚ)| := by
    split
    · next h => rw [max_eq_right h.le]
    · next h => rw [max_eq_left (not_lt.mp h)]
  simp only [coordinateTextOfRat, rat_abs_eq, hmax]
  apply if_congr Iff.rfl rfl rfl

/-- A number is rounded like its distance from zero. -/
theorem roundRat_signedNumber (negative : Bool) (k num : Nat) {den : Nat} (hden : 0 < den) :
  (roundRat (k * signedNumber negative (num / den)) : ℚ)
    = signedNumber negative (roundHalfEven (num * k) den)
  := by
  have h := roundsTo_roundHalfEven (num * k) hden
  rw [Nat.cast_mul, mul_comm, mul_div_assoc] at h
  cases negative with
  | false =>
      rw [signedNumber, if_neg (by decide), (roundsTo_roundRat _).unique h]
      rfl
  | true =>
      have hopposite := h.neg
      rw [← mul_neg] at hopposite
      rw [signedNumber, if_pos rfl, (roundsTo_roundRat _).unique hopposite]
      push_cast
      rfl

/-- A coordinate is written as the fixed-point number that one of the rules gives. -/
theorem exists_fixedPoint (v : ℚ) :
  ∃ p : FixedPoint, p.text = coordinateTextOfRat v ∧ p.value = writtenCoordinate v
  := by
  rw [coordinateTextOfRat_eq, writtenCoordinate]
  split
  · use FixedPoint.ofWhole (roundRat v < 0) (roundRat v).natAbs
    constructor
    · rw [intText_eq]
    · have hsign : decide (roundRat v < 0) = decide ((roundRat v : ℚ) < 0) :=
        decide_eq_decide.mpr Int.cast_lt_zero.symm
      rw [FixedPoint.value_ofWhole, hsign, Nat.cast_natAbs, Int.cast_abs, signedNumber_abs]
  · use FixedPoint.ofThousandths (v < 0) (roundHalfEven (v.num.natAbs * 1000) v.den)
    use FixedPoint.text_ofThousandths _ _
    have hround := roundRat_signedNumber (v < 0) 1000 v.num.natAbs v.den_pos
    rw [natAbs_num_div_den, signedNumber_abs, Nat.cast_ofNat] at hround
    rw [FixedPoint.value_ofThousandths, hround, signedNumber_div]

/-! ### Coordinates that are doubles -/

/-- The sign and the distance from zero of a double that stands for a number. -/
theorem ofFloat_of_value {x : Float} (hx : valueOf? x = some v) :
  ∃ negative m e, FloatValue.ofFloat x = .finite negative m e
    ∧ v = signedNumber negative (m * 2 ^ e)
  := by
  rw [valueOf?] at hx
  rw [ofFloat_eq]
  cases hu : x.toModel.unpack with
  | notANumber | infinity _ =>
      rw [hu] at hx
      contradiction
  | zero s =>
      rw [hu] at hx
      obtain rfl := Option.some.inj hx
      use s == .negative, 0, leastExponent, rfl
      simp [signedNumber]
  | finite s m e hm =>
      rw [hu] at hx
      obtain rfl := Option.some.inj hx
      use s == .negative, m, e, rfl
      cases s <;> rfl

/-- A double is written like the number that it stands for, as long as both are found to be
almost whole or neither is. -/
theorem coordinateText_of_value {x : Float} (hx : valueOf? x = some v)
    (htest : countsAsWhole x (roundRat v) = true ↔ AlmostWhole v) :
  coordinateText x = .ok (coordinateTextOfRat v)
  := by
  obtain ⟨negative, m, e, hparts, hv⟩ := ofFloat_of_value hx
  obtain ⟨-, hden⟩ := powerFraction_pos (show 0 < 2 by decide) e
  have hvalue : v = signedNumber negative ((m * (powerFraction 2 e).1 : Nat)
      / (powerFraction 2 e).2) := by
    have hpower := powerFraction_div 2 e
    rw [Nat.cast_ofNat] at hpower
    rw [hv, Nat.cast_mul, mul_div_assoc, hpower]
  have hwhole : roundFloat x = .ok (roundRat v) := by
    have hround := roundRat_signedNumber negative 1 (m * (powerFraction 2 e).1) hden
    rw [← hvalue, Nat.cast_one, one_mul, mul_one] at hround
    rw [roundFloat, hparts]
    simp only
    congr 1
    rw [signedNumber] at hround
    exact_mod_cast hround.symm
  rw [coordinateText, hwhole, coordinateTextOfRat_eq]
  change (if countsAsWhole x (roundRat v) then _ else _) = _
  by_cases halmost : AlmostWhole v
  · rw [if_pos halmost, if_pos (htest.mpr halmost)]
    rfl
  · have hne : v ≠ 0 := by
      rintro rfl
      apply halmost
      have hzero : roundRat 0 = 0 := rfl
      simp [AlmostWhole, hzero]
    have habs : |v| = (m * (powerFraction 2 e).1 : Nat) / (powerFraction 2 e).2 := by
      rw [hvalue, abs_signedNumber, abs_of_nonneg (by positivity)]
    have hsign : decide (v < 0) = negative := by
      have hpos : 0 < |v| := abs_pos.mpr hne
      rw [habs] at hpos
      rw [hvalue, decide_signedNumber_lt hpos]
    have hthousandths : roundHalfEven (v.num.natAbs * 1000) v.den
        = roundHalfEven (m * (powerFraction 2 e).1 * 1000) (powerFraction 2 e).2 := by
      apply roundHalfEven_congr v.den_pos hden
      rw [Nat.cast_mul, mul_div_right_comm, natAbs_num_div_den, habs, ← mul_div_right_comm,
        ← Nat.cast_mul]
    rw [if_neg halmost, if_neg (htest.not.mpr halmost), hparts, hsign, hthousandths]
    rfl

/-! ### Accuracy and order -/

/-- Every coordinate is written as a fixed-point number near to it, which does not decrease when
the coordinate grows and has decimals only if it is not whole.  A double is written like the
number that it stands for. -/
theorem coordinateTextOfRat_accurate_monotone :
  ∃ written : ℚ → ℚ, Monotone written ∧ ∀ v,
    number? (coordinateTextOfRat v) = some (written v)
      ∧ |written v - v| ≤ max (1 / 2000) (max |v| |(roundRat v : ℚ)| / 1000000000)
      ∧ (∃ p : FixedPoint, coordinateTextOfRat v = p.text
          ∧ (p.fraction = [] ↔ ∃ n : ℤ, written v = n))
      ∧ ∀ x, valueOf? x = some v → (countsAsWhole x (roundRat v) = true ↔ AlmostWhole v) →
          coordinateText x = .ok (coordinateTextOfRat v)
  := by
  use writtenCoordinate, monotone_writtenCoordinate
  intro v
  obtain ⟨p, htext, hvalue⟩ := exists_fixedPoint v
  refine ⟨?denotes, abs_writtenCoordinate_sub_le v, ⟨p, htext.symm, ?decimals⟩, ?double⟩
  case denotes => rw [← htext, p.number?_text, hvalue]
  case decimals => rw [p.fraction_eq_nil_iff, hvalue]
  case double =>
    intro x hx htest
    apply coordinateText_of_value hx htest

end BoxDiagram
