import BoxDiagram.Decimal.Style
import BoxDiagram.Proofs.Decimal.Literals

/-!
# Numbers with six digits

A positive number is written with the six digits of the decimal that it is rounded to.  No
decimal of at most six digits is nearer.  When some decimal of at most six digits is read as a
double, the six digits of this double are read as it too: above the least size with 53 bits they
are the same decimal, since different ones are much further apart than doubles are, and below it
the doubles are evenly spaced, so the nearer decimal is rounded like the other.
-/

namespace BoxDiagram

/-- The decimal `n · 10^grid` has the six digits that a positive number is rounded to. -/
structure SixDigits (q : ℚ) (n : Nat) (grid : ℤ) : Prop where
  least : 100000 * 10 ^ grid ≤ q
  most : q < 1000000 * 10 ^ grid
  rounds : RoundsTo (q / 10 ^ grid) n

variable {q : ℚ} {n m : Nat} {grid e : ℤ}

/-! ### Finding the six digits -/

theorem powerFraction_ten_div (e : ℤ) :
  ((powerFraction 10 e).1 : ℚ) / (powerFraction 10 e).2 = 10 ^ e
  := by
  rw [powerFraction_div, Nat.cast_ofNat]

/-- The numbers of digits tell the size of a quotient. -/
theorem quotient_bounds {num den : Nat} (hnum : 0 < num) (hden : 0 < den) :
  (10 : ℚ) ^ ((natText num).length - (natText den).length - 1 : ℤ) ≤ num / den
    ∧ (num : ℚ) / den < 10 ^ ((natText num).length - (natText den).length + 1 : ℤ)
  := by
  have hpos : (0 : ℚ) < den := by exact_mod_cast hden
  obtain ⟨hnumLeast, hnumMost⟩ := decimal_bounds hnum 0
  obtain ⟨hdenLeast, hdenMost⟩ := decimal_bounds hden 0
  rw [zpow_zero, mul_one, zero_add] at hnumLeast hnumMost hdenLeast hdenMost
  generalize ((natText num).length : ℤ) = j at *
  generalize ((natText den).length : ℤ) = k at *
  constructor
  · rw [le_div_iff₀ hpos]
    calc (10 : ℚ) ^ (j - k - 1) * den
      _ ≤ 10 ^ (j - k - 1) * 10 ^ k := mul_le_mul_of_nonneg_left hdenMost.le (by positivity)
      _ = 10 ^ (j - 1) := by
          rw [← zpow_add₀ (by norm_num)]
          congr 1
          omega
      _ ≤ num := hnumLeast
  · rw [div_lt_iff₀ hpos]
    calc (num : ℚ)
      _ < 10 ^ j := hnumMost
      _ = 10 ^ (j - k + 1) * 10 ^ (k - 1) := by
          rw [← zpow_add₀ (by norm_num)]
          congr 1
          omega
      _ ≤ 10 ^ (j - k + 1) * den := mul_le_mul_of_nonneg_left hdenLeast (by positivity)

/-- The leading exponent is the power of ten at or just below a quotient. -/
theorem leadingExponent_spec {num den : Nat} (hnum : 0 < num) (hden : 0 < den) :
  (10 : ℚ) ^ leadingExponent num den ≤ num / den
    ∧ (num : ℚ) / den < 10 ^ (leadingExponent num den + 1)
  := by
  have hpos : (0 : ℚ) < den := by exact_mod_cast hden
  obtain ⟨hlow, hhigh⟩ := quotient_bounds hnum hden
  obtain ⟨guess, hguess⟩ : ∃ guess : ℤ, (natText num).length - (natText den).length = guess :=
    ⟨_, rfl⟩
  rw [hguess] at hlow hhigh
  obtain ⟨-, hdown⟩ := powerFraction_pos (show 0 < 10 by decide) guess
  have htest : den * (powerFraction 10 guess).1 ≤ num * (powerFraction 10 guess).2
      ↔ (10 : ℚ) ^ guess ≤ num / den := by
    rw [← powerFraction_ten_div, div_le_div_iff₀ (by exact_mod_cast hdown) hpos, mul_comm]
    exact_mod_cast Iff.rfl
  rw [leadingExponent]
  simp only [hguess, htest]
  split
  · next h => exact ⟨h, hhigh⟩
  · next h =>
    rw [sub_add_cancel]
    exact ⟨hlow, not_le.mp h⟩

theorem exists_sixDigits {num den : Nat} (hnum : 0 < num) (hden : 0 < den) :
  ∃ n grid, sixDigits num den = Decimal.ofScaled n grid ∧ SixDigits (num / den) n grid
  := by
  obtain ⟨hleast, hmost⟩ := leadingExponent_spec hnum hden
  obtain ⟨grid, hgrid⟩ : ∃ grid, leadingExponent num den - 5 = grid := ⟨_, rfl⟩
  have hleading : leadingExponent num den = 5 + grid := by omega
  obtain ⟨hup, hdown⟩ := powerFraction_pos (show 0 < 10 by decide) grid
  use roundHalfEven (num * (powerFraction 10 grid).2) (den * (powerFraction 10 grid).1), grid
  constructor
  · rw [sixDigits]
    simp only [hgrid]
  · rw [hleading, zpow_add₀ (by norm_num)] at hleast
    rw [hleading, add_right_comm, zpow_add₀ (by norm_num)] at hmost
    constructor
    case least =>
      norm_num at hleast
      exact hleast
    case most =>
      norm_num at hmost
      exact hmost
    case rounds =>
      have hround := roundsTo_roundHalfEven (num * (powerFraction 10 grid).2)
        (Nat.mul_pos hden hup)
      have hquotient : ((num * (powerFraction 10 grid).2 : Nat) : ℚ)
          / (den * (powerFraction 10 grid).1 : Nat) = num / den / 10 ^ grid := by
        rw [← powerFraction_ten_div, div_div_div_eq]
        push_cast
        ring
      rwa [hquotient] at hround

/-! ### The nearest decimal -/

namespace SixDigits

theorem pos (h : SixDigits q n grid) :
  0 < q
  := lt_of_lt_of_le (by positivity) h.least

/-- Decimals of at most six digits that are not on the grid of a number lie below it. -/
theorem le_of_lt_grid (hm : m < 10 ^ 6) (he : e < grid) :
  (m : ℚ) * 10 ^ e ≤ (100000 - 1 / 10) * 10 ^ grid
  := by
  have hdigits : (m : ℚ) ≤ 10 ^ 6 - 1 := by
    have hle : m + 1 ≤ 10 ^ 6 := hm
    have hcast : (m : ℚ) + 1 ≤ 10 ^ 6 := by exact_mod_cast hle
    linarith
  have hpower : (10 : ℚ) ^ e ≤ 10 ^ (grid - 1) := zpow_le_zpow_right₀ (by norm_num) (by omega)
  calc (m : ℚ) * 10 ^ e
    _ ≤ (10 ^ 6 - 1) * 10 ^ (grid - 1) := mul_le_mul hdigits hpower (by positivity) (by norm_num)
    _ = (100000 - 1 / 10) * 10 ^ grid := by
        rw [zpow_sub_one₀ (by norm_num)]
        ring

theorem exists_on_grid (m : Nat) (he : grid ≤ e) :
  ∃ k : ℤ, (m : ℚ) * 10 ^ e = k * 10 ^ grid
  := by
  use m * 10 ^ (e - grid).toNat
  have hsplit : e = (e - grid).toNat + grid := by omega
  conv_lhs => rw [hsplit, zpow_add₀ (by norm_num), zpow_natCast]
  push_cast
  ring

/-- No decimal of at most six digits is nearer. -/
theorem nearest (h : SixDigits q n grid) (hm : m < 10 ^ 6) (e : ℤ) :
  |q - n * 10 ^ grid| ≤ |q - m * 10 ^ e|
  := by
  have hgrid : (0 : ℚ) < 10 ^ grid := by positivity
  by_cases he : grid ≤ e
  · obtain ⟨k, hk⟩ := exists_on_grid m he
    rw [hk]
    exact_mod_cast h.rounds.nearest_mul hgrid k
  · -- The least number with these six digits lies between.
    have hfirst := h.rounds.nearest_mul hgrid 100000
    rw [Int.cast_natCast, Int.cast_ofNat] at hfirst
    have hbelow : (m : ℚ) * 10 ^ e ≤ 100000 * 10 ^ grid := by
      apply (le_of_lt_grid hm (not_le.mp he)).trans
      apply mul_le_mul_of_nonneg_right _ hgrid.le
      norm_num
    calc |q - n * 10 ^ grid|
      _ ≤ |q - 100000 * 10 ^ grid| := hfirst
      _ = q - 100000 * 10 ^ grid := abs_of_nonneg (sub_nonneg.mpr h.least)
      _ ≤ q - m * 10 ^ e := sub_le_sub_left hbelow q
      _ ≤ |q - m * 10 ^ e| := le_abs_self _

/-- A decimal of at most six digits that is very near has the same digits. -/
theorem eq_of_near (h : SixDigits q n grid) (hm : m < 10 ^ 6)
    (hnear : |q - m * 10 ^ e| ≤ q / 10 ^ 7) :
  (n : ℚ) * 10 ^ grid = m * 10 ^ e
  := by
  have hgrid : (0 : ℚ) < 10 ^ grid := by positivity
  have hleast := h.least
  have hmost := h.most
  obtain ⟨hlow, hhigh⟩ := abs_le.mp hnear
  by_cases he : grid ≤ e
  · obtain ⟨k, hk⟩ := exists_on_grid m he
    have hround : RoundsTo (q / 10 ^ grid) k := by
      apply RoundsTo.of_lt
      have hdistance : q / 10 ^ grid - k = (q - m * 10 ^ e) / 10 ^ grid := by
        rw [hk, sub_div, mul_div_cancel_right₀ _ hgrid.ne']
      rw [hdistance, abs_div, abs_of_pos hgrid, div_lt_iff₀ hgrid]
      linarith
    rw [hk, ← h.rounds.unique hround, Int.cast_natCast]
  · have hbelow := le_of_lt_grid hm (not_le.mp he)
    linarith

theorem digits_le (h : SixDigits q n grid) :
  100000 ≤ n
  := by
  have hgrid : (0 : ℚ) < 10 ^ grid := by positivity
  have hleast : ((100000 : ℤ) : ℚ) ≤ q / 10 ^ grid := by
    rw [le_div_iff₀ hgrid]
    exact_mod_cast h.least
  exact_mod_cast h.rounds.le_of_le hleast

theorem le_digits (h : SixDigits q n grid) :
  n ≤ 1000000
  := by
  have hgrid : (0 : ℚ) < 10 ^ grid := by positivity
  have hmost : q / 10 ^ grid ≤ ((1000000 : ℤ) : ℚ) := by
    rw [div_le_iff₀ hgrid]
    exact_mod_cast h.most.le
  exact_mod_cast h.rounds.ge_of_ge hmost

/-- Doubles are so much denser than six digits that a decimal of at most six digits which is rounded
to a double has the six digits of this double, if it has all bits. -/
theorem eq_of_roundBinary (h : SixDigits q n grid) (hm : m < 10 ^ 6)
    (hnormal : 2 ^ (-1022 : ℤ) ≤ (m : ℚ) * 10 ^ e) (hround : roundBinary (m * 10 ^ e) = q) :
  (n : ℚ) * 10 ^ grid = m * 10 ^ e
  := by
  apply h.eq_of_near hm
  have hpos : (0 : ℚ) < m * 10 ^ e := lt_of_lt_of_le (by positivity) hnormal
  have hplace := lastPlace_le_of_le hnormal
  have hdistance := abs_sub_roundBinary_le (m * 10 ^ e)
  rw [hround] at hdistance
  obtain ⟨-, hhigh⟩ := abs_le.mp hdistance
  rw [abs_sub_comm]
  apply hdistance.trans
  generalize (2 : ℚ) ^ lastPlace (m * 10 ^ e) = place at hplace hhigh ⊢
  generalize (m : ℚ) * 10 ^ e = decimal at hpos hplace hhigh ⊢
  linarith

/-- The six digits of a number that a small decimal is rounded to are small. -/
theorem lt_of_roundBinary (h : SixDigits q n grid) (hpos : 0 < m) (hm : m < 10 ^ 6)
    (hsmall : (m : ℚ) * 10 ^ e < 2 ^ (-1022 : ℤ)) (hround : roundBinary (m * 10 ^ e) = q) :
  (n : ℚ) * 10 ^ grid < 2 ^ (-1021 : ℤ)
  := by
  have htwice : (2 : ℚ) ^ (-1021 : ℤ) = 2 * 2 ^ (-1022 : ℤ) := zpow_one_add₀ two_ne_zero (-1022)
  have hunit : (2 : ℚ) ^ (-1074 : ℤ) ≤ 2 ^ (-1022 : ℤ) :=
    zpow_le_zpow_right₀ (by norm_num) (by norm_num)
  have hplace : lastPlace (m * 10 ^ e) = -1074 := by
    apply lastPlace_of_lt (by positivity)
    apply hsmall.trans
    apply zpow_lt_zpow_right₀ (by norm_num)
    norm_num
  have hdistance := abs_sub_roundBinary_le (m * 10 ^ e)
  rw [hround, hplace, abs_sub_comm] at hdistance
  obtain ⟨-, hhigh⟩ := abs_le.mp hdistance
  obtain ⟨hlow, -⟩ := abs_le.mp ((h.nearest hm e).trans hdistance)
  rw [htwice]
  linarith

/-- When some decimal of at most six digits is rounded to a number in binary, so are the six digits
of this number. -/
theorem roundBinary_eq (h : SixDigits q n grid) (hpos : 0 < m) (hm : m < 10 ^ 6)
    (hround : roundBinary (m * 10 ^ e) = q) :
  roundBinary (n * 10 ^ grid) = q
  := by
  by_cases hnormal : 2 ^ (-1022 : ℤ) ≤ (m : ℚ) * 10 ^ e
  case pos => rw [h.eq_of_roundBinary hm hnormal hround, hround]
  case neg =>
    have hn := h.digits_le
    have hsmall := not_le.mp hnormal
    rw [← hround]
    apply roundBinary_of_closer (by positivity) _ (by positivity)
      (h.lt_of_roundBinary hpos hm hsmall hround)
    · rw [hround]
      apply h.nearest hm
    · apply hsmall.trans
      apply zpow_lt_zpow_right₀ (by norm_num)
      norm_num

end SixDigits

end BoxDiagram
