import BoxDiagram.Proofs.Decimal.Bounds

/-!
# Magnitudes of doubles

Magnitudes are counted in units of a great power of two, all of whose multiples up to a limit
are numbers of doubles.  The bounds below say nothing if they count more units than that, and
else a double within bounds stands for a number.  Adding and subtracting doubles adds the
counts.  A length that is taken off a place and added again may leave the result one unit
higher.
-/

namespace BoxDiagram

/-- The unit in which magnitudes are counted. -/
def greatUnit : ℚ := 2 ^ (970 : Int)

/-- The greatest number of units that is counted; all multiples of the unit up to it are
representable. -/
def unitLimit : Nat := 2 ^ 52

theorem greatUnit_pos :
  0 < greatUnit
  := by
  rw [greatUnit]
  positivity

theorem representable_units {n : Int} (hn : n.natAbs ≤ unitLimit) :
  Representable (n * greatUnit)
  := by
  have hmost : unitLimit ≤ 2 ^ 53 := by norm_num [unitLimit]
  use n, 970, hn.trans hmost
  norm_num [greatUnit]

theorem representable_natUnits {n : Nat} (hn : n ≤ unitLimit) :
  Representable (n * greatUnit)
  := by
  have h : Representable ((n : Int) * greatUnit) := representable_units (by simpa using hn)
  simpa using h

/-- A positive double of moderate exponent is at most one unit. -/
theorem atMost_greatUnit {x : Float} {m : Nat} {e : Int} {hm : 0 < m}
    (h : x.toModel.unpack = .finite .positive m e hm) (he : e ≤ 917) :
  AtMost greatUnit x
  := by
  have hcanonical := canonical_toModel x
  rw [h] at hcanonical
  obtain ⟨hbits, -⟩ := hcanonical
  apply atMost_of_value (valueOf?_of_unpack hm h)
  calc (m : ℚ) * 2 ^ e
    _ ≤ 2 ^ (53 : Int) * 2 ^ (917 : Int) := by
        have hpow : (2 : ℚ) ^ e ≤ 2 ^ (917 : Int) := zpow_le_zpow_right₀ (by norm_num) he
        apply mul_le_mul _ hpow (by positivity) (by positivity)
        exact_mod_cast hbits.le
    _ = greatUnit := (zpow_add₀ (by norm_num) 53 917).symm

/-! ### Bounds in units -/

/-- A double is at most `n` units. -/
def Below (n : Nat) (x : Float) : Prop := n ≤ unitLimit → AtMost (n * greatUnit) x

/-- A double is at least `n` units below zero. -/
def Above (n : Nat) (x : Float) : Prop := n ≤ unitLimit → AtLeast (-(n * greatUnit)) x

/-- A double is at most `n` units away from zero. -/
structure Within (n : Nat) (x : Float) : Prop where
  above : Above n x
  below : Below n x

/-- A double is not negative and at most `n` units. -/
structure Spans (n : Nat) (x : Float) : Prop where
  nonneg : n ≤ unitLimit → AtLeast 0 x
  below : Below n x

variable {m n : Nat} {x y : Float} {a b c : ℚ}

theorem natUnits_le (h : m ≤ n) :
  (m : ℚ) * greatUnit ≤ n * greatUnit
  := by
  apply mul_le_mul_of_nonneg_right _ greatUnit_pos.le
  exact_mod_cast h

theorem AtMost.mono (h : AtMost a x) (hle : a ≤ c) :
  AtMost c x
  := Beyond.mono h (neg_le_neg hle)

theorem AtLeast.mono (h : AtLeast a x) (hle : c ≤ a) :
  AtLeast c x
  := Beyond.mono h hle

theorem Below.mono (h : Below m x) (hle : m ≤ n) :
  Below n x
  := fun hn => (h (hle.trans hn)).mono (natUnits_le hle)

theorem Above.mono (h : Above m x) (hle : m ≤ n) :
  Above n x
  := fun hn => (h (hle.trans hn)).mono (neg_le_neg (natUnits_le hle))

theorem Within.mono (h : Within m x) (hle : m ≤ n) :
  Within n x
  := ⟨h.above.mono hle, h.below.mono hle⟩

theorem Spans.mono (h : Spans m x) (hle : m ≤ n) :
  Spans n x
  := ⟨fun hn => h.nonneg (hle.trans hn), h.below.mono hle⟩

theorem Spans.within (h : Spans n x) :
  Within n x
  := by
  constructor
  case above =>
    intro hn
    apply (h.nonneg hn).mono
    have hunits := natUnits_le (Nat.zero_le n)
    rw [Nat.cast_zero, zero_mul] at hunits
    linarith
  case below => apply h.below

/-- A double within few enough units stands for a number. -/
theorem Within.isFinite (h : Within n x) (hn : n ≤ unitLimit) :
  IsFinite x
  := isFinite_of_bounds (h.above hn) (h.below hn)

/-! ### Sums and differences -/

theorem natUnits_add (m n : Nat) :
  ((m + n : Nat) : ℚ) * greatUnit = m * greatUnit + n * greatUnit
  := by
  rw [Nat.cast_add, add_mul]

theorem Below.add (h : Below m x) (h' : Below n y) :
  Below (m + n) (x + y)
  := by
  intro hn
  apply (h (by omega)).add (h' (by omega)) (representable_natUnits hn)
  rw [natUnits_add]

theorem Above.add (h : Above m x) (h' : Above n y) :
  Above (m + n) (x + y)
  := by
  intro hn
  apply (h (by omega)).add (h' (by omega)) (representable_natUnits hn).neg
  rw [natUnits_add, neg_add]

theorem Below.sub (h : Below m x) (h' : Above n y) :
  Below (m + n) (x - y)
  := by
  intro hn
  apply (h (by omega)).sub (h' (by omega)) (representable_natUnits hn)
  rw [natUnits_add, sub_neg_eq_add]

theorem Above.sub (h : Above m x) (h' : Below n y) :
  Above (m + n) (x - y)
  := by
  intro hn
  apply (h (by omega)).sub (h' (by omega)) (representable_natUnits hn).neg
  rw [natUnits_add, neg_add, ← sub_eq_add_neg]

theorem Within.add (h : Within m x) (h' : Within n y) :
  Within (m + n) (x + y)
  := ⟨h.above.add h'.above, h.below.add h'.below⟩

theorem Within.sub (h : Within m x) (h' : Within n y) :
  Within (m + n) (x - y)
  := ⟨h.above.sub h'.below, h.below.sub h'.above⟩

theorem Spans.add (h : Spans m x) (h' : Spans n y) :
  Spans (m + n) (x + y)
  := by
  constructor
  case nonneg =>
    intro hn
    apply (h.nonneg (by omega)).add (h'.nonneg (by omega)) representable_zero
    rw [add_zero]
  case below => apply h.below.add h'.below

/-- Taking off a length keeps an upper bound. -/
theorem Below.sub_length (h : Below n x) (h' : Spans m y) (hle : m ≤ n) :
  Below n (x - y)
  := by
  intro hn
  apply (h hn).sub (h'.nonneg (hle.trans hn)) (representable_natUnits hn)
  rw [sub_zero]

/-- A length that is taken off and added again raises an upper bound by at most one unit. -/
theorem Below.sub_add (h : Below n x) (h' : Spans m y) (hle : m ≤ n) :
  Below (n + 1) (x - y + y)
  := by
  intro hn
  have hm : m ≤ unitLimit := by omega
  have hx := h (by omega)
  obtain ⟨r, hr, hnonneg, hmost⟩ := exists_value (h'.nonneg hm) (h'.below hm)
  have hunit := greatUnit_pos
  have hcount : 0 ≤ r / greatUnit := div_nonneg hnonneg hunit.le
  have hcountle : r / greatUnit ≤ m := (div_le_iff₀ hunit).mpr hmost
  -- the whole units of the length are what the place loses for certain
  obtain ⟨q, hqr, hrq⟩ : ∃ q : Nat, (q : ℚ) ≤ r / greatUnit ∧ r / greatUnit < q + 1 :=
    ⟨⌊r / greatUnit⌋₊, Nat.floor_le hcount, Nat.lt_floor_add_one _⟩
  have hqm : q ≤ m := by exact_mod_cast hqr.trans hcountle
  rw [le_div_iff₀ hunit] at hqr
  rw [div_lt_iff₀ hunit] at hrq
  have hless : AtMost (((n - q : Nat) : ℚ) * greatUnit) (x - y) := by
    apply hx.sub (atLeast_of_value hr hqr) (representable_natUnits (by omega))
    rw [Nat.cast_sub (hqm.trans hle), sub_mul]
  apply hless.add (atMost_of_value hr (le_refl r)) (representable_natUnits hn)
  rw [Nat.cast_sub (hqm.trans hle), Nat.cast_add, sub_mul, add_mul, Nat.cast_one]
  linarith

/-! ### Other operations -/

theorem Spans.zero :
  Spans 0 0
  := by
  constructor
  case nonneg =>
    intro _
    apply atLeast_of_value valueOf?_zero (le_refl 0)
  case below =>
    intro _
    apply atMost_of_value valueOf?_zero
    rw [Nat.cast_zero, zero_mul]

theorem Below.larger (h : Below n x) (h' : Below n y) :
  Below n (larger x y)
  := fun hn => (h hn).larger (h' hn)

/-- The larger of a length and another double with its bound is a length. -/
theorem Spans.larger (h : Spans n x) (h' : Below n y) :
  Spans n (larger x y)
  := ⟨fun hn => (h.nonneg hn).zero_larger y, h.below.larger h'⟩

/-- A factor of absolute value at most one keeps the magnitude. -/
theorem Within.mul (h : Within n x) (h' : valueOf? y = some b) (hb : |b| ≤ 1) :
  Within n (x * y)
  := by
  have habs : n ≤ unitLimit → ∃ r, valueOf? x = some r ∧ |r * b| ≤ n * greatUnit := by
    intro hn
    obtain ⟨r, hr, hleast, hmost⟩ := exists_value (h.above hn) (h.below hn)
    use r, hr
    have hside : |r| ≤ n * greatUnit := abs_le.mpr ⟨hleast, hmost⟩
    rw [abs_mul]
    apply (mul_le_of_le_one_right (abs_nonneg r) hb).trans hside
  constructor
  case above =>
    intro hn
    obtain ⟨r, hr, hle⟩ := habs hn
    apply atLeast_mul hr h' (representable_natUnits hn).neg (abs_le.mp hle).1
  case below =>
    intro hn
    obtain ⟨r, hr, hle⟩ := habs hn
    apply atMost_mul hr h' (representable_natUnits hn) (abs_le.mp hle).2

/-- A factor that is not negative and at most `k` multiplies the bound of a length. -/
theorem Spans.mul {k : Nat} (h : Spans n x) (hn : n ≤ unitLimit) (h' : valueOf? y = some b)
    (hb : 0 ≤ b) (hle : b ≤ k) :
  Spans (n * k) (x * y)
  := by
  obtain ⟨r, hr, hnonneg, hmost⟩ := exists_value (h.nonneg hn) (h.below hn)
  constructor
  case nonneg =>
    intro _
    apply atLeast_mul hr h' representable_zero (mul_nonneg hnonneg hb)
  case below =>
    intro hnk
    apply atMost_mul hr h' (representable_natUnits hnk)
    calc r * b
      _ ≤ (n * greatUnit) * k := mul_le_mul hmost hle hb (hnonneg.trans hmost)
      _ = ((n * k : Nat) : ℚ) * greatUnit := by
          push_cast
          ring

theorem Spans.double (h : Spans n x) (hn : n ≤ unitLimit) :
  Spans (n * 2) (x * 2)
  := h.mul hn valueOf?_two (by norm_num) (by norm_num)

/-- A count of a length of at most one unit is at most so many units. -/
theorem Spans.count (h : Spans 1 x) (k : Nat) :
  Spans k (x * Float.ofNat k)
  := by
  have hcount : k ≤ unitLimit → Spans k (x * Float.ofNat k) := by
    intro hk
    have hvalue : valueOf? (Float.ofNat k) = some (k : ℚ) := by
      apply valueOf?_ofNat
      rw [unitLimit] at hk
      omega
    have hmul := h.mul (by norm_num [unitLimit]) hvalue (Nat.cast_nonneg k) (le_refl _)
    rwa [one_mul] at hmul
  constructor
  case nonneg =>
    intro hk
    apply (hcount hk).nonneg hk
  case below =>
    intro hk
    apply (hcount hk).below hk

/-- Half of a double is no farther away from zero. -/
theorem Within.half (h : Within n x) :
  Within n (x / 2)
  := by
  have habs : n ≤ unitLimit → ∃ r, valueOf? x = some r ∧ |r / 2| ≤ n * greatUnit := by
    intro hn
    obtain ⟨r, hr, hleast, hmost⟩ := exists_value (h.above hn) (h.below hn)
    use r, hr
    rw [abs_div, abs_two]
    apply (half_le_self (abs_nonneg r)).trans (abs_le.mpr ⟨hleast, hmost⟩)
  constructor
  case above =>
    intro hn
    obtain ⟨r, hr, hle⟩ := habs hn
    apply atLeast_div hr valueOf?_two (by norm_num) (representable_natUnits hn).neg
      (abs_le.mp hle).1
  case below =>
    intro hn
    obtain ⟨r, hr, hle⟩ := habs hn
    apply atMost_div hr valueOf?_two (by norm_num) (representable_natUnits hn) (abs_le.mp hle).2

end BoxDiagram
