import BoxDiagram.Decimal.Rounding
import Mathlib.Algebra.Order.Ring.Abs
import Mathlib.Algebra.Order.Round
import Mathlib.Data.Rat.Floor
import Mathlib.Tactic

/-!
# Rounding to the nearest whole number

A number is rounded to a whole number that is at most a half away, and to an even one if it is
a half away.  There is only one such number for each, it is the nearest, and it does not
decrease when the number grows.  Both ways of rounding, of quotients and of rational numbers,
give this number.
-/

namespace BoxDiagram

/-- A number is rounded to a whole number. -/
structure RoundsTo (v : ℚ) (n : ℤ) : Prop where
  /-- It is at most a half away. -/
  near : |v - n| ≤ 1 / 2
  /-- Where it is a half away, the whole number is even. -/
  even : |v - n| = 1 / 2 → n % 2 = 0

namespace RoundsTo

variable {v w : ℚ} {m n : ℤ}

theorem bounds (h : RoundsTo v n) :
  n - 1 / 2 ≤ v ∧ v ≤ n + 1 / 2
  := by
  obtain ⟨hlow, hhigh⟩ := abs_le.mp h.near
  constructor <;> linarith

/-- A greater number is not rounded to a lesser one. -/
theorem mono (hv : RoundsTo v m) (hw : RoundsTo w n) (h : v ≤ w) :
  m ≤ n
  := by
  by_contra hlt
  have hsucc : n + 1 ≤ m := by omega
  have hcast : (n : ℚ) + 1 ≤ m := by exact_mod_cast hsucc
  obtain ⟨hlow, -⟩ := hv.bounds
  obtain ⟨-, hhigh⟩ := hw.bounds
  -- Then both are the number half-way between two neighbours, and both neighbours are even.
  have hm : (m : ℚ) = n + 1 := by linarith
  have hmid : v = n + 1 / 2 := by linarith
  have hmid' : w = n + 1 / 2 := by linarith
  have hevenm : m % 2 = 0 := by
    apply hv.even
    rw [hmid, hm]
    norm_num
  have hevenn : n % 2 = 0 := by
    apply hw.even
    rw [hmid']
    norm_num
  have hint : m = n + 1 := by exact_mod_cast hm
  omega

theorem unique (hm : RoundsTo v m) (hn : RoundsTo v n) :
  m = n
  := le_antisymm (hm.mono hn le_rfl) (hn.mono hm le_rfl)

theorem of_lt (h : |v - n| < 1 / 2) :
  RoundsTo v n
  := ⟨h.le, fun heq => absurd heq h.ne⟩

theorem self (n : ℤ) :
  RoundsTo n n
  := by
  constructor <;> norm_num

theorem le_of_le (h : RoundsTo v n) (hm : m ≤ v) :
  m ≤ n
  := (self m).mono h hm

theorem ge_of_ge (h : RoundsTo v n) (hm : v ≤ m) :
  n ≤ m
  := h.mono (self m) hm

theorem neg (h : RoundsTo v n) :
  RoundsTo (-v) (-n)
  := by
  have hdistance : |-v - (-n : ℤ)| = |v - n| := by
    rw [Int.cast_neg, ← abs_neg]
    congr 1
    ring
  constructor
  case near =>
    rw [hdistance]
    apply h.near
  case even =>
    rw [hdistance]
    intro heq
    have := h.even heq
    omega

/-- A number that is as near to the whole number is rounded to it as well. -/
theorem of_abs_le (h : RoundsTo v n) (hle : |w - n| ≤ |v - n|) :
  RoundsTo w n
  := by
  constructor
  case near => apply hle.trans h.near
  case even =>
    intro heq
    apply h.even
    apply le_antisymm h.near
    rwa [heq] at hle

/-- No whole number is nearer. -/
theorem nearest (h : RoundsTo v n) (m : ℤ) :
  |v - n| ≤ |v - m|
  := by
  by_contra hlt
  rw [not_le] at hlt
  have hless := hlt.trans_le h.near
  rw [h.unique (of_lt hless)] at hlt
  apply lt_irrefl _ hlt

/-- Rounding on the multiples of a unit finds the nearest multiple. -/
theorem nearest_mul {unit : ℚ} (hunit : 0 < unit) (h : RoundsTo (v / unit) n) (m : ℤ) :
  |v - n * unit| ≤ |v - m * unit|
  := by
  have hscale : ∀ k : ℤ, |v - k * unit| = |v / unit - k| * unit := by
    intro k
    calc |v - k * unit|
      _ = |(v / unit - k) * unit| := by rw [sub_mul, div_mul_cancel₀ v hunit.ne']
      _ = |v / unit - k| * unit := by rw [abs_mul, abs_of_pos hunit]
  rw [hscale, hscale]
  apply mul_le_mul_of_nonneg_right (h.nearest m) hunit.le

end RoundsTo

/-! ### The two ways of rounding -/

theorem roundsTo_roundHalfEven (num : Nat) {den : Nat} (h : 0 < den) :
  RoundsTo (num / den) (roundHalfEven num den : Nat)
  := by
  have hden : (0 : ℚ) < den := by exact_mod_cast h
  have hquotient : (num : ℚ) / den = (num / den : Nat) + (num % den : Nat) / den := by
    have hsplit : (num : ℚ) = den * (num / den : Nat) + (num % den : Nat) := by
      exact_mod_cast (Nat.div_add_mod num den).symm
    rw [div_eq_iff hden.ne', add_mul, div_mul_cancel₀ _ hden.ne']
    linarith
  have hlow : (0 : ℚ) ≤ (num % den : Nat) / den := by positivity
  have hhigh : ((num % den : Nat) : ℚ) / den < 1 := by
    rw [div_lt_one hden]
    exact_mod_cast Nat.mod_lt num h
  have hless : ((num % den : Nat) : ℚ) / den < 1 / 2 ↔ 2 * (num % den) < den := by
    rw [div_lt_div_iff₀ hden (by norm_num), mul_comm, one_mul]
    exact_mod_cast Iff.rfl
  have hmore : 1 / 2 < ((num % den : Nat) : ℚ) / den ↔ den < 2 * (num % den) := by
    rw [div_lt_div_iff₀ (by norm_num) hden, mul_comm ((num % den : Nat) : ℚ), one_mul]
    exact_mod_cast Iff.rfl
  rw [hquotient, roundHalfEven]
  generalize ((num % den : Nat) : ℚ) / den = part at *
  simp only [← hless, ← hmore]
  generalize num / den = whole
  split_ifs with hbelow habove heven
  · apply RoundsTo.of_lt
    rw [Int.cast_natCast, add_sub_cancel_left, abs_of_nonneg hlow]
    apply hbelow
  · apply RoundsTo.of_lt
    push_cast
    rw [abs_lt]
    constructor <;> linarith
  · have hpart : part = 1 / 2 := by linarith
    constructor
    case near => norm_num [hpart]
    case even =>
      intro _
      have hparity : whole % 2 = 0 := by simpa using heven
      omega
  · have hpart : part = 1 / 2 := by linarith
    constructor
    case near => norm_num [hpart]
    case even =>
      intro _
      have hparity : ¬ whole % 2 = 0 := by simpa using heven
      push_cast
      omega

/-- Equal quotients are rounded to the same number. -/
theorem roundHalfEven_congr {a b c d : Nat} (hb : 0 < b) (hd : 0 < d)
    (h : (a : ℚ) / b = c / d) :
  roundHalfEven a b = roundHalfEven c d
  := by
  have hround := roundsTo_roundHalfEven a hb
  rw [h] at hround
  exact_mod_cast hround.unique (roundsTo_roundHalfEven c hd)

/-- The distance of a rational number from zero is a quotient of natural numbers. -/
theorem natAbs_num_div_den (v : ℚ) :
  ((v.num.natAbs : Nat) : ℚ) / v.den = |v|
  := by
  rw [Rat.abs_def, Rat.divInt_eq_div, Int.cast_natCast, Int.cast_natCast]

theorem roundsTo_roundRat (v : ℚ) :
  RoundsTo v (roundRat v)
  := by
  have h := roundsTo_roundHalfEven v.num.natAbs v.den_pos
  rw [natAbs_num_div_den] at h
  rw [roundRat]
  split
  · next hneg =>
    rw [abs_of_neg hneg] at h
    simpa using h.neg
  · next hpos =>
    rwa [abs_of_nonneg (not_lt.mp hpos)] at h

end BoxDiagram
