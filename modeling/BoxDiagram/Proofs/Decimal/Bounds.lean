import BoxDiagram.Proofs.Decimal.Arithmetic

/-!
# Bounds on doubles

A double lies beyond a number on one side if it stands for a number on that side of it or is
the infinity there.  Sums and differences of doubles with bounds have the bounds that the
exact results have, as far as these are representable, and so have products and quotients.
A double with bounds on both sides stands for a number.
-/

namespace BoxDiagram

open Float.Model Float.Model.UnpackedFloat

/-! ### Bounds on one side -/

/-- An unpacked double is an infinity with a sign, or stands for a number on that side of `c`. -/
def Beyond (sign : Sign) (c : ℚ) (u : UnpackedFloat) : Prop :=
  u = .infinity sign ∨ ∃ a, unpackedValue? u = some a ∧ withSign sign c ≤ withSign sign a

/-- A double stands for `c` or a greater number, or is the positive infinity. -/
def AtLeast (c : ℚ) (x : Float) : Prop := Beyond .positive c x.toModel.unpack

/-- A double stands for `c` or a smaller number, or is the negative infinity. -/
def AtMost (c : ℚ) (x : Float) : Prop := Beyond .negative c x.toModel.unpack

variable {sign : Sign} {a b c : ℚ} {u w : UnpackedFloat} {x y : Float}

theorem Beyond.mono (h : Beyond sign a u) (hle : withSign sign c ≤ withSign sign a) :
  Beyond sign c u
  := by
  obtain h | ⟨r, hr, hra⟩ := h
  · apply Or.inl h
  · apply Or.inr ⟨r, hr, hle.trans hra⟩

theorem Representable.bounds (h : Representable c) (sign : Sign) :
  withSign sign c < 2 ^ 52 * 2 ^ (972 : Int)
  := by
  obtain ⟨n, k, hn, -, hk, rfl⟩ := h
  have hpos : (0 : ℚ) < 2 ^ k := by positivity
  have hpow : (2 : ℚ) ^ k ≤ 2 ^ (970 : Int) := zpow_le_zpow_right₀ (by norm_num) hk
  have habs : |(n : ℚ)| ≤ 2 ^ 53 := by
    have hcast : (n.natAbs : ℚ) ≤ (2 ^ 53 : Nat) := by exact_mod_cast hn
    rw [Nat.cast_natAbs, Int.cast_abs] at hcast
    push_cast at hcast ⊢
    apply hcast
  have hside : withSign sign (n * 2 ^ k) ≤ |(n : ℚ)| * 2 ^ k := by
    cases sign with
    | positive => apply mul_le_mul_of_nonneg_right (le_abs_self _) hpos.le
    | negative =>
        rw [withSign, ← neg_mul]
        apply mul_le_mul_of_nonneg_right (neg_le_abs _) hpos.le
  calc withSign sign (n * 2 ^ k)
    _ ≤ |(n : ℚ)| * 2 ^ k := hside
    _ ≤ 2 ^ 53 * 2 ^ (970 : Int) := by
        apply mul_le_mul habs hpow hpos.le
        positivity
    _ < 2 ^ 52 * 2 ^ (972 : Int) := by
        have hsplit : (2 : ℚ) ^ (972 : Int) = 2 ^ (970 : Int) * 2 ^ (2 : Int) :=
          zpow_add₀ (by norm_num) 970 2
        have hfour : (2 : ℚ) ^ (2 : Int) = 4 := by norm_num
        have hroom : (0 : ℚ) < 2 ^ (970 : Int) := by positivity
        rw [hsplit, hfour]
        generalize (2 : ℚ) ^ (970 : Int) = room at hroom ⊢
        linarith

/-- What is packed lies beyond every representable number that the exact number lies beyond. -/
theorem RoundedFrom.beyond (h : RoundedFrom a u) (hc : Representable c)
    (hle : withSign sign c ≤ withSign sign a) :
  Beyond sign c (Float.Model.pack u).unpack
  := by
  obtain ⟨hcanonical, r, hr, hnearest⟩ := h
  have hcr : withSign sign c ≤ withSign sign r := by
    cases sign with
    | positive => apply hnearest.ge c hc hle
    | negative => apply neg_le_neg (hnearest.le c hc (neg_le_neg_iff.mp hle))
  match u with
  | .zero s =>
      rw [unpack_zero]
      apply Or.inr ⟨r, hr, hcr⟩
  | .finite s m e hm =>
      by_cases he : e ≤ 971
      · rw [unpack_pack hcanonical he]
        apply Or.inr ⟨r, hr, hcr⟩
      · rw [unpack_pack_overflow (by omega)]
        left
        have hbits : 2 ^ 52 ≤ m := by
          obtain ⟨-, -, hbits⟩ := hcanonical
          omega
        have hlarge : (2 : ℚ) ^ 52 * 2 ^ (972 : Int) ≤ m * 2 ^ e := by
          have hpow : (2 : ℚ) ^ (972 : Int) ≤ 2 ^ e :=
            zpow_le_zpow_right₀ (by norm_num) (by omega)
          apply mul_le_mul _ hpow (by positivity) (by positivity)
          exact_mod_cast hbits
        obtain rfl : withSign s (m * 2 ^ e) = r := Option.some.inj hr
        have hlow := hc.bounds s
        -- the infinity on the other side is too far away from a representable number
        cases s <;> cases sign
        · rfl
        · simp only [withSign] at hcr hlow
          linarith
        · simp only [withSign] at hcr hlow
          linarith
        · rfl

/-! ### Sums and differences -/

theorem canonical_toModel (x : Float) :
  Canonical x.toModel.unpack
  := canonical_unpack _

theorem withSign_add (sign : Sign) (a b : ℚ) :
  withSign sign (a + b) = withSign sign a + withSign sign b
  := by
  cases sign with
  | positive => rfl
  | negative => apply neg_add

/-- A sum lies beyond what the sum of bounds lies beyond. -/
theorem Beyond.add (hu : Canonical u) (hw : Canonical w) (h : Beyond sign a u)
    (h' : Beyond sign b w) (hc : Representable c)
    (hle : withSign sign c ≤ withSign sign (a + b)) :
  Beyond sign c (Float.Model.pack (UnpackedFloat.add Format.binary64 u w)).unpack
  := by
  obtain rfl | ⟨r, hr, hra⟩ := h
  · have hsum : UnpackedFloat.add Format.binary64 (.infinity sign) w = .infinity sign := by
      obtain rfl | ⟨r', hr', -⟩ := h'
      · cases sign <;> rfl
      · cases w <;> first | rfl | contradiction
    rw [hsum, unpack_infinity]
    apply Or.inl rfl
  · obtain rfl | ⟨r', hr', hrb⟩ := h'
    · have hsum : UnpackedFloat.add Format.binary64 u (.infinity sign) = .infinity sign := by
        cases u <;> first | rfl | contradiction
      rw [hsum, unpack_infinity]
      apply Or.inl rfl
    · apply (roundedFrom_add hu hw hr hr').beyond hc
      rw [withSign_add] at hle ⊢
      linarith

theorem Beyond.neg (h : Beyond sign a u) :
  Beyond (-sign) (-a) u.neg
  := by
  obtain rfl | ⟨r, hr, hra⟩ := h
  · apply Or.inl rfl
  · right
    use -r
    rw [unpackedValue?_neg, hr]
    use rfl
    cases sign with
    | positive => simpa [withSign] using hra
    | negative => simpa [withSign] using hra

theorem AtLeast.add (h : AtLeast a x) (h' : AtLeast b y) (hc : Representable c) (hle : c ≤ a + b) :
  AtLeast c (x + y)
  := Beyond.add (canonical_toModel x) (canonical_toModel y) h h' hc hle

theorem AtMost.add (h : AtMost a x) (h' : AtMost b y) (hc : Representable c) (hle : a + b ≤ c) :
  AtMost c (x + y)
  := Beyond.add (canonical_toModel x) (canonical_toModel y) h h' hc (neg_le_neg hle)

theorem toModel_sub (x y : Float) :
  (x - y).toModel
    = Float.Model.pack (UnpackedFloat.add Format.binary64 x.toModel.unpack y.toModel.unpack.neg)
  := by
  rw [← unpacked_sub]
  rfl

theorem AtLeast.sub (h : AtLeast a x) (h' : AtMost b y) (hc : Representable c) (hle : c ≤ a - b) :
  AtLeast c (x - y)
  := by
  rw [AtLeast, toModel_sub]
  apply Beyond.add (canonical_toModel x) (canonical_neg (canonical_toModel y)) h h'.neg hc
  rwa [← sub_eq_add_neg]

theorem AtMost.sub (h : AtMost a x) (h' : AtLeast b y) (hc : Representable c) (hle : a - b ≤ c) :
  AtMost c (x - y)
  := by
  rw [AtMost, toModel_sub]
  apply Beyond.add (canonical_toModel x) (canonical_neg (canonical_toModel y)) h h'.neg hc
  rw [← sub_eq_add_neg]
  apply neg_le_neg hle

/-! ### Values -/

theorem atLeast_of_value (h : valueOf? x = some a) (hle : c ≤ a) :
  AtLeast c x
  := Or.inr ⟨a, h, hle⟩

theorem atMost_of_value (h : valueOf? x = some a) (hle : a ≤ c) :
  AtMost c x
  := Or.inr ⟨a, h, neg_le_neg hle⟩

/-- A double with bounds on both sides stands for a number between them. -/
theorem exists_value (h : AtLeast a x) (h' : AtMost b x) :
  ∃ r, valueOf? x = some r ∧ a ≤ r ∧ r ≤ b
  := by
  obtain h | ⟨r, hr, hle⟩ := h
  · obtain h' | ⟨r, hr, -⟩ := h'
    · cases UnpackedFloat.infinity.inj (h.symm.trans h')
    · rw [h] at hr
      contradiction
  · obtain h' | ⟨r', hr', hle'⟩ := h'
    · rw [h'] at hr
      contradiction
    · obtain rfl := Option.some.inj (hr.symm.trans hr')
      use r, hr, hle
      apply neg_le_neg_iff.mp hle'

/-- A double with one number for both bounds stands for it. -/
theorem value_of_bounds (h : AtLeast a x) (h' : AtMost a x) :
  valueOf? x = some a
  := by
  obtain ⟨r, hr, hleast, hmost⟩ := exists_value h h'
  rw [hr, le_antisymm hmost hleast]

theorem isFinite_of_bounds (h : AtLeast a x) (h' : AtMost b x) :
  IsFinite x
  := by
  obtain ⟨r, hr, -⟩ := exists_value h h'
  rw [IsFinite, hr]
  rfl

/-! ### Products and quotients -/

theorem roundedFrom_toModel_mul (h : valueOf? x = some a) (h' : valueOf? y = some b) :
  RoundedFrom (a * b) (UnpackedFloat.mul Format.binary64 x.toModel.unpack y.toModel.unpack)
  := roundedFrom_mul (canonical_toModel x) (canonical_toModel y) h h'

theorem atLeast_mul (h : valueOf? x = some a) (h' : valueOf? y = some b) (hc : Representable c)
    (hle : c ≤ a * b) :
  AtLeast c (x * y)
  := (roundedFrom_toModel_mul h h').beyond hc hle

theorem atMost_mul (h : valueOf? x = some a) (h' : valueOf? y = some b) (hc : Representable c)
    (hle : a * b ≤ c) :
  AtMost c (x * y)
  := (roundedFrom_toModel_mul h h').beyond hc (neg_le_neg hle)

theorem exists_finite_of_pos (h : valueOf? x = some a) (ha : 0 < a) :
  ∃ m e hm, x.toModel.unpack = .finite .positive m e hm
  := by
  rw [valueOf?] at h
  cases hx : x.toModel.unpack with
  | notANumber | infinity _ =>
      rw [hx] at h
      contradiction
  | zero _ =>
      rw [hx] at h
      obtain rfl := Option.some.inj h
      exact absurd ha (lt_irrefl 0)
  | finite sign m e hm =>
      cases sign with
      | positive => use m, e, hm
      | negative =>
          rw [hx] at h
          obtain rfl := Option.some.inj h
          have hnonneg : (0 : ℚ) ≤ m * 2 ^ e := by positivity
          rw [withSign] at ha
          linarith

/-- A product with a positive number keeps a lower bound, also that of an infinity. -/
theorem AtLeast.mul (h : AtLeast a x) (h' : valueOf? y = some b) (hb : 0 < b)
    (hc : Representable c) (hle : c ≤ a * b) :
  AtLeast c (x * y)
  := by
  obtain h | ⟨r, hr, hle'⟩ := h
  · obtain ⟨m, e, hm, hy⟩ := exists_finite_of_pos h' hb
    have hproduct : (x * y).toModel = Float.Model.pack (UnpackedFloat.mul Format.binary64
        x.toModel.unpack y.toModel.unpack) := rfl
    left
    rw [hproduct, h, hy]
    apply unpack_infinity
  · apply atLeast_mul hr h' hc
    apply hle.trans
    apply mul_le_mul_of_nonneg_right hle' hb.le

theorem roundedFrom_toModel_div (h : valueOf? x = some a) (h' : valueOf? y = some b)
    (hne : b ≠ 0) :
  RoundedFrom (a / b) (UnpackedFloat.div Format.binary64 x.toModel.unpack y.toModel.unpack)
  := roundedFrom_div h h' hne

theorem atLeast_div (h : valueOf? x = some a) (h' : valueOf? y = some b) (hne : b ≠ 0)
    (hc : Representable c) (hle : c ≤ a / b) :
  AtLeast c (x / y)
  := (roundedFrom_toModel_div h h' hne).beyond hc hle

theorem atMost_div (h : valueOf? x = some a) (h' : valueOf? y = some b) (hne : b ≠ 0)
    (hc : Representable c) (hle : a / b ≤ c) :
  AtMost c (x / y)
  := (roundedFrom_toModel_div h h' hne).beyond hc (neg_le_neg hle)

/-! ### Comparison -/

theorem valueOf?_zero :
  valueOf? 0 = some 0
  := rfl

theorem valueOf?_of_unpack {m : Nat} {e : Int} (hm : 0 < m)
    (h : x.toModel.unpack = .finite .positive m e hm) :
  valueOf? x = some ((m : ℚ) * 2 ^ e)
  := by
  rw [valueOf?, h, unpackedValue?, withSign]

theorem valueOf?_two :
  valueOf? 2 = some 2
  := by
  rw [valueOf?_of_unpack (m := 2 ^ 52) (e := -51) (by decide) rfl]
  norm_num

theorem representable_nat {n : Nat} (h : n ≤ 2 ^ 53) :
  Representable n
  := by
  use n, 0
  simpa using h

/-- A word that fits the bits of a double is what the double for it stands for. -/
theorem valueOf?_toUInt64 {n : Nat} (h : n < 2 ^ 53) :
  valueOf? n.toUInt64.toFloat = some (n : ℚ)
  := by
  have hn : Representable n := representable_nat h.le
  have hrounded : RoundedFrom n (UnpackedFloat.ofNat Format.binary64 n) := by
    have hnormal := roundedFrom_normalize n 0 .positive
    rwa [zpow_zero, mul_one, Int.cast_natCast] at hnormal
  have hword : n.toUInt64.toFloat.toModel
      = Float.Model.pack (UnpackedFloat.ofNat Format.binary64 n) := by
    have hsmall : n.toUInt64.toNat = n := Nat.mod_eq_of_lt (by omega)
    have hmodel : n.toUInt64.toFloat.toModel
        = Float.Model.pack (UnpackedFloat.ofNat Format.binary64 n.toUInt64.toNat) := rfl
    rw [hmodel, hsmall]
  apply value_of_bounds
  · rw [AtLeast, hword]
    apply hrounded.beyond hn (le_refl _)
  · rw [AtMost, hword]
    apply hrounded.beyond hn (le_refl _)

/-- A whole number that fits the bits of a double is what the double for it stands for. -/
theorem valueOf?_ofNat {n : Nat} (h : n < 2 ^ 53) :
  valueOf? (Float.ofNat n) = some (n : ℚ)
  := by
  have hn : Representable n := representable_nat h.le
  have hvalue := valueOf?_toUInt64 h
  have hone : valueOf? (Float.ofBits 0x3FF0000000000000) = some 1 := by
    rw [valueOf?_of_unpack (m := 2 ^ 52) (e := -52) (by decide) rfl]
    norm_num
  -- a number that fits is the product of its word and the zeroth power of ten
  have hproduct : Float.ofNat n = n.toUInt64.toFloat * Float.ofBits 0x3FF0000000000000 := by
    have hfast : n < 2 ^ 53 ∧ 0 ≤ 22 := ⟨h, by decide⟩
    change Float.ofScientific n false 0 = _
    rw [Float.ofScientific, dif_pos hfast]
    rfl
  rw [hproduct]
  apply value_of_bounds
  · apply atLeast_mul hvalue hone hn
    rw [mul_one]
  · apply atMost_mul hvalue hone hn
    rw [mul_one]

theorem lt_iff_compare (x y : Float) :
  x < y ↔ x.toModel.unpack.compare y.toModel.unpack = some .lt
  := by
  have hlt : x < y ↔ (x.toModel.unpack.compare y.toModel.unpack == some .lt) = true := by
    show decide (_ = true) = true ↔ _
    rw [decide_eq_true_eq]
    rfl
  rw [hlt, beq_iff_eq]

theorem le_iff_compare (x y : Float) :
  x ≤ y ↔ (x.toModel.unpack.compare y.toModel.unpack).any (·.isLE) = true
  := by
  show decide (_ = true) = true ↔ _
  rw [decide_eq_true_eq]
  rfl

theorem beq_eq_compare (x y : Float) :
  (x == y) = (x.toModel.unpack.compare y.toModel.unpack == some .eq)
  := rfl

/-- The least positive number that a double can stand for. -/
def leastPositive : ℚ := 2 ^ (-1074 : Int)

theorem leastPositive_pos :
  0 < leastPositive
  := by
  rw [leastPositive]
  positivity

theorem representable_leastPositive :
  Representable leastPositive
  := by
  use 1, -1074
  norm_num [leastPositive]

/-- An unpacked double that is not below zero is a zero, or has the positive sign. -/
theorem beyond_zero_iff :
  Beyond .positive 0 u ↔
    u = .infinity .positive ∨ (∃ s, u = .zero s) ∨ ∃ m e hm, u = .finite .positive m e hm
  := by
  match u with
  | .infinity s => simp [Beyond, unpackedValue?]
  | .notANumber => simp [Beyond, unpackedValue?]
  | .zero s => simp [Beyond, unpackedValue?]
  | .finite .positive m e hm =>
      have hvalue : (0 : ℚ) ≤ m * 2 ^ e := by positivity
      simp [Beyond, unpackedValue?, withSign, hvalue, hm]
  | .finite .negative m e hm =>
      have hvalue : (0 : ℚ) < m * 2 ^ e := by positivity
      simpa [Beyond, unpackedValue?, withSign] using hvalue

/-- A double from zero on stands for a number that is not negative, or is the positive infinity. -/
theorem atLeast_of_nonneg (h : 0.0 ≤ x) :
  AtLeast 0 x
  := by
  have hzero : (0.0 : Float).toModel.unpack = .zero .positive := rfl
  rw [le_iff_compare, hzero] at h
  rw [AtLeast, beyond_zero_iff]
  match hx : x.toModel.unpack with
  | .infinity .positive | .zero _ => simp
  | .finite .positive m e hm => simp [hm]
  | .infinity .negative | .notANumber | .finite .negative _ _ _ =>
      simp [hx, UnpackedFloat.compare] at h

/-- A double above zero stands for a positive number, or is the positive infinity. -/
theorem atLeast_of_pos (h : 0.0 < x) :
  AtLeast leastPositive x
  := by
  have hzero : (0.0 : Float).toModel.unpack = .zero .positive := rfl
  have hcanonical := canonical_toModel x
  rw [lt_iff_compare, hzero] at h
  rw [AtLeast]
  match hx : x.toModel.unpack with
  | .infinity .positive => apply Or.inl rfl
  | .finite .positive m e hm =>
      rw [hx] at hcanonical
      obtain ⟨-, hleast, -⟩ := hcanonical
      have hone : (1 : ℚ) ≤ m := by exact_mod_cast hm
      have hvalue : leastPositive ≤ m * 2 ^ e := by
        calc (2 : ℚ) ^ (-1074 : Int)
          _ ≤ 2 ^ e := zpow_le_zpow_right₀ (by norm_num) hleast
          _ ≤ m * 2 ^ e := le_mul_of_one_le_left (by positivity) hone
      apply Or.inr ⟨_, rfl, hvalue⟩
  | .infinity .negative | .notANumber | .zero _ | .finite .negative _ _ _ =>
      simp [hx, UnpackedFloat.compare] at h

/-- A double with a positive lower bound does not count as zero. -/
theorem AtLeast.beq_zero (h : AtLeast c x) (hc : 0 < c) :
  (x == 0) = false
  := by
  have hzero : (0 : Float).toModel.unpack = .zero .positive := rfl
  rw [beq_eq_compare, hzero]
  rw [AtLeast] at h
  match hx : x.toModel.unpack with
  | .infinity .positive | .infinity .negative | .notANumber | .finite .positive _ _ _
  | .finite .negative _ _ _ => rfl
  | .zero _ =>
      rw [hx] at h
      obtain h | ⟨r, hr, hle⟩ := h
      · contradiction
      · obtain rfl := Option.some.inj hr
        exact absurd hc (not_lt.mpr hle)

theorem AtMost.larger (h : AtMost c x) (h' : AtMost c y) :
  AtMost c (larger x y)
  := by
  rw [BoxDiagram.larger]
  split
  · apply h'
  · apply h

/-- What is greater than a double that is not negative is not negative. -/
theorem AtLeast.zero_larger (h : AtLeast 0 x) (y : Float) :
  AtLeast 0 (BoxDiagram.larger x y)
  := by
  rw [BoxDiagram.larger]
  split
  · next hlt =>
      rw [lt_iff_compare] at hlt
      rw [AtLeast, beyond_zero_iff] at h ⊢
      match hy : y.toModel.unpack with
      | .infinity .positive | .zero _ => simp
      | .finite .positive m e hm => simp [hm]
      | .infinity .negative | .notANumber | .finite .negative _ _ _ =>
          obtain hx | ⟨s, hx⟩ | ⟨m, e, hm, hx⟩ := h <;>
            simp [hx, hy, UnpackedFloat.compare] at hlt
  · apply h

end BoxDiagram
