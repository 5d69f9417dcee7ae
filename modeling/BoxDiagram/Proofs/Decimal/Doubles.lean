import BoxDiagram.Decimal.Rounding
import Mathlib

/-!
# The numbers of doubles

A double that is no infinity and is a number stands for a whole multiple of a power of two.
Its parts are read off its bits, and the parts of a canonical form are written into bits and
read back, unless the exponent is too large: then the double is an infinity.  A double has a
nearest whole number exactly when it stands for a number.
-/

namespace BoxDiagram

open Float.Model Float.Model.UnpackedFloat

/-- A number with a sign. -/
def withSign : Sign → ℚ → ℚ
  | .positive, q => q
  | .negative, q => -q

/-- The number that an unpacked double stands for. -/
def unpackedValue? : UnpackedFloat → Option ℚ
  | .zero _ => some 0
  | .finite sign mantissa exponent _ => some (withSign sign (mantissa * 2 ^ exponent))
  | .infinity _ => none
  | .notANumber => none

/-- The number that a double stands for. -/
def valueOf? (x : Float) : Option ℚ := unpackedValue? x.toModel.unpack

/-- A double that stands for a number. -/
def IsFinite (x : Float) : Prop := (valueOf? x).isSome

instance (x : Float) : Decidable (IsFinite x) :=
  inferInstanceAs (Decidable (_ = true))

/-! ### Bits -/

theorem toNat_unpackExponent (b : BitVec Format.binary64.numBits) :
  (unpackExponent b).toNat = b.toNat / 2 ^ 52 % 2 ^ 11
  := by
  simp [unpackExponent, BitVec.extractLsb, Nat.shiftRight_eq_div_pow]

theorem toNat_unpackMantissa (b : BitVec Format.binary64.numBits) :
  (unpackMantissa b).toNat = b.toNat % 2 ^ 52
  := by
  simp [unpackMantissa, BitVec.extractLsb]

theorem toNat_unpackSign (b : BitVec Format.binary64.numBits) :
  (unpackSign b).toNat = b.toNat / 2 ^ 63 % 2
  := by
  simp [unpackSign, BitVec.extractLsb, Nat.shiftRight_eq_div_pow]

theorem toNat_one_append (m : BitVec 52) :
  (1#1 ++ m).toNat = 2 ^ 52 + m.toNat
  := by
  rw [BitVec.toNat_append, ← Nat.shiftLeft_add_eq_or_of_lt m.isLt]
  simp [Nat.shiftLeft_eq]

theorem unpackExponent_eq_iff (b : BitVec Format.binary64.numBits) {n : Nat} (hn : n < 2 ^ 11) :
  unpackExponent b = BitVec.ofNat 11 n ↔ b.toNat / 2 ^ 52 % 2 ^ 11 = n
  := by
  rw [← BitVec.toNat_inj, toNat_unpackExponent, BitVec.toNat_ofNat, Nat.mod_eq_of_lt hn]

theorem unpackMantissa_eq_zero_iff (b : BitVec Format.binary64.numBits) :
  unpackMantissa b = 0#52 ↔ b.toNat % 2 ^ 52 = 0
  := by
  rw [← BitVec.toNat_inj, toNat_unpackMantissa, BitVec.toNat_ofNat, Nat.zero_mod]

theorem ofBitVec_unpackSign (b : BitVec Format.binary64.numBits) :
  (Sign.ofBitVec (unpackSign b) == .negative) = (b.toNat / 2 ^ 63 % 2 == 1)
  := by
  have hzero : unpackSign b = 0#1 ↔ b.toNat / 2 ^ 63 % 2 = 0 := by
    rw [← BitVec.toNat_inj, toNat_unpackSign, BitVec.toNat_ofNat, Nat.zero_mod]
  rw [Sign.ofBitVec]
  split
  · next h =>
      rw [hzero.mp h]
      rfl
  · next h =>
      have hone : b.toNat / 2 ^ 63 % 2 = 1 := by
        have hne := hzero.not.mp h
        omega
      rw [hone]
      rfl

/-! ### Parts -/

/-- An unpacked double, by the bits of its exponent and its mantissa. -/
theorem unpack_eq (b : BitVec Format.binary64.numBits) :
  UnpackedFloat.unpack Format.binary64 b
    = let sign := Sign.ofBitVec (unpackSign b)
      let biased := b.toNat / 2 ^ 52 % 2 ^ 11
      let fraction := b.toNat % 2 ^ 52
      if biased = 2047 then
        if fraction = 0 then .infinity sign else .notANumber
      else if biased = 0 then
        if h : fraction = 0 then .zero sign
        else .finite sign fraction (-1074) (Nat.pos_of_ne_zero h)
      else .finite sign (2 ^ 52 + fraction) ((biased : Nat) - 1075)
        (Nat.add_pos_left (Nat.two_pow_pos 52) fraction)
  := by
  have hones : unpackExponent b = -1#11 ↔ b.toNat / 2 ^ 52 % 2 ^ 11 = 2047 :=
    unpackExponent_eq_iff b (by decide)
  have hzero : unpackExponent b = 0#11 ↔ b.toNat / 2 ^ 52 % 2 ^ 11 = 0 :=
    unpackExponent_eq_iff b (by decide)
  have hfraction : unpackMantissa b = BitVec.ofNat Format.binary64.mantissaBitsWithoutImplicit 0
      ↔ b.toNat % 2 ^ 52 = 0 := unpackMantissa_eq_zero_iff b
  have hbias : Format.binary64.exponentBias = 1023 := rfl
  simp only [UnpackedFloat.unpack, hones, hzero]
  by_cases h : b.toNat / 2 ^ 52 % 2 ^ 11 = 2047
  · simp only [if_pos h, hfraction]
  · rw [if_neg h, if_neg h]
    by_cases h' : b.toNat / 2 ^ 52 % 2 ^ 11 = 0
    · simp only [hfraction, toNat_unpackExponent, toNat_unpackMantissa, h', hbias]
      rfl
    · simp only [if_neg h', toNat_unpackExponent, toNat_one_append, toNat_unpackMantissa, hbias]
      rfl

/-- The exact value of a double is read off its parts. -/
theorem ofFloat_eq (x : Float) :
  FloatValue.ofFloat x = match x.toModel.unpack with
    | .notANumber => .notANumber
    | .infinity s => .infinite (s == .negative)
    | .zero s => .finite (s == .negative) 0 leastExponent
    | .finite s m e _ => .finite (s == .negative) m e
  := by
  have hbits : x.toBits.toNat = x.toModel.toBits.toBitVec.toNat := rfl
  have hsign := (ofBitVec_unpackSign x.toModel.toBits.toBitVec).symm
  rw [Float.Model.unpack, unpack_eq, FloatValue.ofFloat, hbits]
  generalize x.toModel.toBits.toBitVec.toNat = bits at hsign ⊢
  generalize Sign.ofBitVec (@unpackSign Format.binary64 x.toModel.toBits.toBitVec) = sign at hsign ⊢
  have hhidden : hiddenBit = 2 ^ 52 := rfl
  simp only [hhidden, Nat.reducePow, beq_iff_eq] at hsign ⊢
  simp only [hsign]
  by_cases hones : bits / 4503599627370496 % 2048 = 2047
  · rw [if_pos hones, if_pos hones]
    split <;> rfl
  · rw [if_neg hones, if_neg hones]
    by_cases hzero : bits / 4503599627370496 % 2048 = 0
    · rw [if_pos hzero, if_pos hzero]
      by_cases hfraction : bits % 4503599627370496 = 0
      · rw [dif_pos hfraction, hfraction]
      · rw [dif_neg hfraction]
        rfl
    · have hexponent : leastExponent + ((bits / 4503599627370496 % 2048 - 1 : Nat) : Int)
          = ((bits / 4503599627370496 % 2048 : Nat) : Int) - 1075 := by
        rw [leastExponent]
        omega
      rw [if_neg hzero, if_neg hzero, hexponent, Nat.add_comm]

/-- A double has a nearest whole number exactly if it stands for a number. -/
theorem exists_roundFloat_iff (x : Float) :
  (∃ n, roundFloat x = .ok n) ↔ IsFinite x
  := by
  rw [roundFloat, ofFloat_eq, IsFinite, valueOf?]
  cases x.toModel.unpack with
  | notANumber | infinity => simp [unpackedValue?]
  | zero | finite => exact iff_of_true ⟨_, rfl⟩ rfl

/-! ### Canonical forms -/

/-- The parts of a double as they are read off its bits: the mantissa has 53 bits unless the
exponent is the least one. -/
def Canonical : UnpackedFloat → Prop
  | .finite _ mantissa exponent _ =>
    mantissa < 2 ^ 53 ∧ -1074 ≤ exponent ∧ (2 ^ 52 ≤ mantissa ∨ exponent = -1074)
  | .infinity _ => True
  | .notANumber => True
  | .zero _ => True

theorem canonical_unpack (b : BitVec Format.binary64.numBits) :
  Canonical (UnpackedFloat.unpack Format.binary64 b)
  := by
  have hfraction : b.toNat % 2 ^ 52 < 2 ^ 52 := Nat.mod_lt _ (Nat.two_pow_pos 52)
  rw [unpack_eq]
  dsimp only
  split
  · split <;> trivial
  · split
    · split
      · trivial
      · refine ⟨by omega, by omega, Or.inr rfl⟩
    · refine ⟨by omega, by omega, Or.inl (by omega)⟩

theorem unpack_infinity (sign : Sign) :
  (Float.Model.pack (.infinity sign)).unpack = .infinity sign
  := by
  cases sign <;> rfl

theorem unpack_zero (sign : Sign) :
  (Float.Model.pack (.zero sign)).unpack = .zero sign
  := by
  cases sign <;> rfl

theorem pack_finite (sign : Sign) (m : Nat) (e : Int) (hm : 0 < m) :
  UnpackedFloat.pack Format.binary64 (.finite sign m e hm)
    = if 2 ^ 11 ≤ (e + 1023 + 52).toNat + 1 then packedInfinity Format.binary64 sign
      else if m.log2 + 1 = 53 then
        packComponents Format.binary64 sign (BitVec.ofNat 11 (e + 1023 + 52).toNat)
          (BitVec.ofNat 52 m)
      else packComponents Format.binary64 sign 0#11 (BitVec.ofNat 52 m)
  := rfl

theorem ofNat_inj {w n k : Nat} (hn : n < 2 ^ w) (hk : k < 2 ^ w) :
  BitVec.ofNat w n = BitVec.ofNat w k ↔ n = k
  := by
  rw [← BitVec.toNat_inj, BitVec.toNat_ofNat, BitVec.toNat_ofNat, Nat.mod_eq_of_lt hn,
    Nat.mod_eq_of_lt hk]

/-- A mantissa of 53 bits is read off without its first bit, which the exponent tells. -/
theorem unpack_normal (sign : Sign) {n m : Nat} (hn : n ≠ 0) (hmost : n < 2047)
    (hm : 2 ^ 52 ≤ m) (hlt : m < 2 ^ 53) :
  UnpackedFloat.unpack Format.binary64
      (packComponents Format.binary64 sign (BitVec.ofNat 11 n) (BitVec.ofNat 52 m))
    = .finite sign m ((n : Int) - 1075) (by omega)
  := by
  have hbias : Format.binary64.exponentBias = 1023 := rfl
  have hones : BitVec.ofNat 11 n ≠ -1#11 := (ofNat_inj (by omega) (by norm_num)).not.mpr hmost.ne
  have hzero : BitVec.ofNat 11 n ≠ 0#11 := (ofNat_inj (by omega) (by norm_num)).not.mpr hn
  have hbiased : (BitVec.ofNat 11 n).toNat = n := by
    rw [BitVec.toNat_ofNat, Nat.mod_eq_of_lt (by omega)]
  have hmantissa : (1#1 ++ BitVec.ofNat 52 m).toNat = m := by
    rw [toNat_one_append, BitVec.toNat_ofNat]
    omega
  simp only [UnpackedFloat.unpack, unpackMantissa_packComponents, unpackExponent_packComponents,
    if_neg hones, if_neg hzero, unpackSign_packComponents, Sign.ofBitVec_toBitVec, hmantissa,
    hbiased, hbias]
  rfl

/-- A mantissa of fewer bits is read off as it is, with the least exponent. -/
theorem unpack_subnormal (sign : Sign) {m : Nat} (hm : 0 < m) (hlt : m < 2 ^ 52) :
  UnpackedFloat.unpack Format.binary64
      (packComponents Format.binary64 sign 0#11 (BitVec.ofNat 52 m))
    = .finite sign m (-1074) hm
  := by
  have hzero : BitVec.ofNat 52 m ≠ 0#52 := (ofNat_inj hlt (by norm_num)).not.mpr hm.ne'
  have hmantissa : (BitVec.ofNat 52 m).toNat = m := by
    rw [BitVec.toNat_ofNat, Nat.mod_eq_of_lt hlt]
  simp only [UnpackedFloat.unpack, unpackMantissa_packComponents, unpackExponent_packComponents,
    unpackSign_packComponents, Sign.ofBitVec_toBitVec, hmantissa, dif_neg hzero]
  rfl

theorem unpack_pack_eq (u : UnpackedFloat) :
  (Float.Model.pack u).unpack
    = UnpackedFloat.unpack Format.binary64 (UnpackedFloat.pack Format.binary64 u)
  := rfl

/-- Canonical parts are written into bits and read back if the exponent fits. -/
theorem unpack_pack {sign : Sign} {m : Nat} {e : Int} {hm : 0 < m}
    (h : Canonical (.finite sign m e hm)) (he : e ≤ 971) :
  (Float.Model.pack (.finite sign m e hm)).unpack = .finite sign m e hm
  := by
  obtain ⟨hlt, hleast, hcanonical⟩ := h
  have hlog : m.log2 + 1 = 53 ↔ 2 ^ 52 ≤ m := by
    rw [← Nat.le_log2 hm.ne']
    have hlog := (Nat.log2_lt hm.ne').mpr hlt
    omega
  rw [unpack_pack_eq, pack_finite, if_neg (by omega)]
  by_cases hnormal : 2 ^ 52 ≤ m
  · rw [if_pos (hlog.mpr hnormal), unpack_normal sign (by omega) (by omega) hnormal hlt]
    congr 1
    omega
  · obtain rfl : e = -1074 := by omega
    rw [if_neg (hlog.not.mpr hnormal), unpack_subnormal sign hm (by omega)]

/-- Canonical parts with a larger exponent are those of an infinity. -/
theorem unpack_pack_overflow {sign : Sign} {m : Nat} {e : Int} {hm : 0 < m} (he : 971 < e) :
  (Float.Model.pack (.finite sign m e hm)).unpack = .infinity sign
  := by
  rw [unpack_pack_eq, pack_finite, if_pos (by omega)]
  apply unpack_infinity

end BoxDiagram
