import BoxDiagram.Proofs.Decimal.Characters
import BoxDiagram.Proofs.Decimal.SixDigits

/-!
# The text of a number with six digits

A number of at most six digits is written positionally or with an exponent.  Either way the text
is read as a decimal of at most six digits, the one that was written.  So a positive double is
read back from its text exactly when some decimal of at most six digits is read as this double.
-/

namespace BoxDiagram

/-! ### Decimals -/

namespace Decimal

/-- The number that a decimal spells. -/
def value (d : Decimal) : ℚ := natOfDigits d.digits * 10 ^ (d.exponent + 1 - d.digits.length)

/-- A decimal has one to six digits. -/
structure Short (d : Decimal) : Prop where
  digits : IsDigits d.digits
  ne : d.digits ≠ []
  length : d.digits.length ≤ 6

variable {n : Nat} {grid : ℤ}

/-- Taking zeros off the end of the digits keeps the number. -/
theorem value_ofScaled (n : Nat) (grid : ℤ) :
  (ofScaled n grid).value = n * 10 ^ grid
  := by
  obtain ⟨k, hk⟩ := Text.exists_dropEndWhile '0' (natText n)
  have hn : natOfDigits (Text.dropEndWhile (· == '0') (natText n)) * 10 ^ k = n := by
    rw [← natOfDigits_append_zeros, ← hk, natOfDigits_natText]
  have hlength : (natText n).length
      = (Text.dropEndWhile (· == '0') (natText n)).length + k := by
    conv_lhs => rw [hk, List.length_append, List.length_replicate]
  rw [value, ofScaled]
  dsimp only
  conv_rhs => rw [← hn]
  rw [hlength]
  generalize Text.dropEndWhile (· == '0') (natText n) = digits
  have hexponent : grid + (digits.length + k : Nat) - 1 + 1 - digits.length = k + grid := by
    push_cast
    ring
  rw [hexponent, zpow_add₀ (by norm_num), zpow_natCast]
  push_cast
  ring

theorem short_ofScaled (hpos : 0 < n) (hn : n ≤ 1000000) (grid : ℤ) :
  (ofScaled n grid).Short
  := by
  constructor
  case digits => apply (isDigits_natText n).of_subset (Text.dropEndWhile_subset _ _)
  case ne =>
    intro hempty
    have hvalue := value_ofScaled n grid
    have hzero : (ofScaled n grid).value = 0 := by
      rw [value, hempty]
      simp [natOfDigits]
    have hnumber : (0 : ℚ) < n * 10 ^ grid := by positivity
    linarith
  case length =>
    by_cases hlt : n < 1000000
    · have hlength : (natText n).length ≤ 6 := by
        rw [natText, Nat.length_toDigits_le_iff (by decide) (by decide)]
        exact hlt
      apply le_trans _ hlength
      rw [ofScaled]
      apply (List.rdropWhile_prefix _ _).length_le
    · obtain rfl : n = 1000000 := by omega
      have hone : (ofScaled 1000000 grid).digits = ['1'] := rfl
      rw [hone]
      decide

end Decimal

/-! ### Reading the text -/

/-- A text of printable characters of ASCII but the space and the underscore. -/
def Text.IsCompact (t : Text) : Prop := ∀ c ∈ t, (0x20 < c.toNat ∧ c.toNat < 0x7F) ∧ c ≠ '_'

instance (t : Text) : Decidable t.IsCompact :=
  List.decidableBAll _ t

theorem isCompact_of_isDigits {t : Text} (h : IsDigits t) :
  t.IsCompact
  := by
  intro c hc
  have hbounds : 48 ≤ c.toNat ∧ c.toNat ≤ 57 := Char.isDigit_iff_toNat.mp (h c hc)
  constructor
  · omega
  · rintro rfl
    contradiction

theorem dropUnderscores_eq_self {t : Text} (h : '_' ∉ t) :
  dropUnderscores t = some t
  := by
  induction t using dropUnderscores.induct with
  | case1 => rfl
  | case2 t => simp at h
  | case3 c d t hc ih => simp at h
  | case4 c d t hc => simp at h
  | case5 c t hc hd ih =>
      rw [dropUnderscores, ih (by simp_all)]
      · rfl
      · exact hc
      · exact hd

/-- Nothing is taken off a compact text before it is read. -/
theorem Text.IsCompact.readNumber_eq {t : Text} (h : t.IsCompact) :
  readNumber t = readNumeral t
  := by
  have hascii : t.map toNumberChar = t := by
    conv_rhs => rw [← List.map_id t]
    apply List.map_congr_left
    intro c hc
    apply if_pos (h c hc).1.2
  have hspace : ∀ c ∈ t, isAsciiSpace c = false := by
    intro c hc
    obtain ⟨⟨hlow, -⟩, -⟩ := h c hc
    have hblank : c ≠ ' ' := by
      rintro rfl
      contradiction
    simp [isAsciiSpace, hblank]
    omega
  have hbare : t.Bare isAsciiSpace := by
    constructor
    case first => exact fun c hc => hspace c (List.mem_of_head? hc)
    case last => exact fun c hc => hspace c (List.mem_of_getLast? hc)
  rw [readNumber, hascii, readAsciiNumber, Text.trimWhere_eq_self_iff.mpr hbare,
    dropUnderscores_eq_self, Option.bind_some]
  intro hc
  apply (h _ hc).2 rfl

/-- An exponent is read back, whatever its width. -/
theorem readExponent_exponentText (width : Nat) (e : ℤ) :
  readExponent (exponentText width e) = some e
  := by
  have hdigits : ∀ zeros, IsDigits (List.replicate zeros '0' ++ natText e.natAbs) := fun zeros =>
    isDigits_append.mpr ⟨isDigits_replicate zeros, isDigits_natText e.natAbs⟩
  have hvalue : ∀ zeros, natOfDigits (List.replicate zeros '0' ++ natText e.natAbs) = e.natAbs := by
    intro zeros
    rw [natOfDigits_append, natOfDigits_replicate, Nat.zero_mul, Nat.zero_add, natOfDigits_natText]
  have hne : ∀ zeros, (List.replicate zeros '0' ++ natText e.natAbs).isEmpty = false := by
    intro zeros
    simp [natText_ne_nil]
  rw [exponentText]
  by_cases h : e < 0
  · simp [h, readExponent, takeSign, takeDigits_of_isDigits (hdigits _), hvalue, hne,
      abs_of_neg h]
  · simp [h, readExponent, takeSign, takeDigits_of_isDigits (hdigits _), hvalue, hne,
      abs_of_nonneg (not_lt.mp h)]

/-- A number of at most six digits. -/
def IsShort (q : ℚ) : Prop := ∃ m : Nat, m < 10 ^ 6 ∧ ∃ e : ℤ, q = m * 10 ^ e

/-- A text is read as a decimal of at most six digits for a number. -/
def ReadsAs (t : Text) (q : ℚ) : Prop :=
  ∃ m e, readNumeral t = some (.decimal false m e) ∧ m < 10 ^ 6 ∧ (m : ℚ) * 10 ^ e = q

theorem readsAs_parts {whole fraction tail : Text} {e : ℤ} {q : ℚ} (hwhole : IsDigits whole)
    (hne : whole ≠ []) (hfraction : IsDigits fraction)
    (htail : ∀ c ∈ tail.head?, c.isDigit = false ∧ c ≠ '.') (he : readExponent tail = some e)
    (hm : natOfDigits (whole ++ fraction) < 10 ^ 6)
    (hq : (natOfDigits (whole ++ fraction) : ℚ) * 10 ^ (e - (fraction.length : ℤ)) = q) :
  ReadsAs (whole ++ decimals fraction ++ tail) q
  := ⟨_, _, readNumeral_parts hwhole hne hfraction htail he false, hm, hq⟩

/-- A text without an exponent has as many places behind the point as there are decimals. -/
theorem readsAs_fixed {whole fraction : Text} {q : ℚ} (hwhole : IsDigits whole) (hne : whole ≠ [])
    (hfraction : IsDigits fraction) (hm : natOfDigits (whole ++ fraction) < 10 ^ 6)
    (hq : (natOfDigits (whole ++ fraction) : ℚ) * 10 ^ (-(fraction.length : ℤ)) = q) :
  ReadsAs (whole ++ decimals fraction) q
  := by
  have hempty : readExponent [] = some 0 := rfl
  rw [← zero_sub] at hq
  have h := readsAs_parts hwhole hne hfraction (by simp) hempty hm hq
  rwa [List.append_nil] at h

namespace Decimal

variable {d : Decimal} {digits : Text}

theorem readsAs_positional (h : IsDigits digits) (hne : digits ≠ []) (hlength : digits.length ≤ 6)
    {k : Nat} (hk : k < 6) :
  ReadsAs (digits.take (k + 1) ++ List.replicate (k + 1 - (digits.take (k + 1)).length) '0'
      ++ decimals (digits.drop (k + 1)))
    (value ⟨digits, k⟩)
  := by
  by_cases hle : digits.length ≤ k + 1
  · -- All digits stand in front of the point, and zeros fill the places up to it.
    rw [List.take_of_length_le hle, List.drop_of_length_le hle]
    have hzeros : IsDigits (digits ++ List.replicate (k + 1 - digits.length) '0') :=
      isDigits_append.mpr ⟨h, isDigits_replicate _⟩
    have hplaces : (digits ++ List.replicate (k + 1 - digits.length) '0').length = k + 1 := by
      rw [List.length_append, List.length_replicate]
      omega
    apply readsAs_fixed hzeros (by simp [hne]) (by intro c hc; contradiction)
    · rw [List.append_nil]
      apply (natOfDigits_lt hzeros).trans_le
      rw [hplaces]
      apply Nat.pow_le_pow_right (by decide) hk
    · have hexponent : (k : ℤ) + 1 - digits.length = (k + 1 - digits.length : Nat) := by omega
      rw [List.append_nil, natOfDigits_append_zeros, value, hexponent, zpow_natCast]
      simp
  · have hwhole : (digits.take (k + 1)).length = k + 1 := List.length_take_of_le (by omega)
    have hspelled : digits.take (k + 1) ++ digits.drop (k + 1) = digits :=
      List.take_append_drop _ _
    rw [hwhole, Nat.sub_self, List.replicate_zero, List.append_nil]
    apply readsAs_fixed (h.of_subset (List.take_subset _ _)) (by simp [hne])
      (h.of_subset (List.drop_subset _ _))
    · rw [hspelled]
      apply (natOfDigits_lt h).trans_le (Nat.pow_le_pow_right (by decide) hlength)
    · have hexponent : -((digits.drop (k + 1)).length : ℤ) = k + 1 - digits.length := by
        rw [List.length_drop]
        omega
      rw [hspelled, hexponent, value]

theorem readsAs_below_one (h : IsDigits digits) (hne : digits ≠ []) (hlength : digits.length ≤ 6)
    (k : Nat) :
  ReadsAs ('0' :: '.' :: List.replicate k '0' ++ digits) (value ⟨digits, .negSucc k⟩)
  := by
  have hzero : IsDigits ['0'] := isDigits_replicate 1
  have hfraction : IsDigits (List.replicate k '0' ++ digits) :=
    isDigits_append.mpr ⟨isDigits_replicate k, h⟩
  have hspelled : natOfDigits (['0'] ++ (List.replicate k '0' ++ digits)) = natOfDigits digits := by
    have hfront : ['0'] ++ (List.replicate k '0' ++ digits)
        = List.replicate (k + 1) '0' ++ digits := rfl
    rw [hfront, natOfDigits_append, natOfDigits_replicate, Nat.zero_mul, Nat.zero_add]
  have hdecimals : '0' :: '.' :: List.replicate k '0' ++ digits
      = ['0'] ++ decimals (List.replicate k '0' ++ digits) := by
    rw [decimals, if_neg (by simp [hne])]
    rfl
  rw [hdecimals]
  apply readsAs_fixed hzero (List.cons_ne_nil _ _) hfraction
  · rw [hspelled]
    apply (natOfDigits_lt h).trans_le (Nat.pow_le_pow_right (by decide) hlength)
  · have hexponent : -((List.replicate k '0' ++ digits).length : ℤ)
        = Int.negSucc k + 1 - digits.length := by
      rw [List.length_append, List.length_replicate]
      omega
    rw [hspelled, hexponent, value]

theorem readsAs_exponent (h : IsDigits digits) (hne : digits ≠ []) (hlength : digits.length ≤ 6)
    (width : Nat) (e : ℤ) :
  ReadsAs (digits.take 1 ++ decimals (digits.drop 1) ++ exponentText width e) (value ⟨digits, e⟩)
  := by
  have hspelled : digits.take 1 ++ digits.drop 1 = digits := List.take_append_drop _ _
  apply readsAs_parts (h.of_subset (List.take_subset _ _)) (by simp [hne])
    (h.of_subset (List.drop_subset _ _)) _ (readExponent_exponentText width e)
  · rw [hspelled]
    apply (natOfDigits_lt h).trans_le (Nat.pow_le_pow_right (by decide) hlength)
  · have hexponent : e - ((digits.drop 1).length : ℤ) = e + 1 - digits.length := by
      have hpos := List.length_pos_of_ne_nil hne
      rw [List.length_drop]
      omega
    rw [hspelled, hexponent, value]
  · rintro c ⟨⟩
    decide

/-- A decimal of at most six digits is read back from its text. -/
theorem Short.readsAs_text (h : d.Short) :
  ReadsAs (d.text .general) d.value
  := by
  obtain ⟨digits, exponent⟩ := d
  obtain ⟨hdigits, hne, hlength⟩ := h
  rw [text]
  split
  · next hrange =>
    cases exponent with
    | ofNat k =>
        apply readsAs_positional hdigits hne hlength
        simp [NumberStyle.general] at hrange
        omega
    | negSucc k => apply readsAs_below_one hdigits hne hlength
  · apply readsAs_exponent hdigits hne hlength

/-- The text of a decimal is compact. -/
theorem Short.isCompact_text (h : d.Short) :
  (d.text .general).IsCompact
  := by
  have hmarks : numberMarks.IsCompact := by decide
  intro c hc
  obtain hc | hc | hc := mem_decimal hc
  · apply isCompact_of_isDigits h.digits c hc
  · apply isCompact_of_isDigits (isDigits_natText _) c hc
  · apply hmarks c hc

end Decimal

/-! ### Positive doubles -/

variable {x : Float} {v : ℚ}

/-- A positive double is written with its six digits. -/
theorem generalText_of_value (hx : valueOf? x = some v) (hv : 0 < v) :
  ∃ n grid, generalText x = (Decimal.ofScaled n grid).text .general ∧ SixDigits v n grid
  := by
  obtain ⟨m, e, hm, hparts⟩ := exists_finite_of_pos hx hv
  obtain rfl := Option.some.inj (hx.symm.trans (valueOf?_of_unpack hm hparts))
  obtain ⟨hnum, hden⟩ := powerFraction_pos (show 0 < 2 by decide) e
  obtain ⟨n, grid, hdigits, hsix⟩ := exists_sixDigits (Nat.mul_pos hm hnum) hden
  use n, grid
  constructor
  · rw [generalText, ofFloat_eq, hparts, ← hdigits]
    cases m with
    | zero => contradiction
    | succ m => rfl
  · have hpower := powerFraction_div 2 e
    rw [Nat.cast_ofNat] at hpower
    rwa [Nat.cast_mul, mul_div_assoc, hpower] at hsix

theorem SixDigits.short {n : Nat} {grid : ℤ} (h : SixDigits v n grid) :
  (Decimal.ofScaled n grid).Short
  := by
  have hdigits := h.digits_le
  apply Decimal.short_ofScaled (by omega) h.le_digits

theorem readsAs_generalText (hx : valueOf? x = some v) (hv : 0 < v) :
  ∃ n grid, SixDigits v n grid ∧ ReadsAs (generalText x) (n * 10 ^ grid)
  := by
  obtain ⟨n, grid, htext, hsix⟩ := generalText_of_value hx hv
  use n, grid, hsix
  rw [htext, ← Decimal.value_ofScaled]
  apply hsix.short.readsAs_text

/-- A double that some decimal of at most six digits is read as. -/
def HasSixDigits (x : Float) : Prop := ∃ m < 10 ^ 6, ∃ e, nearestFloat m e = x

/-- What a double is written as is read as the double itself exactly if any decimal of at most six
digits is. -/
theorem SixDigits.nearestFloat_eq_iff {n m : Nat} {grid e : ℤ} (h : SixDigits v n grid)
    (hx : valueOf? x = some v) (hm : m < 10 ^ 6) (hq : (m : ℚ) * 10 ^ e = n * 10 ^ grid) :
  nearestFloat m e = x ↔ HasSixDigits x
  := by
  have hv := h.pos
  constructor
  case mp => exact fun heq => ⟨m, hm, e, heq⟩
  case mpr =>
    rintro ⟨m', hm', e', heq⟩
    have hpos' : 0 < m' := by
      by_contra hnot
      obtain rfl : m' = 0 := by omega
      have hzero : nearestFloat 0 e' = 0.0 := by
        rw [nearestFloat.eq_def]
        rfl
      rw [← heq, hzero] at hx
      apply hv.ne' (Option.some.inj hx).symm
    have hvalue' := valueOf?_nearestFloat hpos' e'
    rw [heq, hx, doubleOf?] at hvalue'
    split at hvalue'
    · have hround := h.roundBinary_eq hpos' hm' (Option.some.inj hvalue').symm
      have hpos : 0 < m := by
        have hn := h.digits_le
        have hdecimal : (0 : ℚ) < m * 10 ^ e := by
          rw [hq]
          positivity
        exact_mod_cast (pos_iff_pos_of_mul_pos hdecimal).mpr (by positivity)
      have hvalue := valueOf?_nearestFloat hpos e
      rw [hq, doubleOf?, hround, if_pos (lt_doubleLimit_of_value hx hv)] at hvalue
      apply eq_of_value hvalue hx hv
    · contradiction

theorem generalText_infinity :
  generalText (1.0 / 0.0) = ("inf" : Text)
  := rfl

theorem isCompact_generalText (h : 0.0 < x) :
  (generalText x).IsCompact
  := by
  obtain rfl | ⟨v, hx, hv⟩ := eq_infinity_or_value_of_pos h
  · rw [generalText_infinity]
    decide
  · obtain ⟨n, grid, htext, hsix⟩ := generalText_of_value hx hv
    rw [htext]
    apply hsix.short.isCompact_text

/-- The text of a positive double is read as a number, which is this double exactly if some decimal
of at most six digits is read as it. -/
theorem readNumber_generalText (h : 0.0 < x) :
  ∃ number, readNumber (generalText x) = some number ∧ (number.toFloat = x ↔ HasSixDigits x)
  := by
  rw [(isCompact_generalText h).readNumber_eq]
  obtain rfl | ⟨v, hx, hv⟩ := eq_infinity_or_value_of_pos h
  · use .infinite false, rfl
    constructor
    · intro _
      use 1, by decide, 400
      rfl
    · intro _
      rfl
  · obtain ⟨n, grid, hsix, m, e, hread, hm, hvalue⟩ := readsAs_generalText hx hv
    use .decimal false m e, hread
    apply hsix.nearestFloat_eq_iff hx hm hvalue

/-- The text of a positive double denotes a nearest number of at most six digits. -/
theorem number?_generalText (hx : valueOf? x = some v) (hv : 0 < v) :
  ∃ q, number? (generalText x) = some q ∧ IsShort q ∧ ∀ r, IsShort r → |v - q| ≤ |v - r|
  := by
  obtain ⟨n, grid, hsix, m, e, hread, hm, hvalue⟩ := readsAs_generalText hx hv
  use m * 10 ^ e
  refine ⟨?denotes, ⟨m, hm, e, rfl⟩, ?nearest⟩
  case denotes =>
    rw [number?, hread, Option.bind_some, ofNumeral_decimal]
    rfl
  case nearest =>
    rintro r ⟨m', hm', e', rfl⟩
    rw [hvalue]
    apply hsix.nearest hm'

end BoxDiagram
