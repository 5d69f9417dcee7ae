import BoxDiagram.Decimal.Reading
import BoxDiagram.Decimal.Style
import BoxDiagram.Excalidraw.Scene
import BoxDiagram.Proofs.Text.Ends
import Mathlib.Tactic

/-!
# Written numbers and what they denote

A written number is an optional minus, digits, decimals behind a point, and an exponent.  Read
back, it denotes the number that the digits spell, as many places further to the right as there
are decimals.
-/

namespace BoxDiagram

/-! ### Digits -/

/-- A text of digits. -/
def IsDigits (t : Text) : Prop := ∀ c ∈ t, c.isDigit = true

theorem isDigits_append {t u : Text} :
  IsDigits (t ++ u) ↔ IsDigits t ∧ IsDigits u
  := List.forall_mem_append

theorem IsDigits.of_subset {t u : Text} (h : IsDigits t) (hsub : u ⊆ t) :
  IsDigits u
  := fun c hc => h c (hsub hc)

theorem isDigits_natText (n : Nat) :
  IsDigits (natText n)
  := fun _ hc => Nat.isDigit_of_mem_toDigits (by decide) (by decide) hc

theorem isDigits_replicate (n : Nat) :
  IsDigits (List.replicate n '0')
  := by
  intro c hc
  rw [List.eq_of_mem_replicate hc]
  rfl

theorem natText_ne_nil (n : Nat) :
  natText n ≠ []
  := Nat.toDigits_ne_nil

/-- Only zero begins with the digit zero. -/
theorem head?_natText (n : Nat) (h : (natText n).head? = some '0') :
  n = 0
  := by
  induction n using Nat.strongRecOn with
  | ind n ih =>
      rw [natText, Nat.toDigits_eq_if (by decide)] at h
      split at h
      · next hlt =>
        have hdigits : ∀ n < 10, some n.digitChar = some '0' → n = 0 := by decide
        apply hdigits n hlt h
      · next hge =>
        rw [List.head?_append_of_ne_nil _ Nat.toDigits_ne_nil] at h
        have hzero := ih (n / 10) (by omega) h
        omega

theorem natOfDigits_eq (t : Text) :
  natOfDigits t = Nat.ofDigitChars 10 t 0
  := rfl

theorem natOfDigits_natText (n : Nat) :
  natOfDigits (natText n) = n
  := Nat.ofDigitChars_ten_toDigits

theorem natOfDigits_append (t u : Text) :
  natOfDigits (t ++ u) = natOfDigits t * 10 ^ u.length + natOfDigits u
  := by
  simp only [natOfDigits_eq]
  rw [Nat.ofDigitChars_append, Nat.ofDigitChars_eq_ofDigitChars_zero, Nat.mul_comm]

theorem natOfDigits_replicate (n : Nat) :
  natOfDigits (List.replicate n '0') = 0
  := by
  rw [natOfDigits_eq, Nat.ofDigitChars_replicate_zero, Nat.mul_zero]

theorem natOfDigits_append_zeros (t : Text) (n : Nat) :
  natOfDigits (t ++ List.replicate n '0') = natOfDigits t * 10 ^ n
  := by
  rw [natOfDigits_append, natOfDigits_replicate, List.length_replicate, Nat.add_zero]

theorem natOfDigits_lt {t : Text} (h : IsDigits t) :
  natOfDigits t < 10 ^ t.length
  := by
  induction t using List.reverseRecOn with
  | nil => decide
  | append_singleton t c ih =>
      obtain ⟨ht, hc⟩ := isDigits_append.mp h
      have hdigit : asciiDigit c ≤ 9 := by
        have hbounds := Char.isDigit_iff_toNat.mp (hc c (List.mem_singleton_self c))
        have hnine : '9'.toNat = 57 := rfl
        rw [asciiDigit]
        omega
      have hlast : natOfDigits [c] = asciiDigit c := by simp [natOfDigits]
      rw [natOfDigits_append, hlast, List.length_append, List.length_singleton, pow_one, pow_succ]
      have hfront := ih ht
      omega

/-! ### Reading -/

/-- The decimals of a number behind a point, and nothing if there are none. -/
def decimals (fraction : Text) : Text := if fraction.isEmpty then [] else '.' :: fraction

theorem takeDigits_append {digits rest : Text} (h : IsDigits digits)
    (hrest : ∀ c ∈ rest.head?, c.isDigit = false) :
  takeDigits (digits ++ rest) = (digits, rest)
  := by
  have htake : (digits ++ rest).takeWhile Char.isDigit = digits := by
    rw [List.takeWhile_append_of_pos h]
    cases rest with
    | nil => rw [List.takeWhile_nil, List.append_nil]
    | cons c rest => rw [List.takeWhile_cons_of_neg (by simp [hrest c rfl]), List.append_nil]
  have hdrop : (digits ++ rest).dropWhile Char.isDigit = rest := by
    rw [List.dropWhile_append_of_pos h]
    cases rest with
    | nil => rfl
    | cons c rest => rw [List.dropWhile_cons_of_neg (by simp [hrest c rfl])]
  rw [takeDigits, htake, hdrop]

theorem takeDigits_of_isDigits {t : Text} (h : IsDigits t) :
  takeDigits t = (t, [])
  := by
  have hnone : ∀ c ∈ ([] : Text).head?, c.isDigit = false := by simp
  have htake := takeDigits_append h hnone
  rwa [List.append_nil] at htake

/-- The digits in front of the exponent are read as one number, with as many places as there are
decimals. -/
theorem readDecimal_append {whole fraction tail : Text} (hwhole : IsDigits whole)
    (hne : whole ≠ []) (hfraction : IsDigits fraction)
    (htail : ∀ c ∈ tail.head?, c.isDigit = false ∧ c ≠ '.') :
  readDecimal (whole ++ decimals fraction ++ tail)
    = (readExponent tail).map fun e : Int =>
        (natOfDigits (whole ++ fraction), e - (fraction.length : Int))
  := by
  have hempty : whole.isEmpty = false := by simpa using hne
  have hdigit : ∀ c ∈ tail.head?, c.isDigit = false := fun c hc => (htail c hc).1
  rw [readDecimal, decimals, List.append_assoc]
  cases fraction with
  | nil =>
      rw [List.isEmpty_nil, if_pos rfl, List.nil_append, takeDigits_append hwhole hdigit]
      cases tail with
      | nil => simp [hempty]
      | cons c tail =>
          -- What follows is no point, so no decimals are read.
          have hpoint : c ≠ '.' := (htail c rfl).2
          simp [hempty, hpoint]
  | cons c fraction =>
      have hfirst : ∀ d ∈ ('.' :: c :: fraction ++ tail).head?, d.isDigit = false := by
        rintro d ⟨⟩
        rfl
      rw [List.isEmpty_cons, if_neg (by decide), takeDigits_append hwhole hfirst]
      simp only [List.cons_append]
      rw [← List.cons_append, takeDigits_append hfraction hdigit]
      simp [hempty]

theorem toLower_of_isDigit {c : Char} (h : c.isDigit = true) :
  c.toLower = c
  := by
  rw [Char.isDigit_iff_toNat] at h
  apply dif_neg
  rintro ⟨hlow, -⟩
  have hnat : 65 ≤ c.toNat := hlow
  have hmost : c.toNat ≤ 57 := h.2
  omega

/-- A number in digits is read as a decimal, and a minus in front of it as its sign. -/
theorem readNumeral_signed {t : Text} (h : ∃ c ∈ t.head?, c.isDigit = true) (negative : Bool) :
  readNumeral (signed negative t) = (readDecimal t).map fun (m, e) => .decimal negative m e
  := by
  obtain ⟨c, hc, hdigit⟩ := h
  obtain ⟨t, rfl⟩ := List.head?_eq_some_iff.mp hc
  have hne : ∀ d : Char, d.isDigit = false → c ≠ d := by
    rintro d hd rfl
    rw [hdigit] at hd
    contradiction
  have hsign : takeSign (signed negative (c :: t)) = (negative, c :: t) := by
    cases negative with
    | true => rfl
    | false =>
        rw [signed, if_neg (by decide), takeSign.eq_def]
        split
        · next heq => apply absurd (List.cons_eq_cons.mp heq).1 (hne '-' rfl)
        · next heq => apply absurd (List.cons_eq_cons.mp heq).1 (hne '+' rfl)
        · rfl
  have hword : ∀ (d : Char) (word : Text), d.isDigit = false →
      ((c :: t).map Char.toLower == d :: word) = false := by
    intro d word hd
    rw [beq_eq_false_iff_ne, List.map_cons, toLower_of_isDigit hdigit]
    intro heq
    apply absurd (List.cons_eq_cons.mp heq).1 (hne d hd)
  have hinf := hword 'i' ['n', 'f'] rfl
  have hinfinity := hword 'i' ['n', 'f', 'i', 'n', 'i', 't', 'y'] rfl
  have hnan := hword 'n' ['a', 'n'] rfl
  rw [readNumeral, hsign]
  simp only
  rw [if_neg, if_neg]
  · simpa using hnan
  · rw [Bool.or_eq_true, not_or]
    constructor
    · simpa using hinf
    · simpa using hinfinity

/-! ### What a text denotes -/

theorem powerFraction_pos {base : Nat} (h : 0 < base) (e : Int) :
  0 < (powerFraction base e).1 ∧ 0 < (powerFraction base e).2
  := by
  cases e with
  | ofNat k => exact ⟨Nat.pow_pos h, Nat.one_pos⟩
  | negSucc k => exact ⟨Nat.one_pos, Nat.pow_pos h⟩

/-- The fraction of a power is that power. -/
theorem powerFraction_div (base : Nat) (e : Int) :
  ((powerFraction base e).1 : ℚ) / (powerFraction base e).2 = base ^ e
  := by
  cases e with
  | ofNat k => simp [powerFraction]
  | negSucc k => simp [powerFraction, zpow_negSucc]

/-- The number with a sign. -/
def signedNumber (negative : Bool) (q : ℚ) : ℚ := if negative then -q else q

theorem signedNumber_abs (v : ℚ) :
  signedNumber (v < 0) |v| = v
  := by
  rw [signedNumber]
  split
  · next h => rw [abs_of_neg (of_decide_eq_true h), neg_neg]
  · next h => rw [abs_of_nonneg (not_lt.mp (of_decide_eq_false (eq_false_of_ne_true h)))]

theorem abs_signedNumber (negative : Bool) (q : ℚ) :
  |signedNumber negative q| = |q|
  := by
  cases negative with
  | false => rfl
  | true => apply abs_neg

theorem decide_signedNumber_lt {q : ℚ} (hq : 0 < q) (negative : Bool) :
  decide (signedNumber negative q < 0) = negative
  := by
  cases negative with
  | false => exact decide_eq_false hq.not_gt
  | true => exact decide_eq_true (neg_lt_zero.mpr hq)

theorem signedNumber_div (negative : Bool) (q r : ℚ) :
  signedNumber negative q / r = signedNumber negative (q / r)
  := by
  cases negative with
  | false => rfl
  | true => apply neg_div

theorem ofNumeral_decimal (negative : Bool) (m : Nat) (e : Int) :
  Lettering.ofNumeral (.decimal negative m e) = some (signedNumber negative (m * 10 ^ e))
  := by
  have hpower := powerFraction_div 10 e
  push_cast at hpower
  simp only [Lettering.ofNumeral, signedNumber]
  rw [← hpower]
  cases negative with
  | false => simp [mul_div_assoc]
  | true => simp [neg_div, mul_div_assoc]

/-- The number that a text denotes. -/
def number? (t : Text) : Option ℚ := (readNumeral t).bind Lettering.ofNumeral

/-- Digits, decimals and an exponent are read as one numeral. -/
theorem readNumeral_parts {whole fraction tail : Text} {e : Int} (hwhole : IsDigits whole)
    (hne : whole ≠ []) (hfraction : IsDigits fraction)
    (htail : ∀ c ∈ tail.head?, c.isDigit = false ∧ c ≠ '.') (he : readExponent tail = some e)
    (negative : Bool) :
  readNumeral (signed negative (whole ++ decimals fraction ++ tail))
    = some (.decimal negative (natOfDigits (whole ++ fraction)) (e - (fraction.length : Int)))
  := by
  have hfirst : ∃ c ∈ (whole ++ decimals fraction ++ tail).head?, c.isDigit = true := by
    obtain ⟨c, whole, rfl⟩ := List.exists_cons_of_ne_nil hne
    use c, rfl
    apply hwhole c List.mem_cons_self
  rw [readNumeral_signed hfirst, readDecimal_append hwhole hne hfraction htail, he]
  rfl

end BoxDiagram
