import BoxDiagram.Decimal.Style
import BoxDiagram.Text.Quoted
import Mathlib.Tactic.SplitIfs
import Mathlib.Tactic.Use

/-!
# The characters of written numbers

Whatever form a number is written in, its characters are printable characters of ASCII.
-/

namespace BoxDiagram

/-! ### Plain texts -/

namespace Text

/-- A text of printable characters of ASCII. -/
def IsPlain (t : Text) : Prop := ∀ c ∈ t, 0x20 ≤ c.toNat ∧ c.toNat < 0x7F

instance (t : Text) : Decidable t.IsPlain :=
  List.decidableBAll _ t

theorem isPlain_cons {c : Char} {t : Text} :
  IsPlain (c :: t) ↔ (0x20 ≤ c.toNat ∧ c.toNat < 0x7F) ∧ t.IsPlain
  := List.forall_mem_cons

theorem isPlain_append {t u : Text} :
  IsPlain (t ++ u) ↔ t.IsPlain ∧ u.IsPlain
  := List.forall_mem_append

theorem IsPlain.of_subset {t u : Text} (h : t.IsPlain) (hsub : u ⊆ t) :
  u.IsPlain
  := by
  intro c hc
  apply h c (hsub hc)

theorem isPlain_replicate {c : Char} (h : 0x20 ≤ c.toNat ∧ c.toNat < 0x7F) (n : Nat) :
  IsPlain (List.replicate n c)
  := by
  intro d hd
  rw [List.eq_of_mem_replicate hd]
  apply h

end Text

/-! ### Numbers -/

theorem isPlain_digitChar (n : Nat) :
  0x20 ≤ n.digitChar.toNat ∧ n.digitChar.toNat < 0x7F
  := by
  have hdigits : ∀ n < 16, 0x20 ≤ n.digitChar.toNat ∧ n.digitChar.toNat < 0x7F := by decide
  by_cases h : n < 16
  · apply hdigits n h
  · rw [Nat.digitChar]
    simp (disch := omega) only [if_neg]
    decide

theorem isPlain_toDigits {base : Nat} (hbase : 1 < base) (n : Nat) :
  Text.IsPlain (Nat.toDigits base n)
  := by
  induction n using Nat.strongRecOn with
  | ind n ih =>
      rw [Nat.toDigits_eq_if hbase]
      split
      · intro c hc
        obtain rfl := List.mem_singleton.mp hc
        apply isPlain_digitChar
      · rw [Text.isPlain_append]
        constructor
        · apply ih
          apply Nat.div_lt_self <;> omega
        · intro c hc
          obtain rfl := List.mem_singleton.mp hc
          apply isPlain_digitChar

theorem isPlain_natText (n : Nat) :
  (natText n).IsPlain
  := isPlain_toDigits (by decide) n

theorem isPlain_intText (n : Int) :
  (intText n).IsPlain
  := by
  cases n with
  | ofNat n => apply isPlain_natText
  | negSucc n => apply Text.isPlain_cons.mpr ⟨by decide, isPlain_natText _⟩

theorem isPlain_hexText (width n : Nat) :
  (hexText width n).IsPlain
  := by
  apply Text.isPlain_append.mpr
  constructor
  · apply Text.isPlain_replicate (by decide)
  · apply isPlain_toDigits (by decide)

/-- The characters that a style adds to the digits of a number. -/
def numberMarks : Text := ['0', '.', 'e', '+', '-']

theorem mem_exponentText {c : Char} {width : Nat} {e : Int} (h : c ∈ exponentText width e) :
  c ∈ natText e.natAbs ∨ c ∈ numberMarks
  := by
  have hsign : (if e < 0 then '-' else '+') ∈ numberMarks := by split <;> decide
  rw [exponentText] at h
  obtain h | h := List.mem_append.mp h
  · right
    obtain rfl | h := List.mem_cons.mp h
    · decide
    · obtain rfl | h := List.mem_cons.mp h
      · apply hsign
      · rw [List.eq_of_mem_replicate h]
        decide
  · left
    apply h

/-- The characters of a decimal in any style are its digits, those of its exponent, and marks. -/
theorem mem_decimal {c : Char} {d : Decimal} {style : NumberStyle} (h : c ∈ d.text style) :
  c ∈ d.digits ∨ c ∈ natText d.exponent.natAbs ∨ c ∈ numberMarks
  := by
  have htake : ∀ n, c ∈ d.digits.take n → c ∈ d.digits := fun n h => List.take_subset n _ h
  have hzeros : ∀ n, c ∈ List.replicate n '0' → c ∈ numberMarks := by
    intro n h
    rw [List.eq_of_mem_replicate h]
    decide
  have hzero : '0' ∈ numberMarks := by decide
  have hpoint : '.' ∈ numberMarks := by decide
  have htail : ∀ b : Bool, (if b then ['.', '0'] else []) ⊆ numberMarks := by decide
  have hrest : ∀ n u, u ⊆ numberMarks →
      c ∈ (if (d.digits.drop n).isEmpty then u else '.' :: d.digits.drop n) →
      c ∈ d.digits ∨ c ∈ numberMarks := by
    intro n u hu h
    split at h
    · apply Or.inr (hu h)
    · obtain rfl | h := List.mem_cons.mp h
      · apply Or.inr hpoint
      · apply Or.inl (List.drop_subset n _ h)
  rw [Decimal.text] at h
  by_cases hpositional : (style.low ≤ d.exponent && d.exponent < style.high) = true
  · rw [if_pos hpositional] at h
    cases hexponent : d.exponent with
    | ofNat k =>
        rw [hexponent] at h
        simp only [List.mem_append] at h
        obtain (h | h) | h := h
        · apply Or.inl (htake _ h)
        · apply Or.inr (Or.inr (hzeros _ h))
        · apply (hrest _ _ (htail _) h).imp_right Or.inr
    | negSucc k =>
        rw [hexponent] at h
        simp only [List.mem_append, List.mem_cons] at h
        obtain (rfl | rfl | h) | h := h
        · apply Or.inr (Or.inr hzero)
        · apply Or.inr (Or.inr hpoint)
        · apply Or.inr (Or.inr (hzeros _ h))
        · apply Or.inl h
  · rw [if_neg hpositional] at h
    simp only [List.mem_append] at h
    obtain (h | h) | h := h
    · apply Or.inl (htake _ h)
    · apply (hrest _ _ (List.nil_subset _) h).imp_right Or.inr
    · apply Or.inr (mem_exponentText h)

/-- The digits of a decimal are written plainly in any style. -/
theorem isPlain_decimal {d : Decimal} (h : d.digits.IsPlain) (style : NumberStyle) :
  (d.text style).IsPlain
  := by
  have hmarks : numberMarks.IsPlain := by decide
  intro c hc
  obtain hc | hc | hc := mem_decimal hc
  · apply h c hc
  · apply isPlain_natText _ c hc
  · apply hmarks c hc

theorem isPlain_signed {t : Text} (h : t.IsPlain) (negative : Bool) :
  (signed negative t).IsPlain
  := by
  rw [signed]
  split
  · apply Text.isPlain_cons.mpr ⟨by decide, h⟩
  · apply h

theorem isPlain_shortestText (style : NumberStyle) (x : Float) :
  (shortestText style x).IsPlain
  := by
  rw [shortestText]
  split
  · decide
  · apply isPlain_signed
    decide
  · apply isPlain_signed
    rw [NumberStyle.zero]
    split <;> decide
  · apply isPlain_signed
    apply isPlain_decimal
    apply (isPlain_natText _).of_subset (Text.dropEndWhile_subset _ _)

theorem isPlain_ofScaled (c : Nat) (grid : Int) :
  (Decimal.ofScaled c grid).digits.IsPlain
  := (isPlain_natText _).of_subset (Text.dropEndWhile_subset _ _)

theorem isPlain_generalText (x : Float) :
  (generalText x).IsPlain
  := by
  rw [generalText]
  split
  · decide
  · apply isPlain_signed
    decide
  · apply isPlain_signed
    decide
  · apply isPlain_signed
    apply isPlain_decimal
    apply isPlain_ofScaled

/-! ### Coordinates -/

theorem isPlain_thousandthsText (n : Nat) :
  (thousandthsText n).IsPlain
  := by
  have hpadded : Text.IsPlain (List.replicate (3 - (natText (n % 1000)).length) '0'
      ++ natText (n % 1000)) := by
    rw [Text.isPlain_append]
    use Text.isPlain_replicate (by decide) _, isPlain_natText _
  rw [thousandthsText, Text.isPlain_append]
  use isPlain_natText _
  split
  · decide
  · rw [Text.isPlain_cons]
    use by decide, hpadded.of_subset (Text.dropEndWhile_subset _ _)

theorem isPlain_coordinateText {x : Float} {t : Text} (h : coordinateText x = .ok t) :
  t.IsPlain
  := by
  rw [coordinateText] at h
  cases hround : roundFloat x with
  | error e =>
      rw [hround] at h
      contradiction
  | ok n =>
      rw [hround] at h
      simp only [bind, Except.bind] at h
      split at h
      · obtain rfl := Except.ok.inj h
        apply isPlain_intText
      · split at h
        · obtain rfl := Except.ok.inj h
          apply isPlain_signed
          apply isPlain_thousandthsText
        · obtain rfl := Except.ok.inj h
          apply isPlain_intText

end BoxDiagram
