import BoxDiagram.Decimal.Rounding
import BoxDiagram.Identifier.Uuid
import Mathlib.Data.List.Basic
import Mathlib.Logic.Function.Basic
import Mathlib.Tactic.Use

/-!
# Identifiers as texts

Numbers and identifiers are told by their texts: a number by its digits, and an identifier by its
bytes in hexadecimal digits with hyphens between them.
-/

namespace BoxDiagram

/-! ### Digits -/

theorem natText_injective : Function.Injective natText := by
  intro m n h
  have hread : ∀ n, Nat.ofDigitChars 10 (natText n) 0 = n :=
    fun n => Nat.ofDigitChars_toDigits (by decide) (by decide)
  rw [← hread m, h, hread]

theorem digitChar_inj {m n : Nat} (hm : m < 16) (hn : n < 16) (h : m.digitChar = n.digitChar) :
  m = n
  := by
  have hall : ∀ m < 16, ∀ n < 16, Nat.digitChar m = Nat.digitChar n → m = n := by decide
  apply hall m hm n hn h

/-- A byte is written by two digits. -/
theorem hexText_byte (b : UInt8) :
  hexText 2 b.toNat = [(b.toNat / 16).digitChar, (b.toNat % 16).digitChar]
  := by
  have hb := b.toNat_lt
  have hlow : b.toNat % 16 < 16 := Nat.mod_lt _ (by decide)
  rw [hexText, Nat.toDigits_eq_if (by decide)]
  split
  · next h =>
    rw [Nat.div_eq_of_lt h, Nat.mod_eq_of_lt h]
    rfl
  · rw [Nat.toDigits_of_lt_base (by omega)]
    rfl

/-- The digits of bytes tell the bytes. -/
theorem hexText_bytes_injective :
  Function.Injective fun bytes : Bytes => bytes.flatMap fun b => hexText 2 b.toNat
  := by
  intro bytes bytes' h
  simp only [hexText_byte] at h
  induction bytes generalizing bytes' with
  | nil =>
      cases bytes' with
      | nil => rfl
      | cons b' bytes' => contradiction
  | cons b bytes ih =>
      cases bytes' with
      | nil => contradiction
      | cons b' bytes' =>
          have hb := b.toNat_lt
          have hb' := b'.toNat_lt
          simp only [List.flatMap_cons, List.cons_append, List.nil_append, List.cons.injEq] at h
          obtain ⟨hhigh, hlow, hrest⟩ := h
          have hhigh := digitChar_inj (by omega) (by omega) hhigh
          have hlow := digitChar_inj (by omega) (by omega) hlow
          congr 1
          · apply UInt8.toNat_inj.mp
            omega
          · apply ih hrest

/-! ### Identifiers -/

namespace Uuid

/-- Without its hyphens the text of an identifier has the digits of its bytes. -/
theorem filter_text (u : Uuid) :
  u.text.filter (· != '-') = u.bytes.flatMap fun b => hexText 2 b.toNat
  := by
  rw [text]
  generalize hdigits : (u.bytes.flatMap fun b => hexText 2 b.toNat) = digits
  have hhex : ∀ n < 16, Nat.digitChar n ≠ '-' := by decide
  have hkeep : ∀ t ⊆ digits, t.filter (· != '-') = t := by
    intro t ht
    rw [List.filter_eq_self]
    intro c hc
    rw [← hdigits] at ht
    obtain ⟨b, -, hc⟩ := List.mem_flatMap.mp (ht hc)
    have hb := b.toNat_lt
    rw [hexText_byte, List.mem_pair] at hc
    rw [bne_iff_ne]
    obtain rfl | rfl := hc <;>
    · apply hhex
      omega
  have hbetween : ∀ m n, Text.between digits m n ⊆ digits :=
    fun m n => List.Subset.trans (List.take_subset _ _) (List.drop_subset m _)
  have hhyphen : List.filter (· != '-') ['-'] = [] := rfl
  have hjoin : digits.take 8 ++ (Text.between digits 8 12 ++ (Text.between digits 12 16
      ++ (Text.between digits 16 20 ++ digits.drop 20))) = digits := by
    simp only [Text.between, ← List.append_assoc]
    rw [← List.take_add, ← List.take_add, ← List.take_add, List.take_append_drop]
  simp only [Text.join, List.filter_append, hhyphen, List.append_assoc,
    hkeep _ (hbetween _ _), hkeep _ (List.take_subset _ _), hkeep _ (List.drop_subset _ _)]
  apply hjoin

/-- An identifier is told by its text. -/
theorem text_injective : Function.Injective text := by
  intro u u' h
  have hdigits : (u.text.filter (· != '-')) = u'.text.filter (· != '-') := by rw [h]
  rw [filter_text, filter_text] at hdigits
  cases u
  cases u'
  congr 1
  apply hexText_bytes_injective hdigits

end Uuid

end BoxDiagram
