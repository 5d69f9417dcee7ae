import BoxDiagram.Lz.Expand
import Mathlib.Algebra.Group.Nat.Defs
import Mathlib.Tactic.Use

/-!
# Reading tokens back

Letters are read back as the bits they stand for, with some bits at the end that no letter was
left for.  Tokens are read back from their bits when every phrase number fits into the width
at its place and the row of tokens ends where the end is announced; of a character only the
low sixteen bits are read back.
-/

namespace BoxDiagram.Lz

/-! ### Numbers -/

theorem length_lowBits (count n : Nat) :
  (lowBits count n).length = count
  := by
  simp [lowBits]

theorem lowBits_succ (count n : Nat) :
  lowBits (count + 1) n = n.testBit 0 :: lowBits count (n / 2)
  := by
  rw [lowBits, lowBits, List.range_succ_eq_map, List.map_cons, List.map_map]
  congr 2
  funext i
  apply Nat.testBit_succ

/-- The low bits of a number spell what is left of the number modulo a power of two. -/
theorem ofLowBits_lowBits (count n : Nat) :
  ofLowBits (lowBits count n) = n % 2 ^ count
  := by
  induction count generalizing n with
  | zero =>
      rw [Nat.pow_zero, Nat.mod_one]
      rfl
  | succ count ih =>
      have hbit : (n.testBit 0).toNat = n % 2 := by
        rw [Nat.testBit_zero]
        obtain h | h := Nat.mod_two_eq_zero_or_one n <;> simp [h]
      have hcons : ofLowBits (lowBits (count + 1) n)
          = (n.testBit 0).toNat + 2 * ofLowBits (lowBits count (n / 2)) := by
        rw [lowBits_succ]
        rfl
      rw [hcons, ih, hbit, Nat.pow_succ', Nat.mod_mul]

/-! ### Letters -/

theorem bitsOfLetter_letterOf_six : ∀ a b c d e f : Bool,
    bitsOfLetter (letterOf [a, b, c, d, e, f]) = some [a, b, c, d, e, f]
  := by
  decide +kernel

theorem bitsOfLetter_letterOf {bits : List Bool} (h : bits.length = 6) :
  bitsOfLetter (letterOf bits) = some bits
  := by
  obtain ⟨a, b, c, d, e, f, rfl⟩ : ∃ a b c d e f, bits = [a, b, c, d, e, f] := by
    match bits, h with
    | [a, b, c, d, e, f], _ => use a, b, c, d, e, f
  apply bitsOfLetter_letterOf_six

/-- A letter stands for its bits with zeros in place of missing ones. -/
theorem letterOf_padded {bits : List Bool} (h : bits.length ≤ 6) :
  letterOf (bits ++ List.replicate (6 - bits.length) false) = letterOf bits
  := by
  have hlen : (bits ++ List.replicate (6 - bits.length) false).length = 6 := by
    simp
    omega
  rw [letterOf, letterOf, hlen, Nat.sub_self, List.replicate_zero, List.append_nil]

/-- Bits are read back from letters, with some more at the end. -/
theorem bitsOfLetters_lettersOfBits (bits : List Bool) :
  ∃ padding, bitsOfLetters (lettersOfBits bits) = some (bits ++ padding)
  := by
  fun_induction lettersOfBits bits with
  | case1 a b c d e f rest ih =>
      obtain ⟨padding, ih⟩ := ih
      use padding
      rw [bitsOfLetters, bitsOfLetter_letterOf_six, ih]
      rfl
  | case2 rest hrest =>
      have hlen : rest.length < 6 := by
        match rest, hrest with
        | a :: b :: c :: d :: e :: f :: rest, hrest =>
            exfalso
            apply hrest a b c d e f rest rfl
        | [], _ | [_], _ | [_, _], _ | [_, _, _], _ | [_, _, _, _], _ | [_, _, _, _, _], _ =>
            simp
      use List.replicate (6 - rest.length) false
      rw [bitsOfLetters, ← letterOf_padded (Nat.le_of_lt hlen),
        bitsOfLetter_letterOf (by simp; omega)]
      simp [bitsOfLetters]

theorem letterOf_mem (bits : List Bool) :
  letterOf bits ∈ letters
  := by
  rw [letterOf, List.getD_eq_getElem?_getD]
  cases h : letters[ofBits (bits ++ List.replicate (6 - bits.length) false)]? with
  | none => decide
  | some c => apply List.mem_of_getElem? h

/-- Compressed text consists of letters. -/
theorem mem_letters_of_mem_lettersOfBits (bits : List Bool) :
  ∀ c ∈ lettersOfBits bits, c ∈ letters
  := by
  fun_induction lettersOfBits bits with
  | case1 a b c d e f rest ih =>
      rw [List.forall_mem_cons]
      use letterOf_mem _, ih
  | case2 rest =>
      rw [List.forall_mem_singleton]
      apply letterOf_mem

/-! ### Tokens -/

/-- A character as a unit of sixteen bits: its low sixteen bits. -/
def codeOf (c : Char) : Code := c.toNat % 0x10000

/-- What a token says to the reader, unless it is the end. -/
def Token.item : Token → Option Item
  | .new c => some (.unit (codeOf c))
  | .known phrase => some (.phrase phrase)
  | .stop => none

/-- Tokens fit from a width onwards when every phrase number can be told from the three marks and
has no more bits than the width at its place, and they end with the end. -/
inductive Fits : Width → List Token → Prop where
  | stop {w : Width} : 2 ≤ w.bits → Fits w [.stop]
  | new {w : Width} {tokens : List Token} (c : Char) :
      2 ≤ w.bits → Fits w.spend.spend tokens → Fits w (.new c :: tokens)
  | known {w : Width} {tokens : List Token} {phrase : Nat} :
      2 ≤ w.bits → firstPhrase ≤ phrase → phrase < 2 ^ w.bits → Fits w.spend tokens →
      Fits w (.known phrase :: tokens)

variable {w : Width} {fuel : Nat}

/-- A number that fits into the width is read first. -/
theorem itemsOfBits_lowBits (n : Nat) (bits : List Bool) :
  n < 2 ^ w.bits → itemsOfBits (fuel + 1) w (lowBits w.bits n ++ bits)
    = (let unit (count : Nat) :=
        if bits.length < count then none
        else (itemsOfBits fuel w.spend.spend (bits.drop count)).map
          (.unit (ofLowBits (bits.take count)) :: ·)
      match n with
      | 0 => unit 8
      | 1 => unit 16
      | 2 => some []
      | _ => (itemsOfBits fuel w.spend bits).map (.phrase n :: ·))
  := by
  intro h
  have hlen : ¬ (lowBits w.bits n ++ bits).length < w.bits := by simp [length_lowBits]
  have htake : (lowBits w.bits n ++ bits).take w.bits = lowBits w.bits n :=
    List.take_left' (length_lowBits _ _)
  have hdrop : (lowBits w.bits n ++ bits).drop w.bits = bits :=
    List.drop_left' (length_lowBits _ _)
  have hread : ofLowBits (lowBits w.bits n) = n := by
    rw [ofLowBits_lowBits, Nat.mod_eq_of_lt h]
  have hstep := itemsOfBits.eq_2 w (lowBits w.bits n ++ bits) fuel
  rw [if_neg hlen, htake, hdrop, hread] at hstep
  apply hstep

theorem itemsOfBits_stop (h : 2 ≤ w.bits) (bits : List Bool) :
  itemsOfBits (fuel + 1) w (tokenBits w .stop ++ bits) = some []
  := by
  have hw : 2 < 2 ^ w.bits :=
    calc
      2 < 2 ^ 2 := by decide
      _ ≤ 2 ^ w.bits := Nat.pow_le_pow_right (by decide) h
  rw [tokenBits, itemsOfBits_lowBits 2 bits hw]
  rfl

theorem itemsOfBits_known {phrase : Nat} (h : firstPhrase ≤ phrase) (hw : phrase < 2 ^ w.bits)
    (bits : List Bool) :
  itemsOfBits (fuel + 1) w (tokenBits w (.known phrase) ++ bits)
    = (itemsOfBits fuel w.spend bits).map (.phrase phrase :: ·)
  := by
  rw [tokenBits, itemsOfBits_lowBits phrase bits hw]
  match phrase, h with
  | n + 3, _ => rfl

/-- A mark and the bits of a character are read as its unit. -/
theorem itemsOfBits_new (h : 2 ≤ w.bits) (c : Char) (bits : List Bool) :
  itemsOfBits (fuel + 1) w (tokenBits w (.new c) ++ bits)
    = (itemsOfBits fuel w.spend.spend bits).map (.unit (codeOf c) :: ·)
  := by
  have hone : 1 < 2 ^ w.bits := Nat.one_lt_two_pow (by omega)
  have hunit : ∀ count, ¬ (lowBits count c.toNat ++ bits).length < count
      ∧ (lowBits count c.toNat ++ bits).drop count = bits
      ∧ ofLowBits ((lowBits count c.toNat ++ bits).take count) = c.toNat % 2 ^ count := by
    intro count
    refine ⟨by simp [length_lowBits], List.drop_left' (length_lowBits _ _), ?_⟩
    rw [List.take_left' (length_lowBits _ _), ofLowBits_lowBits]
  rw [tokenBits]
  split
  · next hc =>
    obtain ⟨hlen, hdrop, hcode⟩ := hunit 8
    have hlow : c.toNat % 2 ^ 8 = codeOf c := by
      have hpow : 2 ^ 8 = 256 := by decide
      rw [codeOf, hpow, Nat.mod_eq_of_lt hc, Nat.mod_eq_of_lt (by omega)]
    rw [List.append_assoc, itemsOfBits_lowBits 0 _ (by omega)]
    simp only
    rw [if_neg hlen, hdrop, hcode, hlow]
  · obtain ⟨hlen, hdrop, hcode⟩ := hunit 16
    rw [List.append_assoc, itemsOfBits_lowBits 1 _ hone]
    simp only
    rw [if_neg hlen, hdrop, hcode]
    rfl

/-- Tokens that fit are read back from their bits, whatever follows. -/
theorem itemsOfBits_bitsOfTokens {tokens : List Token} (h : Fits w tokens)
    (hfuel : tokens.length ≤ fuel) (padding : List Bool) :
  itemsOfBits fuel w (bitsOfTokens w tokens ++ padding) = some (tokens.filterMap Token.item)
  := by
  induction h generalizing fuel with
  | stop hw =>
      obtain ⟨fuel, rfl⟩ := Nat.exists_eq_add_of_le' hfuel
      rw [bitsOfTokens, bitsOfTokens, List.append_assoc]
      apply itemsOfBits_stop hw
  | new c hw _ ih =>
      obtain ⟨fuel, rfl⟩ := Nat.exists_eq_add_of_le' (Nat.le_trans (Nat.le_add_left 1 _) hfuel)
      rw [bitsOfTokens, List.append_assoc, itemsOfBits_new hw, Width.after,
        ih (Nat.le_of_succ_le_succ hfuel)]
      rfl
  | known _ hphrase hbits _ ih =>
      obtain ⟨fuel, rfl⟩ := Nat.exists_eq_add_of_le' (Nat.le_trans (Nat.le_add_left 1 _) hfuel)
      rw [bitsOfTokens, List.append_assoc, itemsOfBits_known hphrase hbits, Width.after,
        ih (Nat.le_of_succ_le_succ hfuel)]
      rfl

/-- Tokens that fit are no more than their bits. -/
theorem Fits.length_le {tokens : List Token} (h : Fits w tokens) :
  tokens.length ≤ (bitsOfTokens w tokens).length
  := by
  induction h with
  | stop hw =>
      simp [bitsOfTokens, tokenBits, length_lowBits]
      omega
  | new c hw _ ih =>
      rw [bitsOfTokens, List.length_append, List.length_cons, Width.after, tokenBits]
      split <;> simp [length_lowBits] <;> omega
  | known hw _ _ _ ih =>
      rw [bitsOfTokens, List.length_append, List.length_cons, Width.after, tokenBits,
        length_lowBits]
      omega

end BoxDiagram.Lz
