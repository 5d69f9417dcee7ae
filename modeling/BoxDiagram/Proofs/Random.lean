import BoxDiagram.Random
import Mathlib.Data.Nat.Find
import Mathlib.Logic.Function.Basic
import Mathlib.Tactic.Use

/-!
# Draws

A draw takes the first word whose top bits are not all ones.  There always is one soon, so the fuel
of a draw is never used up.  For different words of a state come out as different words, so all ones
in the top bits come from two words only; and if the words of a state that make up the first word of
the next state are among these two, then that first word is not.
-/

namespace BoxDiagram.Twister

/-! ### Tempered words -/

/-- A word is known from what it differs in from itself moved to the right. -/
theorem xor_shiftRight_injective {k : ℕ} (hk : 0 < k) :
  Function.Injective fun y : BitVec 32 => y ^^^ (y >>> k)
  := by
  intro y z h
  -- the bits at the left are known first
  have hbits : ∀ n i, 32 ≤ i + n → y.getLsbD i = z.getLsbD i := by
    intro n
    induction n with
    | zero =>
        intro i hi
        rw [BitVec.getLsbD_of_ge y i hi, BitVec.getLsbD_of_ge z i hi]
    | succ n ih =>
        intro i hi
        have hbit := congrArg (fun w => BitVec.getLsbD w i) h
        simp only [BitVec.getLsbD_xor, BitVec.getLsbD_ushiftRight] at hbit
        rw [ih (k + i) (by omega)] at hbit
        simpa using hbit
  apply BitVec.eq_of_getLsbD_eq
  intro i _
  apply hbits 32 i (by omega)

/-- A word is known from what it differs in from some of its bits moved to the left. -/
theorem xor_shiftLeft_injective {k : ℕ} (hk : 0 < k) (mask : BitVec 32) :
  Function.Injective fun y : BitVec 32 => y ^^^ ((y <<< k) &&& mask)
  := by
  intro y z h
  apply BitVec.eq_of_getLsbD_eq
  intro i
  induction i using Nat.strong_induction_on with
  | h i ih =>
      intro hi
      have hbit := congrArg (fun w => BitVec.getLsbD w i) h
      simp only [BitVec.getLsbD_xor, BitVec.getLsbD_and, BitVec.getLsbD_shiftLeft] at hbit
      by_cases hlow : i < k
      · simpa [hlow] using hbit
      · rw [ih (i - k) (by omega) (by omega)] at hbit
        simpa using hbit

/-- The bits of a word, mixed for the outside. -/
def temper (y : UInt32) : UInt32 :=
  let y := y ^^^ (y >>> 11)
  let y := y ^^^ ((y <<< 7) &&& 0x9D2C5680)
  let y := y ^^^ ((y <<< 15) &&& 0xEFC60000)
  y ^^^ (y >>> 18)

/-- Tempering tells words apart. -/
theorem temper_injective :
  Function.Injective temper
  := by
  have hbits : ∀ y, (temper y).toBitVec
      = ((fun y : BitVec 32 => y ^^^ (y >>> 18))
        ∘ (fun y : BitVec 32 => y ^^^ ((y <<< 15) &&& 0xEFC60000))
        ∘ (fun y : BitVec 32 => y ^^^ ((y <<< 7) &&& 0x9D2C5680))
        ∘ fun y : BitVec 32 => y ^^^ (y >>> 11)) y.toBitVec :=
    fun _ => rfl
  intro y z h
  apply UInt32.toBitVec_inj.mp
  have hsame := congrArg UInt32.toBitVec h
  rw [hbits, hbits] at hsame
  apply ((xor_shiftRight_injective (by omega)).comp
    ((xor_shiftLeft_injective (by omega) _).comp
      ((xor_shiftLeft_injective (by omega) _).comp (xor_shiftRight_injective (by omega))))) hsame

/-! ### Words that are drawn anew -/

/-- A word of the state that is drawn anew, because its top bits come out as all ones. -/
def Skipped (y : UInt32) : Prop := greatestDraw ≤ (temper y).toNat / 2

instance (y : UInt32) : Decidable (Skipped y) :=
  inferInstanceAs (Decidable (greatestDraw ≤ (temper y).toNat / 2))

/-- Two words only are drawn anew. -/
theorem Skipped.eq_or {y : UInt32} (h : Skipped y) :
  y = 0x12DD9BB3 ∨ y = 0x2FFDF7A
  := by
  have hodd : temper 0x12DD9BB3 = 0xFFFFFFFF := by decide
  have heven : temper 0x2FFDF7A = 0xFFFFFFFE := by decide
  have hlt : (temper y).toNat < 2 ^ 32 := (temper y).toNat_lt
  rw [Skipped, greatestDraw] at h
  have hcases : (temper y).toNat = 0xFFFFFFFF ∨ (temper y).toNat = 0xFFFFFFFE := by omega
  apply hcases.imp
  · intro hy
    apply temper_injective
    rw [hodd]
    apply UInt32.toNat_inj.mp hy
  · intro hy
    apply temper_injective
    rw [heven]
    apply UInt32.toNat_inj.mp hy

/-- The word that takes the place of the first of three words of the state: the first, the one
behind it, and the one that is mixed in. -/
def twisted (first second mixed : UInt32) : UInt32 :=
  let y := (first &&& 0x80000000) ||| (second &&& 0x7FFFFFFF)
  mixed ^^^ (y >>> 1) ^^^ (if y &&& 1 == 1 then 0x9908B0DF else 0)

/-- Words that are drawn anew make one that is not. -/
theorem not_skipped_twisted {first second mixed : UInt32} (hfirst : Skipped first)
    (hsecond : Skipped second) (hmixed : Skipped mixed) :
  ¬ Skipped (twisted first second mixed)
  := by
  obtain rfl | rfl := hfirst.eq_or <;> obtain rfl | rfl := hsecond.eq_or <;>
    obtain rfl | rfl := hmixed.eq_or <;> decide

/-! ### Renewed states -/

/-- The state with the word at a place renewed. -/
def renewAt (words : Array UInt32) (i : ℕ) : Array UInt32 :=
  words.setIfInBounds i
    (twisted (words.getD i 0) (words.getD ((i + 1) % size) 0) (words.getD ((i + 397) % size) 0))

theorem renew_eq (words : Array UInt32) :
  renew words = (List.range size).foldl renewAt words
  := rfl

/-- Renewing words behind the first leaves that as it is. -/
theorem getD_zero_foldl_renewAt (places : List ℕ) (words : Array UInt32) :
  ((places.map (· + 1)).foldl renewAt words).getD 0 0 = words.getD 0 0
  := by
  induction places generalizing words with
  | nil => rfl
  | cons i places ih =>
      rw [List.map_cons, List.foldl_cons, ih, renewAt]
      simp [Array.getD_eq_getD_getElem?]

/-- The first word of a renewed state. -/
theorem getD_zero_renew {words : Array UInt32} (h : words.size = size) :
  (renew words).getD 0 0 = twisted (words.getD 0 0) (words.getD 1 0) (words.getD 397 0)
  := by
  have hrange : List.range size = 0 :: (List.range 623).map (· + 1) := List.range_succ_eq_map
  have hpos : 0 < words.size := by
    rw [h]
    decide
  rw [renew_eq, hrange, List.foldl_cons, getD_zero_foldl_renewAt, renewAt]
  simp [Array.getD_eq_getD_getElem?, hpos, size]

theorem size_renew (words : Array UInt32) :
  (renew words).size = words.size
  := by
  rw [renew_eq]
  induction List.range size generalizing words with
  | nil => rfl
  | cons i places ih =>
      rw [List.foldl_cons, ih, renewAt, Array.size_setIfInBounds]

/-! ### The words that come next -/

/-- The generator before it gives a word: one whose words have all been used is renewed. -/
def refreshed (g : Twister) : Twister := if size ≤ g.used then ⟨renew g.words, 0⟩ else g

theorem next_eq (g : Twister) :
  g.next = (temper (g.refreshed.words.getD g.refreshed.used 0),
    { g.refreshed with used := g.refreshed.used + 1 })
  := rfl

/-- The generator after some words. -/
def skip (g : Twister) : ℕ → Twister
  | 0 => g
  | n + 1 => skip g.next.2 n

/-- The word of the state that comes out after some others. -/
def wordAt (g : Twister) (n : ℕ) : UInt32 :=
  (g.skip n).refreshed.words.getD (g.skip n).refreshed.used 0

section Words

variable {g : Twister} {words : Array UInt32} {k n : ℕ}

theorem skip_add (g : Twister) (k n : ℕ) :
  g.skip (k + n) = (g.skip k).skip n
  := by
  induction k generalizing g with
  | zero => rw [Nat.zero_add, skip]
  | succ k ih => rw [Nat.succ_add, skip, skip, ih]

theorem wordAt_add (g : Twister) (k n : ℕ) :
  g.wordAt (k + n) = (g.skip k).wordAt n
  := by
  rw [wordAt, skip_add, wordAt]

/-- Words are taken in turn while there are some. -/
theorem skip_of_le (h : k + n ≤ size) :
  (⟨words, k⟩ : Twister).skip n = ⟨words, k + n⟩
  := by
  induction n generalizing k with
  | zero => rfl
  | succ n ih =>
      have hk : ¬ size ≤ k := by omega
      have hnext : (⟨words, k⟩ : Twister).next.2 = ⟨words, k + 1⟩ := by
        rw [next_eq, refreshed, if_neg hk]
      rw [skip, hnext, ih (by omega), Nat.add_assoc, Nat.add_comm 1]

theorem wordAt_of_lt (h : k + n < size) :
  (⟨words, k⟩ : Twister).wordAt n = words.getD (k + n) 0
  := by
  rw [wordAt, skip_of_le (Nat.le_of_lt h), refreshed, if_neg (by simpa using h)]

/-- A generator whose words have all been used goes on like its renewed state. -/
theorem wordAt_of_used (h : size ≤ g.used) :
  g.wordAt n = (⟨renew g.words, 0⟩ : Twister).wordAt n
  := by
  have hfresh : g.refreshed = ⟨renew g.words, 0⟩ := if_pos h
  cases n with
  | zero =>
      have hleft : ¬ size ≤ 0 := by decide
      rw [wordAt, wordAt, skip, skip, hfresh, refreshed, if_neg hleft]
  | succ n =>
      have hnext : g.next.2 = (⟨renew g.words, 0⟩ : Twister).next.2 := by
        rw [next_eq, next_eq, hfresh]
        rfl
      rw [wordAt, wordAt, skip, skip, hnext]

/-- Not all words of a state and the one after them are drawn anew. -/
theorem exists_not_skipped_of_fresh (h : words.size = size) :
  ∃ n ≤ size, ¬ Skipped ((⟨words, 0⟩ : Twister).wordAt n)
  := by
  by_contra hnone
  have hall : ∀ n ≤ size, Skipped ((⟨words, 0⟩ : Twister).wordAt n) := by
    intro n hn
    by_contra hword
    apply hnone ⟨n, hn, hword⟩
  have hword : ∀ i < size, Skipped (words.getD i 0) := by
    intro i hi
    have hskipped := hall i (Nat.le_of_lt hi)
    rwa [wordAt_of_lt (by omega), Nat.zero_add] at hskipped
  apply not_skipped_twisted (hword 0 (by decide)) (hword 1 (by decide)) (hword 397 (by decide))
  rw [← getD_zero_renew h]
  have hlast := hall size le_rfl
  rwa [← Nat.add_zero size, wordAt_add, skip_of_le (by omega), wordAt_of_used (by simp),
    wordAt_of_lt (by decide)] at hlast

/-- Among the words that come next there is one that is not drawn anew. -/
theorem exists_not_skipped (h : g.words.size = size) :
  ∃ n < 2 * size, ¬ Skipped (g.wordAt n)
  := by
  have hsize : 0 < size := by decide
  obtain ⟨words, k⟩ := g
  obtain rfl | hk := Nat.eq_zero_or_pos k
  · obtain ⟨n, hn, hword⟩ := exists_not_skipped_of_fresh h
    use n, by omega
  · obtain ⟨n, hn, hword⟩ := exists_not_skipped_of_fresh ((size_renew words).trans h)
    -- what is left of the state comes first
    use size - k + n, by omega
    rw [wordAt_add]
    obtain hused | hleft := Nat.le_total size k
    · rw [Nat.sub_eq_zero_of_le hused, skip, wordAt_of_used hused]
      apply hword
    · rw [skip_of_le (by omega), wordAt_of_used (by simp; omega)]
      apply hword

end Words

/-! ### Draws -/

/-- A draw takes the first word that is not drawn anew, if there is fuel for it. -/
theorem drawWithin_eq {g : Twister} {n fuel : ℕ} (hbefore : ∀ i < n, Skipped (g.wordAt i))
    (hword : ¬ Skipped (g.wordAt n)) (hfuel : n < fuel) :
  drawWithin fuel g = ((temper (g.wordAt n)).toNat / 2 + 1, g.skip (n + 1))
  := by
  obtain ⟨fuel, rfl⟩ := Nat.exists_eq_add_of_lt hfuel
  induction n generalizing g with
  | zero =>
      have hdrawn : g.next.1.toNat / 2 < greatestDraw := Nat.not_le.mp hword
      rw [drawWithin]
      simp only [hdrawn, if_true]
      rfl
  | succ n ih =>
      have hanew : ¬ g.next.1.toNat / 2 < greatestDraw := Nat.not_lt.mpr (hbefore 0 (by omega))
      have hrest : ∀ i, g.wordAt (i + 1) = g.next.2.wordAt i := fun _ => rfl
      have hfuel' : n + 1 + fuel + 1 = n + fuel + 1 + 1 := by omega
      rw [hfuel', drawWithin]
      simp only [hanew, if_false]
      rw [ih _ hword (by omega)]
      · rfl
      · intro i hi
        rw [← hrest]
        apply hbefore (i + 1) (by omega)

/-- A draw is of the first word that is not drawn anew, and more fuel changes nothing. -/
theorem draw_eq {g : Twister} (h : g.words.size = size) :
  ∃ n, (∀ i < n, Skipped (g.wordAt i)) ∧ ¬ Skipped (g.wordAt n)
    ∧ g.draw = ((temper (g.wordAt n)).toNat / 2 + 1, g.skip (n + 1))
    ∧ ∀ fuel, 2 * size ≤ fuel → drawWithin fuel g = g.draw
  := by
  have hexists := exists_not_skipped h
  have hword : ∃ n, ¬ Skipped (g.wordAt n) := hexists.imp fun _ => And.right
  obtain ⟨m, hm, hmword⟩ := hexists
  have hfirst : Nat.find hword < 2 * size := Nat.lt_of_le_of_lt (Nat.find_min' hword hmword) hm
  have hbefore : ∀ i < Nat.find hword, Skipped (g.wordAt i) := by
    intro i hi
    apply not_not.mp (Nat.find_min hword hi)
  have hdraw := drawWithin_eq hbefore (Nat.find_spec hword) hfirst
  refine ⟨Nat.find hword, hbefore, Nat.find_spec hword, hdraw, ?_⟩
  intro fuel hfuel
  rw [drawWithin_eq hbefore (Nat.find_spec hword) (by omega), draw, hdraw]

/-! ### The size of the state -/

theorem size_words_next (g : Twister) :
  g.next.2.words.size = g.words.size
  := by
  have hwords : g.next.2.words = g.refreshed.words := rfl
  rw [hwords, refreshed]
  by_cases hused : size ≤ g.used
  · rw [if_pos hused, size_renew]
  · rw [if_neg hused]

theorem size_words_skip (g : Twister) (n : ℕ) :
  (g.skip n).words.size = g.words.size
  := by
  induction n generalizing g with
  | zero => rfl
  | succ n ih => rw [skip, ih, size_words_next]

/-- A draw keeps the size of the state. -/
theorem size_words_draw {g : Twister} (h : g.words.size = size) :
  g.draw.2.words.size = size
  := by
  obtain ⟨n, -, -, hdraw, -⟩ := draw_eq h
  rw [hdraw, size_words_skip, h]

theorem size_step (words : Array UInt32) (i : ℕ) (word : UInt32) :
  (step words i word).1.size = words.size
  := by
  rw [step]
  split <;> simp

theorem size_foldl_step {α : Type} {f : Array UInt32 × ℕ → α → Array UInt32 × ℕ}
    (hf : ∀ state k, (f state k).1.size = state.1.size) (places : List α)
    (state : Array UInt32 × ℕ) :
  (places.foldl f state).1.size = state.1.size
  := by
  induction places generalizing state with
  | nil => rfl
  | cons k places ih => rw [List.foldl_cons, ih, hf]

theorem size_foldl_push (word : Array UInt32 → ℕ → UInt32) (places : List ℕ)
    (words : Array UInt32) :
  (places.foldl (fun words i => words.push (word words i)) words).size
    = words.size + places.length
  := by
  induction places generalizing words with
  | nil => rfl
  | cons i places ih =>
      rw [List.foldl_cons, ih, Array.size_push, List.length_cons]
      omega

theorem size_ofWord (seed : UInt32) :
  (ofWord seed).size = size
  := by
  rw [ofWord, size_foldl_push, List.length_range]
  rfl

/-- A seeded generator has a state of the right size, so this holds of every generator that is drawn
from. -/
theorem size_words_ofSeed (seed : ℤ) :
  (ofSeed seed).words.size = size
  := by
  rw [ofSeed]
  simp only [Array.size_setIfInBounds]
  rw [size_foldl_step, size_foldl_step, size_ofWord]
  · rintro ⟨words, i⟩ k
    apply size_step
  · rintro ⟨words, i⟩ k
    apply size_step

/-! ### Draws one after another -/

/-- A generator after some draws. -/
def after (g : Twister) : Nat → Twister
  | 0 => g
  | n + 1 => (g.after n).draw.2

theorem after_add_two (g : Twister) (n : Nat) :
  g.after (n + 2) = (g.after n).draw.2.draw.2
  := by
  rw [after, after]

/-- A draw of a generator by its number, the first with number one. -/
def nthDraw (g : Twister) (n : Nat) : Nat := (g.after (n - 1)).draw.1

theorem size_words_after (seed : ℤ) (n : ℕ) :
  ((ofSeed seed).after n).words.size = size
  := by
  induction n with
  | zero => apply size_words_ofSeed
  | succ n ih => apply size_words_draw ih

/-- No draw of a seeded generator uses its fuel up: with more of it the draw is the same. -/
theorem drawWithin_after (seed : ℤ) (n : ℕ) {fuel : ℕ} (hfuel : 2 * size ≤ fuel) :
  drawWithin fuel ((ofSeed seed).after n) = ((ofSeed seed).after n).draw
  := by
  obtain ⟨-, -, -, -, hdraw⟩ := draw_eq (size_words_after seed n)
  apply hdraw fuel hfuel

end BoxDiagram.Twister
