import BoxDiagram.Decimal.Reading
import Mathlib.Data.List.DropRight
import Mathlib.Data.List.Infix
import Mathlib.Data.List.TakeWhile

/-!
# The ends of texts

Trimming takes the characters of a class off one end of a text or off both.  It leaves a part of
the text that no longer has such characters at its ends, and a text without them as it is.
-/

namespace BoxDiagram

namespace Text

/-- Neither end of a text has a character of a class. -/
structure Bare (p : Char → Bool) (t : Text) : Prop where
  first : ∀ c ∈ t.head?, p c = false
  last : ∀ c ∈ t.getLast?, p c = false

variable {p : Char → Bool} {t : Text}

theorem trimWhere_infix (p : Char → Bool) (t : Text) :
  trimWhere p t <:+: t
  := (List.rdropWhile_prefix p _).isInfix.trans (List.dropWhile_suffix p).isInfix

theorem dropWhile_eq_self_iff :
  t.dropWhile p = t ↔ ∀ c ∈ t.head?, p c = false
  := by
  cases t with
  | nil => simp
  | cons c t => simp [List.dropWhile_eq_self_iff]

theorem dropEndWhile_eq_self_iff :
  dropEndWhile p t = t ↔ ∀ c ∈ t.getLast?, p c = false
  := by
  have hreverse : dropEndWhile p t = t ↔ t.reverse.dropWhile p = t.reverse := by
    rw [dropEndWhile, List.reverse_eq_iff]
  rw [hreverse, dropWhile_eq_self_iff, List.head?_reverse]

theorem trimWhere_eq_self_iff :
  trimWhere p t = t ↔ t.Bare p
  := by
  constructor
  · intro h
    have hdrop : t.dropWhile p = t := by
      apply (List.dropWhile_suffix p).eq_of_length_le
      conv_lhs => rw [← h]
      apply (List.rdropWhile_prefix p _).length_le
    constructor
    case first => apply dropWhile_eq_self_iff.mp hdrop
    case last =>
      apply dropEndWhile_eq_self_iff.mp
      rwa [trimWhere, hdrop] at h
  · intro h
    rw [trimWhere, dropWhile_eq_self_iff.mpr h.first, dropEndWhile_eq_self_iff.mpr h.last]

/-- A text is what is left of it without the copies of a character at its end, and these copies. -/
theorem exists_dropEndWhile (c : Char) (t : Text) :
  ∃ n, t = dropEndWhile (· == c) t ++ List.replicate n c
  := by
  have hcopies : t.reverse.takeWhile (· == c)
      = List.replicate (t.reverse.takeWhile (· == c)).length c := by
    apply List.eq_replicate_of_mem
    intro d hd
    simpa using List.mem_takeWhile_imp hd
  use (t.reverse.takeWhile (· == c)).length
  rw [← List.reverse_replicate, ← hcopies, dropEndWhile, ← List.reverse_append,
    List.takeWhile_append_dropWhile, List.reverse_reverse]

theorem getLast?_dropEndWhile (c : Char) (t : Text) :
  (dropEndWhile (· == c) t).getLast? ≠ some c
  := by
  rw [dropEndWhile, List.getLast?_reverse]
  have h := List.head?_dropWhile_not (· == c) t.reverse
  intro hhead
  rw [hhead] at h
  simp at h

/-- An ending that was put behind a text is taken off again. -/
theorem dropEnding_append (t ending : Text) :
  (t ++ ending).dropEnding ending = t
  := by
  rw [dropEnding, if_pos (List.isSuffixOf_iff_suffix.mpr (List.suffix_append t ending)),
    List.length_append, Nat.add_sub_cancel, List.take_left]

end Text

end BoxDiagram
