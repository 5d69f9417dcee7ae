import BoxDiagram.Text.Basic
import Mathlib.Tactic.Use

/-!
# The pieces of texts

The pieces of a text between the characters of a class hold the other characters of the text.  A
text without characters of the class is the only piece, and the pieces between the places of one
character joined by that character are the text.
-/

namespace BoxDiagram

namespace Text

variable {p : Char → Bool} {c : Char} {front t : Text}

/-! ### Pieces -/

theorem mem_consFirst {c d : Char} {pieces : List Text} :
  (∃ t ∈ consFirst d pieces, c ∈ t) ↔ c = d ∨ ∃ t ∈ pieces, c ∈ t
  := by
  cases pieces <;> simp [consFirst, or_assoc]

/-- The characters that part no pieces stand in the pieces. -/
theorem mem_splitWhere (p : Char → Bool) (t : Text) (c : Char) :
  (∃ piece ∈ t.splitWhere p, c ∈ piece) ↔ c ∈ t ∧ p c = false
  := by
  induction t with
  | nil => simp [splitWhere]
  | cons d t ih =>
      rw [splitWhere]
      split
      · next hd =>
        simp only [List.mem_cons, exists_eq_or_imp, List.not_mem_nil, false_or, ih]
        constructor
        · rintro ⟨hc, hp⟩
          use Or.inr hc
        · rintro ⟨rfl | hc, hp⟩
          · rw [hd] at hp
            contradiction
          · use hc
      · next hd =>
        rw [mem_consFirst, ih, List.mem_cons]
        constructor
        · rintro (rfl | ⟨hc, hp⟩)
          · use Or.inl rfl
            simpa using hd
          · use Or.inr hc
        · rintro ⟨rfl | hc, hp⟩
          · apply Or.inl rfl
          · apply Or.inr ⟨hc, hp⟩

theorem splitWhere_ne_nil (p : Char → Bool) (t : Text) :
  t.splitWhere p ≠ []
  := by
  cases t with
  | nil => simp [splitWhere]
  | cons c t =>
      rw [splitWhere]
      split
      · simp
      · cases splitWhere p t <;> simp [consFirst]

/-- What stands in front of the first character that parts a text belongs to the first piece. -/
theorem splitWhere_append (h : ∀ c ∈ front, p c = false) {first : Text} {more : List Text}
    (ht : t.splitWhere p = first :: more) :
  splitWhere p (front ++ t) = (front ++ first) :: more
  := by
  induction front with
  | nil => rw [List.nil_append, ht, List.nil_append]
  | cons c front ih =>
      obtain ⟨hc, hfront⟩ := List.forall_mem_cons.mp h
      rw [List.cons_append, splitWhere, if_neg (by simp [hc]), ih hfront]
      rfl

theorem splitWhere_cons (hc : p c = true) (t : Text) :
  splitWhere p (c :: t) = [] :: splitWhere p t
  := by
  rw [splitWhere, if_pos hc]

theorem beq_eq_false_of_not_mem (h : c ∉ t) :
  ∀ d ∈ t, (d == c) = false
  := by
  intro d hd
  rw [beq_eq_false_iff_ne]
  rintro rfl
  apply h hd

/-- A text without a character is the only piece between its places. -/
theorem splitWhere_of_not_mem (h : c ∉ t) :
  t.splitWhere (· == c) = [t]
  := by
  have hpieces := splitWhere_append (beq_eq_false_of_not_mem h) (t := []) rfl
  rwa [List.append_nil] at hpieces

/-! ### Joined pieces -/

theorem join_cons {separator : Text} {ts : List Text} (h : ts ≠ []) (t : Text) :
  join separator (t :: ts) = t ++ separator ++ join separator ts
  := by
  cases ts with
  | nil => contradiction
  | cons u ts => rfl

theorem join_consFirst {separator : Text} {ts : List Text} (h : ts ≠ []) (c : Char) :
  join separator (consFirst c ts) = c :: join separator ts
  := by
  obtain ⟨t, ts, rfl⟩ := List.exists_cons_of_ne_nil h
  cases ts <;> rfl

/-- The pieces between the places of a character, joined by that character, are the text. -/
theorem join_splitWhere (c : Char) (t : Text) :
  join [c] (t.splitWhere (· == c)) = t
  := by
  induction t with
  | nil => rfl
  | cons d t ih =>
      rw [splitWhere]
      split
      · next hd =>
        rw [join_cons (splitWhere_ne_nil _ t), ih, beq_iff_eq.mp hd]
        rfl
      · rw [join_consFirst (splitWhere_ne_nil _ t), ih]

end Text

end BoxDiagram
