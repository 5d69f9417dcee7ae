import BoxDiagram.Json.Printer
import BoxDiagram.Proofs.Decimal.Characters

/-!
# The characters of written values

A value is written in ASCII but for its texts: a character beyond ASCII stands in the written
form exactly when it stands in a name or a text of the value.
-/

namespace BoxDiagram

/-! ### ASCII -/

namespace Text

/-- A text whose characters are all below 128. -/
def IsAscii (t : Text) : Prop := ∀ c ∈ t, c.toNat < 0x80

instance (t : Text) : Decidable t.IsAscii :=
  List.decidableBAll _ t

theorem isAscii_cons {c : Char} {t : Text} :
  IsAscii (c :: t) ↔ c.toNat < 0x80 ∧ t.IsAscii
  := List.forall_mem_cons

theorem isAscii_append {t u : Text} :
  IsAscii (t ++ u) ↔ t.IsAscii ∧ u.IsAscii
  := List.forall_mem_append

theorem IsAscii.of_subset {t u : Text} (h : t.IsAscii) (hsub : u ⊆ t) :
  u.IsAscii
  := by
  intro c hc
  apply h c (hsub hc)

theorem IsPlain.isAscii {t : Text} (h : t.IsPlain) :
  t.IsAscii
  := by
  intro c hc
  have hplain := h c hc
  omega

theorem IsAscii.not_mem {t : Text} (h : t.IsAscii) {c : Char} (hc : 0x80 ≤ c.toNat) :
  c ∉ t
  := by
  intro hmem
  have hlt := h c hmem
  omega

end Text

/-! ### Numbers -/

theorem isAscii_hexText (width n : Nat) :
  (hexText width n).IsAscii
  := (isPlain_hexText width n).isAscii

theorem isAscii_floatText (x : Float) :
  (Json.floatText x).IsAscii
  := by
  rw [Json.floatText]
  split
  · apply (isPlain_shortestText _ _).isAscii
  · decide

/-! ### Values -/

namespace Json

variable {c : Char}

theorem isAscii_stringChar {d : Char} (h : d.toNat < 0x80) :
  (stringChar d).IsAscii
  := by
  have hhex : Text.IsAscii ('\\' :: 'u' :: hexText 4 d.toNat) := by
    rw [Text.isAscii_cons, Text.isAscii_cons]
    use by decide, by decide, isAscii_hexText 4 d.toNat
  have hself : Text.IsAscii [d] := by
    rw [Text.isAscii_cons]
    use h
    decide
  simp only [stringChar]
  split_ifs <;> first | decide | assumption

/-- A character beyond ASCII stands for itself in a string. -/
theorem stringChar_of_le {d : Char} (h : 0x80 ≤ d.toNat) :
  stringChar d = [d]
  := by
  have hne : ∀ e : Char, e.toNat < 0x80 → ¬ (d == e) = true := by
    intro e he heq
    rw [beq_iff_eq.mp heq] at h
    omega
  have hcode : ∀ n, n < 0x80 → ¬ (d.toNat == n) = true := by
    intro n hn heq
    rw [beq_iff_eq.mp heq] at h
    omega
  rw [stringChar, if_neg (hne _ (by decide)), if_neg (hne _ (by decide)),
    if_neg (hne _ (by decide)), if_neg (hne _ (by decide)), if_neg (hne _ (by decide)),
    if_neg (hcode _ (by decide)), if_neg (hcode _ (by decide)), if_neg (by omega)]

/-- Of the characters beyond ASCII a string holds those of the text. -/
theorem mem_stringText (hc : 0x80 ≤ c.toNat) (t : Text) :
  c ∈ stringText t ↔ c ∈ t
  := by
  have hchar : ∀ d, c ∈ stringChar d ↔ c = d := by
    intro d
    by_cases hd : d.toNat < 0x80
    · constructor
      · intro hmem
        exfalso
        apply (isAscii_stringChar hd).not_mem hc hmem
      · rintro rfl
        omega
    · rw [stringChar_of_le (by omega), List.mem_singleton]
  have hquote : c ≠ '"' := by
    rintro rfl
    contradiction
  simp [stringText, hquote, hchar]

mutual

/-- The names and the texts of a value. -/
def texts : Json → List Text
  | .str t => [t]
  | .arr items => itemTexts items
  | .obj fields => fieldTexts fields
  | _ => []

/-- The names and the texts of the items of a list. -/
def itemTexts : List Json → List Text
  | [] => []
  | value :: values => texts value ++ itemTexts values

/-- The names and the texts of the fields of an object. -/
def fieldTexts : List (Text × Json) → List Text
  | [] => []
  | (name, value) :: fields => name :: texts value ++ fieldTexts fields

end

/-- A value that is written in ASCII and has no texts. -/
theorem mem_compact_of_isAscii (hc : 0x80 ≤ c.toNat) {value : Json} (h : (compact value).IsAscii)
    (htexts : texts value = []) :
  c ∈ compact value ↔ ∃ t ∈ texts value, c ∈ t
  := by
  rw [htexts]
  simp [h.not_mem hc]

mutual

/-- A character beyond ASCII stands in the compact form of a value exactly when it stands in a name
or a text of the value. -/
theorem mem_compact (hc : 0x80 ≤ c.toNat) : ∀ value : Json,
    c ∈ compact value ↔ ∃ t ∈ texts value, c ∈ t
  | .str t => by
      change c ∈ stringText t ↔ ∃ u ∈ [t], c ∈ u
      rw [mem_stringText hc]
      simp
  | .arr items => by
      have hopen : c ≠ '[' := by rintro rfl; contradiction
      have hclose : c ≠ ']' := by rintro rfl; contradiction
      rw [compact, texts, ← mem_compactItems hc items]
      simp [hopen, hclose]
  | .obj fields => by
      have hopen : c ≠ '\x7b' := by rintro rfl; contradiction
      have hclose : c ≠ '\x7d' := by rintro rfl; contradiction
      rw [compact, texts, ← mem_compactFields hc fields]
      simp [hopen, hclose]
  | .null => mem_compact_of_isAscii hc (by decide) rfl
  | .bool b => mem_compact_of_isAscii hc (by cases b <;> decide) rfl
  | .int n => mem_compact_of_isAscii hc (isPlain_intText n).isAscii rfl
  | .float x => mem_compact_of_isAscii hc (isAscii_floatText x) rfl

theorem mem_compactItems (hc : 0x80 ≤ c.toNat) : ∀ items : List Json,
    c ∈ compactItems items ↔ ∃ t ∈ itemTexts items, c ∈ t
  | [] => by simp [compactItems, itemTexts]
  | [value] => by
      rw [compactItems, mem_compact hc value, itemTexts, itemTexts, List.append_nil]
  | value :: next :: values => by
      have hcomma : c ≠ ',' := by rintro rfl; contradiction
      have htexts : itemTexts (value :: next :: values)
          = texts value ++ itemTexts (next :: values) := rfl
      rw [compactItems, List.mem_append, List.mem_cons, mem_compact hc value,
        mem_compactItems hc (next :: values), htexts]
      · simp only [hcomma, false_or, List.mem_append, or_and_right, exists_or]
      · simp

theorem mem_compactFields (hc : 0x80 ≤ c.toNat) : ∀ fields : List (Text × Json),
    c ∈ compactFields fields ↔ ∃ t ∈ fieldTexts fields, c ∈ t
  | [] => by simp [compactFields, fieldTexts]
  | [(name, value)] => by
      have hcolon : c ≠ ':' := by rintro rfl; contradiction
      rw [compactFields, List.mem_append, List.mem_cons, mem_compact hc value,
        mem_stringText hc, fieldTexts, fieldTexts, List.append_nil]
      simp [hcolon]
  | (name, value) :: next :: fields => by
      have hcolon : c ≠ ':' := by rintro rfl; contradiction
      have hcomma : c ≠ ',' := by rintro rfl; contradiction
      have htexts : fieldTexts ((name, value) :: next :: fields)
          = name :: texts value ++ fieldTexts (next :: fields) := rfl
      rw [compactFields, List.mem_append, List.mem_append, List.mem_cons, List.mem_cons,
        mem_compact hc value, mem_stringText hc, mem_compactFields hc (next :: fields), htexts]
      · simp only [hcolon, hcomma, false_or, List.cons_append, List.mem_cons, List.mem_append,
          or_and_right, exists_or, exists_eq_left, or_assoc]
      · simp

end

end Json

end BoxDiagram
