import BoxDiagram.Command.Markup
import BoxDiagram.Document.Written
import Mathlib.Data.List.Infix
import Mathlib.Data.List.TakeWhile

/-!
# Tags

A tag stands between square brackets and holds none.  So whether an opening bracket begins a tag is
decided by what comes up to the next bracket, and a text has no tag exactly if none of its opening
brackets begins one.
-/

namespace BoxDiagram.Markup

/-- What can stand between the brackets of a tag. -/
structure IsTag (tag : Text) : Prop where
  begins : ∃ c inside, tag = c :: inside ∧ beginsTag c = true
  no_opening : '[' ∉ tag
  no_closing : ']' ∉ tag

theorem ne_bracket_of_beginsTag {c : Char} (h : beginsTag c = true) :
  c ≠ '[' ∧ c ≠ ']'
  := by
  constructor
  · rintro rfl
    contradiction
  · rintro rfl
    contradiction

/-! ### Where a tag begins -/

section TagAt

variable {t u tag : Text}

/-- What stands in front of the next bracket is a tag if that closes. -/
theorem isTag_of_tagAt? (h : tagAt? t = some tag) :
  IsTag tag ∧ tag ++ [']'] <+: t
  := by
  cases t with
  | nil => contradiction
  | cons c t =>
      rw [tagAt?] at h
      split at h
      · contradiction
      · next hbegins =>
        have hc : beginsTag c = true := by simpa using hbegins
        obtain ⟨hopening, hclosing⟩ := ne_bracket_of_beginsTag hc
        simp only at h
        generalize hinside : t.takeWhile (fun d => d != '[' && d != ']') = inside at h
        split at h
        · next hnext =>
          obtain rfl := Option.some.inj h
          have hall : ∀ d ∈ inside, d ≠ '[' ∧ d ≠ ']' := by
            rw [← hinside]
            intro d hd
            simpa using List.mem_takeWhile_imp hd
          have hfront : inside <+: t := by
            rw [← hinside]
            apply List.takeWhile_prefix
          obtain ⟨rest, rfl⟩ := hfront
          rw [List.drop_left, beq_iff_eq] at hnext
          obtain ⟨rest, rfl⟩ := List.head?_eq_some_iff.mp hnext
          refine ⟨⟨⟨c, inside, rfl, hc⟩, ?_, ?_⟩, ?_⟩
          · rw [List.mem_cons, not_or]
            use Ne.symm hopening, fun hmem => (hall _ hmem).1 rfl
          · rw [List.mem_cons, not_or]
            use Ne.symm hclosing, fun hmem => (hall _ hmem).2 rfl
          · use rest
            simp
        · contradiction

/-- A tag stands behind its opening bracket, whatever follows it. -/
theorem tagAt?_append (h : IsTag tag) (rest : Text) :
  tagAt? (tag ++ ']' :: rest) = some tag
  := by
  obtain ⟨⟨c, inside, rfl, hc⟩, hopening, hclosing⟩ := h
  have hall : ∀ d ∈ inside, (d != '[' && d != ']') = true := by
    intro d hd
    rw [Bool.and_eq_true, bne_iff_ne, bne_iff_ne]
    constructor
    · rintro rfl
      apply hopening (List.mem_cons_of_mem _ hd)
    · rintro rfl
      apply hclosing (List.mem_cons_of_mem _ hd)
  have hinside : (inside ++ ']' :: rest).takeWhile (fun d => d != '[' && d != ']') = inside := by
    rw [List.takeWhile_append_of_pos hall]
    simp
  rw [List.cons_append, tagAt?, hinside]
  simp [hc]

theorem tagAt?_eq_some_iff :
  tagAt? t = some tag ↔ IsTag tag ∧ tag ++ [']'] <+: t
  := by
  constructor
  · apply isTag_of_tagAt?
  · rintro ⟨htag, rest, rfl⟩
    rw [List.append_assoc]
    apply tagAt?_append htag

/-- What follows a text makes no tag in it if it begins with an opening bracket. -/
theorem tagAt?_append_eq_none (h : tagAt? t = none) (hu : ∀ c ∈ u.head?, c = '[') :
  tagAt? (t ++ u) = none
  := by
  rw [Option.eq_none_iff_forall_not_mem]
  intro tag hmem
  obtain ⟨htag, hprefix⟩ := tagAt?_eq_some_iff.mp hmem
  obtain hshort | ⟨more, hmore⟩ := List.prefix_or_prefix_of_prefix hprefix (List.prefix_append t u)
  · rw [tagAt?_eq_some_iff.mpr ⟨htag, hshort⟩] at h
    contradiction
  · rw [← hmore, List.prefix_append_right_inj] at hprefix
    cases more with
    | nil =>
        rw [List.append_nil] at hmore
        rw [tagAt?_eq_some_iff.mpr ⟨htag, [], by rw [hmore, List.append_nil]⟩] at h
        contradiction
    | cons c more =>
        have hc : c = '[' := by
          apply hu
          obtain ⟨back, rfl⟩ := hprefix
          rfl
        have hopening : '[' ∈ tag ++ [']'] := by
          rw [← hmore, hc]
          simp
        simp [htag.no_opening] at hopening

end TagAt

/-! ### Texts without tags -/

/-- A text without tags. -/
def Untagged (t : Text) : Prop := ∀ tag, IsTag tag → ¬ bracketed tag <:+: t

section Untagged

variable {t u : Text}

theorem untagged_cons_iff {c : Char} :
  Untagged (c :: t) ↔ (c = '[' → tagAt? t = none) ∧ Untagged t
  := by
  have htag : ∀ tag, bracketed tag <+: c :: t ↔ c = '[' ∧ tag ++ [']'] <+: t := by
    intro tag
    rw [bracketed, List.cons_append, List.cons_prefix_cons, eq_comm]
  constructor
  · intro h
    constructor
    · intro hc
      rw [Option.eq_none_iff_forall_not_mem]
      intro tag hmem
      obtain ⟨hisTag, hprefix⟩ := tagAt?_eq_some_iff.mp hmem
      apply h tag hisTag
      apply List.infix_cons_iff.mpr (Or.inl ((htag tag).mpr ⟨hc, hprefix⟩))
    · intro tag hisTag hinfix
      apply h tag hisTag (List.infix_cons_iff.mpr (Or.inr hinfix))
  · rintro ⟨hbracket, ht⟩ tag hisTag hinfix
    obtain hprefix | hinfix := List.infix_cons_iff.mp hinfix
    · obtain ⟨hc, hprefix⟩ := (htag tag).mp hprefix
      have hsome := tagAt?_eq_some_iff.mpr ⟨hisTag, hprefix⟩
      rw [hbracket hc] at hsome
      contradiction
    · apply ht tag hisTag hinfix

/-- A text without opening brackets has no tag. -/
theorem untagged_of_not_mem (h : '[' ∉ t) :
  Untagged t
  := by
  intro tag _ hinside
  apply h (hinside.subset List.mem_cons_self)

/-- A text without opening brackets begins no tag in what follows it. -/
theorem untagged_append_iff (h : '[' ∉ t) :
  Untagged (t ++ u) ↔ Untagged u
  := by
  induction t with
  | nil => rfl
  | cons c t ih =>
      rw [List.mem_cons, not_or] at h
      obtain ⟨hc, ht⟩ := h
      rw [List.cons_append, untagged_cons_iff, ih ht]
      simp [Ne.symm hc]

end Untagged

/-- A name of small letters, or none. -/
def Lettered (name : Text) : Prop := ∀ c ∈ name, 'a' ≤ c ∧ c ≤ 'z'

instance (name : Text) : Decidable (Lettered name) :=
  List.decidableBAll _ name

/-- A text whose first tag closes a style, by its name or not, though none can be open. -/
def ClosesFirst (t : Text) : Prop :=
  ∃ front name back, t = front ++ (bracketed ('/' :: name) ++ back) ∧ Untagged front
    ∧ Lettered name

theorem ClosesFirst.append {t u : Text} (hu : ClosesFirst u) (h : '[' ∉ t) :
  ClosesFirst (t ++ u)
  := by
  obtain ⟨front, name, back, rfl, hfront, hname⟩ := hu
  refine ⟨t ++ front, name, back, ?_, (untagged_append_iff h).mpr hfront, hname⟩
  rw [List.append_assoc]

end BoxDiagram.Markup
