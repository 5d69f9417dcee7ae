import BoxDiagram.Command.Action
import BoxDiagram.Proofs.Command.Tags

/-!
# What is known of consoles

A console that reads tags leaves them out, shows what stands outside of them, and refuses a closing
tag that has nothing to close.  That is all that is known of it, and only of messages without what
else a console may take for something else: backslashes in front of brackets, tabs, some controls,
and signs.  So it shows a text behind a coloured beginning as it is exactly if the text has no tag.
-/

namespace BoxDiagram

open Markup

/-! ### Texts without surprises -/

/-- A text without the characters that need not show as they are: tabs and some controls. -/
structure Steady (t : Text) : Prop where
  no_tab : '\t' ∉ t
  no_control : ∀ c ∈ t, isHidden c = false

/-- A text in which a console can take nothing but tags for something else. -/
structure Console.Clean (console : Console) (t : Text) : Prop extends Steady t where
  no_escape : ¬ ['\\', '['] <:+: t
  no_slash : t.getLast? ≠ some '\\'
  no_sign : ∀ word, console.isSign word = true → ¬ ':' :: word ++ [':'] <:+: t

/-- A text in which a console can take nothing for something else. -/
structure Console.Literal (console : Console) (t : Text) : Prop
    extends Console.Clean console t where
  untagged : Untagged t

/-- A text of printable ASCII characters without brackets. -/
def Unbracketed (t : Text) : Prop :=
  ∀ c ∈ t, 0x20 ≤ c.toNat ∧ c.toNat < 0x7F ∧ c ≠ '[' ∧ c ≠ ']'

instance (t : Text) : Decidable (Unbracketed t) :=
  List.decidableBAll _ t

section Unbracketed

variable {t : Text}

theorem Unbracketed.not_mem (h : Unbracketed t) {c : Char} (hc : c.toNat < 0x20) :
  c ∉ t
  := by
  intro hmem
  have hprintable := (h c hmem).1
  omega

theorem Unbracketed.no_opening (h : Unbracketed t) :
  '[' ∉ t
  := by
  intro hmem
  apply (h '[' hmem).2.2.1 rfl

theorem Unbracketed.steady (h : Unbracketed t) :
  Steady t
  := by
  constructor
  case no_tab => apply h.not_mem (by decide)
  case no_control =>
    intro c hc
    have hprintable := (h c hc).1
    simp only [isHidden, Bool.or_eq_false_iff, Bool.and_eq_false_iff, beq_eq_false_iff_ne,
      decide_eq_false_iff_not]
    omega

end Unbracketed

/-! ### Messages with tags -/

/-- A message as a front and words behind tags. -/
structure Marked where
  front : Text
  rest : List (Text × Text)

namespace Marked

/-- Words behind tags as they are written. -/
def written (rest : List (Text × Text)) : Text := rest.flatMap fun p => bracketed p.1 ++ p.2

/-- A message as it is written. -/
def text (m : Marked) : Text := m.front ++ written m.rest

/-- What stands outside the tags of a message. -/
def words (m : Marked) : Text := m.front ++ m.rest.flatMap (·.2)

/-- The tags of a message. -/
def tags (m : Marked) : List Text := m.rest.map (·.1)

/-- A message behind a tag with another front. -/
def behind (m : Marked) (front tag : Text) : Marked := ⟨front, (tag, m.front) :: m.rest⟩

theorem written_cons (p : Text × Text) (rest : List (Text × Text)) :
  written (p :: rest) = bracketed p.1 ++ (p.2 ++ written rest)
  := by
  rw [written, List.flatMap_cons, List.append_assoc]
  rfl

@[simp]
theorem text_behind (m : Marked) (front tag : Text) :
  (m.behind front tag).text = front ++ (bracketed tag ++ m.text)
  := by
  rw [text, behind, written_cons]
  rfl

@[simp]
theorem words_behind (m : Marked) (front tag : Text) :
  (m.behind front tag).words = front ++ m.words
  := by
  simp [behind, words]

@[simp]
theorem tags_behind (m : Marked) (front tag : Text) :
  (m.behind front tag).tags = tag :: m.tags
  := rfl

/-- The first tag begins with a bracket. -/
theorem head?_written (rest : List (Text × Text)) :
  ∀ c ∈ (written rest).head?, c = '['
  := by
  cases rest with
  | nil => simp [written]
  | cons p rest => simp [written, bracketed]

theorem words_sublist (m : Marked) :
  List.Sublist m.words m.text
  := by
  apply List.Sublist.append (List.Sublist.refl _)
  rw [written]
  induction m.rest with
  | nil => apply List.Sublist.refl
  | cons p rest ih =>
      rw [List.flatMap_cons, List.flatMap_cons]
      apply List.Sublist.append _ ih
      apply List.sublist_append_right

/-- The words are the whole message only if there are no tags. -/
theorem rest_eq_nil_of_words_eq {m : Marked} (h : m.words = m.text) :
  m.rest = []
  := by
  obtain ⟨front, rest⟩ := m
  cases rest with
  | nil => rfl
  | cons p rest =>
      have hlength := congrArg List.length h
      have hle := (words_sublist ⟨p.2, rest⟩).length_le
      simp [words, text, written, bracketed] at hlength hle
      omega

end Marked

/-- A message of which a console can take nothing but the tags for something else. -/
structure Console.Legible (console : Console) (m : Marked) : Prop where
  front : console.Literal m.front
  rest : ∀ p ∈ m.rest, IsTag p.1 ∧ console.Literal p.2

/-- Tags that open a style by a name of letters and close it, over and over. -/
inductive Paired : List Text → Prop where
  | nil : Paired []
  | cons {name : Text} {tags : List Text} :
      name ≠ [] → Lettered name → Paired tags → Paired (name :: ['/'] :: tags)

/-- Tags of which one closes a style, by a name of letters or not, and none is open there. -/
def Unopened (tags : List Text) : Prop :=
  ∃ front name back, tags = front ++ ('/' :: name) :: back ∧ Paired front
    ∧ Lettered name

/-- What is known of a console that reads tags in messages. -/
structure Console.ReadsTags (console : Console) : Prop where
  /-- Of a message that shows, the tags are left out and the words show. -/
  leaves_out : ∀ m shown, console.Legible m → console.show? m.text = .ok shown → shown = m.words
  /-- A message shows if its tags open styles and close them. -/
  shows : ∀ m, console.Legible m → Paired m.tags → ∃ shown, console.show? m.text = .ok shown
  /-- A message is refused if one of its tags closes a style where none is open. -/
  refuses : ∀ m, console.Legible m → Unopened m.tags → ∃ e, console.show? m.text = .error e
  /-- There is no space between the colons of a sign. -/
  no_space : ∀ word, console.isSign word = true → ' ' ∉ word

/-! ### Parts of clean texts -/

section Clean

variable {console : Console} {t u : Text}

theorem Console.Clean.of_isInfix (h : console.Clean t) (hu : u <:+: t)
    (hlast : u.getLast? ≠ some '\\') :
  console.Clean u
  := by
  constructor
  case toSteady =>
    constructor
    case no_tab => apply fun htab => h.no_tab (hu.subset htab)
    case no_control => apply fun c hc => h.no_control c (hu.subset hc)
  case no_escape => apply fun hescape => h.no_escape (hescape.trans hu)
  case no_slash => apply hlast
  case no_sign => apply fun word hword hsign => h.no_sign word hword (hsign.trans hu)

theorem Console.clean_nil :
  console.Clean []
  := by
  constructor
  case toSteady => constructor <;> simp
  case no_escape => simp
  case no_slash => simp
  case no_sign => simp

/-- The text in front of an opening bracket is clean, for there is no backslash before that. -/
theorem Console.Clean.front (h : console.Clean (t ++ u)) (hu : ∀ c ∈ u.head?, c = '[') :
  console.Clean t
  := by
  apply h.of_isInfix (List.prefix_append t u).isInfix
  intro hlast
  obtain ⟨init, rfl⟩ := List.getLast?_eq_some_iff.mp hlast
  cases u with
  | nil =>
      apply h.no_slash
      rw [List.append_nil, hlast]
  | cons c u =>
      obtain rfl := hu c rfl
      apply h.no_escape
      use init, u
      simp

theorem Console.Clean.back (h : console.Clean (t ++ u)) :
  console.Clean u
  := by
  apply h.of_isInfix (List.suffix_append t u).isInfix
  intro hlast
  apply h.no_slash
  rw [List.getLast?_append, hlast]
  rfl

/-- What is in a text without an item that stands in it is in front of that or behind it. -/
theorem isInfix_or_of_not_mem {α : Type} {l l' p : List α} {a : α} (h : p <:+: l ++ a :: l')
    (ha : a ∉ p) :
  p <:+: l ∨ p <:+: l'
  := by
  induction l with
  | nil =>
      obtain hprefix | hinfix := List.infix_cons_iff.mp h
      · left
        cases p with
        | nil => apply List.nil_infix
        | cons b p =>
            obtain ⟨rfl, -⟩ := List.cons_prefix_cons.mp hprefix
            exact absurd List.mem_cons_self ha
      · apply Or.inr hinfix
  | cons b l ih =>
      obtain hprefix | hinfix := List.infix_cons_iff.mp h
      · left
        obtain hshort | ⟨more, rfl⟩ :=
          List.prefix_or_prefix_of_prefix hprefix (List.prefix_append (b :: l) (a :: l'))
        · apply hshort.isInfix
        · have hmore := (List.prefix_append_right_inj (b :: l)).mp hprefix
          cases more with
          | nil =>
              rw [List.append_nil]
          | cons c more =>
              obtain ⟨rfl, -⟩ := List.cons_prefix_cons.mp hmore
              simp at ha
      · obtain hl | hl' := ih hinfix
        · apply Or.inl (List.infix_cons hl)
        · apply Or.inr hl'

/-- Clean texts with a space between them are clean. -/
theorem Console.Clean.append_space (hconsole : console.ReadsTags) (ht : console.Clean t)
    (hu : console.Clean u) :
  console.Clean (t ++ ' ' :: u)
  := by
  constructor
  case toSteady =>
    constructor
    case no_tab => simp [ht.no_tab, hu.no_tab]
    case no_control =>
      rw [List.forall_mem_append, List.forall_mem_cons]
      use ht.no_control, rfl, hu.no_control
  case no_escape =>
    intro hescape
    obtain hescape | hescape := isInfix_or_of_not_mem hescape (by decide)
    · apply ht.no_escape hescape
    · apply hu.no_escape hescape
  case no_slash =>
    rw [List.getLast?_append, List.getLast?_cons]
    cases hlast : u.getLast? with
    | none => simp
    | some c => simpa [hlast] using hu.no_slash
  case no_sign =>
    intro word hword hsign
    have hspace : ' ' ∉ ':' :: word ++ [':'] := by simp [hconsole.no_space word hword]
    obtain hsign | hsign := isInfix_or_of_not_mem hsign hspace
    · apply ht.no_sign word hword hsign
    · apply hu.no_sign word hword hsign

end Clean

/-! ### Clean texts as messages with tags -/

section Legible

variable {console : Console} {m : Marked} {a t tag : Text}

theorem Console.Clean.literal (h : console.Clean t) (hopening : '[' ∉ t) :
  console.Literal t
  := ⟨h, untagged_of_not_mem hopening⟩

/-- Without brackets only signs are left to be taken for something else. -/
theorem Console.literal_of_unbracketed (h : Unbracketed t) (hlast : t.getLast? ≠ some '\\')
    (hsign : ∀ word, console.isSign word = true → ¬ ':' :: word ++ [':'] <:+: t) :
  console.Literal t
  := by
  apply Console.Clean.literal _ h.no_opening
  constructor
  case toSteady => apply h.steady
  case no_escape => apply fun hescape => h.no_opening (hescape.subset (by simp))
  case no_slash => apply hlast
  case no_sign => apply hsign

theorem Console.Legible.behind (hm : console.Legible m) (ha : console.Literal a)
    (htag : IsTag tag) :
  console.Legible (m.behind a tag)
  := by
  constructor
  case front => apply ha
  case rest =>
    rw [Marked.behind, List.forall_mem_cons]
    use ⟨htag, hm.front⟩, hm.rest

/-- A message goes on to the left with a character that begins no tag. -/
theorem Console.Legible.cons {c : Char} (hm : console.Legible m)
    (hclean : console.Clean (c :: m.text)) (htag : c = '[' → tagAt? m.text = none) :
  console.Legible ⟨c :: m.front, m.rest⟩
  := by
  constructor
  case front =>
    constructor
    case toClean =>
      apply Console.Clean.front (u := Marked.written m.rest) hclean (Marked.head?_written m.rest)
    case untagged =>
      apply untagged_cons_iff.mpr ⟨?_, hm.front.untagged⟩
      intro hc
      cases hfront : tagAt? m.front with
      | none => rfl
      | some tag =>
          obtain ⟨hisTag, hprefix⟩ := tagAt?_eq_some_iff.mp hfront
          have htext : tagAt? m.text = some tag :=
            tagAt?_eq_some_iff.mpr ⟨hisTag, hprefix.trans (List.prefix_append _ _)⟩
          rw [htag hc] at htext
          contradiction
  case rest => apply hm.rest

/-- Every clean text can be read as words between its tags. -/
theorem Console.Clean.exists_legible (h : console.Clean t) :
  ∃ m, console.Legible m ∧ m.text = t
  := by
  induction hlength : t.length using Nat.strong_induction_on generalizing t with
  | h n ih =>
      subst hlength
      cases t with
      | nil => exact ⟨⟨[], []⟩, ⟨h.literal (by simp), by simp⟩, rfl⟩
      | cons c t =>
          by_cases htag : c = '[' ∧ ∃ tag, tagAt? t = some tag
          · obtain ⟨rfl, tag, htag⟩ := htag
            obtain ⟨hisTag, back, rfl⟩ := tagAt?_eq_some_iff.mp htag
            have hback : console.Clean back := Console.Clean.back (t := '[' :: (tag ++ [']'])) h
            obtain ⟨m, hm, rfl⟩ := ih back.length (by simp; omega) hback rfl
            use m.behind [] tag, hm.behind (Console.clean_nil.literal (by simp)) hisTag
            rw [Marked.text_behind]
            rfl
          · obtain ⟨m, hm, rfl⟩ := ih t.length (by simp) (h.back (t := [c])) rfl
            refine ⟨⟨c :: m.front, m.rest⟩, hm.cons h ?_, rfl⟩
            intro hc
            rw [Option.eq_none_iff_forall_not_mem]
            intro tag hmem
            apply htag ⟨hc, tag, hmem⟩

end Legible

/-! ### Messages with a coloured beginning -/

section Colored

variable {console : Console} {m : Marked} {a t shown : Text}

/-- A message whose beginning is red. -/
def Marked.red (m : Marked) (a : Text) : Marked := (m.behind a "/").behind [] "red"

theorem isTag_red :
  IsTag ("red" : Text)
  := by
  constructor
  case begins =>
    use 'r', ['e', 'd'], rfl
    rfl
  case no_opening => decide
  case no_closing => decide

theorem isTag_closing {name : Text} (h : Lettered name) :
  IsTag ('/' :: name)
  := by
  constructor
  case begins =>
    use '/', name, rfl
    rfl
  case no_opening =>
    rw [List.mem_cons, not_or]
    use by decide, fun hmem => absurd (h _ hmem).1 (by decide)
  case no_closing =>
    rw [List.mem_cons, not_or]
    use by decide, fun hmem => absurd (h _ hmem).1 (by decide)

theorem text_red (m : Marked) (a : Text) :
  (m.red a).text = Action.colored "red" a m.text
  := by
  simp [Marked.red, Action.colored, bracketed]

theorem words_red (m : Marked) (a : Text) :
  (m.red a).words = a ++ m.words
  := by
  simp [Marked.red]

theorem Console.Legible.red (hm : console.Legible m) (ha : console.Literal a) :
  console.Legible (m.red a)
  := by
  have hclosing : IsTag ['/'] := isTag_closing (by decide)
  have hplain := hm.behind ha hclosing
  apply hplain.behind (Console.clean_nil.literal (by simp)) isTag_red

theorem paired_red :
  Paired ["red", "/"]
  := by
  apply Paired.cons _ _ .nil <;> decide

/-- Behind a red beginning the words of a text show, if anything does. -/
theorem Console.ReadsTags.show?_red_eq (hconsole : console.ReadsTags) (hm : console.Legible m)
    (ha : console.Literal a)
    (h : console.show? (Action.colored "red" a m.text) = .ok shown) :
  shown = a ++ m.words
  := by
  rw [← words_red]
  apply hconsole.leaves_out _ _ (hm.red ha)
  rw [text_red, h]

/-- A clean text behind a red beginning shows as it is exactly if it has no tag. -/
theorem Console.ReadsTags.show?_red_iff (hconsole : console.ReadsTags) (ha : console.Literal a)
    (ht : console.Clean t) :
  console.show? (Action.colored "red" a t) = .ok (a ++ t) ↔ Untagged t
  := by
  constructor
  · intro h
    obtain ⟨m, hm, rfl⟩ := ht.exists_legible
    have hwords := List.append_cancel_left (hconsole.show?_red_eq hm ha h)
    have hrest := Marked.rest_eq_nil_of_words_eq hwords.symm
    rw [Marked.text, hrest, Marked.written, List.flatMap_nil, List.append_nil]
    apply hm.front.untagged
  · intro h
    let m : Marked := ⟨t, []⟩
    have htext : m.text = t := List.append_nil t
    have hm : console.Legible m := ⟨⟨ht, h⟩, by simp [m]⟩
    obtain ⟨shown, hshown⟩ := hconsole.shows (m.red a) (hm.red ha) paired_red
    rw [text_red] at hshown
    obtain rfl := hconsole.show?_red_eq hm ha hshown
    rw [← htext, hshown]
    simp [m, Marked.words, Marked.text, Marked.written]

/-- A clean text whose first tag closes a style cannot be shown behind a red beginning. -/
theorem Console.ReadsTags.show?_red_error (hconsole : console.ReadsTags) (ha : console.Literal a)
    (ht : console.Clean t) (h : ClosesFirst t) :
  ∃ e, console.show? (Action.colored "red" a t) = .error e
  := by
  obtain ⟨front, name, back, rfl, hfront, hname⟩ := h
  have hback : console.Clean back := (ht.back).back
  have hfront' : console.Literal front := ⟨ht.front (by simp [bracketed]), hfront⟩
  obtain ⟨m, hm, rfl⟩ := hback.exists_legible
  have hlegible := hm.behind hfront' (isTag_closing hname)
  rw [← Marked.text_behind, ← text_red]
  apply hconsole.refuses _ (hlegible.red ha)
  use ["red", "/"], name, m.tags, rfl, paired_red

/-- What shows of a text of one line is one line. -/
theorem Console.ReadsTags.newline_not_mem (hconsole : console.ReadsTags) (ha : console.Literal a)
    (ht : console.Clean t) (hline : '\n' ∉ a ++ t)
    (h : console.show? (Action.colored "red" a t) = .ok shown) :
  '\n' ∉ shown
  := by
  obtain ⟨m, hm, rfl⟩ := ht.exists_legible
  obtain rfl := hconsole.show?_red_eq hm ha h
  intro hmem
  apply hline ((m.words_sublist.append_left a).subset hmem)

end Colored

end BoxDiagram
