import BoxDiagram.Command.Run
import BoxDiagram.Proofs.Command.Consoles
import BoxDiagram.Proofs.Results
import BoxDiagram.Proofs.Text.Pieces

/-!
# The simple console reads tags

What is known of consoles holds of the simple one.  It goes through a message character by
character: a text between two tags shows as it is, and a tag opens a style, closes one or is
refused.  In the end tabs and some controls are taken out, and there are none in what is known to
show.
-/

namespace BoxDiagram.Markup

/-! ### Tabs and controls -/

theorem expandTabs_of_not_mem {t : Text} (h : '\t' ∉ t) :
  expandTabs t = t
  := by
  have hlines : (t.splitWhere (· == '\n')).map expandLine = t.splitWhere (· == '\n') := by
    apply (List.map_congr_left ?_).trans (List.map_id _)
    intro line hline
    have htab : '\t' ∉ line := by
      intro hmem
      apply h ((Text.mem_splitWhere (· == '\n') t '\t').mp ⟨line, hline, hmem⟩).1
    simp [expandLine, Text.splitWhere_of_not_mem htab]
  rw [expandTabs, hlines, Text.join_splitWhere]

/-- A steady text shows as it is. -/
theorem visible_of_steady {t : Text} (h : Steady t) :
  visible t = t
  := by
  have hall : t.filter (fun c => !isHidden c) = t := by
    rw [List.filter_eq_self]
    intro c hc
    simp [h.no_control c hc]
  rw [visible, hall, expandTabs_of_not_mem h.no_tab]

/-! ### Texts between tags -/

section Showing

variable {position slashes : ℕ} {styles styles' : List Text} {c : Char} {tag t u m shown : Text}

theorem showFrom_other (hc : c ≠ '\\') (hopening : c ≠ '[') :
  showFrom position slashes 0 styles (c :: t)
    = (List.replicate slashes '\\' ++ c :: ·) <$> showFrom (position + 1) 0 0 styles t
  := by
  simp [showFrom, hc, hopening]

/-- A bracket that begins no tag shows. -/
theorem showFrom_bracket (h : tagAt? t = none) :
  showFrom position 0 0 styles ('[' :: t) = ('[' :: ·) <$> showFrom (position + 1) 0 0 styles t
  := by
  simp [showFrom, h]

/-- A text without tags shows as it is in front of the end or of a tag. -/
theorem showFrom_append (ht : Untagged t) (hescape : ¬ ['\\', '['] <:+: t)
    (hlast : t.getLast? ≠ some '\\') (hu : ∀ c ∈ u.head?, c = '[') (hempty : t = [] → slashes = 0)
    (hhead : 0 < slashes → t.head? ≠ some '[') :
  showFrom position slashes 0 styles (t ++ u)
    = (List.replicate slashes '\\' ++ t ++ ·) <$> showFrom (position + t.length) 0 0 styles u
  := by
  induction t generalizing position slashes with
  | nil =>
      obtain rfl := hempty rfl
      simp
  | cons c t ih =>
      obtain ⟨htag, hrest⟩ := untagged_cons_iff.mp ht
      have hescape' : ¬ ['\\', '['] <:+: t := fun h => hescape (List.infix_cons h)
      have hlast' : t.getLast? ≠ some '\\' := by
        intro h
        apply hlast
        simp [List.getLast?_cons, h]
      have hposition : position + 1 + t.length = position + (c :: t).length := by
        rw [List.length_cons]
        omega
      rw [List.cons_append]
      by_cases hc : c = '\\'
      · subst hc
        have hne : t ≠ [] := by
          rintro rfl
          apply hlast rfl
        have hnext : t.head? ≠ some '[' := by
          intro h
          apply hescape
          obtain ⟨back, rfl⟩ := List.head?_eq_some_iff.mp h
          use [], back
          rfl
        change showFrom (position + 1) (slashes + 1) 0 styles (t ++ u) = _
        rw [ih hrest hescape' hlast' (absurd · hne) fun _ => hnext, hposition]
        simp [List.replicate_succ']
      · have hgo : showFrom (position + 1) 0 0 styles (t ++ u)
            = (t ++ ·) <$> showFrom (position + (c :: t).length) 0 0 styles u := by
          rw [ih hrest hescape' hlast' (fun _ => rfl) (by omega), hposition]
          rfl
        by_cases hopening : c = '['
        · subst hopening
          have hslashes : slashes = 0 := by
            by_contra hne
            apply hhead (Nat.pos_of_ne_zero hne) rfl
          subst hslashes
          rw [showFrom_bracket (tagAt?_append_eq_none (htag rfl) hu), hgo, Functor.map_map]
          rfl
        · rw [showFrom_other hc hopening, hgo, Functor.map_map]
          simp

/-- A literal text shows as it is in front of the end or of a tag. -/
theorem showFrom_literal (ht : console.Literal t) (hu : ∀ c ∈ u.head?, c = '[') :
  showFrom position 0 0 styles (t ++ u) = (t ++ ·) <$> showFrom (position + t.length) 0 0 styles u
  := by
  rw [showFrom_append ht.untagged ht.no_escape ht.no_slash hu (fun _ => rfl) (by omega)]
  rfl

/-! ### Tags -/

theorem showFrom_skipped :
  showFrom position 0 t.length styles (t ++ m) = showFrom (position + t.length) 0 0 styles m
  := by
  induction t generalizing position with
  | nil => rfl
  | cons c t ih =>
      have hposition : position + (c :: t).length = position + 1 + t.length := by
        rw [List.length_cons]
        omega
      rw [hposition, ← ih]
      rfl

/-- A tag is refused, or it is left out and changes the styles. -/
theorem showFrom_bracketed (htag : IsTag tag) :
  showFrom position 0 0 styles (bracketed tag ++ m)
    = match applyTag position tag styles with
      | .error e => .error e
      | .ok styles' => showFrom (position + tag.length + 2) 0 0 styles' m
  := by
  have hat : tagAt? (tag ++ [']'] ++ m) = some tag := tagAt?_eq_some_iff.mpr ⟨htag, m, rfl⟩
  have hlength : tag.length + 1 = (tag ++ [']']).length := by simp
  have hposition : position + 1 + (tag ++ [']']).length = position + tag.length + 2 := by
    simp
    omega
  change showFrom position 0 0 styles ('[' :: (tag ++ [']'] ++ m)) = _
  simp only [showFrom, beq_iff_eq, Char.reduceEq, ↓reduceIte, hat, Nat.zero_mod, Nat.zero_div,
    Nat.zero_ne_one]
  cases applyTag position tag styles with
  | error e => rfl
  | ok styles' =>
      simp only
      rw [hlength, showFrom_skipped, hposition]
      simp

/-- Of a message that shows, the tags are left out. -/
theorem showFrom_written {rest : List (Text × Text)}
    (hrest : ∀ p ∈ rest, IsTag p.1 ∧ console.Literal p.2)
    (h : showFrom position 0 0 styles (Marked.written rest) = .ok shown) :
  shown = rest.flatMap (·.2)
  := by
  induction rest generalizing position styles shown with
  | nil => exact (Except.ok.inj h).symm
  | cons p rest ih =>
      obtain ⟨⟨htag, hword⟩, hrest⟩ := List.forall_mem_cons.mp hrest
      rw [Marked.written_cons, showFrom_bracketed htag] at h
      cases happly : applyTag position p.1 styles with
      | error e =>
          rw [happly] at h
          contradiction
      | ok styles' =>
          rw [happly] at h
          simp only at h
          rw [showFrom_literal hword (Marked.head?_written rest)] at h
          obtain ⟨back, hback, rfl⟩ := map_eq_ok h
          rw [ih hrest hback, List.flatMap_cons]

/-! ### Styles -/

/-- A name of letters is the name of a tag. -/
theorem tagName_of_lettered {name : Text} (h : Lettered name) :
  tagName name = name
  := by
  rw [tagName, List.takeWhile_eq_self_iff]
  intro c hc
  have hletter := (h c hc).1
  rw [bne_iff_ne]
  rintro rfl
  contradiction

/-- A name of letters opens a style. -/
theorem applyTag_name {name : Text} (hne : name ≠ []) (h : Lettered name) :
  applyTag position name styles = .ok (styleName name :: styles)
  := by
  obtain ⟨c, name, rfl⟩ := List.exists_cons_of_ne_nil hne
  have hc : c ≠ '/' := by
    rintro rfl
    have hletter := (h '/' List.mem_cons_self).1
    contradiction
  unfold applyTag
  rw [tagName_of_lettered h]
  split
  · next heq => exact absurd (List.cons.inj heq).1 hc
  · rfl

/-- A closing tag is refused if no style is open. -/
theorem applyTag_closing (name : Text) :
  ∃ e, applyTag position ('/' :: name) [] = .error e
  := by
  have hname : tagName ('/' :: name) = '/' :: tagName name := rfl
  rw [applyTag, hname]
  simp only
  split
  · refine ⟨_, rfl⟩
  · simp

/-- Tags that open styles and close them are left out, and no style is open behind them. -/
theorem showFrom_paired {tags : List Text} (htags : Paired tags) {front : List (Text × Text)}
    (hfront : front.map (·.1) = tags) (hlegible : ∀ p ∈ front, IsTag p.1 ∧ console.Literal p.2)
    (back : List (Text × Text)) :
  ∃ position', showFrom position 0 0 [] (Marked.written (front ++ back))
    = (front.flatMap (·.2) ++ ·) <$> showFrom position' 0 0 [] (Marked.written back)
  := by
  induction htags generalizing position front with
  | nil =>
      obtain rfl := List.map_eq_nil_iff.mp hfront
      use position
      simp
  | @cons name tags hne hletters _ ih =>
      obtain ⟨⟨_, styled⟩, closing, rfl, rfl, hmap⟩ := List.map_eq_cons_iff.mp hfront
      obtain ⟨⟨_, plain⟩, front, rfl, rfl, hmap'⟩ := List.map_eq_cons_iff.mp hmap
      obtain ⟨hopen, hrest⟩ := List.forall_mem_cons.mp hlegible
      obtain ⟨hclose, hrest⟩ := List.forall_mem_cons.mp hrest
      have hend (position : ℕ) (style : Text) : applyTag position ['/'] [style] = .ok [] := rfl
      obtain ⟨position', hback⟩ := ih hmap' hrest
      use position'
      rw [List.cons_append, Marked.written_cons, showFrom_bracketed hopen.1,
        applyTag_name hne hletters]
      simp only
      rw [showFrom_literal hopen.2 (Marked.head?_written _), List.cons_append,
        Marked.written_cons, showFrom_bracketed hclose.1]
      simp only [hend]
      rw [showFrom_literal hclose.2 (Marked.head?_written _), hback]
      simp [Functor.map_map]

/-! ### Messages -/

/-- The front of a message shows, and then its tags are gone through. -/
theorem show?_text (m : Marked) (hm : console.Legible m) :
  ∃ position, show? m.text
    = (fun shown => visible (m.front ++ shown)) <$> showFrom position 0 0 [] (Marked.written m.rest)
  := by
  rw [show?, Marked.text, showFrom_literal hm.front (Marked.head?_written m.rest), Functor.map_map]
  refine ⟨_, rfl⟩

theorem steady_words {m : Marked} (hm : console.Legible m) :
  Steady m.words
  := by
  have hall : ∀ {d : Char}, d ∈ m.words → ∃ word, console.Literal word ∧ d ∈ word := by
    intro d hd
    obtain hd | hd := List.mem_append.mp hd
    · use m.front, hm.front
    · obtain ⟨p, hp, hd⟩ := List.mem_flatMap.mp hd
      use p.2, (hm.rest p hp).2
  constructor
  case no_tab =>
    intro htab
    obtain ⟨word, hword, hmem⟩ := hall htab
    apply hword.no_tab hmem
  case no_control =>
    intro d hd
    obtain ⟨word, hword, hmem⟩ := hall hd
    apply hword.no_control d hmem

end Showing

/-- What is known of consoles holds of the simple one. -/
theorem readsTags_console :
  console.ReadsTags
  := by
  constructor
  case leaves_out =>
    intro m shown hm h
    obtain ⟨position, hshow⟩ := show?_text m hm
    change show? m.text = .ok shown at h
    rw [hshow] at h
    obtain ⟨words, hwords, rfl⟩ := map_eq_ok h
    rw [showFrom_written hm.rest hwords]
    apply visible_of_steady (steady_words hm)
  case shows =>
    intro m hm hpaired
    obtain ⟨position, hshow⟩ := show?_text m hm
    obtain ⟨position', hpair⟩ := showFrom_paired hpaired rfl hm.rest []
    change ∃ shown, show? m.text = .ok shown
    rw [List.append_nil] at hpair
    rw [hshow, hpair]
    refine ⟨_, rfl⟩
  case refuses =>
    rintro m hm ⟨front, name, back, htags, hpaired, -⟩
    obtain ⟨position, hshow⟩ := show?_text m hm
    obtain ⟨front, rest, hrest, rfl, hback⟩ := List.map_eq_append_iff.mp htags
    obtain ⟨⟨_, word⟩, back, rfl, rfl, -⟩ := List.map_eq_cons_iff.mp hback
    rw [hrest] at hshow
    have hlegible := hm.rest
    rw [hrest, List.forall_mem_append] at hlegible
    obtain ⟨position', hpair⟩ := showFrom_paired hpaired rfl hlegible.1 ((_, word) :: back)
    have hclosing := (hlegible.2 _ List.mem_cons_self).1
    obtain ⟨e, he⟩ := applyTag_closing name
    use e
    change show? m.text = .error e
    rw [hshow, hpair, Marked.written_cons, showFrom_bracketed hclosing, he]
    rfl
  case no_space =>
    intro word hword
    contradiction

/-- The simple console knows no signs, so it takes nothing in a text without brackets for something
else. -/
theorem literal_console {t : Text} (h : Unbracketed t) (hlast : t.getLast? ≠ some '\\') :
  console.Literal t
  := by
  apply Console.literal_of_unbracketed h hlast
  intro word hword
  contradiction

end BoxDiagram.Markup
