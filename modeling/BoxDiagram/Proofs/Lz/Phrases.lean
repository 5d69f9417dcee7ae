import BoxDiagram.Lz.Compress
import BoxDiagram.Proofs.Lz.Bits

/-!
# Expanding what was compressed

The reader makes the phrases that the writer has made, in the same order and one step behind.
When the writer names a phrase, the reader therefore knows it, or it is the very next one, which
is the previous phrase and its own first unit again.  So compressed text stands for the low
sixteen bits of the characters of the text, and for nothing less when no character has more.
-/

namespace BoxDiagram.Lz

/-! ### Numbers of phrases -/

variable {phrases : Array (List Code)} {w : List Code} {n : Nat}

/-- A number is that of a phrase. -/
structure Names (phrases : Array (List Code)) (n : Nat) (w : List Code) : Prop where
  first_le : firstPhrase ≤ n
  getElem? : phrases[n - firstPhrase]? = some w

theorem Names.lt (h : Names phrases n w) :
  n - firstPhrase < phrases.size
  := by
  obtain ⟨hlt, -⟩ := Array.getElem?_eq_some_iff.mp h.getElem?
  apply hlt

theorem Names.push (h : Names phrases n w) (u : List Code) :
  Names (phrases.push u) n w
  := by
  use h.first_le
  rw [Array.getElem?_push, if_neg (Nat.ne_of_lt h.lt), h.getElem?]

theorem Names.withUnit (h : Names phrases n w) (item : Item) :
  Names (withUnit phrases item) n w
  := by
  cases item with
  | unit code => apply h.push
  | phrase number => apply h

theorem names_last (phrases : Array (List Code)) (w : List Code) :
  Names (phrases.push w) (phrases.size + firstPhrase) w
  := by
  use Nat.le_add_left _ _
  rw [Nat.add_sub_cancel, Array.getElem?_push_size]

/-- A number after one phrase more is that of an older phrase or of the new one. -/
theorem Names.of_push {u : List Code} (h : Names (phrases.push u) n w) :
  Names phrases n w ∨ (n = phrases.size + firstPhrase ∧ w = u)
  := by
  have hget := h.getElem?
  rw [Array.getElem?_push] at hget
  split at hget
  · next hn =>
    right
    have hle := h.first_le
    use by omega
    simpa using hget.symm
  · left
    use h.first_le

/-! ### The phrases of the writer -/

variable {d : Phrases} {p q : Phrase} {c : Char}

/-- The numbers that the writer knows are those of phrases. -/
structure Spelled (phrases : Array (List Code)) (d : Phrases) : Prop where
  next : d.next = phrases.size + firstPhrase
  characters : ∀ code number, d.characters[code]? = some number →
    Names phrases number [code % 0x10000]
  longer : ∀ front code number, d.longer[(front, code)]? = some number →
    d.characters[code]? ≠ none
      ∧ ∃ w, Names phrases front w ∧ Names phrases number (w ++ [code % 0x10000])

theorem spelled_empty :
  Spelled #[] .empty
  := by
  constructor
  · rfl
  · intro code number h
    simp [Phrases.empty] at h
  · intro front code number h
    simp [Phrases.empty] at h

theorem Spelled.longer_eq_none (h : Spelled phrases d) (code : Nat) :
  d.longer[(d.next, code)]? = none
  := by
  cases hlonger : d.longer[(d.next, code)]? with
  | none => rfl
  | some number =>
      obtain ⟨-, w, hfront, -⟩ := h.longer _ _ _ hlonger
      have hlt := hfront.lt
      rw [h.next, Nat.add_sub_cancel] at hlt
      omega

/-- What a phrase says to the reader. -/
def Phrase.item (p : Phrase) : Item :=
  match p.fresh with
  | some c => .unit (codeOf c)
  | none => .phrase p.number

theorem Phrase.token_item (p : Phrase) :
  p.token.item = some p.item
  := by
  rw [Phrase.token, Phrase.item]
  cases p.fresh <;> rfl

/-- A single character that has a number leaves the phrases as they are. -/
theorem Phrases.single_known (h : d.characters[c.toNat]? = some n) :
  d.single c = (⟨n, none⟩, d)
  := by
  rw [Phrases.single, h]

/-- A single character without a number gets the next one. -/
theorem Phrases.single_new (h : d.characters[c.toNat]? = none) :
  d.single c = (⟨d.next, some c⟩,
    { d with characters := d.characters.insert c.toNat d.next, next := d.next + 1 })
  := by
  rw [Phrases.single, h]

/-- A single character is a phrase, and a new one unless it had a number already. -/
theorem Spelled.single (h : Spelled phrases d) (c : Char) :
  Spelled (withUnit phrases (d.single c).1.item) (d.single c).2
    ∧ Names (withUnit phrases (d.single c).1.item) (d.single c).1.number [codeOf c]
    ∧ (d.single c).2.longer = d.longer
    ∧ (d.single c).2.characters[c.toNat]? ≠ none
  := by
  cases hc : d.characters[c.toNat]? with
  | some number =>
      rw [Phrases.single_known hc]
      refine ⟨h, h.characters _ _ hc, rfl, ?_⟩
      simp [hc]
  | none =>
      rw [Phrases.single_new hc]
      have hlast := names_last phrases [codeOf c]
      rw [← h.next] at hlast
      refine ⟨⟨?next, ?characters, ?longer⟩, hlast, rfl, by simp⟩
      case next =>
        rw [Phrase.item, withUnit, Array.size_push, h.next, Nat.add_right_comm]
      case characters =>
        intro code number hcode
        rw [Std.HashMap.getElem?_insert] at hcode
        split at hcode
        · next heq =>
          obtain rfl := beq_iff_eq.mp heq
          obtain rfl := Option.some.inj hcode
          apply hlast
        · apply (h.characters code number hcode).push
      case longer =>
        intro front code number hlonger
        obtain ⟨hknown, w, hfront, hnumber⟩ := h.longer front code number hlonger
        refine ⟨?_, w, hfront.push _, hnumber.push _⟩
        rw [Std.HashMap.getElem?_insert]
        split
        · simp
        · apply hknown

/-- A phrase and a character that has a number are the next phrase. -/
theorem Spelled.extend (h : Spelled phrases d) (hp : Names phrases p.number w)
    (hc : d.characters[c.toNat]? ≠ none) :
  Spelled (phrases.push (w ++ [codeOf c])) (d.extend p c)
  := by
  constructor
  case next => rw [Phrases.extend, Array.size_push, h.next, Nat.add_right_comm]
  case characters =>
    intro code number hcode
    apply (h.characters code number hcode).push
  case longer =>
    intro front code number hlonger
    rw [Phrases.extend, Std.HashMap.getElem?_insert] at hlonger
    split at hlonger
    · next heq =>
      obtain ⟨rfl, rfl⟩ := Prod.mk.inj (beq_iff_eq.mp heq)
      obtain rfl := Option.some.inj hlonger
      refine ⟨hc, w, hp.push _, ?_⟩
      rw [h.next]
      apply names_last
    · obtain ⟨hknown, w', hfront, hnumber⟩ := h.longer front code number hlonger
      refine ⟨hknown, w', hfront.push _, hnumber.push _⟩

/-! ### Widths -/

/-- The width suits so many phrases: each of their numbers and the next one fit into it. -/
structure Width.Suits (width : Width) (count : Nat) : Prop where
  left_pos : 1 ≤ width.left
  total : count + width.left + firstPhrase = 2 ^ width.bits

theorem Width.Suits.two_le {width : Width} {count : Nat} (h : width.Suits count) :
  2 ≤ width.bits
  := by
  have hpos := h.left_pos
  have htotal := h.total
  apply Nat.le_of_not_lt
  intro hlt
  have hle : 2 ^ width.bits ≤ 2 ^ 1 := Nat.pow_le_pow_right (by decide) (by omega)
  rw [firstPhrase] at htotal
  omega

theorem Width.Suits.lt {width : Width} {count : Nat} (h : width.Suits count) {number : Nat}
    (hn : number ≤ count + firstPhrase) :
  number < 2 ^ width.bits
  := by
  have hpos := h.left_pos
  have htotal := h.total
  omega

theorem Width.Suits.spend {width : Width} {count : Nat} (h : width.Suits count) :
  width.spend.Suits (count + 1)
  := by
  have hpos := h.left_pos
  have htotal := h.total
  rw [Width.spend]
  split
  · constructor
    · apply Nat.one_le_two_pow
    · change count + 1 + 2 ^ width.bits + firstPhrase = 2 ^ (width.bits + 1)
      omega
  · constructor
    · change 1 ≤ width.left - 1
      omega
    · change count + 1 + (width.left - 1) + firstPhrase = 2 ^ width.bits
      omega

/-! ### One step behind -/

/-- After the token of a phrase that spells `w`, with the phrases that the writer has made by then,
the further tokens fit and stand for some units. -/
structure Resumes (phrases : Array (List Code)) (q : Phrase) (w codes : List Code)
    (tokens : List Token) : Prop where
  names : Names phrases q.number w
  fresh : ∀ c ∈ q.fresh, w = [codeOf c]
  fits : ∀ width : Width, width.Suits phrases.size → Fits width tokens
  expands : expandFrom phrases w (tokens.filterMap Token.item) = some codes

/-- The reader finds the phrase that the writer names, and makes the phrase that the writer made
before it. -/
theorem phraseOf_item {previous : List Code} (hprevious : previous ≠ [])
    (h : Names ((withUnit phrases q.item).push (previous ++ w.take 1)) q.number w)
    (hfresh : ∀ c ∈ q.fresh, w = [codeOf c]) :
  phraseOf (withUnit phrases q.item) previous q.item = some w
  := by
  cases hq : q.fresh with
  | some c =>
      rw [Phrase.item, hq, hfresh c hq]
      rfl
  | none =>
      have hitem : q.item = .phrase q.number := by rw [Phrase.item, hq]
      rw [hitem, withUnit] at h
      rw [hitem, withUnit, phraseOf]
      obtain hold | ⟨hlast, hw⟩ := h.of_push
      · rw [hold.getElem?]
      · have hnone : phrases[q.number - firstPhrase]? = none := by simp [hlast]
        have hhead : w.take 1 = previous.take 1 := by
          rw [hw, List.take_append_of_le_length]
          apply List.length_pos_iff.mpr hprevious
        rw [hnone, if_pos (by simpa using hlast), ← hhead, ← hw]

/-- A token whose phrase begins with the unit that the phrase before it was extended by continues
the row of tokens. -/
theorem Resumes.cons {previous codes : List Code} {tokens : List Token}
    (h : Resumes ((withUnit phrases q.item).push (previous ++ w.take 1)) q w codes tokens)
    (hprevious : previous ≠ []) :
  (∀ width : Width, width.Suits phrases.size → Fits width (q.token :: tokens))
    ∧ expandFrom phrases previous ((q.token :: tokens).filterMap Token.item) = some (w ++ codes)
  := by
  constructor
  · intro width hwidth
    have hfits := h.fits
    rw [Array.size_push] at hfits
    rw [Phrase.token]
    cases hq : q.fresh with
    | some c =>
        have hsize : (withUnit phrases q.item).size = phrases.size + 1 := by
          rw [Phrase.item, hq, withUnit, Array.size_push]
        rw [hsize] at hfits
        apply Fits.new c hwidth.two_le
        apply hfits _ hwidth.spend.spend
    | none =>
        have hsize : withUnit phrases q.item = phrases := by rw [Phrase.item, hq, withUnit]
        have hlt := h.names.lt
        rw [Array.size_push] at hlt
        rw [hsize] at hfits hlt
        apply Fits.known hwidth.two_le h.names.first_le
        · apply hwidth.lt
          omega
        · apply hfits _ hwidth.spend
  · rw [List.filterMap_cons_some q.token_item, expandFrom, phraseOf_item hprevious h.names h.fresh,
      Option.bind_eq_bind, Option.bind_some, h.expands]
    rfl

/-! ### Whole texts -/

/-- The writer is matching a phrase that spells `w`; no longer phrase begins with it if it is
new. -/
structure Matching (phrases : Array (List Code)) (d : Phrases) (p : Phrase) (w : List Code) :
    Prop where
  spelled : Spelled phrases d
  names : Names phrases p.number w
  ne_nil : w ≠ []
  fresh : ∀ c ∈ p.fresh, w = [codeOf c]
  unextended : p.fresh ≠ none → ∀ code : Nat, d.longer[(p.number, code)]? = none

/-- A character is a phrase of its own, and no longer phrase begins with it if it is new. -/
theorem Spelled.matching (h : Spelled phrases d) (c : Char) :
  Matching (withUnit phrases (d.single c).1.item) (d.single c).2 (d.single c).1 [codeOf c]
  := by
  obtain ⟨hspelled, hnames, hlonger, -⟩ := h.single c
  refine ⟨hspelled, hnames, by simp, ?fresh, ?unextended⟩
  all_goals
    cases hc : d.characters[c.toNat]? with
    | some number => simp [Phrases.single_known hc]
    | none => simp [Phrases.single_new hc, h.longer_eq_none]

/-- A character that does not extend the phrase is the beginning of the next one. -/
theorem Matching.next (h : Matching phrases d p w) (c : Char) :
  Matching ((withUnit phrases (d.single c).1.item).push (w ++ [codeOf c]))
    ((d.single c).2.extend p c) (d.single c).1 [codeOf c]
  := by
  obtain ⟨hspelled, hnames, -, hknown⟩ := h.spelled.single c
  have hone := h.spelled.matching c
  refine ⟨hspelled.extend (h.names.withUnit _) hknown, hnames.push _, by simp, hone.fresh, ?_⟩
  intro hfresh code
  have hne : p.number ≠ (d.single c).1.number := by
    cases hc : d.characters[c.toNat]? with
    | some number => simp [Phrases.single_known hc] at hfresh
    | none =>
        have hlt := h.names.lt
        have hnext := h.spelled.next
        rw [Phrases.single_new hc]
        change p.number ≠ d.next
        omega
  rw [Phrases.extend, Std.HashMap.getElem?_insert, if_neg (by simp [hne])]
  apply hone.unextended hfresh

/-- A phrase is extended by a character only if the character has a number. -/
theorem Matching.extended (h : Matching phrases d p w) {c : Char}
    (hn : (d.single c).2.longer[(p.number, c.toNat)]? = some n) :
  (d.single c).2 = d ∧ p.fresh = none ∧ Matching phrases d ⟨n, none⟩ (w ++ [codeOf c])
  := by
  obtain ⟨-, -, hlonger, -⟩ := h.spelled.single c
  rw [hlonger] at hn
  obtain ⟨hknown, w', hfront, hnumber⟩ := h.spelled.longer _ _ _ hn
  obtain rfl : w = w' := by simpa [h.names.getElem?] using hfront.getElem?
  refine ⟨?same, ?old, ⟨h.spelled, hnumber, by simp, by simp, by simp⟩⟩
  case same =>
    obtain ⟨number, hc⟩ := Option.ne_none_iff_exists'.mp hknown
    rw [Phrases.single_known hc]
  case old =>
    cases hfresh : p.fresh with
    | none => rfl
    | some c' =>
        rw [h.unextended (by simp [hfresh])] at hn
        contradiction

/-- The tokens of a text begin with that of a phrase, after which they stand for the rest of the
text. -/
theorem Matching.resumes (h : Matching phrases d p w) (t : Text) :
  ∃ q w' codes tokens, tokensFrom d p t = q.token :: tokens ∧ q.fresh = p.fresh ∧ w <+: w'
    ∧ w ++ t.map codeOf = w' ++ codes ∧ Resumes phrases q w' codes tokens
  := by
  induction t generalizing phrases d p w with
  | nil =>
      use p, w, [], [.stop]
      refine ⟨rfl, rfl, List.prefix_refl w, by simp, h.names, h.fresh, ?fits, rfl⟩
      intro width hwidth
      apply Fits.stop hwidth.two_le
  | cons c t ih =>
      rw [tokensFrom]
      simp only
      cases hn : (d.single c).2.longer[(p.number, c.toNat)]? with
      | some number =>
          obtain ⟨hsame, hold, hmatching⟩ := h.extended hn
          obtain ⟨q, w', codes, tokens, htokens, hfresh, hprefix, hcodes, hresumes⟩ :=
            ih hmatching
          use q, w', codes, tokens
          refine ⟨?tokens, by rw [hfresh, hold], ?begins, ?codes, hresumes⟩
          case tokens =>
            rw [hsame]
            apply htokens
          case begins => apply List.IsPrefix.trans (List.prefix_append w _) hprefix
          case codes =>
            rw [List.map_cons, ← hcodes, List.append_assoc, List.singleton_append]
      | none =>
          obtain ⟨q, w', codes, tokens, htokens, hfresh, ⟨tail, hw'⟩, hcodes, hresumes⟩ :=
            ih (h.next c)
          have hitem : withUnit phrases (d.single c).1.item = withUnit phrases q.item := by
            rw [Phrase.item, Phrase.item, hfresh]
            cases (d.single c).1.fresh <;> rfl
          have hhead : [codeOf c] = w'.take 1 := by rw [← hw']; rfl
          rw [hitem, hhead] at hresumes
          obtain ⟨hfits, hexpands⟩ := hresumes.cons h.ne_nil
          use p, w, w' ++ codes, q.token :: tokens
          refine ⟨by rw [htokens], rfl, List.prefix_refl w, ?_, h.names, h.fresh, hfits, hexpands⟩
          rw [List.map_cons, ← hcodes, List.singleton_append]

/-- The tokens of a text fit, and the reader expands them to the units of the text. -/
theorem tokensOf_expands (t : Text) :
  Fits .initial (tokensOf t)
    ∧ expandItems ((tokensOf t).filterMap Token.item) = some (t.map codeOf)
  := by
  cases t with
  | nil =>
      constructor
      · apply Fits.stop (by decide)
      · rfl
  | cons c t =>
      have hnew : Phrases.empty.characters[c.toNat]? = none := by simp [Phrases.empty]
      have hmatching : Matching #[[codeOf c]] (Phrases.empty.single c).2
          (Phrases.empty.single c).1 [codeOf c] := by
        have hsingle := spelled_empty.matching c
        rw [Phrases.single_new hnew] at hsingle ⊢
        apply hsingle
      obtain ⟨q, w, codes, tokens, htokens, hfresh, -, hcodes, hresumes⟩ := hmatching.resumes t
      have hq : q.fresh = some c := by rw [hfresh, Phrases.single_new hnew]
      have hall : tokensOf (c :: t) = .new c :: tokens := by
        have htoken : q.token = .new c := by rw [Phrase.token, hq]
        rw [← htoken, ← htokens]
        rfl
      obtain rfl : w = [codeOf c] := hresumes.fresh c hq
      obtain rfl : t.map codeOf = codes := by simpa using hcodes
      have hitems : (Token.new c :: tokens).filterMap Token.item
          = .unit (codeOf c) :: tokens.filterMap Token.item := rfl
      have hsuits : Width.initial.spend.spend.Suits 1 := ⟨by decide, by decide⟩
      rw [hall]
      constructor
      · apply Fits.new c (by decide) (hresumes.fits _ hsuits)
      · rw [hitems, expandItems, hresumes.expands]
        rfl

/-- Compressed text stands for the low sixteen bits of the characters of the text. -/
theorem expand_compress (t : Text) :
  expand (compress t) = some (t.map codeOf)
  := by
  obtain ⟨hfits, hexpands⟩ := tokensOf_expands t
  obtain ⟨padding, hletters⟩ :=
    bitsOfLetters_lettersOfBits (bitsOfTokens .initial (tokensOf t))
  have hfuel : (tokensOf t).length
      ≤ (bitsOfTokens .initial (tokensOf t) ++ padding).length := by
    rw [List.length_append]
    apply Nat.le_add_right_of_le hfits.length_le
  rw [expand, compress, hletters]
  simp only [Option.bind_eq_bind, Option.bind_some]
  rw [itemsOfBits_bitsOfTokens hfits hfuel, Option.bind_some, hexpands]

end BoxDiagram.Lz
