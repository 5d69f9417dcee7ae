import BoxDiagram.Proofs.Xml.References

/-!
# Reading back what is written

An element without elements in it is read back with its name, its attributes and its text if its
names are names, and an element around such elements is read back with these in order.
-/

namespace BoxDiagram

namespace Xml

/-! ### Tags -/

theorem skipBlanks_of_head {t : Text} (h : ∀ c ∈ t.head?, isBlank c = false) :
  skipBlanks t = t
  := by
  cases t with
  | nil => rfl
  | cons c t => rw [skipBlanks, List.dropWhile_cons_of_neg (by simp [h c rfl])]

/-- The characters that a tag has around its names are in no name. -/
theorem not_mem_of_isName {name : Text} (h : isName name = true) {c : Char}
    (hc : isNameChar c = false) :
  c ∉ name
  := by
  intro hmem
  cases name with
  | nil => contradiction
  | cons d name =>
      rw [isName, Bool.and_eq_true] at h
      obtain rfl | hmem := List.mem_cons.mp hmem
      · rw [isNameChar, h.1] at hc
        contradiction
      · rw [List.all_eq_true.mp h.2 c hmem] at hc
        contradiction

theorem isNameChar_of_mem {name : Text} (h : isName name = true) :
  ∀ c ∈ name, isNameChar c = true
  := by
  intro c hc
  by_contra hnot
  apply not_mem_of_isName h (by simpa using hnot) hc

theorem isBlank_of_isNameChar {c : Char} (h : isNameChar c = true) :
  isBlank c = false
  := by
  rw [Bool.eq_false_iff]
  intro hc
  simp only [isBlank, Bool.or_eq_true, beq_iff_eq] at hc
  obtain ((rfl | rfl) | rfl) | rfl := hc <;> exact absurd h (by decide)

/-- A name is read in front of any character that is in no name. -/
theorem readName_append {name : Text} (h : isName name = true) {t : Text}
    (ht : ∀ c ∈ t.head?, isNameChar c = false) :
  readName (name ++ t) = some (name, t)
  := by
  have htake : List.takeWhile isNameChar t = [] ∧ List.dropWhile isNameChar t = t := by
    cases t with
    | nil => exact ⟨rfl, rfl⟩
    | cons c t =>
        have hc := ht c rfl
        rw [List.takeWhile_cons_of_neg (by simp [hc]), List.dropWhile_cons_of_neg (by simp [hc])]
        use rfl
  rw [readName, List.takeWhile_append_of_pos (isNameChar_of_mem h),
    List.dropWhile_append_of_pos (isNameChar_of_mem h), htake.1, htake.2, List.append_nil, if_pos h]

/-- An attribute as it stands in a tag, without the blank in front. -/
def attributeText (named : Text × Text) : Text :=
  named.1 ++ '=' :: '"' :: named.2.flatMap escapeAttributeChar ++ ['"']

theorem attributes_text_cons (named : Text × Text) (attributes : Attributes) :
  Attributes.text (named :: attributes) = ' ' :: attributeText named ++ Attributes.text attributes
  := rfl

theorem readAttribute_append {named : Text × Text} (h : isName named.1 = true) (t : Text) :
  readAttribute (attributeText named ++ t) = some (named, t)
  := by
  obtain ⟨name, value⟩ := named
  have htext : attributeText (name, value) ++ t
      = name ++ '=' :: ('"' :: (value.flatMap escapeAttributeChar ++ '"' :: t)) := by
    simp [attributeText]
  have htrim : Text.dropEndWhile isBlank name = name := by
    have hlast : ∀ c ∈ name.reverse.head?, isBlank c = false := by
      intro c hc
      apply isBlank_of_isNameChar
      apply isNameChar_of_mem h c (List.mem_reverse.mp (List.mem_of_mem_head? hc))
    rw [Text.dropEndWhile, ← skipBlanks, skipBlanks_of_head hlast, List.reverse_reverse]
  have hvalue : '"' ∉ value.flatMap escapeAttributeChar :=
    not_mem_escapedAttribute (by decide) value
  have hquote : skipBlanks ('"' :: (value.flatMap escapeAttributeChar ++ '"' :: t))
      = '"' :: (value.flatMap escapeAttributeChar ++ '"' :: t) := rfl
  rw [readAttribute, htext, Text.cutAt_singleton (not_mem_of_isName h rfl)]
  simp [htrim, show isName name = true from h, hquote, Text.cutAt_singleton hvalue,
    attributeValue?_escaped]

/-- An attribute begins with a character of its name. -/
theorem exists_attributeText {named : Text × Text} (h : isName named.1 = true) :
  ∃ c t, attributeText named = c :: t ∧ isNameChar c = true
  := by
  obtain ⟨name, value⟩ := named
  cases name with
  | nil => contradiction
  | cons c name =>
      refine ⟨c, _, rfl, isNameChar_of_mem h c List.mem_cons_self⟩

/-- The end of a tag, which closes itself or not, and what stands behind it. -/
structure TagEnd (ending : Text) (closed : Bool) (t : Text) : Prop where
  head : ∃ c u, ending = c :: u ∧ isNameChar c = false
  reads : ∀ fuel, readAttributes (fuel + 1) ending = some ([], closed, t)

theorem tagEnd_open (t : Text) :
  TagEnd ('>' :: t) false t
  := by
  constructor
  case head => refine ⟨_, _, rfl, rfl⟩
  case reads =>
    intro fuel
    rfl

theorem tagEnd_closed (t : Text) :
  TagEnd (' ' :: '/' :: '>' :: t) true t
  := by
  constructor
  case head => refine ⟨_, _, rfl, rfl⟩
  case reads =>
    intro fuel
    rfl

variable {ending t : Text} {closed : Bool} {name : Text} {attributes : Attributes}

/-- Attributes are read in front of the end of a tag. -/
theorem readAttributes_append (hending : TagEnd ending closed t)
    (h : ∀ named ∈ attributes, isName named.1 = true) {fuel : Nat}
    (hfuel : attributes.length < fuel) :
  readAttributes fuel (Attributes.text attributes ++ ending) = some (attributes, closed, t)
  := by
  induction attributes generalizing fuel with
  | nil =>
      obtain ⟨fuel, rfl⟩ := Nat.exists_eq_succ_of_ne_zero (Nat.ne_zero_of_lt hfuel)
      apply hending.reads
  | cons named attributes ih =>
      obtain ⟨hnamed, hattributes⟩ := List.forall_mem_cons.mp h
      obtain ⟨fuel, rfl⟩ := Nat.exists_eq_succ_of_ne_zero (Nat.ne_zero_of_lt hfuel)
      have hrest := ih hattributes (Nat.lt_of_succ_lt_succ hfuel)
      have htext : Attributes.text (named :: attributes) ++ ending
          = ' ' :: (attributeText named ++ (Attributes.text attributes ++ ending)) := by
        rw [attributes_text_cons]
        simp
      have hread := readAttribute_append hnamed (Attributes.text attributes ++ ending)
      obtain ⟨c, u, hcu, hc⟩ := exists_attributeText hnamed
      have hskip : ∀ t,
          skipBlanks (' ' :: (attributeText named ++ t)) = attributeText named ++ t := by
        intro t
        have hhead : ∀ d ∈ (attributeText named ++ t).head?, isBlank d = false := by
          rw [hcu]
          rintro d ⟨⟩
          apply isBlank_of_isNameChar hc
        apply skipBlanks_of_head hhead
      rw [readAttributes, htext, hskip]
      split
      · next heq =>
        rw [hcu, List.cons_append, List.cons_eq_cons] at heq
        obtain ⟨rfl, -⟩ := heq
        contradiction
      · next heq =>
        rw [hcu, List.cons_append, List.cons_eq_cons] at heq
        obtain ⟨rfl, -⟩ := heq
        contradiction
      · simp [hread, hrest, isBlank]

theorem length_le_text (attributes : Attributes) :
  attributes.length ≤ (Attributes.text attributes).length
  := by
  induction attributes with
  | nil => apply Nat.le_refl
  | cons named attributes ih =>
      rw [attributes_text_cons, List.length_append, List.length_cons, List.length_cons]
      omega

/-- The names of an element and of its attributes are names, and the latter differ. -/
structure WellNamed (name : Text) (attributes : Attributes) : Prop where
  element : isName name = true
  each : ∀ named ∈ attributes, isName named.1 = true
  distinct : (attributes.map Prod.fst).Nodup

/-- A tag that begins an element is read back. -/
theorem readTag_append (h : WellNamed name attributes) (hending : TagEnd ending closed t) :
  readTag (name ++ (Attributes.text attributes ++ ending))
    = some (if closed then .empty name attributes else .opening name attributes, t)
  := by
  obtain ⟨e, u, rfl, he⟩ := hending.head
  have hhead : ∀ c ∈ (Attributes.text attributes ++ e :: u).head?, isNameChar c = false := by
    cases attributes with
    | nil =>
        rintro c ⟨⟩
        apply he
    | cons named attributes =>
        rintro c ⟨⟩
        rfl
  have hname := readName_append h.element hhead
  have hfuel : attributes.length < (Attributes.text attributes ++ e :: u).length := by
    have hle := length_le_text attributes
    rw [List.length_append, List.length_cons]
    omega
  have hattributes := readAttributes_append hending h.each hfuel
  rw [readTag]
  · simp only [hname, Option.bind_eq_bind, Option.bind_some, hattributes]
    simp [h.distinct]
  · -- A name does not begin with a slash.
    have hslash := not_mem_of_isName h.element (c := '/') rfl
    intro t ht
    cases name with
    | nil => exact absurd h.element (by decide)
    | cons c name =>
        obtain ⟨rfl, -⟩ := List.cons_eq_cons.mp ht
        apply hslash List.mem_cons_self

/-- A tag that ends an element is read back. -/
theorem readTag_closing (h : isName name = true) (t : Text) :
  readTag ('/' :: (name ++ '>' :: t)) = some (.closing name, t)
  := by
  have hhead : ∀ c ∈ List.head? ('>' :: t), isNameChar c = false := by
    rintro c ⟨⟩
    rfl
  have hblank : skipBlanks ('>' :: t) = '>' :: t := rfl
  have hend : Text.after? ('>' :: t) ['>'] = some t := by simp [Text.after?]
  rw [readTag, readName_append h hhead]
  simp [hblank, hend]

/-- A character that is in no name and in no escaped value is in no tag. -/
theorem not_mem_attributes_text (h : ∀ named ∈ attributes, isName named.1 = true) {d : Char}
    (hd : d ∈ ['<', '\r']) :
  d ∉ Attributes.text attributes
  := by
  have hother : d ∉ [' ', '=', '"'] ∧ isNameChar d = false
      ∧ d ∈ ['<', '"', '\r', '\n', '\t'] := by
    simp only [List.mem_cons, List.not_mem_nil, or_false] at hd
    obtain rfl | rfl := hd <;> decide
  obtain ⟨hmark, hname, hvalue⟩ := hother
  intro hmem
  rw [Attributes.text, List.mem_flatMap] at hmem
  obtain ⟨⟨name, value⟩, hnamed, hmem⟩ := hmem
  have hnot := not_mem_of_isName (h _ hnamed) hname
  have hnot' := not_mem_escapedAttribute hvalue value
  simp only [List.mem_cons, List.not_mem_nil, or_false, not_or] at hmark
  simp [hnot, hnot', hmark] at hmem

/-! ### Documents -/

variable {frame outside : Frame} {frames frames' outer : List Frame} {u : Text}

theorem takeText_nil (frame : Frame) (outer : List Frame) :
  takeText [] (frame :: outer) = some (frame :: outer)
  := by
  have hempty : frame.append [] = frame := by rw [Frame.append, List.append_nil]
  cases outer with
  | nil => rfl
  | cons outside outer => exact congrArg (fun frame => some (frame :: outside :: outer)) hempty

/-- A text in front of a tag goes to the element that is open. -/
theorem takeText_inside (hmark : '>' ∉ t) (ht : unescape? t = some u) :
  takeText t (frame :: outside :: outer) = some (frame.append (textNodes u) :: outside :: outer)
  := by
  have hhas : t.has "]]>" = false := by
    rw [Text.has, Text.cutAt_eq_none_of_not_mem (c := '>') (by decide) hmark]
    rfl
  rw [takeText, hhas]
  · simp [ht]
  · simp

theorem take_eq {first : Text} {pieces : List Text}
    (h : t.splitWhere (· == '<') = first :: pieces) :
  take frames t = (takeText first frames).bind fun frames => pieces.foldlM takePiece frames
  := by
  rw [take, h]
  rfl

/-- A text in front of a tag is taken first. -/
theorem take_text (hu : '<' ∉ u) (htake : takeText u frames = some (frame :: outer)) (t : Text) :
  take frames (u ++ '<' :: t) = take (frame :: outer) ('<' :: t)
  := by
  have htag : Text.splitWhere (· == '<') ('<' :: t) = [] :: Text.splitWhere (· == '<') t :=
    Text.splitWhere_cons rfl t
  have htext := Text.splitWhere_append (Text.beq_eq_false_of_not_mem hu) htag
  rw [take_eq htag, take_eq htext, takeText_nil, List.append_nil, htake]

/-- A tag is taken in front of the text behind it. -/
theorem take_tag {tag : Tag} (hu : '<' ∉ u) (hread : ∀ t, readTag (u ++ t) = some (tag, t))
    (htake : takeTag tag (frame :: outer) = some frames') (t : Text) :
  take (frame :: outer) ('<' :: (u ++ t)) = take frames' t
  := by
  obtain ⟨first, pieces, ht⟩ := List.exists_cons_of_ne_nil (t.splitWhere_ne_nil (· == '<'))
  have hpieces := Text.splitWhere_append (Text.beq_eq_false_of_not_mem hu) ht
  have htag := (Text.splitWhere_cons (p := (· == '<')) (c := '<') rfl (u ++ t)).trans
    (congrArg _ hpieces)
  rw [take_eq htag, take_eq ht, takeText_nil, Option.bind_some, List.foldlM_cons, takePiece, hread]
  simp [htake]

theorem not_mem_tag (h : WellNamed name attributes) (hending : '<' ∉ ending) :
  '<' ∉ name ++ (Attributes.text attributes ++ ending)
  := by
  simp [not_mem_of_isName h.element (c := '<') rfl, hending,
    not_mem_attributes_text h.each (d := '<') (by decide)]

/-- A tag opens an element. -/
theorem take_opening (h : WellNamed name attributes) (t : Text) :
  take (frame :: outer) ('<' :: (name ++ (Attributes.text attributes ++ '>' :: t)))
    = take (⟨name, attributes, []⟩ :: frame :: outer) t
  := by
  have hread : ∀ t, readTag (name ++ (Attributes.text attributes ++ ['>']) ++ t)
      = some (.opening name attributes, t) := by
    intro t
    rw [List.append_assoc, List.append_assoc]
    apply readTag_append h (tagEnd_open t)
  have htake : take (frame :: outer)
      ('<' :: (name ++ (Attributes.text attributes ++ ['>']) ++ t))
        = take (⟨name, attributes, []⟩ :: frame :: outer) t :=
    take_tag (not_mem_tag h (by decide)) hread rfl t
  simpa using htake

/-- A tag that closes itself adds an element without content. -/
theorem take_empty (h : WellNamed name attributes) (t : Text) :
  take (frame :: outer) ('<' :: (name ++ (Attributes.text attributes ++ ' ' :: '/' :: '>' :: t)))
    = take (frame.append [.element name attributes []] :: outer) t
  := by
  have hread : ∀ t, readTag (name ++ (Attributes.text attributes ++ [' ', '/', '>']) ++ t)
      = some (.empty name attributes, t) := by
    intro t
    rw [List.append_assoc, List.append_assoc]
    apply readTag_append h (tagEnd_closed t)
  have htake : take (frame :: outer)
      ('<' :: (name ++ (Attributes.text attributes ++ [' ', '/', '>']) ++ t))
        = take (frame.append [.element name attributes []] :: outer) t :=
    take_tag (not_mem_tag h (by decide)) hread rfl t
  simpa using htake

/-- A tag closes an element with its content. -/
theorem take_closing (h : isName name = true) (content : List Node) (t : Text) :
  take (⟨name, attributes, content⟩ :: frame :: outer) ('<' :: '/' :: (name ++ '>' :: t))
    = take (frame.append [.element name attributes content] :: outer) t
  := by
  have hread : ∀ t, readTag ('/' :: (name ++ ['>']) ++ t) = some (.closing name, t) := by
    intro t
    rw [List.cons_append, List.append_assoc]
    apply readTag_closing h
  have hmark : '<' ∉ '/' :: (name ++ ['>']) := by
    simp [not_mem_of_isName h (c := '<') rfl]
  have hname : takeTag (.closing name) (⟨name, attributes, content⟩ :: frame :: outer)
      = some (frame.append [.element name attributes content] :: outer) := if_pos (by simp)
  have htake := take_tag hmark hread hname t
  simpa using htake

/-- An element is taken with its content. -/
theorem take_element (h : WellNamed name attributes) {content : Text} {nodes : List Node}
    (hempty : content = [] → nodes = [])
    (hcontent : ∀ t, take (⟨name, attributes, []⟩ :: frame :: outer) (content ++ '<' :: t)
      = take (⟨name, attributes, nodes⟩ :: frame :: outer) ('<' :: t)) (t : Text) :
  take (frame :: outer) (elementText name attributes content ++ t)
    = take (frame.append [.element name attributes nodes] :: outer) t
  := by
  rw [elementText]
  split
  · next hnone =>
    rw [hempty (List.isEmpty_iff.mp hnone), ← take_empty h]
    simp
  · rw [← take_closing h.element, ← hcontent, ← take_opening h]
    simp

theorem exists_elementText (name : Text) (attributes : Attributes) (content : Text) :
  ∃ t, elementText name attributes content = '<' :: t
  := by
  rw [elementText]
  split
  · refine ⟨_, rfl⟩
  · refine ⟨_, rfl⟩

end Xml

/-- An element without elements in it, as it is read back. -/
def Leaf.node (leaf : Leaf) : Xml.Node :=
  .element leaf.name leaf.attributes (Xml.textNodes leaf.text)

/-- Elements on lines of their own, as they are read back: with the line breaks and the blanks in
front of each, and the line break behind the last. -/
def lineNodes (leaves : List Leaf) : List Xml.Node :=
  if leaves.isEmpty then []
  else leaves.flatMap (fun leaf => [.text ['\n', ' ', ' '], leaf.node]) ++ [.text ['\n']]

namespace Xml

variable {frame outside : Frame} {outer : List Frame} {name : Text} {attributes : Attributes}

/-- An element without elements in it is taken with its text. -/
theorem take_leaf {leaf : Leaf} (h : WellNamed leaf.name leaf.attributes) (t : Text) :
  take (frame :: outside :: outer) (leaf.write ++ t)
    = take (frame.append [leaf.node] :: outside :: outer) t
  := by
  rw [Leaf.write]
  apply take_element h
  · intro hnone
    have htext := unescape?_flatMap escapes_text leaf.text
    rw [hnone] at htext
    rw [← Option.some.inj htext]
    rfl
  · intro t
    apply take_text (not_mem_escapedText (by decide) _)
    apply takeText_inside (not_mem_escapedText (by decide) _)
    apply unescape?_flatMap escapes_text

/-- A blank text inside of an element is taken as it is. -/
theorem take_blank {blank : Text} (h : blank ∈ [['\n'], ['\n', ' ', ' ']]) (t : Text) :
  take (frame :: outside :: outer) (blank ++ '<' :: t)
    = take (frame.append [.text blank] :: outside :: outer) ('<' :: t)
  := by
  have hkept : '<' ∉ blank ∧ '>' ∉ blank ∧ unescape? blank = some blank
      ∧ textNodes blank = [.text blank] := by
    simp only [List.mem_cons, List.not_mem_nil, or_false] at h
    obtain rfl | rfl := h <;> exact ⟨by decide, by decide, rfl, rfl⟩
  obtain ⟨hopen, hclose, hread, hnodes⟩ := hkept
  rw [← hnodes]
  apply take_text hopen (takeText_inside hclose hread)

theorem append_append (frame : Frame) (nodes more : List Node) :
  (frame.append nodes).append more = frame.append (nodes ++ more)
  := by
  rw [Frame.append, Frame.append, Frame.append, List.append_assoc]

/-- Elements on lines of their own are taken one after another. -/
theorem take_leaves {leaves : List Leaf}
    (h : ∀ leaf ∈ leaves, WellNamed leaf.name leaf.attributes) (t : Text) :
  take (frame :: outside :: outer)
      (leaves.flatMap (fun leaf => '\n' :: ' ' :: ' ' :: leaf.write) ++ t)
    = take (frame.append (leaves.flatMap fun leaf => [.text ['\n', ' ', ' '], leaf.node])
        :: outside :: outer) t
  := by
  induction leaves generalizing frame with
  | nil => rw [List.flatMap_nil, List.flatMap_nil, List.nil_append, Frame.append, List.append_nil]
  | cons leaf leaves ih =>
      obtain ⟨hleaf, hleaves⟩ := List.forall_mem_cons.mp h
      obtain ⟨u, hu⟩ := exists_elementText leaf.name leaf.attributes
        (leaf.text.flatMap escapeTextChar)
      have hwrite : leaf.write = '<' :: u := hu
      have htext : ∀ more : Text, '\n' :: ' ' :: ' ' :: leaf.write ++ more
          = ['\n', ' ', ' '] ++ '<' :: (u ++ more) := by
        intro more
        rw [hwrite]
        rfl
      rw [List.flatMap_cons, List.flatMap_cons, List.append_assoc, htext, take_blank (by decide),
        ← List.cons_append, ← hwrite, take_leaf hleaf, append_append, ih hleaves, append_append]
      rfl

/-- What an element holds on lines of its own is taken as its content. -/
theorem take_linesText {leaves : List Leaf}
    (h : ∀ leaf ∈ leaves, WellNamed leaf.name leaf.attributes) (t : Text) :
  take (⟨name, attributes, []⟩ :: outside :: outer) (linesText leaves ++ '<' :: t)
    = take (⟨name, attributes, lineNodes leaves⟩ :: outside :: outer) ('<' :: t)
  := by
  rw [linesText, lineNodes]
  split
  · rfl
  · rw [List.append_assoc, take_leaves h, take_blank (by decide), append_append]
    rfl

/-- A document is read back if it may hold its characters and no line ends with a carriage
return. -/
theorem read?_element (h : WellNamed name attributes) {leaves : List Leaf}
    (hleaves : ∀ leaf ∈ leaves, WellNamed leaf.name leaf.attributes)
    (hallowed : Allowed (elementText name attributes (linesText leaves)))
    (hreturn : '\r' ∉ elementText name attributes (linesText leaves)) :
  read? (elementText name attributes (linesText leaves))
    = some (.element name attributes (lineNodes leaves))
  := by
  have hempty : linesText leaves = [] → lineNodes leaves = [] := by
    intro hnone
    rw [linesText] at hnone
    rw [lineNodes]
    split at hnone
    · next hnil => rw [if_pos hnil]
    · simp at hnone
  have htake : take [Frame.document] (elementText name attributes (linesText leaves) ++ [])
      = take [Frame.document.append [.element name attributes (lineNodes leaves)]] [] :=
    take_element h hempty (take_linesText hleaves) []
  rw [List.append_nil] at htake
  rw [read?, if_pos (List.all_eq_true.mpr hallowed), Text.lineFeeds_of_not_mem hreturn, htake]
  rfl

end Xml

end BoxDiagram
