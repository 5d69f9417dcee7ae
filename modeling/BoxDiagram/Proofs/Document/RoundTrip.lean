import BoxDiagram.Proofs.Document.Described
import BoxDiagram.Proofs.Document.RelationLines

/-!
# Reading a document back

The scope tree that a text describes is written as a text that describes the same tree.  What
a text says about a scope can be read back from the lines that are written for it, and the
scopes nested in a scope are rebuilt when their paths are declared in the order of a walk:
every path then leads down into the parent, and its last label becomes the last child.
-/

namespace BoxDiagram

namespace Scope

/-! ### Legible scopes -/

/-- A scope whose own rows and relations are read back from their lines. -/
structure Legible (s : Scope) : Prop where
  label : s.label.OneLine
  rows : ∀ rows ∈ s.layout, ∀ row ∈ rows, row.Legible
  relations : ∀ relations ∈ s.relations, ∀ relation ∈ relations, relation.Legible
  messages : s.messages = []

/-- Sibling scopes that are legible, and all scopes below them too. -/
inductive AllLegible : List Scope → Prop where
  | nil : AllLegible []
  | cons {s : Scope} {scopes : List Scope} :
      s.Legible → AllLegible s.nested → AllLegible scopes → AllLegible (s :: scopes)

variable {make : Text → Scope}

/-- Declaring a path adds a legible scope if every end of the path labels one. -/
theorem AllLegible.declareAmong {scopes : List Scope} (h : AllLegible scopes) {path : Text}
    (hmake : ∀ label, label <:+ path → (make label).Legible ∧ (make label).nested = []) :
  AllLegible (declareAmong make path scopes)
  := by
  induction h generalizing path with
  | nil =>
      obtain ⟨hlegible, hnested⟩ := hmake path List.suffix_rfl
      apply AllLegible.cons hlegible _ .nil
      rw [hnested]
      apply AllLegible.nil
  | @cons s scopes hs hn hscopes ihn ih =>
      rw [Scope.declareAmong]
      split
      · next inner hafter =>
        obtain rfl := Text.after?_eq_some_iff.mp hafter
        rw [declare_eq]
        split
        · apply AllLegible.cons hs hn hscopes
        · let s' := { s with nested := Scope.declareAmong make inner s.nested }
          apply AllLegible.cons (s := s') ⟨hs.label, hs.rows, hs.relations, hs.messages⟩ _ hscopes
          apply ihn
          intro label hlabel
          apply hmake label (hlabel.trans (List.suffix_append _ _))
      · apply AllLegible.cons hs hn (ih hmake)

/-- The paths of legible scopes have no line breaks. -/
theorem AllLegible.of_mem {scopes : List Scope} (h : AllLegible scopes) {front path : Text}
    (hfront : front.OneLine) {s : Scope} (hs : (path, s) ∈ nestedWithPaths front scopes) :
  path.OneLine ∧ s.Legible
  := by
  induction h generalizing front with
  | nil => contradiction
  | @cons c scopes hc _ _ ihn ih =>
      have hbelow : (pathBelow front c.label).OneLine := by
        rw [pathBelow]
        split
        · apply hc.label
        · rw [Text.oneLine_append, Text.oneLine_cons]
          use hfront, by decide, hc.label
      rw [nestedWithPaths, withPaths_eq] at hs
      obtain (⟨⟨⟩⟩ | hs) | hs := (List.mem_append.trans (or_congr_left List.mem_cons)).mp hs
      · use hbelow
      · apply ihn hbelow hs
      · apply ih hfront hs

/-! ### The sections of a scope -/

/-- The layout section of rows. -/
def layoutSection (rows : List Row) : Section := ⟨"layout", rows.map Row.line⟩

/-- The relations section of relations. -/
def relationsSection (relations : List Relation) : Section :=
  ⟨"relations", relations.map Relation.line⟩

theorem ownSections_eq (s : Scope) :
  s.ownSections = (s.layout.map layoutSection).toList ++ (s.relations.map relationsSection).toList
  := rfl

theorem layoutSection_header (rows : List Row) :
  (layoutSection rows).header = ("layout" : Text)
  := rfl

theorem relationsSection_header (relations : List Relation) :
  (relationsSection relations).header = ("relations" : Text)
  := rfl

theorem layoutSection_body (rows : List Row) :
  (layoutSection rows).body = rows.map Row.line
  := rfl

theorem relationsSection_body (relations : List Relation) :
  (relationsSection relations).body = relations.map Relation.line
  := rfl

theorem rowsOf_layoutSection {rows : List Row} (h : ∀ row ∈ rows, row.Legible) :
  rowsOf (layoutSection rows) = rows
  := by
  rw [rowsOf, layoutSection_body, List.filter_eq_self.mpr, List.filterMap_map]
  · induction rows with
    | nil => rfl
    | cons row rows ih =>
        obtain ⟨hrow, hrows⟩ := List.forall_mem_cons.mp h
        rw [List.filterMap_cons_some (b := row), ih hrows]
        apply rowOf?_line hrow
  · rw [List.forall_mem_map]
    intro row hrow
    simp [(h row hrow).isBodyLine.not_blank]

theorem relationsOf_relationsSection {relations : List Relation}
    (h : ∀ relation ∈ relations, relation.Legible) :
  relationsOf (relationsSection relations) = relations
  := by
  rw [relationsOf, relationsSection_body, List.flatMap_map]
  induction relations with
  | nil => rfl
  | cons relation relations ih =>
      obtain ⟨hrelation, hrelations⟩ := List.forall_mem_cons.mp h
      rw [List.flatMap_cons, relationsOfLine_line hrelation, ih hrelations]
      rfl

theorem lower_layout :
  Text.lower "layout" = ("layout" : Text)
  := by decide

theorem lower_relations :
  Text.lower "relations" = ("relations" : Text)
  := by decide

/-- The rows of a scope are read back from its sections. -/
theorem Legible.declaredRows {s : Scope} (h : s.Legible) :
  declaredRows s.ownSections = s.layout
  := by
  have hrelations : Scope.declaredRows (s.relations.map relationsSection).toList = none := by
    cases s.relations with
    | none => rfl
    | some relations =>
        rw [Option.map_some, Option.toList_some, declaredRows_singleton, relationsSection_header,
          lower_relations, if_neg (by decide)]
  rw [ownSections_eq, declaredRows_append, hrelations, Option.or_none]
  cases hlayout : s.layout with
  | none => rfl
  | some rows =>
      rw [Option.map_some, Option.toList_some, declaredRows_singleton, layoutSection_header,
        if_pos lower_layout, rowsOf_layoutSection (h.rows rows hlayout)]

/-- The relations of a scope are read back from its sections. -/
theorem Legible.declaredRelations {s : Scope} (h : s.Legible) :
  declaredRelations s.ownSections = s.relations
  := by
  have hlayout : Scope.declaredRelations (s.layout.map layoutSection).toList = none := by
    cases s.layout with
    | none => rfl
    | some rows =>
        rw [Option.map_some, Option.toList_some, declaredRelations_singleton,
          layoutSection_header, lower_layout, if_neg (by decide)]
  rw [ownSections_eq, declaredRelations_append, hlayout, Option.none_or]
  cases hrelations : s.relations with
  | none => rfl
  | some relations =>
      rw [Option.map_some, Option.toList_some, declaredRelations_singleton,
        relationsSection_header, if_pos lower_relations,
        relationsOf_relationsSection (h.relations relations hrelations)]

/-- The sections of a legible scope are legible, and none of them is a reference. -/
theorem Legible.ownSections {s : Scope} (h : s.Legible) :
  ∀ part ∈ s.ownSections, part.Legible ∧ isReference part.header = false
  := by
  intro part hpart
  rw [ownSections_eq, List.mem_append, Option.mem_toList, Option.mem_toList] at hpart
  obtain hpart | hpart := hpart
  · obtain ⟨rows, hrows, rfl⟩ := Option.map_eq_some_iff.mp hpart
    refine ⟨⟨?header, ?body⟩, ?plain⟩
    case header =>
      rw [layoutSection_header]
      refine ⟨by decide, 'l', rfl, by decide⟩
    case body =>
      rw [layoutSection_body, List.forall_mem_map]
      intro row hrow
      apply (h.rows rows hrows row hrow).isBodyLine
    case plain =>
      rw [layoutSection_header]
      decide
  · obtain ⟨relations, hrelations, rfl⟩ := Option.map_eq_some_iff.mp hpart
    refine ⟨⟨?header, ?body⟩, ?plain⟩
    case header =>
      rw [relationsSection_header]
      refine ⟨by decide, 'r', rfl, by decide⟩
    case body =>
      rw [relationsSection_body, List.forall_mem_map]
      intro relation hrelation
      apply (h.relations relations hrelations relation hrelation).isBodyLine
    case plain =>
      rw [relationsSection_header]
      decide

/-! ### Rebuilding nested scopes -/

/-- The paths of sibling scopes and of all scopes below them, each with the sections of its
scope. -/
def written (scopes : List Scope) : List (Text × List Section) :=
  (nestedWithPaths [] scopes).map fun (path, s) => (path, s.ownSections)

theorem blocks_eq (s : Scope) :
  s.blocks = blocksInGroups s.ownSections (written s.nested)
  := by
  rw [blocks, blocksInGroups, written, List.map_map]
  rfl

theorem nestedPaths_eq_map_written (scopes : List Scope) :
  nestedPaths scopes = (written scopes).map Prod.fst
  := by
  rw [written, List.map_map]
  rfl

theorem written_cons {s : Scope} (hs : s.label ≠ []) (hn : ∀ c ∈ s.nested, c.label ≠ [])
    (scopes : List Scope) :
  written (s :: scopes)
    = (s.label, s.ownSections)
      :: (written s.nested).map (Prod.map (s.label ++ pathSeparator :: ·) id) ++ written scopes
  := by
  have hbelow : pathBelow s.label = (s.label ++ pathSeparator :: ·) := by
    funext label
    apply pathBelow_of_ne_nil hs
  rw [written, nestedWithPaths, pathBelow_nil_left, withPaths_eq, nestedWithPaths_eq_map _ hn,
    hbelow]
  simp [written]

/-- A path is apart from sibling scopes when it is not the label of one and does not begin with a
label and a dot. -/
def Apart (scopes : List Scope) (path : Text) : Prop :=
  ∀ s ∈ scopes, path ≠ s.label ∧ ¬ s.label ++ [pathSeparator] <+: path

/-- A path is declared behind the scopes from which it is apart. -/
theorem Apart.declareAmong {front : List Scope} {path : Text} (h : Apart front path)
    (make : Text → Scope) (scopes : List Scope) :
  declareAmong make path (front ++ scopes) = front ++ declareAmong make path scopes
  := by
  induction front with
  | nil => rfl
  | cons s front ih =>
      obtain ⟨hs, hfront⟩ := List.forall_mem_cons.mp h
      rw [List.cons_append, Scope.declareAmong, Text.after?_eq_none_iff.mpr hs.2]
      simp only
      rw [ih hfront, List.cons_append]

/-- A label that is apart from the nested scopes declares a new last child. -/
theorem Apart.declare_label {s : Scope} {label : Text} (h : Apart s.nested label)
    (hne : label ≠ []) (make : Text → Scope) :
  declare make label s = { s with nested := s.nested ++ [make label] }
  := by
  have hnext := h.declareAmong make []
  rw [List.append_nil] at hnext
  rw [declare_eq, if_neg, hnext]
  · rfl
  · rintro (hnil | ⟨c, hc, rfl⟩)
    · contradiction
    · apply (h c hc).1 rfl

/-- A path that begins with the label of the last child and a dot is declared in that child, if it
is apart from the children before. -/
theorem Apart.declare_last {s c : Scope} {front : List Scope} (hs : s.nested = front ++ [c])
    {label inner : Text} (hc : c.label = label) (h : Apart front (label ++ pathSeparator :: inner))
    (make : Text → Scope) :
  declare make (label ++ pathSeparator :: inner) s
    = { s with nested := front ++ [declare make inner c] }
  := by
  subst hc
  have hafter : Text.after? (c.label ++ pathSeparator :: inner) (c.label ++ [pathSeparator])
      = some inner := by
    rw [Text.after?_eq_some_iff, List.append_assoc]
    rfl
  rw [declare_eq, if_neg, hs, h.declareAmong, Scope.declareAmong, hafter]
  rintro (hnil | ⟨f, hf, hlabel⟩)
  · simp at hnil
  · rw [hs, List.mem_append, List.mem_singleton] at hf
    obtain hf | rfl := hf
    · apply (h f hf).1 hlabel.symm
    · simp at hlabel

/-- Paths below the last child are declared in that child, if they are apart from the children
before. -/
theorem declareAll_last {groups : List (Text × List Section)} {s c : Scope} {front : List Scope}
    (hs : s.nested = front ++ [c]) {label : Text} (hc : c.label = label)
    (h : ∀ group ∈ groups, Apart front (label ++ pathSeparator :: group.1)) :
  declareAll (groups.map (Prod.map (label ++ pathSeparator :: ·) id)) s
    = { s with nested := front ++ [declareAll groups c] }
  := by
  induction groups generalizing s c with
  | nil =>
      obtain ⟨_, _, _, _, _⟩ := s
      obtain rfl := hs
      rfl
  | cons group groups ih =>
      obtain ⟨path, parts⟩ := group
      obtain ⟨hpath, hgroups⟩ := List.forall_mem_cons.mp h
      have hlabel : (addGroup path (parts.map .plain) c).label = label := by
        rw [addGroup_plain, declare_label, hc]
      have hfirst : addGroup (label ++ pathSeparator :: path) (parts.map .plain) s
          = { s with nested := front ++ [addGroup path (parts.map .plain) c] } := by
        rw [addGroup_plain, addGroup_plain, hpath.declare_last hs hc]
      rw [List.map_cons, Prod.map_apply, declareAll_cons, declareAll_cons, id, hfirst,
        ih rfl hlabel hgroups]

/-- Declaring the paths of settled and legible scopes in the order of a walk rebuilds them behind
the children from which they are apart. -/
theorem Settled.declareAll_written {scopes : List Scope} (h : Settled scopes)
    (hlegible : AllLegible scopes) {s : Scope}
    (hs : ∀ path ∈ nestedPaths scopes, Apart s.nested path) :
  declareAll (written scopes) s = { s with nested := s.nested ++ scopes }
  := by
  induction h generalizing s with
  | nil =>
      rw [List.append_nil]
      cases s
      rfl
  | @cons c scopes hc hn happart hscopes ihn ih =>
      cases hlegible with
      | cons hown hinner hothers =>
      have hmem := mem_nestedPaths_cons hc hn.label_ne_nil scopes
      let start := bare c.layout c.relations c.label
      have hstart : start.label = c.label := rfl
      have hfirst : addGroup c.label (c.ownSections.map .plain) s
          = { s with nested := s.nested ++ [start] } := by
        rw [addGroup_plain, hown.declaredRows, hown.declaredRelations,
          (hs c.label ((hmem _).mpr (.inl rfl))).declare_label hc]
      have hbelow : declareAll (written c.nested) start = c := by
        rw [ihn hinner (by simp [start, bare, Apart])]
        obtain ⟨label, layout, relations, nested, messages⟩ := c
        obtain rfl : messages = [] := hown.messages
        rfl
      rw [written_cons hc hn.label_ne_nil, List.cons_append, declareAll_cons, hfirst,
        declareAll_append, declareAll_last rfl hstart, hbelow, ih hothers]
      · rw [List.append_assoc]
        rfl
      · intro path hpath
        have hbefore := hs path ((hmem _).mpr (.inr (.inr hpath)))
        apply List.forall_mem_append.mpr ⟨hbefore, _⟩
        simpa using happart path hpath
      · intro group hgroup
        apply hs
        apply (hmem _).mpr (.inr (.inl ⟨group.1, _, rfl⟩))
        rw [nestedPaths_eq_map_written]
        apply List.mem_map_of_mem hgroup

/-! ### What a text says is legible -/

theorem sectionsOf_oneLine {lines : List Text} (h : ∀ line ∈ lines, line.OneLine) :
  ∀ part ∈ sectionsOf lines, part.header.OneLine ∧ ∀ line ∈ part.body, line.OneLine
  := by
  induction lines with
  | nil => simp [sectionsOf]
  | cons line lines ih =>
      obtain ⟨hline, hlines⟩ := List.forall_mem_cons.mp h
      rw [sectionsOf]
      split
      · apply ih hlines
      · split
        · next header hheader =>
          rw [List.forall_mem_cons]
          refine ⟨⟨?header, ?body⟩, ih hlines⟩
          case header =>
            apply hline.of_subset
            apply headerOf?_subset hheader
          case body =>
            intro line' hline'
            apply hlines
            apply List.takeWhile_subset _ (List.mem_of_mem_filter hline')
        · apply ih hlines

theorem legible_declared {parts : List Section}
    (h : ∀ part ∈ parts, ∀ line ∈ part.body, line.OneLine) {label : Text}
    (hlabel : label.OneLine) :
  (bare (declaredRows parts) (declaredRelations parts) label).Legible
  := by
  constructor
  case label => apply hlabel
  case rows =>
    intro rows hrows row hrow
    obtain ⟨part, hpart, rfl⟩ := Option.map_eq_some_iff.mp hrows
    obtain ⟨line, hline, hdescribes⟩ := List.mem_filterMap.mp hrow
    apply legible_of_rowOf? _ hdescribes
    apply h part (List.mem_of_find?_eq_some hpart) line (List.mem_of_mem_filter hline)
  case relations =>
    intro relations hrelations relation hrelation
    obtain ⟨part, hpart, rfl⟩ := Option.map_eq_some_iff.mp hrelations
    obtain ⟨line, hline, hdescribes⟩ := List.mem_flatMap.mp hrelation
    apply legible_of_mem_relationsOfLine _ hdescribes
    apply h part (List.mem_of_find?_eq_some hpart) line hline
  case messages => rfl

theorem legible_addGroup {s : Scope} (hs : s.Legible) (hn : AllLegible s.nested) {path : Text}
    (hpath : path.OneLine) {parts : List Section}
    (h : ∀ part ∈ parts, ∀ line ∈ part.body, line.OneLine) :
  (addGroup path (parts.map .plain) s).Legible
    ∧ AllLegible (addGroup path (parts.map .plain) s).nested
  := by
  rw [addGroup_plain, declare_eq]
  split
  · use hs
  · use ⟨hs.label, hs.rows, hs.relations, hs.messages⟩
    apply hn.declareAmong
    intro label hlabel
    use legible_declared h (hpath.of_subset hlabel.subset)
    rfl

theorem legible_addBlocks_referenceGroups {sections : List Section}
    (h : ∀ part ∈ sections, part.header.OneLine ∧ ∀ line ∈ part.body, line.OneLine) {s : Scope}
    (hs : s.Legible) (hn : AllLegible s.nested) :
  (addBlocks (referenceGroups sections) s).Legible
    ∧ AllLegible (addBlocks (referenceGroups sections) s).nested
  := by
  induction sections generalizing s with
  | nil => apply And.intro hs hn
  | cons part sections ih =>
      obtain ⟨⟨hheader, -⟩, hsections⟩ := List.forall_mem_cons.mp h
      rw [referenceGroups]
      split
      · have hpath : (referenceName part.header).OneLine := by
          apply hheader.of_subset
          apply List.Subset.trans (List.dropLast_subset _) (List.drop_subset _ _)
        have hparts : ∀ part ∈ untilReference sections, ∀ line ∈ part.body, line.OneLine := by
          intro part hpart
          apply (hsections part (List.takeWhile_subset _ hpart)).2
        obtain ⟨hs, hn⟩ := legible_addGroup hs hn hpath hparts
        apply ih hsections hs hn
      · apply ih hsections hs hn

/-- A scope tree that a text describes is legible before validation. -/
theorem legible_addBlocks_blocksOf (t : Text) :
  (addBlocks (blocksOf t) (empty [])).Legible
    ∧ AllLegible (addBlocks (blocksOf t) (empty [])).nested
  := by
  have hlines : ∀ line ∈ unindentedLines t, line.OneLine := by
    rw [unindentedLines, List.forall_mem_map]
    intro line hline
    apply (Text.oneLine_of_mem_lines t line hline).of_subset (Text.trimStart_subset line)
  have hsections := sectionsOf_oneLine hlines
  rw [blocksOf, groupSections, addBlocks_append, addBlocks_plain_empty]
  apply legible_addBlocks_referenceGroups hsections
  · apply legible_declared
    · intro part hpart
      apply (hsections part (List.takeWhile_subset _ hpart)).2
    · decide
  · apply AllLegible.nil

/-! ### The round trip -/

/-- A document declares its groups in order. -/
theorem addBlocks_blocksInGroups (front : List Section) (groups : List (Text × List Section)) :
  addBlocks (blocksInGroups front groups) (empty [])
    = declareAll groups (bare (declaredRows front) (declaredRelations front) [])
  := by
  rw [blocksInGroups, addBlocks_append, addBlocks_plain_empty]
  generalize bare (declaredRows front) (declaredRelations front) [] = s
  induction groups generalizing s with
  | nil => rfl
  | cons group groups ih =>
      rw [List.map_cons, addBlocks, ih]
      rfl

/-- What is written for a legible tree of settled scopes is read as that tree. -/
theorem Legible.addBlocks_blocks {s : Scope} (hs : s.Legible) (hlabel : s.label = [])
    (hn : AllLegible s.nested) (h : Settled s.nested) :
  addBlocks s.blocks (empty []) = s
  := by
  rw [blocks_eq, addBlocks_blocksInGroups, hs.declaredRows, hs.declaredRelations,
    h.declareAll_written hn (by simp [bare, Apart])]
  obtain ⟨label, layout, relations, nested, messages⟩ := s
  obtain rfl : label = [] := hlabel
  obtain rfl : messages = [] := hs.messages
  rfl

/-- The parts that are written for a legible tree are read back from its text. -/
theorem Legible.blocksOf_toText {s : Scope} (hs : s.Legible) (hn : AllLegible s.nested) :
  blocksOf s.toText = s.blocks
  := by
  rw [toText, blocks_eq, blocksOf_blocksInGroups]
  · apply hs.ownSections
  · rw [written, List.forall_mem_map]
    intro entry hentry
    obtain ⟨hpath, hlegible⟩ := hn.of_mem (by decide) hentry
    use hpath
    apply hlegible.ownSections

theorem addBlocks_referenceGroups_label (sections : List Section) (s : Scope) :
  (addBlocks (referenceGroups sections) s).label = s.label
  := by
  induction sections generalizing s with
  | nil => rfl
  | cons part sections ih =>
      rw [referenceGroups]
      split
      · rw [addBlocks, ih, addBlock, declare_label]
      · apply ih

theorem addBlocks_blocksOf_label (t : Text) :
  (addBlocks (blocksOf t) (empty [])).label = []
  := by
  rw [blocksOf, groupSections, addBlocks_append, addBlocks_plain_empty,
    addBlocks_referenceGroups_label]
  rfl

mutual

/-- Validation keeps what is written for a scope and all scopes below it. -/
theorem written_validate (front path : Text) : ∀ s : Scope,
    (withPaths front (validate path s)).map (Prod.map id Scope.ownSections)
      = (withPaths front s).map (Prod.map id Scope.ownSections)
  | ⟨label, layout, relations, nested, messages⟩ => by
      rw [withPaths_eq, withPaths_eq, validate_nested, List.map_cons, List.map_cons,
        written_validateNested front path nested]
      rfl

/-- Validation keeps what is written for nested scopes. -/
theorem written_validateNested (front path : Text) : ∀ scopes : List Scope,
    (nestedWithPaths front (validateNested path scopes)).map (Prod.map id Scope.ownSections)
      = (nestedWithPaths front scopes).map (Prod.map id Scope.ownSections)
  | [] => rfl
  | s :: scopes => by
      rw [validateNested, nestedWithPaths, nestedWithPaths, validate_label, List.map_append,
        List.map_append, written_validate _ _ s, written_validateNested front path scopes]

end

/-- The messages of validation are not written. -/
theorem toText_validate (path : Text) (s : Scope) :
  (validate path s).toText = s.toText
  := by
  have hwritten : written (validate path s).nested = written s.nested := by
    rw [validate_nested]
    apply written_validateNested
  have hown : (validate path s).ownSections = s.ownSections := by
    cases s
    rfl
  rw [toText, toText, blocks_eq, blocks_eq, hwritten, hown]

/-- The scope tree that a text describes is read back from the text that is written for it. -/
theorem ofText_toText (t : Text) :
  ofText (ofText t).toText = ofText t
  := by
  obtain ⟨hlegible, hnested⟩ := legible_addBlocks_blocksOf t
  rw [ofText, ofText, toText_validate, hlegible.blocksOf_toText hnested,
    hlegible.addBlocks_blocks (addBlocks_blocksOf_label t) hnested (settled_addBlocks_blocksOf t)]

end Scope

end BoxDiagram
