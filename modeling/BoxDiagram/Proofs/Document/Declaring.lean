import BoxDiagram.Proofs.Document.Paths
import Mathlib.Data.List.Perm.Basic

/-!
# Declaring scopes

Declaring a path among settled scopes either changes nothing or adds one scope, which is the
last child of one of them, has the declared path, and leaves the scopes settled.  It changes
nothing when the path is empty, is the path of a scope already there, or is such a path and a
final dot.  A scope into which a list of paths is declared therefore holds, under each path
that is not so blocked where it first stands in the list, what it is first declared with.
-/

namespace BoxDiagram

namespace Scope

/-! ### Blocked paths -/

/-- A path is blocked among sibling scopes when it is empty, when a scope already has it, or
when it is the path of a scope and a final dot. -/
def Blocked (scopes : List Scope) (path : Text) : Prop :=
  path = [] ∨ path ∈ nestedPaths scopes ∨ ∃ p ∈ nestedPaths scopes, path = p ++ [pathSeparator]

/-- A label, a dot and a path are blocked exactly when the path is blocked inside the scope with
that label. -/
theorem blocked_inner {s : Scope} {scopes : List Scope} (h : Settled (s :: scopes))
    (inner : Text) :
  Blocked (s :: scopes) (s.label ++ pathSeparator :: inner) ↔ Blocked s.nested inner
  := by
  cases h with
  | cons hs hn happart _ =>
  have hmem := mem_nestedPaths_cons hs hn.label_ne_nil scopes
  constructor
  · rintro (h | h | ⟨p, hp, h⟩)
    · simp at h
    · obtain h | ⟨q, hq, h⟩ | h := (hmem _).mp h
      · simp at h
      · obtain rfl : inner = q := by simpa using h
        right; left
        apply hq
      · exfalso
        apply (happart _ h).2
        simp
    · obtain rfl | ⟨q, hq, rfl⟩ | hp := (hmem _).mp hp
      · left
        simpa using h
      · right; right
        use q, hq
        simpa using h
      · exfalso
        obtain ⟨hne, hpre⟩ := happart _ hp
        have hlast : s.label ++ [pathSeparator] <+: p ++ [pathSeparator] := by
          rw [← h]
          simp
        obtain heq | hpre' := List.prefix_concat_iff.mp hlast
        · apply hne
          simpa using heq.symm
        · apply hpre hpre'
  · rintro (rfl | h | ⟨p, hp, rfl⟩)
    · right; right
      use s.label, (hmem _).mpr (.inl rfl)
    · right; left
      apply (hmem _).mpr (.inr (.inl ⟨inner, h, rfl⟩))
    · right; right
      use s.label ++ pathSeparator :: p, (hmem _).mpr (.inr (.inl ⟨p, hp, rfl⟩))
      simp

/-- A path that is not the label of the first sibling and does not begin with it and a dot is
blocked exactly when it is blocked among the others. -/
theorem blocked_later {s : Scope} {scopes : List Scope} (h : Settled (s :: scopes))
    {path : Text} (hne : path ≠ s.label) (hpre : ¬ s.label ++ [pathSeparator] <+: path) :
  Blocked (s :: scopes) path ↔ Blocked scopes path
  := by
  cases h with
  | cons hs hn _ _ =>
  have hmem := mem_nestedPaths_cons hs hn.label_ne_nil scopes
  rw [Blocked, Blocked, hmem]
  constructor
  · rintro (h | (h | ⟨q, -, rfl⟩ | h) | ⟨p, hp, rfl⟩)
    · left
      apply h
    · contradiction
    · simp at hpre
    · right; left
      apply h
    · obtain rfl | ⟨q, -, rfl⟩ | hp := (hmem _).mp hp
      · simp at hpre
      · simp at hpre
      · right; right
        use p, hp
  · rintro (h | h | ⟨p, hp, rfl⟩)
    · left
      apply h
    · right; left; right; right
      apply h
    · right; right
      use p, (hmem _).mpr (.inr (.inr hp))

theorem ne_nil_of_not_blocked {scopes : List Scope} {path : Text} (h : ¬ Blocked scopes path) :
  path ≠ []
  := by
  rintro rfl
  apply h
  left
  rfl

theorem label_ne_of_not_blocked {scopes : List Scope} {path : Text} (h : ¬ Blocked scopes path) :
  ∀ s ∈ scopes, s.label ≠ path
  := by
  rintro s hs rfl
  apply h
  right; left
  apply label_mem_nestedPaths hs

theorem Blocked.mono {scopes scopes' : List Scope} {path : Text} (h : Blocked scopes path)
    (hsub : nestedPaths scopes ⊆ nestedPaths scopes') :
  Blocked scopes' path
  := by
  obtain h | h | ⟨p, hp, h⟩ := h
  · left
    apply h
  · right; left
    apply hsub h
  · right; right
    use p, hsub hp

/-! ### One declaration -/

/-- A scope without nested scopes. -/
def bare (layout : Option (List Row)) (relations : Option (List Relation)) (label : Text) : Scope :=
  ⟨label, layout, relations, [], []⟩

variable {make : Text → Scope}

/-- A path is declared in a scope among the scopes nested in it, unless the path is empty or a
label of one of them. -/
theorem declare_eq (make : Text → Scope) (path : Text) (s : Scope) :
  declare make path s
    = if path = [] ∨ ∃ c ∈ s.nested, c.label = path then s
      else { s with nested := declareAmong make path s.nested }
  := by
  cases s
  simp [declare]

theorem declare_label (make : Text → Scope) (path : Text) (s : Scope) :
  (declare make path s).label = s.label
  := by
  rw [declare_eq]
  split <;> rfl

/-- Declaring a path in a scope changes nothing if declaring it among the nested scopes would
change nothing. -/
theorem declare_eq_self {path : Text} {s : Scope}
    (h : path ≠ [] → (∀ c ∈ s.nested, c.label ≠ path) →
      declareAmong make path s.nested = s.nested) :
  declare make path s = s
  := by
  rw [declare_eq]
  split
  · rfl
  · next hguard =>
    push Not at hguard
    rw [h hguard.1 hguard.2]
    cases s
    rfl

/-- A blocked path changes nothing among settled scopes. -/
theorem Settled.declareAmong_of_blocked {scopes : List Scope} (h : Settled scopes) :
    ∀ {path : Text}, Blocked scopes path → path ≠ [] → (∀ s ∈ scopes, s.label ≠ path) →
      declareAmong make path scopes = scopes := by
  induction h with
  | nil =>
      intro path hpath hne _
      simp [Blocked, nestedPaths, nestedWithPaths, hne] at hpath
  | @cons s scopes hs hn happart hscopes ihn ih =>
      intro path hpath hne hlabels
      obtain ⟨hlabel, hlabels⟩ := List.forall_mem_cons.mp hlabels
      rw [declareAmong]
      split
      · next inner hafter =>
        obtain rfl : path = s.label ++ pathSeparator :: inner := by
          simpa using Text.after?_eq_some_iff.mp hafter
        rw [blocked_inner (.cons hs hn happart hscopes)] at hpath
        rw [declare_eq_self (ihn hpath)]
      · next hafter =>
        rw [blocked_later (.cons hs hn happart hscopes) hlabel.symm
          (Text.after?_eq_none_iff.mp hafter)] at hpath
        rw [ih hpath hne hlabels]

/-- A blocked path changes nothing in a scope with settled scopes nested in it. -/
theorem declare_of_blocked {s : Scope} (h : Settled s.nested) {path : Text}
    (hpath : Blocked s.nested path) :
  declare make path s = s
  := declare_eq_self (h.declareAmong_of_blocked hpath)

/-- A path that is not blocked is declared among the nested scopes. -/
theorem declare_of_not_blocked {s : Scope} {path : Text} (h : ¬ Blocked s.nested path) :
  declare make path s = { s with nested := declareAmong make path s.nested }
  := by
  rw [declare_eq, if_neg]
  rintro (hpath | ⟨c, hc, hpath⟩)
  · apply ne_nil_of_not_blocked h hpath
  · apply label_ne_of_not_blocked h c hc hpath

variable {layout : Option (List Row)} {relations : Option (List Relation)}

/-- A path that is not blocked is added to the outline of settled scopes, which stay settled. -/
theorem Settled.declareAmong_of_not_blocked {scopes : List Scope} (h : Settled scopes) :
    ∀ {path : Text}, ¬ Blocked scopes path →
      Settled (declareAmong (bare layout relations) path scopes)
        ∧ (outline (declareAmong (bare layout relations) path scopes)).Perm
          ((path, layout, relations) :: outline scopes) := by
  induction h with
  | nil =>
      intro path hpath
      constructor
      · apply Settled.cons (ne_nil_of_not_blocked hpath) .nil _ .nil
        simp [nestedPaths, nestedWithPaths]
      · apply List.Perm.of_eq
        rfl
  | @cons s scopes hs hn happart hscopes ihn ih =>
      intro path hpath
      rw [declareAmong]
      split
      · next inner hafter =>
        obtain rfl : path = s.label ++ pathSeparator :: inner := by
          simpa using Text.after?_eq_some_iff.mp hafter
        rw [blocked_inner (.cons hs hn happart hscopes)] at hpath
        obtain ⟨hsettled, hperm⟩ := ihn hpath
        let s' := { s with nested := declareAmong (bare layout relations) inner s.nested }
        rw [declare_of_not_blocked hpath]
        constructor
        · apply Settled.cons (s := s') hs hsettled happart hscopes
        · rw [outline_cons (s := s') hs hsettled.label_ne_nil, outline_cons hs hn.label_ne_nil]
          apply ((hperm.map _).cons _).append_right _ |>.trans
          apply List.Perm.swap
      · next hafter =>
        have hlabel := label_ne_of_not_blocked hpath s List.mem_cons_self
        have hpre := Text.after?_eq_none_iff.mp hafter
        rw [blocked_later (.cons hs hn happart hscopes) hlabel.symm hpre] at hpath
        obtain ⟨hsettled, hperm⟩ := ih hpath
        constructor
        · apply Settled.cons hs hn _ hsettled
          intro q hq
          rw [nestedPaths_eq_map_outline, (hperm.map Prod.fst).mem_iff, List.map_cons,
            List.mem_cons, ← nestedPaths_eq_map_outline] at hq
          obtain rfl | hq := hq
          · use hlabel.symm
          · apply happart q hq
        · rw [outline_cons hs hn.label_ne_nil, outline_cons hs hn.label_ne_nil]
          apply (hperm.append_left _).trans
          apply List.perm_middle

/-- Sibling scopes gain a scope as the last of them, or as the last child of one of them or of a
scope below them; nothing else changes. -/
inductive Gains (new : Scope) : List Scope → List Scope → Prop where
  | last (scopes : List Scope) : Gains new scopes (scopes ++ [new])
  | inside {s : Scope} {nested : List Scope} (front back : List Scope) :
      Gains new s.nested nested →
      Gains new (front ++ s :: back) (front ++ { s with nested } :: back)

theorem Gains.cons {new : Scope} {scopes scopes' : List Scope} (h : Gains new scopes scopes')
    (s : Scope) :
  Gains new (s :: scopes) (s :: scopes')
  := by
  cases h with
  | last => apply Gains.last
  | inside front back h => apply Gains.inside (s :: front) back h

/-- A path that is not blocked adds one scope as a last child. -/
theorem Settled.gains_declareAmong {scopes : List Scope} (h : Settled scopes) :
    ∀ {path : Text}, ¬ Blocked scopes path →
      ∃ label, Gains (make label) scopes (declareAmong make path scopes) := by
  induction h with
  | nil =>
      intro path _
      use path
      apply Gains.last
  | @cons s scopes hs hn happart hscopes ihn ih =>
      intro path hpath
      rw [declareAmong]
      split
      · next inner hafter =>
        obtain rfl : path = s.label ++ pathSeparator :: inner := by
          simpa using Text.after?_eq_some_iff.mp hafter
        rw [blocked_inner (.cons hs hn happart hscopes)] at hpath
        obtain ⟨label, hgains⟩ := ihn hpath
        use label
        rw [declare_of_not_blocked hpath]
        apply Gains.inside [] scopes hgains
      · next hafter =>
        rw [blocked_later (.cons hs hn happart hscopes)
          (label_ne_of_not_blocked hpath s List.mem_cons_self).symm
          (Text.after?_eq_none_iff.mp hafter)] at hpath
        obtain ⟨label, hgains⟩ := ih hpath
        use label
        apply hgains.cons

/-! ### The parts of a declaration -/

/-- The first section with a header, compared in lower case. -/
def firstHeaded (header : Text) (parts : List Section) : Option Section :=
  parts.find? (·.header.lower == header)

/-- The rows of a declaration: those of its first layout section. -/
def declaredRows (parts : List Section) : Option (List Row) :=
  (firstHeaded "layout" parts).map rowsOf

/-- The relations of a declaration: those of its first relations section. -/
def declaredRelations (parts : List Section) : Option (List Relation) :=
  (firstHeaded "relations" parts).map relationsOf

theorem firstHeaded_singleton (header : Text) (part : Section) :
  firstHeaded header [part] = if part.header.lower = header then some part else none
  := by
  by_cases h : part.header.lower = header
  · rw [firstHeaded, List.find?_cons_of_pos (by simpa using h), if_pos h]
  · rw [firstHeaded, List.find?_cons_of_neg (by simpa using h), if_neg h, List.find?_nil]

theorem declaredRows_singleton (part : Section) :
  declaredRows [part] = if part.header.lower = ("layout" : Text) then some (rowsOf part) else none
  := by
  rw [declaredRows, firstHeaded_singleton, apply_ite (Option.map rowsOf)]
  rfl

theorem declaredRelations_singleton (part : Section) :
  declaredRelations [part]
    = if part.header.lower = ("relations" : Text) then some (relationsOf part) else none
  := by
  rw [declaredRelations, firstHeaded_singleton, apply_ite (Option.map relationsOf)]
  rfl

theorem declaredRows_append (front back : List Section) :
  declaredRows (front ++ back) = (declaredRows front).or (declaredRows back)
  := by
  rw [declaredRows, firstHeaded, List.find?_append, Option.map_or]
  rfl

theorem declaredRelations_append (front back : List Section) :
  declaredRelations (front ++ back) = (declaredRelations front).or (declaredRelations back)
  := by
  rw [declaredRelations, firstHeaded, List.find?_append, Option.map_or]
  rfl

/-- A plain section gives a scope its rows or its relations, unless the scope has some already. -/
theorem addSection_eq (s : Scope) (part : Section) :
  s.addSection part
    = { s with
        layout := s.layout.or (declaredRows [part])
        relations := s.relations.or (declaredRelations [part]) }
  := by
  obtain ⟨label, layout, relations, nested, messages⟩ := s
  rw [declaredRows_singleton, declaredRelations_singleton]
  by_cases hl : part.header.lower = ("layout" : Text)
  · have hr : part.header.lower ≠ ("relations" : Text) := by
      rw [hl]
      decide
    simp only [addSection, beq_iff_eq, if_pos hl, if_neg hr]
    cases layout <;> cases relations <;> rfl
  · by_cases hr : part.header.lower = ("relations" : Text)
    · simp only [addSection, beq_iff_eq, if_neg hl, if_pos hr]
      cases layout <;> cases relations <;> rfl
    · simp only [addSection, beq_iff_eq, if_neg hl, if_neg hr]
      cases layout <;> cases relations <;> rfl

/-- Plain sections give a scope the rows and relations of the first sections that describe them,
unless it has some already. -/
theorem addBlocks_plain (parts : List Section) (s : Scope) :
  addBlocks (parts.map .plain) s
    = { s with
        layout := s.layout.or (declaredRows parts)
        relations := s.relations.or (declaredRelations parts) }
  := by
  induction parts generalizing s with
  | nil =>
      obtain ⟨label, layout, relations, nested, messages⟩ := s
      cases layout <;> cases relations <;> rfl
  | cons part parts ih =>
      rw [List.map_cons, addBlocks, addBlock, ih, addSection_eq, Option.or_assoc, Option.or_assoc,
        ← declaredRows_append, ← declaredRelations_append]
      rfl

/-- A scope that holds nothing but plain sections. -/
theorem addBlocks_plain_empty (parts : List Section) (label : Text) :
  addBlocks (parts.map .plain) (empty label)
    = bare (declaredRows parts) (declaredRelations parts) label
  := by
  rw [addBlocks_plain]
  rfl

theorem addGroup_plain (path : Text) (parts : List Section) (s : Scope) :
  addGroup path (parts.map .plain) s
    = declare (bare (declaredRows parts) (declaredRelations parts)) path s
  := by
  rw [addGroup, addBlock, funext (addBlocks_plain_empty parts)]

/-- What one declaration does to a scope in which settled scopes are nested: a blocked path
changes nothing, and any other is added to the outline. -/
theorem addGroup_cases {s : Scope} (h : Settled s.nested) (path : Text) (parts : List Section) :
  (Blocked s.nested path ∧ addGroup path (parts.map .plain) s = s)
    ∨ (¬ Blocked s.nested path ∧ Settled (addGroup path (parts.map .plain) s).nested
      ∧ (outline (addGroup path (parts.map .plain) s).nested).Perm
        ((path, declaredRows parts, declaredRelations parts) :: outline s.nested))
  := by
  rw [addGroup_plain]
  by_cases hpath : Blocked s.nested path
  · left
    use hpath
    apply declare_of_blocked h hpath
  · right
    use hpath
    rw [declare_of_not_blocked hpath]
    apply h.declareAmong_of_not_blocked hpath

/-- One declaration changes nothing or adds one scope, which has no scopes nested in it, as a
last child. -/
theorem gains_addGroup {s : Scope} (h : Settled s.nested) (path : Text) (parts : List Section) :
  addGroup path (parts.map .plain) s = s
    ∨ ∃ new nested, new.nested = [] ∧ Gains new s.nested nested
      ∧ addGroup path (parts.map .plain) s = { s with nested }
  := by
  rw [addGroup_plain]
  by_cases hpath : Blocked s.nested path
  · left
    apply declare_of_blocked h hpath
  · right
    let make := bare (declaredRows parts) (declaredRelations parts)
    obtain ⟨label, hgains⟩ : ∃ label,
        Gains (make label) s.nested (declareAmong make path s.nested) :=
      h.gains_declareAmong hpath
    use make label, declareAmong make path s.nested, rfl, hgains
    apply declare_of_not_blocked hpath

theorem settled_addGroup {s : Scope} (h : Settled s.nested) (path : Text) (parts : List Section) :
  Settled (addGroup path (parts.map .plain) s).nested
  := by
  obtain ⟨-, heq⟩ | ⟨-, hsettled, -⟩ := addGroup_cases h path parts
  · rw [heq]
    apply h
  · apply hsettled

/-- One declaration adds at most its own path. -/
theorem mem_nestedPaths_addGroup {s : Scope} (h : Settled s.nested) (path : Text)
    (parts : List Section) (p : Text) :
  p ∈ nestedPaths (addGroup path (parts.map .plain) s).nested
    ↔ p ∈ nestedPaths s.nested ∨ (p = path ∧ ¬ Blocked s.nested path)
  := by
  obtain ⟨hblocked, heq⟩ | ⟨hpath, -, hperm⟩ := addGroup_cases h path parts
  · rw [heq]
    simp [hblocked]
  · rw [nestedPaths_eq_map_outline, (hperm.map Prod.fst).mem_iff, List.map_cons, List.mem_cons,
      ← nestedPaths_eq_map_outline, or_comm]
    simp [hpath]

/-! ### Many declarations -/

/-- Declare paths in order, each with the plain sections that belong to it. -/
def declareAll (declarations : List (Text × List Section)) (s : Scope) : Scope :=
  declarations.foldl (fun s (path, parts) => addGroup path (parts.map .plain) s) s

theorem declareAll_append (front back : List (Text × List Section)) (s : Scope) :
  declareAll (front ++ back) s = declareAll back (declareAll front s)
  := by
  rw [declareAll, List.foldl_append, declareAll, declareAll]

theorem declareAll_cons (path : Text) (parts : List Section) (rest : List (Text × List Section))
    (s : Scope) :
  declareAll ((path, parts) :: rest) s = declareAll rest (addGroup path (parts.map .plain) s)
  := rfl

/-- Every run of declarations keeps the nested scopes settled. -/
theorem settled_declareAll (declarations : List (Text × List Section)) {s : Scope}
    (h : Settled s.nested) :
  Settled (declareAll declarations s).nested
  := by
  induction declarations generalizing s with
  | nil => apply h
  | cons declaration declarations ih => apply ih (settled_addGroup h _ _)

/-- A run of declarations loses nothing from the outline. -/
theorem outline_subset_declareAll (declarations : List (Text × List Section)) {s : Scope}
    (h : Settled s.nested) :
  outline s.nested ⊆ outline (declareAll declarations s).nested
  := by
  induction declarations generalizing s with
  | nil => apply List.Subset.refl
  | cons declaration declarations ih =>
      apply List.Subset.trans _ (ih (settled_addGroup h _ _))
      obtain ⟨-, heq⟩ | ⟨-, -, hperm⟩ := addGroup_cases h declaration.1 declaration.2
      · rw [heq]
        apply List.Subset.refl
      · intro entry hentry
        apply hperm.mem_iff.mpr
        apply List.mem_cons_of_mem _ hentry

/-- The paths after a run of declarations are those from before and declared ones. -/
theorem mem_nestedPaths_declareAll (declarations : List (Text × List Section)) {s : Scope}
    (h : Settled s.nested) {path : Text}
    (hpath : path ∈ nestedPaths (declareAll declarations s).nested) :
  path ∈ nestedPaths s.nested ∨ path ∈ declarations.map Prod.fst
  := by
  induction declarations generalizing s with
  | nil =>
      left
      apply hpath
  | cons declaration declarations ih =>
      obtain hpath | hpath := ih (settled_addGroup h _ _) hpath
      · obtain hpath | ⟨rfl, -⟩ := (mem_nestedPaths_addGroup h _ _ _).mp hpath
        · left
          apply hpath
        · right
          apply List.mem_cons_self
      · right
        apply List.mem_cons_of_mem _ hpath

/-- A path that is blocked and leads to no scope leads to none after any declarations. -/
theorem not_mem_nestedPaths_declareAll (declarations : List (Text × List Section)) {s : Scope}
    (h : Settled s.nested) {path : Text} (hblocked : Blocked s.nested path)
    (hpath : path ∉ nestedPaths s.nested) :
  path ∉ nestedPaths (declareAll declarations s).nested
  := by
  induction declarations generalizing s with
  | nil => apply hpath
  | cons declaration declarations ih =>
      have hmem := mem_nestedPaths_addGroup h declaration.1 declaration.2
      apply ih (settled_addGroup h declaration.1 declaration.2)
      · apply hblocked.mono
        intro p hp
        apply (hmem p).mpr (.inl hp)
      · rw [hmem]
        rintro (hold | ⟨rfl, hfree⟩)
        · apply hpath hold
        · apply hfree hblocked

/-! ### The first declaration of a path -/

variable {s : Scope} {front back : List (Text × List Section)} {path : Text}
  {parts : List Section}

/-- A path that no scope has and that is not yet declared still leads to no scope. -/
theorem not_mem_nestedPaths_of_first (hs : Settled s.nested) (hnew : path ∉ nestedPaths s.nested)
    (hfirst : path ∉ front.map Prod.fst) :
  path ∉ nestedPaths (declareAll front s).nested
  := by
  intro hmem
  obtain hmem | hmem := mem_nestedPaths_declareAll front hs hmem
  · apply hnew hmem
  · apply hfirst hmem

/-- The first declaration of a path decides whether it ever leads to a scope. -/
theorem mem_nestedPaths_iff_of_first (hs : Settled s.nested)
    (hpath : path ∉ nestedPaths (declareAll front s).nested) :
  path ∈ nestedPaths (declareAll (front ++ (path, parts) :: back) s).nested
    ↔ ¬ Blocked (declareAll front s).nested path
  := by
  have hsettled := settled_declareAll front hs
  have hmem := mem_nestedPaths_addGroup hsettled path parts
  rw [declareAll_append, declareAll_cons]
  constructor
  · intro hin hblocked
    apply not_mem_nestedPaths_declareAll back (settled_addGroup hsettled path parts) _ _ hin
    · apply hblocked.mono
      intro p hp
      apply (hmem p).mpr (.inl hp)
    · rw [hmem]
      simp [hpath, hblocked]
  · intro hfree
    have hsub := List.map_subset Prod.fst
      (outline_subset_declareAll back (settled_addGroup hsettled path parts))
    rw [← nestedPaths_eq_map_outline, ← nestedPaths_eq_map_outline] at hsub
    apply hsub
    apply (hmem path).mpr (.inr ⟨rfl, hfree⟩)

/-- The scope at a path has the rows and relations that the path was first declared with. -/
theorem content_of_first (hs : Settled s.nested)
    (hpath : path ∉ nestedPaths (declareAll front s).nested) {c : Scope}
    (hc : (path, c) ∈ nestedWithPaths [] (declareAll (front ++ (path, parts) :: back) s).nested) :
  c.layout = declaredRows parts ∧ c.relations = declaredRelations parts
  := by
  have hsettled := settled_declareAll front hs
  have hfree := (mem_nestedPaths_iff_of_first hs hpath).mp (List.mem_map_of_mem hc)
  obtain ⟨hblocked, -⟩ | ⟨-, -, hperm⟩ := addGroup_cases hsettled path parts
  · contradiction
  have hfound : (path, c.layout, c.relations)
      ∈ outline (declareAll (front ++ (path, parts) :: back) s).nested :=
    List.mem_map.mpr ⟨(path, c), hc, rfl⟩
  have hdeclared : (path, declaredRows parts, declaredRelations parts)
      ∈ outline (declareAll (front ++ (path, parts) :: back) s).nested := by
    rw [declareAll_append, declareAll_cons]
    apply outline_subset_declareAll back (settled_addGroup hsettled path parts)
    apply hperm.mem_iff.mpr
    apply List.mem_cons_self
  have heq := (settled_declareAll _ hs).outline_unique hfound hdeclared
  simpa using heq

/-- Declaring is first come, first served, by whole paths.  After any declarations in a scope
without nested scopes,

* the paths of the nested scopes are declared paths, not empty and pairwise distinct;
* a path leads to a scope exactly when it is not empty and, where it was first declared, was not
  the path of a nested scope and a final dot;
* such a scope has the rows and relations that its path was first declared with;
* one more declaration changes nothing or adds one scope, as the last child of its parent;
* no scope has two children of one label, nor a child whose label and a dot begin the label of
  a later child. -/
theorem declareAll_first_wins (s : Scope) (hs : s.nested = [])
    (declarations : List (Text × List Section)) :
  ((∀ path ∈ nestedPaths (declareAll declarations s).nested,
        path ≠ [] ∧ path ∈ declarations.map Prod.fst)
      ∧ (nestedPaths (declareAll declarations s).nested).Nodup)
    ∧ (∀ front path parts back, declarations = front ++ (path, parts) :: back →
        path ∉ front.map Prod.fst →
          (path ∈ nestedPaths (declareAll declarations s).nested
            ↔ path ≠ []
              ∧ ∀ p ∈ nestedPaths (declareAll front s).nested, path ≠ p ++ [pathSeparator])
          ∧ ∀ c, (path, c) ∈ nestedWithPaths [] (declareAll declarations s).nested →
            c.layout = declaredRows parts ∧ c.relations = declaredRelations parts)
    ∧ (∀ (path : Text) (parts : List Section),
        addGroup path (parts.map .plain) (declareAll declarations s) = declareAll declarations s
          ∨ ∃ new nested, new.nested = [] ∧ Gains new (declareAll declarations s).nested nested
            ∧ addGroup path (parts.map .plain) (declareAll declarations s)
              = { declareAll declarations s with nested })
    ∧ (∀ path c, (path, c) ∈ withPaths [] (declareAll declarations s) →
        c.nested.Pairwise fun a b =>
          a.label ≠ b.label ∧ ¬ a.label ++ [pathSeparator] <+: b.label)
  := by
  have hnil : Settled s.nested := by
    rw [hs]
    apply Settled.nil
  have hnone : ∀ path, path ∉ nestedPaths s.nested := by simp [hs, nestedPaths, nestedWithPaths]
  have hsettled := settled_declareAll declarations hnil
  refine ⟨⟨?paths, hsettled.nodup⟩, ?first, gains_addGroup hsettled, ?siblings⟩
  case paths =>
    intro path hpath
    use hsettled.path_ne_nil path hpath
    apply (mem_nestedPaths_declareAll declarations hnil hpath).resolve_left (hnone path)
  case first =>
    rintro front path parts back rfl hfirst
    have hpath := not_mem_nestedPaths_of_first hnil (hnone path) hfirst
    constructor
    · rw [mem_nestedPaths_iff_of_first hnil hpath]
      simp [Blocked, hpath]
    · intro c hc
      apply content_of_first hnil hpath hc
  case siblings =>
    intro path c hc
    rw [withPaths_eq] at hc
    obtain ⟨⟨⟩⟩ | hc := List.mem_cons.mp hc
    · apply hsettled.labels_apart
    · apply (hsettled.nested hc).labels_apart

/-- A dotted path declared before its beginning stays one label and takes up what is declared
below it; a final dot declares nothing, and neither does a second declaration. -/
theorem declareAll_first_wins_dotted :
  let declarations : List (Text × List Section) :=
    [("A.B", [⟨"Layout", ["[C]"]⟩]), ("A", []), ("A.", []), ("A.B.C", []),
      ("A", [⟨"layout", ["[D]"]⟩])]
  let t := declareAll declarations (empty [])
  (empty []).nested = [] ∧ nestedPaths t.nested = ["A.B", "A.B.C", "A"]
    ∧ (nestedPaths t.nested).Nodup ∧ ("A." : Text) ∉ nestedPaths t.nested
    ∧ ∀ c, (("A" : Text), c) ∈ nestedWithPaths [] t.nested → c.layout = none
  := by
  intro declarations t
  obtain ⟨⟨-, hnodup⟩, hfirst, -⟩ := declareAll_first_wins (empty []) rfl declarations
  refine ⟨rfl, by decide +kernel, hnodup, ?dot, ?second⟩
  case dot =>
    have hdot := (hfirst (declarations.take 2) "A." [] (declarations.drop 3) rfl (by decide)).1
    rw [hdot]
    push Not
    intro _
    use "A"
    decide +kernel
  case second =>
    intro c hc
    apply ((hfirst (declarations.take 1) "A" [] (declarations.drop 2) rfl (by decide)).2 c hc).1

end Scope

end BoxDiagram
