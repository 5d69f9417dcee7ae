import BoxDiagram.Connector
import BoxDiagram.Proofs.Document.Reordering
import BoxDiagram.Proofs.Layout.Scopes

/-!
# Layout and order of declaration

Layout finds the scope for a label among siblings and relations find boxes, so neither notices
when siblings with unrelated labels change places: the boxes are the same, and the connectors
are the same up to order.  Groups that are declared in two parent-first orders therefore give
the same drawing.
-/

namespace BoxDiagram

open Scope

variable {α : Type} [Scalar α]

namespace Scope

variable {m : Measurer α} {sp : Spacing α}

/-- A label names the same boxes among shuffled siblings. -/
theorem Shuffled.find?_scopeBoxes {scopes scopes' : List Scope} (h : Shuffled scopes scopes')
    (path label : Text) :
  (scopes.find? (·.label == label)).map (scopeBoxes m sp path)
    = (scopes'.find? (·.label == label)).map (scopeBoxes m sp path)
  := by
  induction h generalizing path label with
  | nil => rfl
  | @cons s nested scopes scopes' _ _ ihn ih =>
      by_cases hs : s.label = label
      · rw [List.find?_cons_of_pos (by simpa using hs), List.find?_cons_of_pos (by simpa using hs),
          Option.map_some, Option.map_some, scopeBoxes_eq, scopeBoxes_eq]
        congr 2
        funext inner
        apply ihn
      · rw [List.find?_cons_of_neg (by simpa using hs), List.find?_cons_of_neg (by simpa using hs)]
        apply ih
  | @swap s t scopes hlabels =>
      by_cases hs : s.label = label
      · have ht : t.label ≠ label := hs ▸ hlabels.ne.symm
        rw [List.find?_cons_of_pos (by simpa using hs), List.find?_cons_of_neg (by simpa using ht),
          List.find?_cons_of_pos (by simpa using hs)]
      · by_cases ht : t.label = label
        · rw [List.find?_cons_of_neg (by simpa using hs),
            List.find?_cons_of_pos (by simpa using ht), List.find?_cons_of_pos (by simpa using ht)]
        · rw [List.find?_cons_of_neg (by simpa using hs),
            List.find?_cons_of_neg (by simpa using ht), List.find?_cons_of_neg (by simpa using ht),
            List.find?_cons_of_neg (by simpa using hs)]
  | trans _ _ ih ih' => rw [ih, ih']

/-- Reorderings have the same boxes. -/
theorem Reordered.layoutBoxes_eq {s t : Scope} (h : Reordered s t) :
  layoutBoxes m sp s = layoutBoxes m sp t
  := by
  obtain ⟨nested, hnested, rfl⟩ := h
  rw [layoutBoxes, layoutBoxes, scopeBoxes_eq, scopeBoxes_eq]
  congr 2
  funext label
  apply hnested.find?_scopeBoxes

/-- Reorderings have the same connectors between given boxes. -/
theorem Reordered.connectAll_perm [Angular α] {s t : Scope} (h : Reordered s t) (headLength : α)
    (boxes : List (Box α)) :
  (connectAll headLength s boxes).Perm (connectAll headLength t boxes)
  := by
  apply h.flatMap_perm
  intro path s nested _
  apply List.Perm.refl

end Scope

/-- Two parent-first orders of groups with distinct references, taken up by the same scope, give

* the same paths, each with the same rows and relations;
* the same scopes below the same parents;
* the same boxes, whatever the measurer and the distances;
* the same connectors between these boxes, up to order. -/
theorem addGroups_parentFirst [Angular α] {groups groups' : List (Text × List Block)}
    (hperm : groups.Perm groups') (hnodup : (groups.map Prod.fst).Nodup)
    (h : ParentFirst (groups.map Prod.fst)) (h' : ParentFirst (groups'.map Prod.fst)) (s : Scope)
    (m : Measurer α) (sp : Spacing α) (headLength : α) :
  (contents (addGroups groups s)).Perm (contents (addGroups groups' s))
    ∧ (descent (addGroups groups s)).Perm (descent (addGroups groups' s))
    ∧ layoutBoxes m sp (addGroups groups s) = layoutBoxes m sp (addGroups groups' s)
    ∧ ∀ boxes : List (Box α), (connectAll headLength (addGroups groups s) boxes).Perm
        (connectAll headLength (addGroups groups' s) boxes)
  := by
  have hreordered := reordered_addGroups hperm hnodup h h' s
  refine ⟨?contents, ?descent, ?boxes, ?connectors⟩
  case contents => apply hreordered.contents_perm
  case descent => apply hreordered.descent_perm
  case boxes => apply hreordered.layoutBoxes_eq
  case connectors => apply hreordered.connectAll_perm

/-- A scope with a scope in it is declared before or after its sibling, which becomes the last or
the first child. -/
theorem addGroups_parentFirst_siblings :
  let groups : List (Text × List Block) :=
    [("A", [.plain ⟨"Layout", ["[B]"]⟩]),
      ("A.B", [.plain ⟨"Layout", ["[x][y]"]⟩, .plain ⟨"Relations", ["[x]->[y]"]⟩]),
      ("C", [.plain ⟨"Layout", []⟩])]
  let groups' := groups.drop 2 ++ groups.take 2
  let s : Scope := ⟨[], some [⟨["A", "C"], []⟩], none, [], []⟩
  let m := Measurer.guessing 14.0
  let sp := Style.standard.spacing
  groups.Perm groups' ∧ (groups.map Prod.fst).Nodup ∧ ParentFirst (groups.map Prod.fst)
    ∧ ParentFirst (groups'.map Prod.fst)
    ∧ (addGroups groups s).nested.map (·.label) = ["A", "C"]
    ∧ (addGroups groups' s).nested.map (·.label) = ["C", "A"]
    ∧ (descent (addGroups groups s)).Perm (descent (addGroups groups' s))
    ∧ layoutBoxes m sp (addGroups groups s) = layoutBoxes m sp (addGroups groups' s)
  := by
  intro groups groups' s m sp
  have hperm : (groups.take 2 ++ groups.drop 2).Perm groups' := List.perm_append_comm
  have hnodup : (groups.map Prod.fst).Nodup := by decide
  have h : ParentFirst (groups.map Prod.fst) := by decide
  have h' : ParentFirst (groups'.map Prod.fst) := by decide
  obtain ⟨-, hdescent, hboxes, -⟩ := addGroups_parentFirst hperm hnodup h h' s m sp 10.0
  refine ⟨hperm, hnodup, h, h', by decide +kernel, by decide +kernel, hdescent, hboxes⟩

end BoxDiagram
