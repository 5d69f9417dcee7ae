import BoxDiagram.Proofs.Document.Described

/-!
# Errors of the scopes that a text describes

The messages about a scope are those about the scopes of its walk that have no rows, in the
order of the walk.  Validation changes neither rows nor paths, so after it every scope has the
messages about its own walk, with the paths from the root of the document.
-/

namespace BoxDiagram

namespace Scope

mutual

/-- A scope is at fault for each scope of its walk without rows. -/
theorem faults_eq (path : Text) : ∀ s : Scope,
    faults path s
      = ((withPaths path s).filter (·.2.layout.isNone)).map fun entry => missingLayout entry.1
  | ⟨label, layout, relations, nested, messages⟩ => by
      rw [faults, withPaths_eq, nestedFaults_eq path nested]
      cases layout <;> rfl

theorem nestedFaults_eq (path : Text) : ∀ scopes : List Scope,
    nestedFaults path scopes
      = ((nestedWithPaths path scopes).filter (·.2.layout.isNone)).map
          fun entry => missingLayout entry.1
  | [] => rfl
  | s :: scopes => by
      rw [nestedFaults, nestedWithPaths, faults_eq _ s, nestedFaults_eq path scopes,
        List.filter_append, List.map_append]

end

mutual

/-- Validation keeps what a scope is at fault for. -/
theorem faults_validate (front path : Text) : ∀ s : Scope,
    faults front (validate path s) = faults front s
  | ⟨label, layout, relations, nested, messages⟩ => by
      rw [validate, faults, faults, nestedFaults_validateNested front path nested]

theorem nestedFaults_validateNested (front path : Text) : ∀ scopes : List Scope,
    nestedFaults front (validateNested path scopes) = nestedFaults front scopes
  | [] => rfl
  | s :: scopes => by
      rw [validateNested, nestedFaults, nestedFaults, validate_label, faults_validate _ _ s,
        nestedFaults_validateNested front path scopes]

end

mutual

/-- Validation from a path validates every scope of the walk from there at its own path. -/
theorem withPaths_validate (path : Text) : ∀ s : Scope,
    withPaths path (validate path s)
      = (withPaths path s).map fun (q, c) => (q, validate q c)
  | ⟨label, layout, relations, nested, messages⟩ => by
      rw [withPaths_eq, withPaths_eq, validate_nested, List.map_cons,
        nestedWithPaths_validateNested path nested]

theorem nestedWithPaths_validateNested (path : Text) : ∀ scopes : List Scope,
    nestedWithPaths path (validateNested path scopes)
      = (nestedWithPaths path scopes).map fun (q, c) => (q, validate q c)
  | [] => rfl
  | s :: scopes => by
      rw [validateNested, nestedWithPaths, nestedWithPaths, validate_label, List.map_append,
        withPaths_validate _ s, nestedWithPaths_validateNested path scopes]

end

/-- Validation records on a scope the messages about it. -/
theorem validate_messages (path : Text) (s : Scope) :
  (validate path s).messages = faults path s
  := by
  cases s
  rw [validate]

/-- A scope at a path is judged when its messages are those about the scopes of its own walk that
have no rows, with their paths, and it has errors exactly when there are such scopes. -/
structure Judged (path : Text) (c : Scope) : Prop where
  messages_eq : c.messages
    = ((withPaths path c).filter (·.2.layout.isNone)).map fun entry => missingLayout entry.1
  hasErrors_iff : c.hasErrors = true ↔ ∃ entry ∈ withPaths path c, entry.2.layout = none

theorem hasErrors_iff_messages (s : Scope) :
  s.hasErrors = true ↔ s.messages ≠ []
  := by
  simp [hasErrors]

theorem judged_validate (path : Text) (s : Scope) :
  Judged path (validate path s)
  := by
  have hmessages : (validate path s).messages
      = ((withPaths path (validate path s)).filter (·.2.layout.isNone)).map
          fun entry => missingLayout entry.1 := by
    rw [validate_messages, ← faults_validate path path s, faults_eq]
  constructor
  case messages_eq => apply hmessages
  case hasErrors_iff =>
    rw [hasErrors_iff_messages, hmessages]
    simp [List.filter_eq_nil_iff]

/-- Every scope that a text describes is judged at its path. -/
theorem judged_ofText (t : Text) {path : Text} {c : Scope}
    (h : (path, c) ∈ withPaths [] (ofText t)) :
  Judged path c
  := by
  rw [ofText, withPaths_validate] at h
  obtain ⟨⟨q, d⟩, -, heq⟩ := List.mem_map.mp h
  obtain ⟨rfl, rfl⟩ := Prod.mk.inj heq
  apply judged_validate

end Scope

end BoxDiagram
