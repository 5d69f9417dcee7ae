import BoxDiagram.Drawing.Render
import BoxDiagram.Proofs.Document.Faults

/-!
# Rendering and errors

A text is drawn exactly when every scope that it describes has rows.  Rendering what it
describes fails otherwise, with the messages about all scopes without rows, and rendering the
text does not fail; neither has any effect on the surface.  Without errors both draw the same
scene by the same calls.
-/

namespace BoxDiagram

open Scope

variable {α : Type} [Scalar α] [Angular α] {m : Measurer α} {style : Style α} {font : Text}
  {M : Type → Type} [Monad M] [LawfulMonad M] {surface : Call α → M Unit}

/-! ### With and without errors -/

/-- Rendering a scope tree with errors does nothing but fail. -/
theorem run_render_of_hasErrors {s : Scope} (h : s.hasErrors = true) :
  (render m style font surface s).run = pure (.error ⟨s.messages⟩)
  := by
  simp [render, Scene.ofScope, h, ofExcept]

/-- Rendering a scope tree without errors draws its scene. -/
theorem run_render_of_valid {s : Scope} (h : s.hasErrors = false) :
  (render m style font surface s).run
    = (do
        (drawScene m style font (Scene.ofValid m style s)).forM surface
        return .ok (Scene.ofValid m style s))
  := by
  simp [render, Scene.ofScope, h, ofExcept, Except.map]

omit [LawfulMonad M] in
/-- Rendering a text with errors does nothing and does not fail. -/
theorem run_renderText_of_hasErrors {t : Text} (h : (ofText t).hasErrors = true) :
  (renderText m style font surface t).run = pure (.ok (ofText t))
  := by
  simp [renderText, h]

/-- Rendering a text without errors draws the scene of what it describes. -/
theorem run_renderText_of_valid {t : Text} (h : (ofText t).hasErrors = false) :
  (renderText m style font surface t).run
    = (do
        (drawScene m style font (Scene.ofValid m style (ofText t))).forM surface
        return .ok (ofText t))
  := by
  simp [renderText, h, run_render_of_valid h, Except.map]

omit [Scalar α] [Angular α] in
/-- The recorder keeps what it has and the calls that it gets, in order. -/
theorem run_forM_recorder (calls before : List (Call α)) :
  (calls.forM recorder).run before = ((), before ++ calls)
  := by
  induction calls generalizing before with
  | nil =>
      rw [List.append_nil]
      rfl
  | cons call calls ih =>
      have hstep : ((call :: calls).forM recorder).run before
          = (calls.forM recorder).run (before ++ [call]) := rfl
      rw [hstep, ih, List.append_assoc, List.singleton_append]

/-! ### Texts -/

/-- Errors gate drawing.  For every text,

* the messages about what it describes are one for each scope of the walk without rows, in order;
* every scope that it describes has the messages about its own walk, and has errors exactly when
  some scope in that walk has no rows;
* the path in a message is empty for the outermost scope alone;
* if there are messages, rendering what the text describes fails with them, rendering the text
  gives back what it describes, and neither has any effect on any surface;
* if there are none, both make the calls for the same scene on every surface. -/
theorem ofText_gated (t : Text) (m : Measurer α) (style : Style α) (font : Text)
    (surface : Call α → M Unit) :
  let s := ofText t
  s.messages
      = ((withPaths [] s).filter (·.2.layout.isNone)).map (fun entry => missingLayout entry.1)
    ∧ (∀ path c, (path, c) ∈ withPaths [] s → Judged path c)
    ∧ (∀ path ∈ nestedPaths s.nested, path ≠ [])
    ∧ (s.messages ≠ [] →
        (render m style font surface s).run = pure (.error ⟨s.messages⟩)
          ∧ (renderText m style font surface t).run = pure (.ok s))
    ∧ (s.messages = [] →
        let scene := Scene.ofValid m style s
        (render m style font surface s).run
            = (do
                (drawScene m style font scene).forM surface
                return .ok scene)
          ∧ (renderText m style font surface t).run
            = (do
                (drawScene m style font scene).forM surface
                return .ok s))
  := by
  intro s
  refine ⟨?messages, ?scopes, ?paths, ?invalid, ?valid⟩
  case messages => apply (judged_ofText t (self_mem_withPaths [] s)).messages_eq
  case scopes =>
    intro path c hc
    apply judged_ofText t hc
  case paths => apply (settled_ofText t).path_ne_nil
  case invalid =>
    intro hmessages
    rw [← hasErrors_iff_messages] at hmessages
    use run_render_of_hasErrors hmessages, run_renderText_of_hasErrors hmessages
  case valid =>
    intro hmessages
    have hvalid : s.hasErrors = false := by
      rw [hasErrors, hmessages]
      rfl
    use run_render_of_valid hvalid, run_renderText_of_valid hvalid

/-- On the recorder, a scope without rows below one with rows keeps everything from being drawn,
and without it the calls for the scene are kept. -/
theorem ofText_gated_recorded :
  let m := Measurer.guessing 14.0
  let style := Style.standard
  let record : Call Float → StateM (List (Call Float)) Unit := recorder
  let t : Text := "layout:\n[A]\n[A]:\nlayout:\n[B]\n[A.B]:\nrelations:\n[A]->[B]\n"
  let u : Text := "layout:\n[A]\n"
  LawfulMonad (StateM (List (Call Float)))
    ∧ (ofText t).messages = ["A.B: No layout section."] ∧ (ofText u).messages = []
    ∧ (render m style style.font record (ofText t)).run.run []
      = (.error ⟨["A.B: No layout section."]⟩, [])
    ∧ (renderText m style style.font record t).run.run [] = (.ok (ofText t), [])
    ∧ (renderText m style style.font record u).run.run []
      = (.ok (ofText u), drawScene m style style.font (Scene.ofValid m style (ofText u)))
  := by
  intro m style record t u
  have hlawful : LawfulMonad (StateM (List (Call Float))) := inferInstance
  have ht : (ofText t).messages = ["A.B: No layout section."] := by decide +kernel
  have hu : (ofText u).messages = [] := by decide +kernel
  obtain ⟨-, -, -, hinvalid, -⟩ := ofText_gated t m style style.font record
  obtain ⟨-, -, -, -, hvalid⟩ := ofText_gated u m style style.font record
  obtain ⟨hrender, hrenderText⟩ := hinvalid (by simp [ht])
  refine ⟨hlawful, ht, hu, ?_, ?_, ?_⟩
  · rw [hrender, ht]
    rfl
  · rw [hrenderText]
    rfl
  · rw [(hvalid hu).2, StateT.run_bind, run_forM_recorder, List.nil_append]
    rfl

end BoxDiagram
