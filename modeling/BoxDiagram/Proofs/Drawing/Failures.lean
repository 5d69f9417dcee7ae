import BoxDiagram.Proofs.Excalidraw.Record
import BoxDiagram.Proofs.Svg.Writing

/-!
# Calls that fail

A surface takes calls one after another, and a call may fail.  On a scene every step of a call
that can fail comes before the first that changes the scene, so a polygon without points leaves
neither an element nor a gap in the numbers or the draws.  On an SVG drawing an element is added
once all its coordinates are written; only a size that cannot be written is kept.  So the calls
that fail, if none of them sets the size of an SVG drawing, can be left out: the other calls do
not fail then, and they draw the same.
-/

namespace BoxDiagram

/-! ### Calls one after another -/

/-- What a kind of surface does with a call: the surface after it, and the reason if it fails. -/
abbrev Surface (σ ε α : Type) := σ → Call α → σ × Option ε

namespace Surface

variable {σ ε α : Type} (take : Surface σ ε α)

/-- A surface after some calls, whether they fail or not. -/
def after (s : σ) (calls : List (Call α)) : σ := calls.foldl (fun s call => (take s call).1) s

/-- The calls that fail at their turn, with the reasons. -/
def failing : σ → List (Call α) → List (Call α × ε)
  | _, [] => []
  | s, call :: calls =>
    match take s call with
    | (s, some e) => (call, e) :: failing s calls
    | (s, none) => failing s calls

/-- The calls that are left when those that fail at their turn are deleted. -/
def passing : σ → List (Call α) → List (Call α)
  | _, [] => []
  | s, call :: calls =>
    match take s call with
    | (s, some _) => passing s calls
    | (s, none) => call :: passing s calls

/-- A call leaves no trace when it fails. -/
def Traceless (call : Call α) : Prop := ∀ s e, (take s call).2 = some e → (take s call).1 = s

variable {take} {s s' : σ} {call : Call α} {calls : List (Call α)} {e : ε}

theorem after_cons (h : (take s call).1 = s') :
  take.after s (call :: calls) = take.after s' calls
  := by
  rw [after, List.foldl_cons, h]
  rfl

theorem failing_of_fails (h : take s call = (s', some e)) :
  take.failing s (call :: calls) = (call, e) :: take.failing s' calls
  := by
  rw [failing, h]

theorem failing_of_passes (h : take s call = (s', none)) :
  take.failing s (call :: calls) = take.failing s' calls
  := by
  rw [failing, h]

theorem passing_of_fails (h : take s call = (s', some e)) :
  take.passing s (call :: calls) = take.passing s' calls
  := by
  rw [passing, h]

theorem passing_of_passes (h : take s call = (s', none)) :
  take.passing s (call :: calls) = call :: take.passing s' calls
  := by
  rw [passing, h]

/-- A call either fails and leaves no trace, or it passes, if no call that fails leaves one. -/
theorem fails_or_passes (h : ∀ failed ∈ take.failing s (call :: calls), take.Traceless failed.1) :
  (∃ e, take s call = (s, some e) ∧ ∀ failed ∈ take.failing s calls, take.Traceless failed.1)
    ∨ ∃ s', take s call = (s', none) ∧ ∀ failed ∈ take.failing s' calls, take.Traceless failed.1
  := by
  cases htake : take s call with
  | mk s' failure =>
      cases failure with
      | none =>
          rw [failing_of_passes htake] at h
          apply Or.inr ⟨s', rfl, h⟩
      | some e =>
          rw [failing_of_fails htake] at h
          obtain ⟨hcall, hcalls⟩ := List.forall_mem_cons.mp h
          have hsame := hcall s e (congrArg Prod.snd htake)
          rw [htake] at hsame
          obtain rfl : s' = s := hsame
          apply Or.inl ⟨e, rfl, hcalls⟩

/-- If the calls that fail leave no trace, the others do not fail without them, and they do to the
surface what all calls do. -/
theorem passing_same (h : ∀ failed ∈ take.failing s calls, take.Traceless failed.1) :
  take.after s (take.passing s calls) = take.after s calls
    ∧ take.failing s (take.passing s calls) = []
  := by
  induction calls generalizing s with
  | nil => trivial
  | cons call calls ih =>
      obtain ⟨e, htake, hcalls⟩ | ⟨s', htake, hcalls⟩ := fails_or_passes h
      · rw [passing_of_fails htake, after_cons (congrArg Prod.fst htake)]
        apply ih hcalls
      · obtain ⟨hsame, hnone⟩ := ih hcalls
        rw [passing_of_passes htake, after_cons (congrArg Prod.fst htake),
          after_cons (congrArg Prod.fst htake), failing_of_passes htake]
        use hsame, hnone

/-- If on surfaces of a kind exactly the good calls pass, and those keep the kind, then the calls
that fail are not good and the others are. -/
theorem good_iff_passing (Kind : σ → Prop) {Good : Call α → Prop}
    (hstep : ∀ s call, Kind s →
      ((take s call).2 = none ↔ Good call) ∧ ((take s call).2 = none → Kind (take s call).1))
    (hs : Kind s) (h : ∀ failed ∈ take.failing s calls, take.Traceless failed.1) :
  (∀ failed ∈ take.failing s calls, ¬ Good failed.1) ∧ ∀ call ∈ take.passing s calls, Good call
  := by
  induction calls generalizing s with
  | nil => simp [failing, passing]
  | cons call calls ih =>
      obtain ⟨hgood, hkind⟩ := hstep s call hs
      obtain ⟨e, htake, hcalls⟩ | ⟨s', htake, hcalls⟩ := fails_or_passes h
      · obtain ⟨hfailing, hpassing⟩ := ih hs hcalls
        rw [htake] at hgood
        rw [failing_of_fails htake, passing_of_fails htake, List.forall_mem_cons]
        use ⟨fun hcall => by simpa using hgood.mpr hcall, hfailing⟩, hpassing
      · rw [htake] at hgood hkind
        obtain ⟨hfailing, hpassing⟩ := ih (hkind rfl) hcalls
        rw [failing_of_passes htake, passing_of_passes htake, List.forall_mem_cons]
        use hfailing, hgood.mp rfl, hpassing

end Surface

/-! ### Scenes -/

namespace ExcalidrawScene

open Excalidraw

variable {α : Type}

/-- A part of a call on a scene.  What it has done to the scene stays when it fails. -/
abbrev Part (α β : Type) := ExceptT DrawError (StateM (ExcalidrawScene α)) β

/-- Take the next draw of the generator. -/
def takeDraw : Part α Nat := do
  let s ← get
  let (n, random) := s.random.draw
  set { s with random }
  return n

/-- A figure with the stamps of the next element: its identifier and two draws. -/
def stamp (f : Figure α) : Part α (Element α) := do
  let s ← get
  let seed ← takeDraw
  let versionNonce ← takeDraw
  return ⟨s.nextId f, f, seed, versionNonce⟩

variable [Scalar α] [Lettering α]

/-- Carry out a call step by step: find the figure, stamp it, and add it. -/
def carryOut (call : Call α) : Part α Unit := do
  match figureOf call with
  | .error e => throw e
  | .ok (some f) =>
    let e ← stamp f
    modify fun s => { s with elements := s.elements ++ [e] }
  | .ok none =>
    match call with
    | .setSize width height => modify fun s => { s with width, height }
    | .fillBackground color => modify fun s => { s with backgroundColor := color }
    | _ => pure ()

/-- A scene after a call, and the reason if the call fails. -/
def take (s : ExcalidrawScene α) (call : Call α) : ExcalidrawScene α × Option DrawError :=
  match (carryOut call).run.run s with
  | (.ok (), s) => (s, none)
  | (.error e, s) => (s, some e)

/-- Step by step a call does what it does at once, and when it fails it has done nothing. -/
theorem take_eq (s : ExcalidrawScene α) (call : Call α) :
  s.take call
    = match s.draw call with
      | .ok s' => (s', none)
      | .error e => (s, some e)
  := by
  rw [take, carryOut.eq_def, draw.eq_def]
  cases figureOf call with
  | error e => rfl
  | ok figure =>
      cases figure with
      | some f => rfl
      | none => cases call <;> rfl

theorem take_of_figure {call : Call α} {f : Figure α} (h : figureOf call = .ok (some f))
    (s : ExcalidrawScene α) :
  s.take call = (s.append f, none)
  := by
  rw [take_eq, draw_figure h]

theorem take_of_error {call : Call α} {e : DrawError} (h : figureOf call = .error e)
    (s : ExcalidrawScene α) :
  s.take call = (s, some e)
  := by
  rw [take_eq, draw_error h]

theorem traceless_take (call : Call α) :
  Surface.Traceless take call
  := by
  intro s e h
  rw [take_eq] at h ⊢
  cases hdraw : s.draw call with
  | ok s' =>
      rw [hdraw] at h
      contradiction
  | error e => rfl

theorem succeeds_figureOf_iff {call : Call α} :
  Succeeds (figureOf call) ↔ call.linePoints ≠ some []
  := by
  cases hline : call.linePoints with
  | none =>
      apply iff_of_true _ (by simp)
      cases call with
      | strokeLine start finish color dash => contradiction
      | fillPolygon points color => contradiction
      | strokePolygon points color => contradiction
      | _ => exact succeeds_ok _
  | some points =>
      obtain ⟨stroke, background, style, hfigure⟩ := figureOf_line hline
      rw [hfigure, succeeds_map_iff]
      cases points with
      | nil => simp [lineFigure, not_succeeds_error]
      | cons first more => simp [lineFigure, succeeds_ok]

/-- Only a polygon without points fails. -/
theorem take_eq_none_iff (s : ExcalidrawScene α) (call : Call α) :
  (s.take call).2 = none ↔ call.linePoints ≠ some []
  := by
  rw [← succeeds_figureOf_iff]
  cases hfigure : figureOf call with
  | error e => simp [take_of_error hfigure, not_succeeds_error]
  | ok figure =>
      cases figure with
      | some f => simp [take_of_figure hfigure, succeeds_ok]
      | none =>
          obtain ⟨s', hdraw, -⟩ := draw_setting (isSetting_of_figureOf hfigure) s
          simp [take_eq, hdraw, succeeds_ok]

/-- Calls of which none fails are drawn. -/
theorem drawAll_of_failing {s : ExcalidrawScene α} {calls : List (Call α)}
    (h : Surface.failing take s calls = []) :
  s.drawAll calls = .ok (Surface.after take s calls)
  := by
  induction calls generalizing s with
  | nil => rfl
  | cons call calls ih =>
      cases hdraw : s.draw call with
      | error e =>
          have htake : s.take call = (s, some e) := by rw [take_eq, hdraw]
          rw [Surface.failing_of_fails htake] at h
          contradiction
      | ok s' =>
          have htake : s.take call = (s', none) := by rw [take_eq, hdraw]
          rw [Surface.failing_of_passes htake] at h
          rw [drawAll, hdraw, Surface.after_cons (congrArg Prod.fst htake)]
          apply ih h

end ExcalidrawScene

/-! ### SVG drawings -/

namespace Svg

/-- Only setting the size can leave a trace when it fails. -/
theorem traceless_draw {call : Call Float} (hcall : ∀ width height, call ≠ .setSize width height) :
  Surface.Traceless draw call
  := by
  intro s e h
  rw [draw] at h ⊢
  · generalize elementOf s.width s.height call = element at h ⊢
    cases element with
    | error e => rfl
    | ok leaf => cases leaf <;> contradiction
  all_goals apply hcall

/-- Calls of which none fails are drawn. -/
theorem drawAll_of_failing {s : Svg} {calls : List (Call Float)}
    (h : Surface.failing draw s calls = []) :
  s.drawAll calls = .ok (Surface.after draw s calls)
  := by
  induction calls generalizing s with
  | nil => rfl
  | cons call calls ih =>
      match hdraw : s.draw call with
      | (s', some e) =>
          rw [Surface.failing_of_fails hdraw] at h
          contradiction
      | (s', none) =>
          rw [Surface.failing_of_passes hdraw] at h
          rw [drawAll, hdraw, Surface.after_cons (congrArg Prod.fst hdraw)]
          apply ih h

theorem sized_empty : empty.Sized := ⟨rfl, rfl⟩

end Svg

/-! ### Both surfaces -/

/-- A call that fails leaves no trace.  On a fresh scene with any name and seed, and on a fresh SVG
drawing on which no setting of the size fails, the calls that are left when those that fail are
deleted do not fail, and they end in the same scene, with its elements, identifiers and draws, and
in the same drawing.  On a scene exactly the polygons without points fail, and on such a drawing
exactly the calls with a number that is not finite. -/
theorem drawAll_passing :
  (∀ {α : Type} [Scalar α] [Lettering α] (name : Text) (seed : Int) (calls : List (Call α)),
      let s : ExcalidrawScene α := .empty name seed
      let failing := Surface.failing ExcalidrawScene.take s calls
      let passing := Surface.passing ExcalidrawScene.take s calls
      s.drawAll passing = .ok (Surface.after ExcalidrawScene.take s calls)
        ∧ (∀ failed ∈ failing, failed.1.linePoints = some [])
        ∧ ∀ call ∈ passing, call.linePoints ≠ some [])
    ∧ ∀ calls : List (Call Float),
      let failing := Surface.failing Svg.draw .empty calls
      let passing := Surface.passing Svg.draw .empty calls
      (∀ failed ∈ failing, ∀ width height, failed.1 ≠ .setSize width height) →
        Svg.empty.drawAll passing = .ok (Surface.after Svg.draw .empty calls)
          ∧ (∀ failed ∈ failing, ¬ ∀ x ∈ failed.1.numbers, IsFinite x)
          ∧ ∀ call ∈ passing, ∀ x ∈ call.numbers, IsFinite x
  := by
  constructor
  · intro α _ _ name seed calls s failing passing
    have htraceless : ∀ failed ∈ failing, Surface.Traceless ExcalidrawScene.take failed.1 :=
      fun failed _ => ExcalidrawScene.traceless_take failed.1
    obtain ⟨hsame, hnone⟩ := Surface.passing_same htraceless
    obtain ⟨hfailing, hpassing⟩ := Surface.good_iff_passing (fun _ => True)
      (fun s call _ => ⟨s.take_eq_none_iff call, fun _ => trivial⟩) trivial htraceless
    refine ⟨?_, fun failed hfailed => not_not.mp (hfailing failed hfailed), hpassing⟩
    rw [ExcalidrawScene.drawAll_of_failing hnone, hsame]
  · intro calls failing passing hsizes
    have htraceless : ∀ failed ∈ failing, Surface.Traceless Svg.draw failed.1 :=
      fun failed hfailed => Svg.traceless_draw (hsizes failed hfailed)
    obtain ⟨hsame, hnone⟩ := Surface.passing_same htraceless
    obtain ⟨hfailing, hpassing⟩ := Surface.good_iff_passing Svg.Sized
      (fun s call hs => Svg.draw_eq_none_iff hs call) Svg.sized_empty htraceless
    refine ⟨?_, hfailing, hpassing⟩
    rw [Svg.drawAll_of_failing hnone, hsame]

/-- A polygon without points between two rectangles, and a rectangle without end on a canvas. -/
theorem drawAll_passing_between :
  (let s : ExcalidrawScene Float := .empty "boxes" 1
    let calls : List (Call Float) := [.fillRect 0 0 4 3 "#ffffff", .fillPolygon [] "#000000",
      .strokeRect 0 0 4 3 "#000000"]
    Surface.failing ExcalidrawScene.take s calls = [(.fillPolygon [] "#000000", .noPoints)]
      ∧ s.drawAll [.fillRect 0 0 4 3 "#ffffff", .strokeRect 0 0 4 3 "#000000"]
        = .ok (Surface.after ExcalidrawScene.take s calls))
    ∧ (let calls : List (Call Float) := [.setSize 4 3, .strokeRect 0 0 (1 / 0) 3 "#000000",
        .fillBackground "#ffffff"]
      (∀ failed ∈ Surface.failing Svg.draw .empty calls,
          ∀ width height, failed.1 ≠ .setSize width height)
        ∧ Svg.empty.drawAll [.setSize 4 3, .fillBackground "#ffffff"]
          = .ok (Surface.after Svg.draw .empty calls))
  := by
  obtain ⟨hscene, hsvg⟩ := drawAll_passing
  constructor
  · intro s calls
    have hfailing : Surface.failing ExcalidrawScene.take s calls
        = [(.fillPolygon [] "#000000", .noPoints)] := by
      rw [Surface.failing_of_passes (ExcalidrawScene.take_of_figure rfl _),
        Surface.failing_of_fails (ExcalidrawScene.take_of_error rfl _),
        Surface.failing_of_passes (ExcalidrawScene.take_of_figure rfl _), Surface.failing]
    have hpassing : Surface.passing ExcalidrawScene.take s calls
        = [.fillRect 0 0 4 3 "#ffffff", .strokeRect 0 0 4 3 "#000000"] := by
      rw [Surface.passing_of_passes (ExcalidrawScene.take_of_figure rfl _),
        Surface.passing_of_fails (ExcalidrawScene.take_of_error rfl _),
        Surface.passing_of_passes (ExcalidrawScene.take_of_figure rfl _), Surface.passing]
    obtain ⟨hdrawn, -⟩ := hscene "boxes" 1 calls
    use hfailing
    rw [← hpassing]
    apply hdrawn
  · intro calls
    have hsize : (Svg.empty.draw (.setSize 4 3)).2 = none := by decide +kernel
    have hendless : ((Svg.empty.draw (.setSize 4 3)).1.draw (.strokeRect 0 0 (1 / 0) 3 "#000000")).2
        = some .infinite := by
      decide +kernel
    have hfilled : ((Svg.empty.draw (.setSize 4 3)).1.draw (.fillBackground "#ffffff")).2
        = none := by
      decide +kernel
    generalize hsized : Svg.empty.draw (.setSize 4 3) = sized at hsize hendless hfilled
    obtain ⟨sized, failure⟩ := sized
    obtain rfl : failure = none := hsize
    have hendless : sized.draw (.strokeRect 0 0 (1 / 0) 3 "#000000") = (sized, some .infinite) :=
      Prod.ext (Svg.traceless_draw (by simp) _ _ hendless) hendless
    have hfilled : sized.draw (.fillBackground "#ffffff")
        = ((sized.draw (.fillBackground "#ffffff")).1, none) := by
      rw [← hfilled]
    have hpassing : Surface.passing Svg.draw .empty calls
        = [.setSize 4 3, .fillBackground "#ffffff"] := by
      rw [Surface.passing_of_passes hsized, Surface.passing_of_fails hendless,
        Surface.passing_of_passes hfilled]
      rfl
    have hsizes : ∀ failed ∈ Surface.failing Svg.draw .empty calls,
        ∀ width height, failed.1 ≠ .setSize width height := by
      rw [Surface.failing_of_passes hsized, Surface.failing_of_fails hendless,
        Surface.failing_of_passes hfilled]
      simp [Surface.failing]
    obtain ⟨hdrawn, -⟩ := hsvg calls hsizes
    use hsizes
    rw [← hpassing]
    apply hdrawn

end BoxDiagram
