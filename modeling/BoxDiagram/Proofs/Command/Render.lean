import BoxDiagram.Command.Run
import BoxDiagram.Proofs.Command.Actions
import BoxDiagram.Proofs.Excalidraw.Share
import BoxDiagram.Proofs.Results

/-!
# A refused rendering leaves the files as they were

A diagram is rendered in two parts.  First the settings are loaded, the input is read and its
text is drawn, and each of these may refuse; up to there no file has changed.  Then the text is
saved, and a notice is printed about the file that was written.  So a command that fails has
left all files as they were, unless the file could not be saved; and a command that succeeds has
put exactly the rendering at the target.  One failure comes too late for this: a target whose
path reads as a closing tag is written, but the notice about it cannot be shown.
-/

namespace BoxDiagram

namespace Action

variable {kit : Toolkit} {settings : Settings} {input target target' : Path}
variable {output config : Option Path} {format : Format} {s : Session} {t t' : Text}

/-! ### Refusals -/

/-- A part of a command refuses a session: it stops, not with the exit code of success, and leaves
the files as they were. -/
def Refuses {α : Type} (kit : Toolkit) (a : Action α) (s : Session) : Prop :=
  ∃ stop s', a.runOn kit s = (.error stop, s') ∧ stop ≠ .exit 0 ∧ s'.tree = s.tree

theorem refuses_fail {α : Type} (e : Failure) :
  Refuses kit (fail e : Action α) s
  := by
  use .failure e, s, rfl
  simp

theorem refuses_exit_one {α : Type} :
  Refuses kit (exit 1 : Action α) s
  := by
  use .exit 1, s, rfl
  simp

/-- What follows a refusal is not reached. -/
theorem Refuses.bind {α β : Type} {a : Action α} (h : Refuses kit a s) (f : α → Action β) :
  Refuses kit (a >>= f) s
  := by
  obtain ⟨stop, s', hrun, hstop, htree⟩ := h
  refine ⟨stop, s', ?_, hstop, htree⟩
  rw [run_bind, hrun]

/-- A part that gives a value and changes nothing leaves a refusal to what follows it. -/
theorem refuses_bind_of_ok {α β : Type} {a : Action α} {f : α → Action β} {x : α}
    (hrun : a.runOn kit s = (.ok x, s)) (h : Refuses kit (f x) s) :
  Refuses kit (a >>= f) s
  := by
  obtain ⟨stop, s', hrun', hstop, htree⟩ := h
  refine ⟨stop, s', ?_, hstop, htree⟩
  rw [run_bind, hrun]
  apply hrun'

/-- A step that may fail refuses with what follows it, if that refuses whatever the step gives. -/
theorem refuses_orFail_bind {ε α β : Type} {cause : ε → Failure} {r : Except ε α}
    {f : α → Action β} (h : ∀ x, r = .ok x → Refuses kit (f x) s) :
  Refuses kit (orFail cause r >>= f) s
  := by
  cases r with
  | error e => apply (refuses_fail _).bind
  | ok x => apply refuses_bind_of_ok (run_orFail _) (h x rfl)

/-- A message before a refusal changes nothing about it: a message that cannot be shown is a refusal
too. -/
theorem refuses_print_bind {α : Type} {a : Action α} (message : Text)
    (h : ∀ printed, Refuses kit a { s with printed }) :
  Refuses kit (print message >>= fun _ => a) s
  := by
  cases hshow : kit.console.show? message with
  | error e =>
      refine Refuses.bind ⟨.failure (.markup e), s, ?_, by simp, rfl⟩ _
      rw [run_print, hshow]
  | ok shown =>
      obtain ⟨stop, s', hrun, hstop, htree⟩ := h (s.printed ++ shown ++ ['\n'])
      refine ⟨stop, s', ?_, hstop, htree⟩
      rw [run_bind, run_print, hshow]
      apply hrun

theorem refuses_printFaults_bind {α : Type} {a : Action α} (messages : List Text)
    (h : ∀ printed, Refuses kit a { s with printed }) :
  Refuses kit (printFaults input messages >>= fun _ => a) s
  := by
  induction messages generalizing s with
  | nil => apply h s.printed
  | cons message messages ih =>
      rw [printFaults, bind_assoc]
      apply refuses_print_bind
      intro printed
      apply ih
      intro printed'
      apply h printed'

/-- Settings that cannot be loaded are refused. -/
theorem refuses_loadSettings {e : SettingsError}
    (h : Settings.loadWith kit.settings s.tree s.env config = .error e) :
  Refuses kit (loadSettings config) s
  := by
  rw [loadSettings]
  apply refuses_bind_of_ok run_read
  apply refuses_bind_of_ok run_get
  simp only [h]
  cases e with
  | fileNotFound path =>
      apply refuses_print_bind
      intro printed
      apply refuses_exit_one
  | environment _ => apply refuses_fail
  | file _ => apply refuses_fail
  | unreadable _ _ => apply refuses_fail
  | invalid _ => apply refuses_fail

/-- An input that is no diagram without errors is refused. -/
theorem refuses_readDiagram
    (h : ∀ t, s.tree.readText input = .ok t → (Scope.ofText t).hasErrors = true) :
  Refuses kit (readDiagram input) s
  := by
  rw [readDiagram]
  apply refuses_bind_of_ok run_get
  apply refuses_orFail_bind
  intro found _
  cases found with
  | false =>
      apply refuses_print_bind
      intro printed
      apply Refuses.bind
      apply refuses_exit_one
  | true =>
      apply refuses_orFail_bind
      intro t ht
      simp only [h t ht, if_true]
      apply refuses_printFaults_bind
      intro printed
      apply refuses_exit_one.bind

/-! ### What is to be written -/

/-- What a command that renders a diagram is to write: the target, and the rendering of the text of
the input under the settings that are loaded. -/
structure IsRendering (kit : Toolkit) (s : Session) (input : Path) (output : Option Path)
    (format : Format) (config : Option Path) (target : Path) (t : Text) : Prop where
  targeted : targetOf? input output format = some target
  rendered : ∃ settings source, Settings.loadWith kit.settings s.tree s.env config = .ok settings
    ∧ s.tree.readText input = .ok source ∧ (Scope.ofText source).hasErrors = false
    ∧ settings.rendered s.fonts s.findFont (.ofText source) target.stem format = .ok t

/-- With settings and a diagram that are read, it is the text that is drawn for the target. -/
theorem isRendering_iff {source : Text}
    (hload : Settings.loadWith kit.settings s.tree s.env config = .ok settings)
    (hread : s.tree.readText input = .ok source)
    (hvalid : (Scope.ofText source).hasErrors = false) :
  IsRendering kit s input output format config target t
    ↔ targetOf? input output format = some target
      ∧ settings.rendered s.fonts s.findFont (.ofText source) target.stem format = .ok t
  := by
  constructor
  · rintro ⟨htarget, settings', source', hload', hread', -, ht⟩
    obtain rfl := Except.ok.inj (hload.symm.trans hload')
    obtain rfl := Except.ok.inj (hread.symm.trans hread')
    use htarget, ht
  · rintro ⟨htarget, ht⟩
    use htarget, settings, source

/-- There is one target at most, and one text for it. -/
theorem IsRendering.unique (h : IsRendering kit s input output format config target t)
    (h' : IsRendering kit s input output format config target' t') :
  target = target' ∧ t = t'
  := by
  obtain ⟨htarget, settings, source, hload, hread, hvalid, ht⟩ := h
  obtain ⟨htarget', ht'⟩ := (isRendering_iff hload hread hvalid).mp h'
  obtain rfl := Option.some.inj (htarget.symm.trans htarget')
  use rfl, Except.ok.inj (ht.symm.trans ht')

/-! ### How a command ends -/

/-- How a command that renders a diagram ends, and the files that it leaves. -/
inductive RenderEnd (kit : Toolkit) (s : Session) (input : Path) (output : Option Path)
    (format : Format) (config : Option Path) : Except Stop Unit → FileTree → Prop where
  | refused {stop : Stop} :
      (∀ target t, ¬ IsRendering kit s input output format config target t) → stop ≠ .exit 0 →
      RenderEnd kit s input output format config (.error stop) s.tree
  | unsaved {target : Path} {t : Text} {tree : FileTree} {e : FileError} :
      IsRendering kit s input output format config target t →
      s.tree.save target t.encode = (tree, some e) →
      RenderEnd kit s input output format config (.error (.failure (.file e))) tree
  | unannounced {target : Path} {t : Text} {tree : FileTree} {e : MarkupError} :
      IsRendering kit s input output format config target t →
      s.tree.save target t.encode = (tree, none) →
      kit.console.show? (writtenNotice target) = .error e →
      RenderEnd kit s input output format config (.error (.failure (.markup e))) tree
  | written {target : Path} {t : Text} {tree : FileTree} {shown : Text} :
      IsRendering kit s input output format config target t →
      s.tree.save target t.encode = (tree, none) →
      kit.console.show? (writtenNotice target) = .ok shown →
      RenderEnd kit s input output format config (.ok ()) tree

theorem Refuses.renderEnd {a : Action Unit} (h : Refuses kit a s)
    (hnone : ∀ target t, ¬ IsRendering kit s input output format config target t) :
  RenderEnd kit s input output format config (a.runOn kit s).1 (a.runOn kit s).2.tree
  := by
  obtain ⟨stop, s', hrun, hstop, htree⟩ := h
  rw [hrun]
  simp only [htree]
  apply RenderEnd.refused hnone hstop

/-- With settings, a diagram and a target, drawing can refuse, the file can be saved or not, and the
notice can be shown or not. -/
theorem renderEnd_renderTo {source : Text}
    (hload : Settings.loadWith kit.settings s.tree s.env config = .ok settings)
    (hread : s.tree.readText input = .ok source) (hvalid : (Scope.ofText source).hasErrors = false)
    (htarget : targetOf? input output format = some target) :
  RenderEnd kit s input output format config
    ((renderTo settings (.ofText source) format target).runOn kit s).1
    ((renderTo settings (.ofText source) format target).runOn kit s).2.tree
  := by
  rw [run_renderTo]
  cases ht : settings.rendered s.fonts s.findFont (.ofText source) target.stem format with
  | error e =>
      apply RenderEnd.refused _ (by simp)
      intro target' t h
      obtain ⟨htarget', ht'⟩ := (isRendering_iff hload hread hvalid).mp h
      obtain rfl := Option.some.inj (htarget.symm.trans htarget')
      rw [ht] at ht'
      contradiction
  | ok t =>
      have h : IsRendering kit s input output format config target t :=
        (isRendering_iff hload hread hvalid).mpr ⟨htarget, ht⟩
      cases hsave : s.tree.save target t.encode with
      | mk tree error =>
          simp only [hsave]
          cases error with
          | some e => apply RenderEnd.unsaved h hsave
          | none =>
              cases hshow : kit.console.show? (writtenNotice target) with
              | error e => apply RenderEnd.unannounced h hsave hshow
              | ok shown => apply RenderEnd.written h hsave hshow

/-- Every command that renders a diagram ends in one of these ways. -/
theorem renderEnd_render :
  RenderEnd kit s input output format config ((render input output format config).runOn kit s).1
    ((render input output format config).runOn kit s).2.tree
  := by
  cases hload : Settings.loadWith kit.settings s.tree s.env config with
  | error e =>
      apply Refuses.renderEnd ((refuses_loadSettings hload).bind _)
      intro target t h
      obtain ⟨settings, source, hload', -⟩ := h.rendered
      rw [hload] at hload'
      contradiction
  | ok settings =>
      by_cases hread : ∃ source, s.tree.readText input = .ok source
          ∧ (Scope.ofText source).hasErrors = false
      · obtain ⟨source, hread, hvalid⟩ := hread
        rw [run_render hload hread hvalid]
        cases htarget : targetOf? input output format with
        | none =>
            apply RenderEnd.refused _ (by simp)
            intro target t h
            rw [h.targeted] at htarget
            contradiction
        | some target =>
            apply renderEnd_renderTo hload hread hvalid htarget
      · apply Refuses.renderEnd
        · apply refuses_bind_of_ok (run_loadSettings hload)
          apply Refuses.bind
          apply refuses_readDiagram
          intro t ht
          by_contra hvalid
          apply hread
          use t, ht
          simpa using hvalid
        · intro target t h
          obtain ⟨-, source, -, hsource, hvalid, -⟩ := h.rendered
          apply hread
          use source

/-! ### The files that are left -/

variable {result : Except Stop Unit} {after : FileTree}

theorem exitCode_error_ne {stop : Stop} (h : stop ≠ .exit 0) :
  exitCode (.error stop) ≠ 0
  := by
  cases stop with
  | exit code =>
      rintro rfl
      apply h rfl
  | failure e => simp [exitCode]

/-- A command that fails leaves the files as they were, if what it is to write can be saved and its
notice can be shown. -/
theorem RenderEnd.unchanged (h : RenderEnd kit s input output format config result after)
    (hcode : exitCode result ≠ 0)
    (hwritten : ∀ target t, IsRendering kit s input output format config target t →
      (s.tree.save target t.encode).2 = none
        ∧ ∃ shown, kit.console.show? (writtenNotice target) = .ok shown) :
  after = s.tree
  := by
  cases h with
  | refused _ _ => rfl
  | unsaved h hsave =>
      have hnone := (hwritten _ _ h).1
      rw [hsave] at hnone
      contradiction
  | unannounced h _ hshow =>
      obtain ⟨-, shown, hshown⟩ := hwritten _ _ h
      rw [hshow] at hshown
      contradiction
  | written _ _ _ => exact absurd rfl hcode

/-- A command that succeeds puts the rendering at the target. -/
theorem RenderEnd.exists_put (h : RenderEnd kit s input output format config result after)
    (hcode : exitCode result = 0) :
  ∃ target t beside place, IsRendering kit s input output format config target t
    ∧ s.tree.Put after target t.encode beside place
  := by
  cases h with
  | refused _ hstop => exact absurd hcode (exitCode_error_ne hstop)
  | unsaved _ _ => contradiction
  | unannounced _ _ _ => contradiction
  | @written target t _ _ h hsave _ =>
      obtain ⟨beside, place, hput⟩ := FileTree.exists_put_of_save hsave
      use target, t, beside, place

/-- A rendering that can be saved is put at the target, and then the command succeeds exactly if the
notice can be shown. -/
theorem RenderEnd.put_of_save (h : RenderEnd kit s input output format config result after)
    (hrendering : IsRendering kit s input output format config target t)
    (hsave : (s.tree.save target t.encode).2 = none) :
  (∃ beside place, s.tree.Put after target t.encode beside place)
    ∧ (exitCode result = 0 ↔ ∃ shown, kit.console.show? (writtenNotice target) = .ok shown)
  := by
  cases h with
  | refused hnone _ => exact absurd hrendering (hnone target t)
  | unsaved h hsave' =>
      obtain ⟨rfl, rfl⟩ := hrendering.unique h
      rw [hsave'] at hsave
      contradiction
  | unannounced h hsave' hshow =>
      obtain ⟨rfl, rfl⟩ := hrendering.unique h
      use FileTree.exists_put_of_save hsave'
      simp [exitCode, hshow]
  | written h hsave' hshow =>
      obtain ⟨rfl, rfl⟩ := hrendering.unique h
      use FileTree.exists_put_of_save hsave'
      simp [exitCode, hshow]

/-! ### Scenes -/

/-- Every diagram without errors is rendered as a scene if text is measured without a font. -/
theorem exists_rendered_excalidraw {source : Text} (hguessed : settings.measurer = .guessed)
    (hvalid : (Scope.ofText source).hasErrors = false) (fonts : FontSystem) (find : FontFinder)
    (name : Text) :
  ∃ t, settings.rendered fonts find (.ofText source) name .excalidraw = .ok t
  := by
  let m := Measurer.guessing settings.style.fontSize
  rw [Settings.rendered, Settings.calls, Settings.textMeasurer, hguessed]
  simp only
  rw [Scene.ofScope_of_valid hvalid]
  simp only
  obtain ⟨drawn, hdrawn, hplain, -⟩ :=
    ExcalidrawScene.exists_drawn m settings.style settings.style.font
      (.ofValid m settings.style (.ofText source)) (ExcalidrawScene.elements_empty name 1)
  rw [Settings.shown, hdrawn]
  simp only
  rw [ExcalidrawDocument.text, ExcalidrawDocument.write_ofScene hplain]
  refine ⟨_, rfl⟩

theorem exists_isRendering_excalidraw {source : Text}
    (hguessed : (Settings.loadWith kit.settings s.tree s.env config).toOption.map (·.measurer)
      = some .guessed)
    (hread : s.tree.readText input = .ok source) (hvalid : (Scope.ofText source).hasErrors = false)
    (htarget : targetOf? input output .excalidraw = some target) :
  ∃ t, IsRendering kit s input output .excalidraw config target t
  := by
  cases hload : Settings.loadWith kit.settings s.tree s.env config with
  | error e =>
      rw [hload] at hguessed
      contradiction
  | ok settings =>
      rw [hload] at hguessed
      obtain ⟨t, ht⟩ := exists_rendered_excalidraw (Option.some.inj hguessed) hvalid s.fonts
        s.findFont target.stem
      use t
      apply (isRendering_iff hload hread hvalid).mpr ⟨htarget, ht⟩

end Action

/-! ### The command line -/

open BoxDiagram.Action

theorem Toolkit.run_render {kit : Toolkit} {arguments : List Text} {input : Path}
    {output config : Option Path} {format : Format}
    (h : kit.request arguments = .ok (.render input output format config)) (s : Session) :
  ∃ result, (kit.run arguments s).1.code = exitCode result
    ∧ RenderEnd kit s input output format config result (kit.run arguments s).2.tree
  := by
  obtain ⟨hcode, hsession⟩ := kit.run_of_request h s
  use ((Action.render input output format config).runOn kit s).1, hcode
  rw [hsession]
  apply renderEnd_render

/-- Whatever commands rely on, a command line that makes no request changes nothing and ends as it
is said to.  One that renders a diagram leaves the files as they were if it fails although what it
is to write, if there is anything, can be saved and its notice can be shown; if it succeeds, the
rendering of the text of the input is in the target, the file beside that is gone, and every other
file is as it was.  A rendering that can be saved is always written, and the command succeeds
exactly if the notice about it can be shown. -/
theorem render_keeps_files (kit : Toolkit) (arguments : List Text) (s : Session) :
  let outcome := (kit.run arguments s).1
  let after := (kit.run arguments s).2.tree
  (∀ ended, kit.request arguments = .error ended → outcome = ended ∧ after = s.tree)
    ∧ ∀ input output format config,
      kit.request arguments = .ok (.render input output format config) →
      (outcome.code ≠ 0 →
          (∀ target t, IsRendering kit s input output format config target t →
            (s.tree.save target t.encode).2 = none
              ∧ ∃ shown, kit.console.show? (writtenNotice target) = .ok shown) →
          after = s.tree)
        ∧ (outcome.code = 0 →
          ∃ target t beside place, IsRendering kit s input output format config target t
            ∧ s.tree.Put after target t.encode beside place)
        ∧ ∀ target t, IsRendering kit s input output format config target t →
          (s.tree.save target t.encode).2 = none →
          (∃ beside place, s.tree.Put after target t.encode beside place)
            ∧ (outcome.code = 0 ↔ ∃ shown, kit.console.show? (writtenNotice target) = .ok shown)
  := by
  intro outcome after
  constructor
  · intro ended h
    have hrun : kit.run arguments s = (ended, s) := by rw [Toolkit.run, h]
    use congrArg Prod.fst hrun, congrArg (fun r => r.2.tree) hrun
  · intro input output format config hrequest
    obtain ⟨result, hcode, hend⟩ := kit.run_render hrequest s
    have hcode' : outcome.code = exitCode result := hcode
    rw [hcode']
    use hend.unchanged, hend.exists_put
    intro target t hrendering hsave
    apply hend.put_of_save hrendering hsave

/-- A diagram is rendered into a folder that is not there yet. -/
theorem render_keeps_files_new_folder :
  let files : List (Place × Bytes) := [(["a.boxdraft"], Text.encode "layout:\n[A]\n")]
  let s : Session :=
    ⟨⟨[], [], [], files⟩, [("BOXDRAFT_MEASURER", "heuristic")], .none, fun _ => .ok none, []⟩
  let arguments : List Text :=
    ["render", "a.boxdraft", "-f", "excalidraw", "-o", "out/a.excalidraw"]
  let input : Path := ⟨[], ["a.boxdraft"]⟩
  let target : Path := ⟨[], ["out", "a.excalidraw"]⟩
  (Toolkit.simple.run arguments s).1.code = 0
    ∧ ∃ t beside place,
      IsRendering Toolkit.simple s input (some target) .excalidraw none target t
        ∧ s.tree.Put (Toolkit.simple.run arguments s).2.tree target t.encode beside place
  := by
  intro files s arguments input target
  have hrequest : Toolkit.simple.request arguments
      = .ok (.render input (some target) .excalidraw none) := by
    apply Toolkit.simple_request
    decide +kernel
  have hmeasurer : (Settings.loadWith Toolkit.simple.settings s.tree s.env none).toOption.map
      (·.measurer) = some .guessed := by
    decide +kernel
  have hread : s.tree.readText input = .ok "layout:\n[A]\n" := by decide +kernel
  have hvalid : (Scope.ofText "layout:\n[A]\n").hasErrors = false := by decide +kernel
  have hsave : (s.tree.save target []).2 = none := by decide +kernel
  have hshown : (Toolkit.simple.console.show? (writtenNotice target)).isOk = true := by
    decide +kernel
  have htarget : targetOf? input (some target) .excalidraw = some target := rfl
  obtain ⟨t, ht⟩ := exists_isRendering_excalidraw hmeasurer hread hvalid htarget
  obtain ⟨tree, htree⟩ := FileTree.exists_save_of_save hsave t.encode
  obtain ⟨-, hrender⟩ := render_keeps_files Toolkit.simple arguments s
  obtain ⟨-, -, hwritten⟩ := hrender _ _ _ _ hrequest
  obtain ⟨⟨beside, place, hput⟩, hcode⟩ := hwritten target t ht (congrArg Prod.snd htree)
  refine ⟨hcode.mpr (isOk_iff.mp hshown), t, beside, place, ht, hput⟩

/-- The path of a target reads as a closing tag: the diagram can be rendered and the file can be
saved, but the command fails, and the file that was not there before has been written. -/
theorem not_render_keeps_files_closing_tag :
  let files : List (Place × Bytes) := [(["a.boxdraft"], Text.encode "layout:\n[A]\n")]
  let s : Session :=
    ⟨⟨[], [], [], files⟩, [("BOXDRAFT_MEASURER", "heuristic")], .none, fun _ => .ok none, []⟩
  let arguments : List Text :=
    ["render", "a.boxdraft", "-f", "excalidraw", "-o", "out[/x].excalidraw"]
  let input : Path := ⟨[], ["a.boxdraft"]⟩
  let target : Path := ⟨[], ["out[", "x].excalidraw"]⟩
  (Toolkit.simple.run arguments s).1.code ≠ 0
    ∧ (∃ t, IsRendering Toolkit.simple s input (some target) .excalidraw none target t
      ∧ (s.tree.save target t.encode).2 = none)
    ∧ s.tree.has target = .ok false
    ∧ ∃ data, (Toolkit.simple.run arguments s).2.tree.read target = .ok data
  := by
  intro files s arguments input target
  have hrequest : Toolkit.simple.request arguments
      = .ok (.render input (some target) .excalidraw none) := by
    apply Toolkit.simple_request
    decide +kernel
  have hmeasurer : (Settings.loadWith Toolkit.simple.settings s.tree s.env none).toOption.map
      (·.measurer) = some .guessed := by
    decide +kernel
  have hread : s.tree.readText input = .ok "layout:\n[A]\n" := by decide +kernel
  have hvalid : (Scope.ofText "layout:\n[A]\n").hasErrors = false := by decide +kernel
  have hsave : (s.tree.save target []).2 = none := by decide +kernel
  have hshown : (Toolkit.simple.console.show? (writtenNotice target)).isOk = false := by
    decide +kernel
  have hmissing : s.tree.has target = .ok false := by decide +kernel
  have htarget : targetOf? input (some target) .excalidraw = some target := rfl
  obtain ⟨t, ht⟩ := exists_isRendering_excalidraw hmeasurer hread hvalid htarget
  obtain ⟨tree, htree⟩ := FileTree.exists_save_of_save hsave t.encode
  have hsaved : (s.tree.save target t.encode).2 = none := congrArg Prod.snd htree
  obtain ⟨result, hcode, hend⟩ := Toolkit.simple.run_render hrequest s
  obtain ⟨⟨beside, place, hput⟩, hsuccess⟩ := hend.put_of_save ht hsaved
  refine ⟨?fails, ⟨t, ht, hsaved⟩, hmissing, t.encode, ?written⟩
  case fails =>
    rw [hcode, Ne, hsuccess, ← isOk_iff, hshown]
    apply Bool.false_ne_true
  case written => apply FileTree.read_eq_ok.mpr ⟨place, hput.targetPlace, hput.file⟩

end BoxDiagram
