import BoxDiagram.Command.Action
import BoxDiagram.Proofs.Files.Saving

/-!
# What commands do

A command is run on a session with a toolkit.  What is drawn for a diagram depends on the settings
and the fonts alone, and a diagram is rendered to a file if it can be drawn, the file can be saved
and the message about it can be shown; then nothing changes but the file and what has been printed.
A command line ends as the request that it makes.
-/

namespace BoxDiagram

namespace Settings

/-- The calls that draw a diagram with some fonts. -/
def calls (settings : Settings) (fonts : FontSystem) (find : FontFinder) (scope : Scope) :
    Except Failure (List (Call Float)) :=
  match settings.textMeasurer fonts find with
  | .error e => .error (.font e)
  | .ok m =>
    match Scene.ofScope m settings.style scope with
    | .error e => .error (.diagram e)
    | .ok scene => .ok (drawScene m settings.style settings.style.font scene)

/-- The text that shows some calls in a format, for a file with a name. -/
def shown (name : Text) (calls : List (Call Float)) : Format → Except Failure Text
  | .svg =>
    match Svg.empty.drawAll calls with
    | .error e => .error (.number e)
    | .ok svg => .ok svg.toText
  | .excalidraw =>
    match (ExcalidrawScene.empty name 1).drawAll calls with
    | .error e => .error (.drawing e)
    | .ok drawn =>
      match (ExcalidrawDocument.ofScene drawn).text with
      | .error e => .error (.writing e)
      | .ok t => .ok t

/-- The text of a diagram in a format, for a file whose name is given without its suffix. -/
def rendered (settings : Settings) (fonts : FontSystem) (find : FontFinder) (scope : Scope)
    (name : Text) (format : Format) : Except Failure Text :=
  match settings.calls fonts find scope with
  | .error e => .error e
  | .ok calls => shown name calls format

end Settings

namespace Action

/-! ### Steps -/

/-- What a part of a command gives on a session, and the session after it. -/
def runOn {α : Type} (a : Action α) (kit : Toolkit) (s : Session) : Except Stop α × Session :=
  (ReaderT.run a kit).run.run s

section Steps

variable {ε α β : Type} {cause : ε → Failure} {kit : Toolkit} {s : Session}

theorem run_bind (a : Action α) (f : α → Action β) (s : Session) :
  (a >>= f).runOn kit s
    = match a.runOn kit s with
      | (.ok x, s') => (f x).runOn kit s'
      | (.error e, s') => (.error e, s')
  := by
  change (match a.runOn kit s with
    | (r, s') => ExceptT.bindCont (fun x => f x kit) r s') = _
  cases a.runOn kit s with
  | mk result s' => cases result <;> rfl

theorem run_map (f : α → β) (a : Action α) (s : Session) :
  (f <$> a).runOn kit s = (f <$> (a.runOn kit s).1, (a.runOn kit s).2)
  := by
  rw [← bind_pure_comp, run_bind]
  cases a.runOn kit s with
  | mk result s' => cases result <;> rfl

@[simp]
theorem mapError_ok (f : ε → Stop) (x : α) :
  (Except.ok x : Except ε α).mapError f = .ok x
  := rfl

theorem run_orFail (r : Except ε α) :
  (orFail cause r).runOn kit s = (r.mapError fun e => .failure (cause e), s)
  := by
  cases r <;> rfl

theorem run_read :
  (read : Action Toolkit).runOn kit s = (.ok kit, s)
  := rfl

theorem run_get :
  (get : Action Session).runOn kit s = (.ok s, s)
  := rfl

/-- A message is printed if it can be shown. -/
theorem run_print (t : Text) :
  (print t).runOn kit s
    = match kit.console.show? t with
      | .ok shown => (.ok (), { s with printed := s.printed ++ shown ++ ['\n'] })
      | .error e => (.error (.failure (.markup e)), s)
  := by
  rw [print, run_bind, run_read]
  simp only
  rw [run_bind, run_orFail]
  cases kit.console.show? t <;> rfl

/-- A text that is saved is saved in the files of the session. -/
theorem run_save {p : Path} {t : Text} {tree : FileTree} {error : Option FileError}
    (h : s.tree.save p t.encode = (tree, error)) :
  (save p t).runOn kit s
    = ((match error with
        | none => .ok ()
        | some e => .error (.failure (.file e))), { s with tree })
  := by
  rw [save, run_bind, run_get]
  simp only [h]
  cases error <;> rfl

end Steps

/-! ### Rendering -/

variable {settings : Settings} {scope : Scope} {kit : Toolkit} {s : Session} {format : Format}

/-- The calls that draw a diagram depend on the settings and the fonts alone. -/
theorem run_drawing :
  (drawing settings scope).runOn kit s
    = ((settings.calls s.fonts s.findFont scope).mapError .failure, s)
  := by
  rw [drawing, run_bind, run_get]
  simp only
  rw [run_bind, run_orFail, Settings.calls]
  cases settings.textMeasurer s.fonts s.findFont with
  | error e => rfl
  | ok m =>
      simp only [mapError_ok]
      rw [run_bind, run_orFail]
      cases Scene.ofScope m settings.style scope <;> rfl

theorem run_document (name : Text) :
  (document settings scope name).runOn kit s
    = ((match settings.calls s.fonts s.findFont scope with
        | .error e => .error (.failure e)
        | .ok calls =>
          match (ExcalidrawScene.empty name 1).drawAll calls with
          | .error e => .error (.failure (.drawing e))
          | .ok drawn => .ok (.ofScene drawn)), s)
  := by
  rw [document, run_bind, run_drawing]
  cases settings.calls s.fonts s.findFont scope with
  | error e => rfl
  | ok calls =>
      simp only [mapError_ok]
      rw [run_bind, run_orFail]
      cases (ExcalidrawScene.empty name 1).drawAll calls <;> rfl

/-- What is drawn depends on the settings and the fonts alone. -/
theorem run_rendering (name : Text) :
  (rendering settings scope name format).runOn kit s
    = ((settings.rendered s.fonts s.findFont scope name format).mapError .failure, s)
  := by
  cases format with
  | svg =>
      rw [rendering, run_bind, run_drawing, Settings.rendered]
      cases settings.calls s.fonts s.findFont scope with
      | error e => rfl
      | ok calls =>
          simp only [mapError_ok, Settings.shown]
          rw [run_bind, run_orFail]
          cases Svg.empty.drawAll calls <;> rfl
  | excalidraw =>
      rw [rendering, run_bind, run_document, Settings.rendered]
      cases settings.calls s.fonts s.findFont scope with
      | error e => rfl
      | ok calls =>
          simp only [Settings.shown]
          cases (ExcalidrawScene.empty name 1).drawAll calls with
          | error e => rfl
          | ok drawn =>
              simp only
              rw [run_orFail]
              cases (ExcalidrawDocument.ofScene drawn).text <;> rfl

/-- What is said about a file that was written. -/
def writtenNotice (target : Path) : Text := colored "green" "Wrote" (' ' :: target.text)

/-- A diagram is drawn, then its file is saved, and then the message is printed. -/
theorem run_renderTo {target : Path} :
  (renderTo settings scope format target).runOn kit s
    = match settings.rendered s.fonts s.findFont scope target.stem format with
      | .error e => (.error (.failure e), s)
      | .ok t =>
        match s.tree.save target t.encode with
        | (tree, some e) => (.error (.failure (.file e)), { s with tree })
        | (tree, none) =>
          match kit.console.show? (writtenNotice target) with
          | .ok shown => (.ok (), { s with tree, printed := s.printed ++ shown ++ ['\n'] })
          | .error e => (.error (.failure (.markup e)), { s with tree })
  := by
  rw [renderTo, run_bind, run_rendering]
  cases settings.rendered s.fonts s.findFont scope target.stem format with
  | error e => rfl
  | ok t =>
      simp only [mapError_ok]
      rw [run_bind]
      cases hsave : s.tree.save target t.encode with
      | mk tree error =>
          rw [run_save hsave]
          cases error with
          | some e => rfl
          | none => apply run_print (writtenNotice target)

/-- A diagram is rendered to a file if it can be drawn, the file can be saved and the message can be
shown. -/
theorem renderTo_eq_ok {target : Path} {s' : Session} :
  (renderTo settings scope format target).runOn kit s = (.ok (), s')
    ↔ ∃ t tree shown, settings.rendered s.fonts s.findFont scope target.stem format = .ok t
      ∧ s.tree.save target t.encode = (tree, none)
      ∧ kit.console.show? (writtenNotice target) = .ok shown
      ∧ { s with tree, printed := s.printed ++ shown ++ ['\n'] } = s'
  := by
  rw [run_renderTo]
  cases settings.rendered s.fonts s.findFont scope target.stem format with
  | error e => simp
  | ok t =>
      cases hsave : s.tree.save target t.encode with
      | mk tree error =>
          cases error with
          | some e => simp [hsave]
          | none => cases kit.console.show? (writtenNotice target) <;> simp [hsave]

theorem run_loadSettings {config : Option Path}
    (h : Settings.loadWith kit.settings s.tree s.env config = .ok settings) :
  (loadSettings config).runOn kit s = (.ok settings, s)
  := by
  rw [loadSettings, run_bind, run_read]
  simp only
  rw [run_bind, run_get]
  simp only [h]
  rfl

/-- A file without errors is read. -/
theorem run_readDiagram {input : Path} {t : Text} (h : s.tree.readText input = .ok t)
    (hvalid : (Scope.ofText t).hasErrors = false) :
  (readDiagram input).runOn kit s = (.ok (.ofText t), s)
  := by
  rw [readDiagram, run_bind, run_get]
  simp only
  rw [run_bind, run_orFail, FileTree.has_of_readText h]
  simp only [mapError_ok, Bool.not_true, Bool.false_eq_true, if_false]
  rw [run_bind, run_orFail, h]
  simp only [mapError_ok, hvalid, Bool.false_eq_true, if_false]
  rfl

/-- The file that a diagram is rendered to: the one that is asked for, or the input with the suffix
of the format. -/
def targetOf? (input : Path) (output : Option Path) (format : Format) : Option Path :=
  output.or (input.withSuffix? format.suffix)

/-- A diagram that can be read and has no errors is rendered. -/
theorem run_render {input : Path} {output config : Option Path} {t : Text}
    (hload : Settings.loadWith kit.settings s.tree s.env config = .ok settings)
    (hread : s.tree.readText input = .ok t) (hvalid : (Scope.ofText t).hasErrors = false) :
  (render input output format config).runOn kit s
    = match targetOf? input output format with
      | some target => (renderTo settings (.ofText t) format target).runOn kit s
      | none => (.error (.failure (.file (.emptyName input))), s)
  := by
  rw [render, run_bind, run_loadSettings hload]
  simp only
  rw [run_bind, run_readDiagram hread hvalid, targetOf?]
  cases output with
  | some target => rfl
  | none => cases input.withSuffix? format.suffix <;> rfl

/-! ### The command line -/

/-- The exit code of a command that ended so. -/
def exitCode : Except Stop Unit → Nat
  | .ok () => 0
  | .error (.exit code) => code
  | .error (.failure _) => 1

/-- How a command line ends if its command ended so. -/
def outcomeOf : Except Stop Unit → Outcome
  | .ok () => ⟨0, none⟩
  | .error (.exit code) => ⟨code, none⟩
  | .error (.failure e) => ⟨1, some e⟩

theorem code_outcomeOf (result : Except Stop Unit) :
  (outcomeOf result).code = exitCode result
  := by
  obtain (code | e) | ⟨⟨⟩⟩ := result <;> rfl

end Action

open BoxDiagram.Action

theorem Toolkit.run_eq {kit : Toolkit} {arguments : List Text} {request : Request}
    (h : kit.request arguments = .ok request) (s : Session) :
  kit.run arguments s
    = (outcomeOf ((perform request).runOn kit s).1, ((perform request).runOn kit s).2)
  := by
  rw [run, h, runOn]
  simp only
  generalize (ReaderT.run (perform request) kit).run.run s = r
  obtain ⟨(code | e) | ⟨⟨⟩⟩, s'⟩ := r <;> rfl

/-- A command line carries out its request. -/
theorem Toolkit.run_of_request {kit : Toolkit} {arguments : List Text} {request : Request}
    (h : kit.request arguments = .ok request) (s : Session) :
  (kit.run arguments s).1.code = exitCode ((perform request).runOn kit s).1
    ∧ (kit.run arguments s).2 = ((perform request).runOn kit s).2
  := by
  rw [run_eq h, code_outcomeOf]
  use rfl

end BoxDiagram
