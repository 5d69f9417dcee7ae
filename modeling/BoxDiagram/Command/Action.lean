import BoxDiagram.Command.Toolkit
import BoxDiagram.Excalidraw.Share
import BoxDiagram.Files.Diagrams
import BoxDiagram.Svg.Drawing

/-!
# Commands

A command reads the settings and the diagrams, draws, and writes files; it prints messages as
it goes.  It ends with an exit code, or with a failure that no command handles.  A diagram
with errors and a missing input are told in messages and make the exit code one.
-/

namespace BoxDiagram

/-- How a command stops before its end. -/
inductive Stop where
  | exit (code : Nat)
  | failure (error : Failure)

/-- What commands work with: the files, the variables, the fonts, and what has been printed. -/
structure Session where
  tree : FileTree
  env : Environment
  fonts : FontSystem
  findFont : FontFinder
  printed : Text

/-- A part of a command.  What it has printed and written stays when it stops. -/
abbrev Action := ReaderT Toolkit (ExceptT Stop (StateM Session))

namespace Action

/-- Stop with a failure. -/
def fail {α : Type} (e : Failure) : Action α := throw (.failure e)

/-- Stop with an exit code. -/
def exit {α : Type} (code : Nat) : Action α := throw (.exit code)

/-- The value of a step that may fail. -/
def orFail {ε α : Type} (cause : ε → Failure) : Except ε α → Action α
  | .ok x => pure x
  | .error e => fail (cause e)

/-- Print a line that holds no markup. -/
def printPlain (t : Text) : Action Unit := do
  let kit ← read
  modify fun s => { s with printed := s.printed ++ kit.console.plain t ++ ['\n'] }

/-- Print a line with markup. -/
def print (t : Text) : Action Unit := do
  let kit ← read
  let shown ← orFail .markup (kit.console.show? t)
  modify fun s => { s with printed := s.printed ++ shown ++ ['\n'] }

/-- A text in the style of a colour, with more text behind it. -/
def colored (color t more : Text) : Text :=
  '[' :: color ++ ']' :: t ++ '[' :: '/' :: ']' :: more

/-- Save a text at a path. -/
def save (path : Path) (t : Text) : Action Unit := do
  let s ← get
  let (tree, error) := s.tree.save path t.encode
  set { s with tree }
  match error with
  | some e => fail (.file e)
  | none => pure ()

/-- The settings; a chosen file that does not exist is told in a message. -/
def loadSettings (config : Option Path) : Action Settings := do
  let kit ← read
  let s ← get
  match Settings.loadWith kit.settings s.tree s.env config with
  | .ok settings => pure settings
  | .error (.fileNotFound path) =>
    print (colored "red" (configNotFound path) [])
    exit 1
  | .error e => fail (.settings e)

/-- Print the messages about a diagram, each behind the path of its file. -/
def printFaults (input : Path) : List Text → Action Unit
  | [] => pure ()
  | message :: messages => do
    print (colored "red" (input.text ++ [':']) (' ' :: message))
    printFaults input messages

/-- The diagram in a file; a missing file and a diagram with errors are told in messages. -/
def readDiagram (input : Path) : Action Scope := do
  let s ← get
  if !(← orFail .file (s.tree.has input)) then
    print (colored "red" "File not found:" (' ' :: input.text))
    exit 1
  let t ← orFail .file (s.tree.readText input)
  let scope := Scope.ofText t
  if scope.hasErrors then
    printFaults input scope.messages
    exit 1
  return scope

/-- The calls that draw a diagram. -/
def drawing (settings : Settings) (scope : Scope) : Action (List (Call Float)) := do
  let s ← get
  let m ← orFail .font (settings.textMeasurer s.fonts s.findFont)
  let scene ← orFail .diagram (Scene.ofScope m settings.style scope)
  return drawScene m settings.style settings.style.font scene

/-- The Excalidraw document of a diagram with a name. -/
def document (settings : Settings) (scope : Scope) (name : Text) : Action ExcalidrawDocument := do
  let calls ← drawing settings scope
  let scene ← orFail .drawing ((ExcalidrawScene.empty name 1).drawAll calls)
  return .ofScene scene

/-- The text of a diagram in a format, for a file whose name is given without its suffix. -/
def rendering (settings : Settings) (scope : Scope) (name : Text) : Format → Action Text
  | .svg => do
    let calls ← drawing settings scope
    let svg ← orFail .number (Svg.empty.drawAll calls)
    return svg.toText
  | .excalidraw => do
    let d ← document settings scope name
    orFail .writing d.text

/-- Render a diagram to a file. -/
def renderTo (settings : Settings) (scope : Scope) (format : Format) (target : Path) :
    Action Unit := do
  let t ← rendering settings scope target.stem format
  save target t
  print (colored "green" "Wrote" (' ' :: target.text))

/-- Render one diagram. -/
def render (input : Path) (output : Option Path) (format : Format) (config : Option Path) :
    Action Unit := do
  let settings ← loadSettings config
  let scope ← readDiagram input
  match output with
  | some target => renderTo settings scope format target
  | none =>
    match input.withSuffix? format.suffix with
    | some target => renderTo settings scope format target
    | none => fail (.file (.emptyName input))

/-- Render diagrams into a folder, leaving out those with errors; gives whether there were any. -/
def renderEach (settings : Settings) (format : Format) (outputs : Path) :
    List (Path × Text) → Action Bool
  | [] => pure false
  | (path, t) :: more => do
    let scope := Scope.ofText t
    if scope.hasErrors then
      let messages := Text.join [';', ' '] scope.messages
      print (colored "red" "Skipped" (' ' :: path.text ++ ':' :: ' ' :: messages))
    else renderTo settings scope format (outputs.child (path.stem ++ format.suffix))
    let others ← renderEach settings format outputs more
    return scope.hasErrors || others

/-- Render all diagrams of a folder. -/
def renderAll (inputs outputs : Path) (format : Format) (config : Option Path) : Action Unit := do
  let settings ← loadSettings config
  let s ← get
  let diagrams ← orFail .file (s.tree.readDiagrams inputs)
  if diagrams.isEmpty then
    print (colored "yellow" (("No diagram files found in " : Text) ++ inputs.text) [])
  else
    let tree ← orFail .file (s.tree.makeFolders outputs)
    modify fun s => { s with tree }
    if ← renderEach settings format outputs diagrams then exit 1

/-- Say whether a diagram has errors, and how many scopes it has if not. -/
def validate (input : Path) : Action Unit := do
  let scope ← readDiagram input
  let count := natText (scope.withPaths []).length
  print (colored "green" "Valid diagram:"
    (' ' :: input.text ++ (" (" : Text) ++ count ++ (" scopes)" : Text)))

/-- Print the share address of a diagram. -/
def url (input : Path) (base : Text) (config : Option Path) : Action Unit := do
  let settings ← loadSettings config
  let scope ← readDiagram input
  let d ← document settings scope input.stem
  let address ← orFail .writing (d.shareAddress base)
  printPlain address

/-- Carry out a request. -/
def perform : Request → Action Unit
  | .render input output format config => render input output format config
  | .renderAll inputs outputs format config => renderAll inputs outputs format config
  | .validate input => validate input
  | .url input base config => url input base config

end Action

/-- Run a command line with a toolkit. -/
def Toolkit.run (kit : Toolkit) (arguments : List Text) (s : Session) : Outcome × Session :=
  match kit.request arguments with
  | .error outcome => (outcome, s)
  | .ok request =>
    match ((Action.perform request).run kit).run.run s with
    | (.ok (), s) => (⟨0, none⟩, s)
    | (.error (.exit code), s) => (⟨code, none⟩, s)
    | (.error (.failure e), s) => (⟨1, some e⟩, s)

end BoxDiagram
