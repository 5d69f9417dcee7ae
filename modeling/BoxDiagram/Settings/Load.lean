import BoxDiagram.Font.Load
import BoxDiagram.Settings.Source

/-!
# Loading settings

The settings are a style and the choice of a measurer.  They come from the environment and from
a settings file: the one asked for, or else the one the environment names, or else the usual one
if it is there.  A file that is chosen has to exist.  What is gathered from there is checked.
-/

namespace BoxDiagram

/-- How text is measured. -/
inductive MeasurerChoice where
  | fromFont
  | guessed
  deriving DecidableEq, Repr

/-- The name of a choice. -/
def MeasurerChoice.name : MeasurerChoice → Text
  | .fromFont => "pillow"
  | .guessed => "heuristic"

/-- The settings of the program. -/
structure Settings where
  style : Style Float
  measurer : MeasurerChoice

/-- What is said about a settings file that does not exist. -/
def configNotFound (path : Path) : Text := ("Config file not found: " : Text) ++ path.text

/-- The style in an object of settings. -/
def checkStyle : Option Json → Checked (Style Float)
  | none => ⟨.standard, []⟩
  | some (.obj fields) =>
    let checked := Style.check fields
    ⟨checked.value, checked.faults.map fun f => { f with location := "diagram" :: f.location }⟩
  | some _ => ⟨.standard, [⟨["diagram"], .notObject⟩]⟩

/-- The measurer in an object of settings. -/
def checkMeasurer : Option Json → Checked MeasurerChoice
  | none => ⟨.fromFont, []⟩
  | some value =>
    let name : Text := match value with
      | .str t => t
      | _ => []
    match [MeasurerChoice.fromFont, .guessed].find? (·.name == name) with
    | some choice => ⟨choice, []⟩
    | none => ⟨.fromFont, [⟨["measurer"], .unknownMeasurer⟩]⟩

/-- The names of the settings. -/
def settingNames : List Text := ["diagram", "measurer"]

/-- The names in an object of settings that are no settings. -/
def unknownNames (fields : Fields) : List FieldFault :=
  (fields.filter fun (name, _) => !settingNames.contains name).map fun (name, _) =>
    ⟨[name], .unknownName⟩

namespace Settings

/-- The settings in an object, or all faults in it. -/
def ofFields (fields : Fields) : Except (List FieldFault) Settings :=
  let style := checkStyle (fields.get? "diagram")
  let measurer := checkMeasurer (fields.get? "measurer")
  let faults := style.faults ++ measurer.faults ++ unknownNames fields
  if faults.isEmpty then .ok ⟨style.value, measurer.value⟩ else .error faults

/-- The variable that names a settings file. -/
def pathVariable : Text := "BOXDRAFT_CONFIG_PATH"

/-- The settings file that is used when none is asked for. -/
def usualPath : Path := .ofText "config/boxdraft.yaml"

/-- The settings file that is chosen, if one is. -/
def chosenPath (tree : FileTree) (env : Environment) (asked : Option Path) :
    Except FileError (Option Path) :=
  match asked with
  | some path => .ok (some path)
  | none =>
    match List.lookup pathVariable env with
    | some (c :: t) => .ok (some (.ofText (c :: t)))
    | _ => (fun found => if found then some usualPath else none) <$> tree.has usualPath

/-- The settings that are gathered with a way to do so; a file that is chosen has to exist. -/
def loadWith (reader : SettingsReader) (tree : FileTree) (env : Environment)
    (asked : Option Path) : Except SettingsError Settings := do
  let chosen ← (chosenPath tree env asked).mapError .file
  match chosen with
  | none => pure ()
  | some path => if !(← (tree.has path).mapError .file) then throw (.fileNotFound path)
  (ofFields (← reader tree env chosen)).mapError .invalid

/-- The measurer that the settings ask for. -/
def textMeasurer (s : Settings) (system : FontSystem) (find : FontFinder) :
    Except FontError (Measurer Float) :=
  match s.measurer with
  | .guessed => .ok (.guessing s.style.fontSize)
  | .fromFont => Measurer.ofFamily system find s.style.fontFamily s.style.fontSize

end Settings

end BoxDiagram
