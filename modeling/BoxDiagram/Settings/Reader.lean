import BoxDiagram.Files.Stream
import BoxDiagram.Settings.Environment
import BoxDiagram.Settings.Load
import BoxDiagram.Settings.Yaml

/-!
# A reader of settings

This way to gather settings is enough to run the program by itself.  The variables of the
environment count above a settings file.  A home folder is put in for the name of a user in the
path of the file.  The names of the settings in a file count in upper and in lower case, those of
the fields of the style only as they are.
-/

namespace BoxDiagram

/-- The name of the setting that a name in a file stands for; any other name is itself. -/
def settingName (name : Text) : Text :=
  if settingNames.contains name.lower then name.lower else name

/-- An object with the names of settings for the names that stand for them; of several that stand
for one setting the first counts. -/
def nameSettings (fields : Fields) : Fields :=
  fields.foldl (fun named (name, value) =>
    match named.get? (settingName name) with
    | some _ => named
    | none => named.set (settingName name) value) []

namespace Settings

/-- The settings in the data of a file.  Its text is read in blocks, and each block is looked
through for characters that it may not hold before the next one is decoded. -/
def ofData (path : Path) (data : Bytes) : Except SettingsError Fields :=
  let (t, error) := Stream.start.readToEnd data
  let blocks := if error.isNone then t else t.take (t.length - t.length % Stream.blockSize)
  match Yaml.unprintable? blocks, error with
  | some e, _ => .error (.unreadable path e)
  | none, some e => .error (.file (.notText e))
  | none, none => (Yaml.read t).mapError (.unreadable path)

/-- The settings in a file, or none if no file is there. -/
def ofFile (tree : FileTree) (path : Path) : Except SettingsError Fields :=
  match tree.find path with
  | .error e => .error (.file e)
  | .ok (some (.file data)) => nameSettings <$> ofData path data
  | .ok _ => .ok []

/-- The settings in a file, and above them those in the environment. -/
def reader : SettingsReader := fun tree env chosen => do
  let below ← match chosen with
    | none => pure []
    | some path => ofFile tree (← (tree.expandHome path).mapError .file)
  let above ← env.settings.mapError .environment
  return overlay below above

/-- The settings of the program. -/
def load (tree : FileTree) (env : Environment) (asked : Option Path) :
    Except SettingsError Settings :=
  loadWith reader tree env asked

end Settings

end BoxDiagram
