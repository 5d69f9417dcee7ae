import BoxDiagram.Files.Tree
import BoxDiagram.Settings.Diagram

/-!
# Where settings come from

Settings come from the environment and from a settings file.  How a file of settings and the
variables of a process are read, and which of the two counts, is not for the program to say: it
takes any way to gather what they hold.
-/

namespace BoxDiagram

/-- The variables of a process. -/
abbrev Environment := List (Text × Text)

/-! ### Errors -/

/-- A variable that is not the JSON text it should be, one with lists or objects too deep in each
other, or one that cannot be read for a reason of its own. -/
inductive EnvironmentError where
  | unreadable (setting : Text)
  | listTooDeep
  | objectTooDeep
  | other (message : Text)
  deriving DecidableEq, Repr

/-- What is said about a variable whose value cannot be read. -/
def EnvironmentError.message : EnvironmentError → Text
  | .unreadable setting =>
    ("error parsing value for field \"" : Text) ++ setting
      ++ ("\" from source \"EnvSettingsSource\"" : Text)
  | .listTooDeep =>
    "maximum recursion depth exceeded while decoding a JSON array from a unicode string"
  | .objectTooDeep =>
    "maximum recursion depth exceeded while decoding a JSON object from a unicode string"
  | .other message => message

namespace Yaml

/-- Why a settings file cannot be read: a character it may not hold, a number that is none, or
whatever else its reader objects to. -/
inductive YamlError where
  | unprintable (code position : Nat)
  | noDigits (base : Nat)
  | tooManyDigits (count : Nat)
  | other (message : Text)
  deriving DecidableEq, Repr

/-- What is said about settings in a file that cannot be read. -/
def YamlError.message (file : Text) : YamlError → Text
  | .unprintable code position =>
    ("unacceptable character #x" : Text) ++ hexText 4 code
      ++ (": special characters are not allowed\n  in \"" : Text) ++ file
      ++ ("\", position " : Text) ++ natText position
  | .noDigits base =>
    ("invalid literal for int() with base " : Text) ++ natText base ++ (": ''" : Text)
  | .tooManyDigits count =>
    ("Exceeds the limit (4300 digits) for integer string conversion: value has " : Text)
      ++ natText count
      ++ (" digits; use sys.set_int_max_str_digits() to increase the limit" : Text)
  | .other message => message

end Yaml

/-- Why there are no settings. -/
inductive SettingsError where
  | fileNotFound (path : Path)
  | environment (error : EnvironmentError)
  | file (error : FileError)
  | unreadable (path : Path) (error : Yaml.YamlError)
  | invalid (faults : List FieldFault)

/-! ### Gathering -/

/-- A way to gather settings as an object: from files and variables, with a settings file or
without one. -/
abbrev SettingsReader := FileTree → Environment → Option Path → Except SettingsError Fields

end BoxDiagram
