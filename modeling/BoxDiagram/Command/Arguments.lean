import BoxDiagram.Command.Request
import BoxDiagram.Excalidraw.Share

/-!
# A reader of command lines

How arguments are read is not for the commands to say: they take any reader.  This one is enough
to run the program by itself.  It knows no call for help and gives no advice on usage errors.

The first argument that is no option names a command, and the arguments after it are its own.
A long option takes its value after an equals sign or from the next argument, and a short one
from the rest of its argument or from the next one.  After two dashes alone there are no more
options.  Of an option that comes twice the last value counts.  Anything else is a usage error.
The values of options are looked at in the order in which the options come first, then the
other arguments; a null character in a path is an error of its own.
-/

namespace BoxDiagram

/-- Why a command line is no request. -/
inductive ArgumentError where
  | usage
  | nullCharacter
  deriving DecidableEq, Repr

/-- What an option takes for its value. -/
inductive ValueKind where
  | path
  | format
  | address
  deriving DecidableEq, Repr

/-- An option that takes a value: its name after two dashes, its letter after one, and what it
takes. -/
structure ValueOption where
  name : Text
  letter : Option Char
  kind : ValueKind
  deriving DecidableEq, Repr

/-- The arguments of a command: its options with their values, last one first, and the others. -/
structure Arguments where
  values : List (ValueOption × Text)
  others : List Text
  deriving DecidableEq, Repr

/-- The path that an argument names. -/
def argumentPath (t : Text) : Except ArgumentError Path :=
  if t.contains (Char.ofNat 0) then .error .nullCharacter else .ok (.ofText t)

/-- The format that an argument names. -/
def argumentFormat (t : Text) : Except ArgumentError Format :=
  match [Format.svg, .excalidraw].find? (·.name == t) with
  | some format => .ok format
  | none => .error .usage

/-- Look at a value of a kind. -/
def ValueKind.check (t : Text) : ValueKind → Except ArgumentError Unit
  | .path => (fun _ => ()) <$> argumentPath t
  | .format => (fun _ => ()) <$> argumentFormat t
  | .address => .ok ()

namespace Arguments

/-- The arguments with one more value in front. -/
def withValue (option : ValueOption) (value : Text) (a : Arguments) : Arguments :=
  { a with values := a.values ++ [(option, value)] }

/-- The option that an argument names, and the value that is part of the argument. -/
def option? (options : List ValueOption) : Text → Option (ValueOption × Option Text)
  | '-' :: '-' :: t =>
    let name := t.takeWhile (· != '=')
    let value := if t.length == name.length then none else some (t.drop (name.length + 1))
    (options.find? (·.name == name)).map fun option => (option, value)
  | '-' :: c :: t =>
    (options.find? (·.letter == some c)).map fun option =>
      (option, if t.isEmpty then none else some t)
  | _ => none

/-- Sort the arguments of a command that has some options. -/
def sort (options : List ValueOption) : List Text → Option Arguments
  | [] => some ⟨[], []⟩
  | ['-', '-'] :: arguments => some ⟨[], arguments⟩
  | argument :: arguments =>
    if argument.head? == some '-' && 1 < argument.length then
      match option? options argument with
      | none => none
      | some (option, some value) => (sort options arguments).map (withValue option value)
      | some (option, none) =>
        match arguments with
        | [] => none
        | value :: arguments => (sort options arguments).map (withValue option value)
    else
      (sort options arguments).map fun a => { a with others := argument :: a.others }

/-- The value of an option, the first in the list being the last that was given. -/
def value? (a : Arguments) (option : ValueOption) : Option Text := List.lookup option a.values

/-- The options that were given, in the order in which they came first. -/
def given (a : Arguments) : List ValueOption := (a.values.reverse.map (·.1)).eraseDups

/-- Look at the values of all options that were given. -/
def check (a : Arguments) : Except ArgumentError Unit :=
  a.given.forM fun option => option.kind.check ((a.value? option).getD [])

/-- The path that is the value of an option. -/
def path? (a : Arguments) (option : ValueOption) : Option Path :=
  (a.value? option).map Path.ofText

/-- The format that is the value of an option. -/
def format (a : Arguments) (option : ValueOption) : Except ArgumentError Format :=
  match a.value? option with
  | none => .ok .svg
  | some t => argumentFormat t

/-- The only argument besides the options. -/
def only (a : Arguments) : Except ArgumentError Path :=
  match a.others with
  | [] => .error .usage
  | t :: more =>
    match argumentPath t with
    | .error e => .error e
    | .ok path => if more.isEmpty then .ok path else .error .usage

end Arguments

namespace Request

/-- The option for the file to write. -/
def outputOption : ValueOption := ⟨"output", some 'o', .path⟩

/-- The option for the format. -/
def formatOption : ValueOption := ⟨"format", some 'f', .format⟩

/-- The option for the settings file. -/
def configOption : ValueOption := ⟨"config", none, .path⟩

/-- The option for the folder to read. -/
def inputsOption : ValueOption := ⟨"input-dir", none, .path⟩

/-- The option for the folder to write. -/
def outputsOption : ValueOption := ⟨"output-dir", none, .path⟩

/-- The option for the start of a share address. -/
def baseOption : ValueOption := ⟨"base-url", none, .address⟩

/-- The folder whose diagrams are rendered if no other is named. -/
def usualInputs : Path := .ofText "examples/diagrams"

/-- The folder that diagrams are rendered to if no other is named. -/
def usualOutputs : Path := .ofText "data/rendered"

/-- The request to render a diagram. -/
def ofRender (a : Arguments) : Except ArgumentError Request := do
  return .render (← a.only) (a.path? outputOption) (← a.format formatOption) (a.path? configOption)

/-- The request to render all diagrams. -/
def ofRenderAll (a : Arguments) : Except ArgumentError Request := do
  if !a.others.isEmpty then throw .usage
  return .renderAll ((a.path? inputsOption).getD usualInputs)
    ((a.path? outputsOption).getD usualOutputs) (← a.format formatOption) (a.path? configOption)

/-- The request to check a diagram. -/
def ofValidate (a : Arguments) : Except ArgumentError Request := do
  return .validate (← a.only)

/-- The request for a share address. -/
def ofUrl (a : Arguments) : Except ArgumentError Request := do
  return .url (← a.only) ((a.value? baseOption).getD ExcalidrawDocument.publicBase)
    (a.path? configOption)

/-- The options of a command, and the request that its arguments make. -/
def command? (name : Text) :
    Option (List ValueOption × (Arguments → Except ArgumentError Request)) :=
  if name == ("render" : Text) then some ([outputOption, formatOption, configOption], ofRender)
  else if name == ("render-all" : Text) then
    some ([inputsOption, outputsOption, formatOption, configOption], ofRenderAll)
  else if name == ("validate" : Text) then some ([], ofValidate)
  else if name == ("url" : Text) then some ([baseOption, configOption], ofUrl)
  else none

/-- The request of a command with arguments. -/
def ofCommand (name : Text) (arguments : List Text) : Except ArgumentError Request :=
  match command? name with
  | none => .error .usage
  | some (options, request) =>
    match Arguments.sort options arguments with
    | none => .error .usage
    | some a =>
      match a.check with
      | .error e => .error e
      | .ok () => request a

/-- Whether an argument asks for messages about the work, which go elsewhere. -/
def asksForMessages (argument : Text) : Bool :=
  argument == ("--verbose" : Text)
    || match argument with
      | '-' :: c :: t => (c :: t).all (· == 'v')
      | _ => false

/-- The request of a command line. -/
def ofCommandLine : List Text → Except ArgumentError Request
  | [] => .error .usage
  | argument :: arguments =>
    if argument == ['-', '-'] then
      match arguments with
      | [] => .error .usage
      | command :: arguments => ofCommand command arguments
    else if argument.head? == some '-' && 1 < argument.length then
      if asksForMessages argument then ofCommandLine arguments else .error .usage
    else ofCommand argument arguments

end Request

end BoxDiagram
