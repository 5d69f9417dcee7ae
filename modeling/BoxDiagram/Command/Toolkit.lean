import BoxDiagram.Command.Request
import BoxDiagram.Excalidraw.Scene
import BoxDiagram.Settings.Load

/-!
# What commands rely on

Three things that commands use are not theirs: how the arguments of a command line make a request,
how settings are gathered, and what a console shows of a message.  Commands take them as they come,
and what is known about them is said where it is needed.
-/

namespace BoxDiagram

/-! ### Consoles -/

/-- A message that cannot be shown, and what is said about it. -/
structure MarkupError where
  message : Text
  deriving DecidableEq, Repr

/-- A console: what it shows of a message with markup, unless it refuses that, and of a line without
markup, both without colours and in one piece; and the words that it shows as a sign when they
stand between two colons. -/
structure Console where
  show? : Text → Except MarkupError Text
  plain : Text → Text
  isSign : Text → Bool

/-! ### Outcomes -/

/-- Why a command failed. -/
inductive Failure where
  | settings (error : SettingsError)
  | file (error : FileError)
  | number (error : RoundingError)
  | font (error : FontError)
  | drawing (error : Excalidraw.DrawError)
  | writing (error : Json.WriteError)
  | markup (error : MarkupError)
  | diagram (error : InvalidDiagram)

/-- How a command line ended: the exit code, and the failure that no command handles. -/
structure Outcome where
  code : Nat
  failure : Option Failure

/-! ### Toolkits -/

/-- What commands rely on.  Arguments make a request, or the command line ends without one, as after
a usage error or a call for help. -/
structure Toolkit where
  request : List Text → Except Outcome Request
  settings : SettingsReader
  console : Console

end BoxDiagram
