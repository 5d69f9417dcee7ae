import BoxDiagram.Command.Action
import BoxDiagram.Command.Arguments
import BoxDiagram.Command.SimpleConsole
import BoxDiagram.Settings.Reader

/-!
# Running commands

A toolkit that is enough to run the program by itself.  Each of its parts does less than a full one
would: no call for help, a small part of the language of settings files, and no signs in messages.
-/

namespace BoxDiagram

/-- How a command line ends that makes no request. -/
def ArgumentError.outcome : ArgumentError → Outcome
  | .usage => ⟨2, none⟩
  | .nullCharacter => ⟨1, some (.file .nullCharacter)⟩

/-- A toolkit to run the program with. -/
def Toolkit.simple : Toolkit where
  request arguments := (Request.ofCommandLine arguments).mapError ArgumentError.outcome
  settings := Settings.reader
  console := Markup.console

theorem Toolkit.simple_request {arguments : List Text} {request : Request}
    (h : Request.ofCommandLine arguments = .ok request) :
  Toolkit.simple.request arguments = .ok request
  := congrArg (Except.mapError ArgumentError.outcome) h

/-- Run a command line. -/
def runCommandLine (arguments : List Text) (s : Session) : Outcome × Session :=
  Toolkit.simple.run arguments s

end BoxDiagram
