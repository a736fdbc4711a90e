import Chatdown.Text

/-!
# Options

What a command line asks for.
-/

namespace Chatdown

/-- What a command line asks for. -/
structure Options where
  /-- The path of the document. -/
  input : Text
  /-- The path of the list of managers. -/
  managers : Option Text
  pretty : Bool
  /-- How often more log output is asked for, up to 255. -/
  verbosity : Nat
  deriving DecidableEq, Repr

namespace Options

/-- The path that stands for standard input. -/
def standardInput : Text := ['-']

def maxVerbosity : Nat := 255

/-- Tests for a path that stands for standard input. Slashes at its end and dots between them do not
matter. -/
def isStandardInput (path : Text) : Bool :=
  match path.splitOn '/' with
  | [] => false
  | name :: rest => name = standardInput && rest.all fun part => part = [] || part = ['.']

def readsStandardInput (o : Options) : Bool := isStandardInput o.input

/-- The name of the level from which on events are logged. -/
def logLevel (o : Options) : Text :=
  match o.verbosity with
  | 0 => "warn".toList
  | 1 => "debug".toList
  | _ => "trace".toList

end Options

end Chatdown
