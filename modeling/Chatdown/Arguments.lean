import Chatdown.Options

/-!
# Command lines

Options may come in any order and around the operand; `--` ends them. The value of an option that
takes one, and the operand, are checked when the next option or the end of the line is reached, so
that an argument which is not known is noticed before them.
-/

namespace Chatdown

/-- Why a command line gives no options. -/
inductive Halt where
  | help
  | version
  | unknownArgument
  | invalidValue
  | conflict
  | unwantedValue
  deriving DecidableEq, Repr

namespace Halt

/-- The text that `--help` shows. -/
def helpText : String :=
  "Convert GitHub flavored Markdown into chat message blocks\n\nUsage: \n\nArguments:\n" ++
    "  [INPUT]  Markdown file to convert, `-` reads standard input [default: -]\n\nOptions:\n" ++
    "  -m, --managers <MANAGERS>  JSON array of managers used to resolve @mentions\n" ++
    "      --pretty               Pretty print the message JSON\n" ++
    "  -v, --verbose...           Increase log verbosity (-v debug, -vv trace)\n" ++
    "  -h, --help                 Print help\n" ++
    "  -V, --version              Print version\n"

def message : Halt → Text
  | help => helpText.toList
  | version => "ghblocks 0.1.0\n".toList
  | unknownArgument => "error: unexpected argument found\n".toList
  | invalidValue => "error: one of the values isn't valid for an argument\n".toList
  | conflict =>
    ("error: an argument cannot be used with one or more of the other specified " ++
      "arguments\n").toList
  | unwantedValue => "error: unexpected value for an argument found\n".toList

/-- Tests whether the text is what was asked for. -/
def isRequested : Halt → Bool
  | help => true
  | version => true
  | _ => false

end Halt

namespace Arguments

/-- An argument that has not been checked. -/
inductive Pending where
  | managers (path : Option Text)
  | operand (path : Text)
  deriving DecidableEq, Repr

structure Draft where
  operand : Option Text := none
  managers : Option Text := none
  pretty : Bool := false
  verbosity : Nat := 0
  pending : Option Pending := none
  deriving DecidableEq, Repr

namespace Draft

def setManagers (d : Draft) (path : Text) : Except Halt Draft :=
  if d.managers.isSome then .error .conflict
  else if path = [] then .error .invalidValue
  else .ok { d with managers := some path }

/-- Checks the argument that has not been checked. -/
def settle (d : Draft) : Except Halt Draft :=
  let rest := { d with pending := none }
  match d.pending with
  | none => .ok d
  | some (.managers none) => .error .invalidValue
  | some (.managers (some path)) => rest.setManagers path
  | some (.operand path) =>
    if path = [] then .error .invalidValue else .ok { rest with operand := some path }

def takeOperand (d : Draft) (path : Text) : Except Halt Draft :=
  match d.operand, d.pending with
  | some _, _ => .error .unknownArgument
  | none, some (.operand _) => .error .unknownArgument
  | none, _ => d.settle.map fun d => { d with pending := some (.operand path) }

/-- Takes an option for the list of managers, with the path that is attached to it if there is
one. -/
def takeManagers (d : Draft) (path : Option Text) : Except Halt Draft :=
  d.settle.bind fun d =>
    match path with
    | some path => d.setManagers path
    | none => .ok { d with pending := some (.managers none) }

def takeVerbose (d : Draft) : Except Halt Draft :=
  d.settle.map fun d => { d with verbosity := min (d.verbosity + 1) Options.maxVerbosity }

def takePretty (d : Draft) : Except Halt Draft :=
  d.settle.bind fun d => if d.pretty then .error .conflict else .ok { d with pretty := true }

def takeHalt (d : Draft) (h : Halt) : Except Halt Draft := d.settle.bind fun _ => .error h

/-- Takes an option by its name, with the value that is attached to it if there is one. -/
def takeLong (d : Draft) (name : Text) (value : Option Text) : Except Halt Draft :=
  let flag (take : Except Halt Draft) : Except Halt Draft :=
    if value.isSome then .error .unwantedValue else take
  if name = "managers".toList then d.takeManagers value
  else if name = "pretty".toList then flag d.takePretty
  else if name = "verbose".toList then flag d.takeVerbose
  else if name = "help".toList then flag (d.takeHalt .help)
  else if name = "version".toList then flag (d.takeHalt .version)
  else .error .unknownArgument

/-- Takes options by their letters. What follows the letter of an option with a value is its
value. -/
def takeShort (d : Draft) : Text → Except Halt Draft
  | [] => .ok d
  | c :: rest =>
    if c = 'm' then
      d.takeManagers (if rest = [] then none else some ((Text.after? ['='] rest).getD rest))
    else if c = 'v' then
      match d.takeVerbose with
      | .error h => .error h
      | .ok d => d.takeShort rest
    else if c = 'h' then d.takeHalt .help
    else if c = 'V' then d.takeHalt .version
    else .error .unknownArgument

def takeValue (d : Draft) (path : Text) : Except Halt Draft :=
  match d.pending with
  | some (.managers none) => .ok { d with pending := some (.managers (some path)) }
  | _ => d.takeOperand path

def take (d : Draft) (argument : Text) : Except Halt Draft :=
  match argument with
  | '-' :: '-' :: long =>
    let name := long.takeWhile (· ≠ '=')
    d.takeLong name (Text.after? ['='] (long.drop name.length))
  | '-' :: c :: short => d.takeShort (c :: short)
  | _ => d.takeValue argument

/-- Takes the arguments that follow; after `--` they are operands. -/
def takeAll (d : Draft) (operandsOnly : Bool) : List Text → Except Halt Draft
  | [] => d.settle
  | argument :: arguments =>
    if operandsOnly then
      match d.takeOperand argument with
      | .error h => .error h
      | .ok d => d.takeAll true arguments
    else if argument = ['-', '-'] then d.takeAll true arguments
    else
      match d.take argument with
      | .error h => .error h
      | .ok d => d.takeAll false arguments

def options (d : Draft) : Options :=
  ⟨d.operand.getD Options.standardInput, d.managers, d.pretty, d.verbosity⟩

end Draft

/-- The options of a command line, without the name of the program. -/
def read (arguments : List Text) : Except Halt Options :=
  (Draft.takeAll {} false arguments).map Draft.options

end Arguments

end Chatdown
