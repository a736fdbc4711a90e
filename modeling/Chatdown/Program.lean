import Chatdown.Arguments
import Chatdown.Conversion
import Chatdown.Loading
import Chatdown.Message.Encoding

/-!
# The program

The whole program as a function of its arguments, the files and standard input. It checks that its
files are there before it reads any of them.
-/

namespace Chatdown

/-- Why the program fails. -/
inductive Failure where
  | missingInput (path : Text)
  | missingManagers (path : Text)
  | unreadableInput (path : Text) (e : FileError)
  | managers (e : LoadError)
  deriving Repr

namespace Failure

/-- What could not be done, and why, down to the first cause. -/
def chain : Failure → List Text
  | missingInput path => ["Input file does not exist: ".toList ++ path]
  | missingManagers path => ["Manager list does not exist: ".toList ++ path]
  | unreadableInput path e => ["Failed to read markdown file: ".toList ++ path, e.message]
  | managers e => e.chain

/-- Causes on lines of their own, numbered from `n`. -/
def numberedCauses (n : Nat) : List Text → Text
  | [] => []
  | cause :: causes =>
    "    ".toList ++ Nat.toDigits 10 n ++ ": ".toList ++ cause ++
      '\n' :: numberedCauses (n + 1) causes

def report (f : Failure) : Text :=
  match f.chain with
  | [] => []
  | [error] => "Error: ".toList ++ error ++ ['\n']
  | [error, cause] =>
    "Error: ".toList ++ error ++ "\n\nCaused by:\n    ".toList ++ cause ++ ['\n']
  | error :: causes =>
    "Error: ".toList ++ error ++ "\n\nCaused by:\n".toList ++ numberedCauses 0 causes

end Failure

/-- What the program leaves behind. -/
structure Outcome where
  code : Nat
  output : Text
  errors : Text
  deriving DecidableEq, Repr

namespace Program

/-- Checks that the files are there. -/
def validate (read : FileReader) (o : Options) : Except Failure Unit :=
  if !o.readsStandardInput && !read.finds o.input then .error (.missingInput o.input)
  else
    match o.managers with
    | none => .ok ()
    | some path => if read.finds path then .ok () else .error (.missingManagers path)

def readInput (read : FileReader) (standardInput : List UInt8) (o : Options) :
    Except Failure (List UInt8) :=
  if o.readsStandardInput then .ok standardInput
  else (read o.input).mapError (.unreadableInput o.input)

def loadManagers (read : FileReader) (o : Options) : Except Failure Directory :=
  match o.managers with
  | none => .ok .empty
  | some path => (Directory.load (.file read path)).mapError .managers

def encode (o : Options) (m : Message) : Text :=
  if o.pretty then m.toJson.pretty 0 else m.toJson.compact

def message (read : FileReader) (standardInput : List UInt8) (o : Options) :
    Except Failure Message := do
  validate read o
  let source ← readInput read standardInput o
  let directory ← loadManagers read o
  return ⟨convertBytes directory.find? source⟩

def runWith (read : FileReader) (standardInput : List UInt8) (o : Options) : Outcome :=
  match message read standardInput o with
  | .ok m => ⟨0, encode o m ++ ['\n'], []⟩
  | .error f => ⟨1, [], f.report⟩

/-- What comes of a command line that gives no options. -/
def halt (h : Halt) : Outcome := if h.isRequested then ⟨0, h.message, []⟩ else ⟨2, [], h.message⟩

def run (arguments : List Text) (read : FileReader) (standardInput : List UInt8) : Outcome :=
  match Arguments.read arguments with
  | .ok o => runWith read standardInput o
  | .error h => halt h

end Program

end Chatdown
