import Chatdown.Directory
import Chatdown.Files
import Chatdown.Manager.Decoding
import Chatdown.Text.Utf8

/-!
# Loading directories

Lists of managers come as JSON, from a text or from a file.
-/

namespace Chatdown

inductive TextFileError where
  | file (e : FileError)
  | notUtf8
  deriving DecidableEq, Repr

def TextFileError.message : TextFileError → Text
  | file e => e.message
  | notUtf8 => "stream did not contain valid UTF-8".toList

def readText (read : FileReader) (path : Text) : Except TextFileError Text :=
  match read path with
  | .error e => .error (.file e)
  | .ok bytes =>
    match Utf8.decode? bytes with
    | some t => .ok t
    | none => .error .notUtf8

/-- Why a directory cannot be loaded. -/
inductive LoadError where
  | unreadable (path : Text) (e : TextFileError)
  /-- What has been read, from a path if it was from one, is no list of managers. -/
  | invalid (path : Option Text) (e : Json.Error)
  deriving Repr

/-- The wording of an error: what could not be done, and why, down to the first cause. -/
def LoadError.chain : LoadError → List Text
  | unreadable path e => ["Failed to read manager list: ".toList ++ path, e.message]
  | invalid none e => ["Failed to parse manager list".toList, e.message]
  | invalid (some path) e =>
    ["Invalid manager list: ".toList ++ path, "Failed to parse manager list".toList, e.message]

namespace Directory

/-- Where a directory is loaded from. -/
inductive Source where
  | nothing
  | records (managers : List Manager)
  | json (t : Text)
  | file (read : FileReader) (path : Text)

def ofJsonText (t : Text) : Except Json.Error Directory := (Manager.listOfJsonText t).map ofList

def load : Source → Except LoadError Directory
  | .nothing => .ok empty
  | .records managers => .ok (ofList managers)
  | .json t => (ofJsonText t).mapError (.invalid none)
  | .file read path =>
    match readText read path with
    | .error e => .error (.unreadable path e)
    | .ok t => (ofJsonText t).mapError (.invalid (some path))

/-- The directory after loading another one; it stays if that fails. -/
def reload (d : Directory) (source : Source) : Directory :=
  match load source with
  | .ok loaded => loaded
  | .error _ => d

end Directory

end Chatdown
