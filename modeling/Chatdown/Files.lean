import Chatdown.Text

/-!
# Files

Files in a directory, as a program sees them that reads them by their paths. Paths are relative to
that directory; outside of it nothing but directories is known.
-/

namespace Chatdown

/-- Why a path cannot be read. -/
inductive FileError where
  | notFound
  | isDirectory
  | notDirectory
  | nameTooLong
  | nulInPath
  /-- Any other reason for which something that is there cannot be read. -/
  | denied (reason : Text)
  deriving DecidableEq, Repr

namespace FileError

def message : FileError → Text
  | notFound => "No such file or directory (os error 2)".toList
  | isDirectory => "Is a directory (os error 21)".toList
  | notDirectory => "Not a directory (os error 20)".toList
  | nameTooLong => "File name too long (os error 36)".toList
  | nulInPath => "file name contained an unexpected NUL byte".toList
  | denied reason => reason

/-- Tests whether there is something at a path that cannot be read for this reason. -/
def isPresent : FileError → Bool
  | isDirectory => true
  | denied _ => true
  | _ => false

end FileError

/-- How paths are read. -/
abbrev FileReader := Text → Except FileError (List UInt8)

def FileReader.finds (read : FileReader) (path : Text) : Bool :=
  match read path with
  | .ok _ => true
  | .error e => e.isPresent

/-- The files in a directory, by the names that lead to them. -/
structure Files where
  entries : List (List Text × List UInt8)

namespace Files

def nameLimit : Nat := 255

/-- The number of bytes from which on a path is too long. -/
def pathLimit : Nat := 4096

def ofList (files : List (Text × List UInt8)) : Files :=
  ⟨files.map fun (path, content) => (path.splitOn '/', content)⟩

/-- Where a path leads. -/
inductive Spot where
  /-- The directory that some names lead to. -/
  | inside (names : List Text)
  /-- A directory that holds the one of the files. -/
  | above
  | file (content : List UInt8)
  deriving Repr

def follow (files : Files) (name : Text) : Spot → Except FileError Spot
  | .file _ => .error .notDirectory
  | .above =>
    if name = [] || name = ['.'] || name = ['.', '.'] then .ok .above else .error .notFound
  | .inside names =>
    if name = [] || name = ['.'] then .ok (.inside names)
    else if name = ['.', '.'] then .ok (if names = [] then .above else .inside names.dropLast)
    else if nameLimit < Text.byteLength name then .error .nameTooLong
    else
      let names := names ++ [name]
      match files.entries.lookup names with
      | some content => .ok (.file content)
      | none =>
        if files.entries.any fun (path, _) => names.isPrefixOf path then .ok (.inside names)
        else .error .notFound

def resolve (files : Files) (path : Text) : Except FileError Spot :=
  if '\x00' ∈ path then .error .nulInPath
  else if path = [] then .error .notFound
  else if pathLimit ≤ Text.byteLength path then .error .nameTooLong
  else
    let start := if path.head? = some '/' then Spot.above else .inside []
    (path.splitOn '/').foldlM (fun spot name => files.follow name spot) start

def read (files : Files) : FileReader := fun path =>
  match files.resolve path with
  | .error e => .error e
  | .ok (.file content) => .ok content
  | .ok (.inside _) => .error .isDirectory
  | .ok .above => .error .isDirectory

end Files

end Chatdown
