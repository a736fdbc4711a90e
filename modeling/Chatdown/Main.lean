import Chatdown.Program

/-!
# The command

The outermost layer: arguments, files and standard input are handed to the program, and what it
leaves behind is written.
-/

namespace Chatdown.Command

/-- Reads all bytes of a stream. -/
partial def readAll (stream : IO.FS.Stream) (bytes : ByteArray) : IO ByteArray := do
  let chunk ← stream.read 65536
  if chunk.isEmpty then return bytes else readAll stream (bytes ++ chunk)

def fileError : IO.Error → FileError
  | .noFileOrDirectory _ _ _ => .notFound
  | .inappropriateType _ 21 _ => .isDirectory
  | .inappropriateType _ _ _ => .notDirectory
  | e => .denied (toString e).toList

def readFile (path : Text) : IO (Except FileError (List UInt8)) := do
  try
    let bytes ← IO.FS.readBinFile (String.ofList path)
    return .ok bytes.toList
  catch e => return .error (fileError e)

/-- The files that a command line with these options names. -/
def paths (o : Options) : List Text :=
  (if o.readsStandardInput then [] else [o.input]) ++ o.managers.toList

/-- Runs the program on the files and the standard input that its options name. -/
def run (arguments : List Text) : IO Outcome := do
  match Arguments.read arguments with
  | .error h => return Program.halt h
  | .ok o =>
    let files ← (paths o).mapM fun path => return (path, ← readFile path)
    let read : FileReader := fun path => (files.lookup path).getD (.error .notFound)
    let input ← if o.readsStandardInput then readAll (← IO.getStdin) .empty else pure .empty
    return Program.runWith read input.toList o

end Chatdown.Command

/-- Converts a Markdown document to a chat message. -/
def main (arguments : List String) : IO UInt32 := do
  let outcome ← Chatdown.Command.run (arguments.map String.toList)
  (← IO.getStdout).putStr (String.ofList outcome.output)
  (← IO.getStderr).putStr (String.ofList outcome.errors)
  return outcome.code.toUInt32
