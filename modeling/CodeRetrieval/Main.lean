/-
# CodeRetrieval.Main — the program.

The directory that the program is started in is read, the command line is run on it, and what the run
leaves is written: its text to the standard output, a settings file into the directory, a problem to
the standard error.  No parser and no embedding service are linked in, so files are cut in line windows
and a search that needs embeddings fails.
-/
import CodeRetrieval.CommandLine.Program

namespace CodeRetrieval.Main

open CommandLine

/-- A directory entry as a node, its own directory being `depth` steps below `top`.  A link is kept if it
leads to a place below `top`; what cannot be read leads nowhere. -/
partial def readEntry (top : String) (depth : Nat) (entry : IO.FS.DirEntry) :
    IO (RawPath × Files.Node) := do
  let node ←
    try
      match (← entry.path.symlinkMetadata).type with
      | .dir => do
        pure (.dir (← (← entry.path.readDir).toList.mapM (readEntry top (depth + 1))))
      | .file => do pure (.file (← IO.FS.readBinFile entry.path))
      | .symlink => do
        let target := Path.raw (← IO.FS.realPath entry.path).toString.toList
        let below := Path.raw (Text.ofString top) ++ [RawPath.slash]
        let outwards := List.replicate depth [RawPath.dot, RawPath.dot]
        if below.isPrefixOf target then
          pure (.link (Files.pathOf (outwards ++ [target.drop below.length])))
        else pure (.link [])
      | .other => pure (.link [])
    catch _ => pure (.link [])
  return (Path.raw (Text.ofString entry.fileName), node)

/-- The directory that the program is started in. -/
def readFiles : IO Files.Entries := do
  let here ← IO.currentDir
  (← here.readDir).toList.mapM (readEntry here.toString 0)

/-- The rest of a stream behind the bytes read so far. -/
partial def readRest (stream : IO.FS.Stream) (read : ByteArray) : IO ByteArray := do
  let bytes ← stream.read 65536
  if bytes.isEmpty then return read else readRest stream (read ++ bytes)

/-- The keys that the environment holds. -/
def readKeys : IO (String → Option Text) := do
  let keys ← Client.keyVariables.mapM fun name => do
    return (name, (← IO.getEnv name).map Text.ofString)
  return fun name => (keys.find? (·.1 == name)).bind (·.2)

/-- Write the settings file if a run made one. -/
def writeSettings (before after : Files.Entries) : IO Unit := do
  match Files.read before settingsPath.raw, Files.read after settingsPath.raw with
  | none, some bytes => IO.FS.writeBinFile (String.ofList settingsPath) bytes
  | _, _ => pure ()

/-- Run the program on its arguments; the result is its exit code. -/
def start (arguments : List String) : IO UInt32 := do
  let words := arguments.map Text.ofString
  let files ← readFiles
  let input ← if needsInput words then readRest (← IO.getStdin) ByteArray.empty
    else pure ByteArray.empty
  match run ⟨files, input, ← readKeys, fun _ _ => none, fun _ _ => .refused⟩ words with
  | .ok result =>
    IO.print (String.ofList result.output)
    writeSettings files result.files
    return 0
  | .error problem =>
    IO.eprintln problem.message
    return UInt32.ofNat problem.exitCode

end CodeRetrieval.Main

def main (arguments : List String) : IO UInt32 := CodeRetrieval.Main.start arguments
