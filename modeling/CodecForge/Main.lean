/-
  CodecForge — the program.

  The files and directories that a command line names are read before a session
  runs, and what the session has written is written afterwards.
-/
import CodecForge.CommandLine.Session

namespace CodecForge.CommandLine

/-- The files with the one at a path, if there is one, or with the directory that
    stands there, which opens but cannot be read. -/
def addPath (files : Files) (path : Path) : IO Files := do
  try
    let text ← IO.FS.readFile path.text
    return Entries.put (Files.resolved path) text files
  catch
    | .noFileOrDirectory .. | .userError _ => return files
    | _ => return files.withDirectory path

/-- The files that a request reads and writes, and the directories on the way to
    them. -/
def filesFor (request : Request) : IO Files :=
  (request.inputs ++ request.output?.toList).foldlM
    (fun files name => (Path.ofString name).way.foldlM addPath files) []

/-- The text of standard input. -/
def readInput : IO String := do
  let stdin ← IO.getStdin
  let mut text := ""
  repeat
    let line ← stdin.getLine
    if line.isEmpty then break
    text := text ++ line
  return text

/-- Writes the files that differ from what they were. -/
def writeFiles (before after : Files) : IO Unit :=
  after.forM fun (location, text) => do
    if Entries.get? location before ≠ some text then
      IO.FS.writeFile (Path.ofLocation location).text text

/-- Runs the program on the words of a command line. -/
def runProgram (words : List String) : IO UInt32 := do
  let (files, input) ← match Request.read words with
    | .ok request => do
      let input ← if request.readsInput then readInput else pure ""
      pure (← filesFor request, input)
    | .error _ => pure ([], "")
  let reply := Reply.failed .connection "no network"
  let (outcome, s) := Session.run files ⟨input, reply⟩ words
  IO.print s.out
  IO.eprint s.err
  writeFiles files s.files
  match outcome with
  | .stopped code | .finished code => return code.toUInt32
  | .broken (.settings e) =>
    IO.eprintln e.message
    return 1
  | .broken _ => return 1

end CodecForge.CommandLine

def main (args : List String) : IO UInt32 := CodecForge.CommandLine.runProgram args
