import ClientScribe.CommandLine.Run

/-!
# The command

Runs a command line on what the disk holds at the paths that it names, and writes the files that the
run has changed. Addresses are not asked.
-/

namespace ClientScribe.CommandLine

open Store (Path)

/-- The store with what the disk holds at a path. -/
def addFromDisk (store : Store) (name : String) : IO Store := do
  try
    let contents ← IO.FS.readBinFile name
    return (store.writeDeep (.ofText name) contents).1
  catch
    | .noFileOrDirectory .. => return store
    | _ => return (store.makeDirectories (.ofText name)).1

/-- The paths that a command line names. -/
def namedPaths (arguments : List String) : List String :=
  match Given.ofArguments (arguments.map Text.ofString) with
  | some given => (given.plain ++ (given.value? .outDir).toList).filterMap Text.string?
  | none => []

/-- Writes a file to the disk with the directories around it. -/
def writeToDisk (file : Text × ByteArray) : IO Unit := do
  match file.1.string?, (Path.ofText file.1).parent.text.string? with
  | some name, some directory =>
    IO.FS.createDirAll directory
    IO.FS.writeBinFile name file.2
  | _, _ => return

/-- What an address answers. -/
def noAnswer (_ : Text) : Source.Response :=
  .failure "addresses are not asked"

/-- How the command is used. -/
def usage : String :=
  "Usage: SRC -o DIRECTORY [-l ts|js] [--redux] [--indent 2|4|tab] [--semicolon] [-v]"

end ClientScribe.CommandLine

open ClientScribe ClientScribe.CommandLine in
/-- The command. -/
def main (arguments : List String) : IO UInt32 := do
  let store ← (namedPaths arguments).foldlM addFromDisk .empty
  let (after, outcome) := run store noAnswer (arguments.map Text.ofString)
  (store.changes after).forM writeToDisk
  match outcome with
  | .ended _ output problems =>
    IO.eprint (problems.string?.getD "")
    IO.print (output.string?.getD "")
  | .refused => IO.eprintln usage
  | .helped => IO.println usage
  | .crashed => pure ()
  return outcome.status.toUInt32
