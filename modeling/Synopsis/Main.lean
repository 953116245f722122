import Synopsis.Cli.Footprint

/-!
# The program

Looks at the disk, runs the program on what it saw, and writes what the run changed.
-/

open Synopsis

namespace Synopsis.Disk

/-- A location as the disk knows it. -/
def nameOf (location : Location) : String :=
  String.ofList ('/' :: ['/'].intercalate location)

/-- What is at a location. What is there and cannot be read as a file is taken for a directory. -/
def look (location : Location) : IO (Option Entry) := do
  try
    return some (.file (← IO.FS.readBinFile (nameOf location)))
  catch error =>
    match error with
    | .noFileOrDirectory .. => return none
    | _ => return some .directory

/-- Adds what is on the way along some paths. -/
def observe (files : FileSystem) (paths : List Path) : IO FileSystem := do
  let mut files := files
  for path in paths do
    for location in files.trail path do
      if let some entry ← look location then
        files := files.put location entry
  return files

/-- Writes one change. -/
def write (location : Location) : Entry → IO Unit
  | .file bytes => IO.FS.writeBinFile (nameOf location) bytes
  | .directory => IO.FS.createDir (nameOf location)

/-- What a run with these arguments may look at. -/
def snapshot (arguments : List Text) : IO FileSystem := do
  let working := (toString (← IO.currentDir)).toList.splitOn '/' |>.filter Path.isStep
  let files ← observe { working := working } [.of ['.']]
  match Cli.readArguments arguments with
  | .ok (.run invocation) =>
    let files ← observe files invocation.configPaths
    observe files (invocation.paths files)
  | _ => return files

end Synopsis.Disk

/-- Runs the program with the arguments of the process. -/
def main (arguments : List String) : IO UInt32 := do
  let arguments := arguments.map String.toList
  let files ← Disk.snapshot arguments
  let outcome := Cli.run files arguments
  for (location, entry) in files.changes outcome.files do
    Disk.write location entry
  IO.print (String.ofList outcome.output)
  IO.eprint (String.ofList outcome.errors)
  return outcome.exitCode.toUInt32
