import Checkout.Command.Places
import Checkout.Command.Toolbox
import Checkout.Journal.Moment
import Std.Time.Zoned.TimeZone

/-!
# The program

The files that a run looks at are read first, then the run is worked out on them, and last the
files that it made are written and its texts are printed.
-/

namespace Checkout.Command

/-- The variables of the environment that a run looks at. -/
def readEnvironment : IO (List (String × String)) := do
  let names := Console.widthVariable :: Console.heightVariable ::
    Settings.overridingVariables.map Prod.fst
  names.filterMapM fun name => do
    return (← IO.getEnv name).map fun value => (name, Text.spelled value)

/-- The characters of the path of a place, unless its names hold halves. -/
def pathOf? (place : List String) : Option String :=
  (Text.characters? (FilePath.mk "/" place).toText.toList).map String.ofList

/-- What stands at a place. -/
def readPlace (place : List String) : IO (Option FileNode) := do
  match pathOf? place with
  | none => return none
  | some name =>
    let path := (← IO.currentDir) / name
    if ← path.isDir then
      return some .directory
    if ← path.pathExists then
      return some (.file (← IO.FS.readBinFile path))
    return none

/-- The tree with what stands at some places. -/
def readPlaces (tree : FileTree) (places : List (List String)) : IO FileTree :=
  places.foldlM (fun tree place => do
    match tree.at? place, ← readPlace place with
    | none, some node => return tree.put place node
    | _, _ => return tree) tree

/-- Writes what a run has changed. -/
def writeChanges (old new : FileTree) : IO Unit :=
  (changes old new).forM fun entry => do
    match pathOf? entry.1, entry.2 with
    | none, _ => return
    | some name, .directory => IO.FS.createDirAll ((← IO.currentDir) / name)
    | some name, .file content => IO.FS.writeBinFile ((← IO.currentDir) / name) content

/-- The surroundings of a run with some arguments. -/
def readSurroundings (arguments : List String) : IO Surroundings := do
  let current := (FilePath.ofText (Text.spelled (← IO.currentDir).toString)).parts
  let environment ← readEnvironment
  let bare : Surroundings := { tools := toolbox, tree := ⟨[]⟩, current, environment }
  match Arguments.read arguments with
  | .error _ => return bare
  | .ok arguments =>
    let tree ← readPlaces bare.tree (settingsPlaces current arguments)
    let surroundings := { bare with tree }
    return { surroundings with tree := ← readPlaces tree (placesOf surroundings arguments.request) }

/-- Prints the journal, the texts and the fault of a run, if one interrupted it. -/
def printRun (run : Run) : IO Unit := do
  let moment := Std.Time.PlainDateTime.ofWallTime ((← Std.Time.Timestamp.now).toWallTime .zero)
  let errors ← IO.getStderr
  match run.journal fun style => style.timeText moment with
  | .ok journal => errors.putStr (Text.written journal)
  | .error fault => errors.putStrLn (Text.written fault.message)
  IO.print (Text.written run.output)
  errors.putStr (Text.written run.message)
  match run.ending with
  | .ok _ => return
  | .error fault => errors.putStrLn (Text.written fault.message)

end Checkout.Command

open Checkout.Command in
/-- Prices the items among the arguments; the exit code tells how it went. -/
def main (arguments : List String) : IO UInt32 := do
  let arguments := arguments.map Checkout.Text.spelled
  let surroundings ← readSurroundings arguments
  let onTerminal ← (← IO.getStderr).isTty
  let run := run surroundings onTerminal arguments
  writeChanges surroundings.tree run.tree
  printRun run
  return run.exitCode.toUInt32
