import BlockImage.Command
import BlockImage.Duration

/-!
# The program

Files are read before a command runs, and written after it, where it has changed them.
-/
namespace BlockImage.Main

def look (path : String) : IO (Option Entry) := do
  try
    return some (.file (← IO.FS.readBinFile path))
  catch
    | .noFileOrDirectory .. => return none
    | .inappropriateType .. => return some .folder
    | failure => throw failure

/-- Reads what a path leads over and what it leads to. -/
def load (folder : Folder) (path : String) : IO Folder := do
  let some route := (Folder.route path).toOption | return folder
  let mut folder := folder
  let mut place : Place := []
  for step in route.steps do
    match folder.enter place step with
    | .error _ => break
    | .ok next =>
      place := next
      if (folder.get? place).isNone then
        if let some entry ← look place.path then
          folder := folder.put place entry
  return folder

/-- Writes the files that have changed. -/
def store (before after : Folder) : IO Unit :=
  for (place, entry) in after.entries do
    if let .file bytes := entry then
      if before.get? place ≠ some entry then
        IO.FS.writeBinFile place.path bytes

/-- What the machine tells of itself. -/
def machine : IO Machine := do
  try
    return { availableMemory := Machine.memoryIn? (← IO.FS.readFile "/proc/meminfo") }
  catch _ => return {}

end BlockImage.Main

open BlockImage in
def main (arguments : List String) : IO UInt32 := do
  let started ← IO.monoNanosNow
  let paths := match Command.ofArguments arguments with
    | .ok order => order.command.paths
    | .error _ => []
  let before ← paths.foldlM Main.load {}
  let ending := Command.run (← Main.machine) arguments before
  Main.store before ending.folder
  let elapsed := Duration.text ((← IO.monoNanosNow) - started)
  (ending.output elapsed).forM IO.println
  ending.complaint.forM IO.eprintln
  return ending.exitCode
