import BlockImage.Command.Report

/-!
# Running commands

A command line is run on a folder of files. It leaves a folder, an exit code and two texts.
-/
namespace BlockImage

namespace Command

/-- Does what a command says, without asking. The lines that it ends with depend on the time that it took. -/
def perform (machine : Machine) (folder : Folder) (command : Command) : Outcome (String → List String) :=
  let circumstances : Circumstances := { machine }
  let probe := fun (raw : UInt32) => ({ blockSize := raw } : RawBlocks).probe OpenFiles.source circumstances.grants
  match command with
  | .clone paths raw config =>
    (Job.cloneToImage circumstances (probe raw) paths config folder).map (transferLines (clonedLine paths))
  | .copy paths raw config =>
    (Job.cloneToPartition circumstances (probe raw) paths config folder).map
      (transferLines (copiedLine paths config.verify))
  | .restore paths config =>
    (Job.restore circumstances paths config folder).map (transferLines (restoredLine paths))
  | .check path config => (Job.checkImage circumstances path config folder).map (transferLines (intactLine path))
  | .info path tolerate =>
    let told := Job.imageInfo path tolerate folder circumstances.grants
    { result := told.map fun info _ => infoLines path info, folder }

/-- Refuses a command that could not even start. -/
def validate : Command → Except Error Unit
  | .clone _ raw _ | .copy _ raw _ => discard (RawBlocks.ofSize raw)
  | .restore .. | .check .. | .info .. => return ()

/-- Whether a command writes to a file, and so needs leave. -/
def writes : Command → Bool
  | .clone .. | .copy .. | .restore .. => true
  | .check .. | .info .. => false

def paths : Command → List String
  | .clone paths .. | .copy paths .. | .restore paths _ => [paths.source, paths.target]
  | .check path _ | .info path _ => [path]

/-- What a run of the program leaves behind. -/
structure Ending where
  exitCode : UInt32 := 0
  /-- The lines of its output, by the time that the work took. -/
  output : String → List String := fun _ => []
  complaint : List String := []
  folder : Folder

/-- Runs a command, which only writes if it may. -/
def Order.run (order : Order) (machine : Machine) (folder : Folder) : Ending :=
  let command := order.command
  match command.validate with
  | .error failure => { exitCode := 1, complaint := (Failure.ofError failure).lines, folder }
  | .ok () =>
    let opening := command.preamble folder
    if command.writes ∧ ¬ order.confirmed then
      { exitCode := 1, output := fun _ => opening, complaint := Failure.unconfirmed.lines, folder }
    else
      let outcome := command.perform machine folder
      match outcome.result with
      | .ok closing => { output := fun elapsed => opening ++ closing elapsed, folder := outcome.folder }
      | .error failure => {
          exitCode := 1
          output := fun _ => opening
          complaint := ((Failure.ofError failure).within command.failing).lines
          folder := outcome.folder }

def run (machine : Machine) (arguments : List String) (folder : Folder) : Ending :=
  match ofArguments arguments with
  | .ok order => order.run machine folder
  | .error .version => { output := fun _ => versionLines, folder }
  | .error .help => { output := fun _ => usageLines, folder }
  | .error .refused => { exitCode := 2, complaint := usageLines, folder }

end Command

end BlockImage
