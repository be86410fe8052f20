import BlockImage.Ends.Discard
import BlockImage.Ends.Pair
import BlockImage.Ends.ReadAhead
import BlockImage.Folder.OpenFiles
import BlockImage.Image.Info
import BlockImage.Preflight
import BlockImage.Session.Probe
import BlockImage.Text
import BlockImage.Transfer.Copying
import BlockImage.Transfer.Imaging
import BlockImage.Transfer.Restoring

/-!
# Jobs on files

A job opens the files it is given, checks that the target may be written and that the machine has room, and then
runs a transfer. Nothing is created or cut short before those checks have passed.
-/
namespace BlockImage

/-- What a job meets: the machine, the owner of the running flag, and the memory that is granted to it. -/
structure Circumstances where
  machine : Machine := {}
  owner : Owner := {}
  running : Bool := true
  /-- The requests for memory that are granted, by their size in bytes. -/
  grants : Nat → Bool := addressable

/-- What becomes of a job: also one that fails may have written to files and handed out events. -/
structure Outcome (α : Type) where
  result : Except Error α
  folder : Folder
  events : Array Event := #[]

/-- The outcome with another value in place of the one that a job that ended well gives. -/
def Outcome.map {α β : Type} (change : α → β) (outcome : Outcome α) : Outcome β :=
  { outcome with result := outcome.result.map change }

namespace Job

variable {α : Type}

def unopened (folder : Folder) : OpenFiles := { folder, input := ⟨[], 0⟩, output := ⟨[], 0⟩ }

def openInput (path : String) : Operation OpenFiles Unit := do
  let (place, _) ← (ofExcept ((← get).folder.find path) : Call OpenFiles _).adaptExcept .io
  modify fun files => { files with input := { place } }

/-- Opens a file or folder for reading through the other handle. -/
def openCopy (path : String) : Operation OpenFiles Unit := do
  let (place, _) ← (ofExcept ((← get).folder.find path) : Call OpenFiles _).adaptExcept .io
  modify fun files => { files with output := { place } }

/-- Starts writing at the front of a file that was just opened. -/
def beginOutput (opened : Place × Folder) : Operation OpenFiles Unit :=
  modify fun files => { files with folder := opened.2, output := { place := opened.1 } }

/-- Refuses a target that exists, unless it may be overwritten. -/
def checkOverwrite (folder : Folder) (path : String) (overwrite : Bool) : Except Error Unit :=
  if overwrite ∨ ¬ folder.exists? path then return () else throw (.targetExists path)

/-- Opens a new image file for writing; an old one is emptied if it may be overwritten. -/
def createImage (path : String) (overwrite : Bool) : Operation OpenFiles Unit := do
  let folder := (← get).folder
  if overwrite then
    let (place, folder) ← ofExcept ((folder.openFile path).mapError .io)
    beginOutput (place, folder.setLength place 0)
  else
    match folder.createFile path with
    | .error .alreadyExists => throw (.targetExists path)
    | .error cause => throw (.io cause)
    | .ok opened => beginOutput opened

/-- Opens a file for writing without emptying it. -/
def openTarget (path : String) : Operation OpenFiles Unit := do
  beginOutput (← ofExcept (((← get).folder.openFile path).mapError .io))

structure DeviceInfo where
  path : String
  size : Nat
  isBlockDevice : Bool := false
  deriving DecidableEq, Repr

/-- One line about a device or file; its size is given in units of 2³⁰ bytes. -/
def DeviceInfo.text (info : DeviceInfo) : String :=
  Text.padRight 15 info.path ++ " "
    ++ Decimal.fixed 1 (Decimal.toDoublePrecision info.size) (1 <<< 30) ++ " GB "
    ++ (if info.isBlockDevice then "[Block device]" else "[File]")

/-- Bytes that an entry of a folder is said to have. -/
def entrySize : Entry → Nat
  | .file bytes => bytes.size
  | .folder => 4096

def inspect (folder : Folder) (path : String) : Except IoError DeviceInfo := do
  let (_, entry) ← folder.find path
  return { path, size := entrySize entry }

/-- Opens a target that must hold `deviceSize` bytes, of which `dataBytes` are going to be written. -/
def prepareTarget (machine : Machine) (path : String) (deviceSize dataBytes : Nat) :
    Operation OpenFiles Unit := do
  match inspect (← get).folder path with
  | .error .notFound => ofExcept (machine.ensureSpace dataBytes)
  | .error cause => throw (.io cause)
  | .ok info => if info.size < deviceSize then ofExcept (machine.ensureSpace dataBytes)
  -- A file that is there keeps its bytes: it is lengthened where it is short, and never cut.
  openTarget path
  let files ← get
  let folder ← ofExcept ((files.folder.extendFile files.output.place deviceSize).mapError .io)
  set { files with folder }

/-- The memory that a session is said to need before it starts. -/
def memoryFigure (config : Config) (descriptor : Descriptor) (bitmap : Bitmap) : Nat :=
  let blockSize := descriptor.blockSize.toNat
  let chunk := config.chunkCapacity blockSize * blockSize
  sessionMemory bitmap.bytes.size chunk chunk

def dataBytes (descriptor : Descriptor) : Nat := descriptor.verifiedBlocks.toNat * descriptor.blockSize.toNat

/-- Runs a session over a folder; `folderOf` finds the folder in the world of the session. -/
def run {ω : Type} (circumstances : Circumstances) (direction : Direction) (config : Config) (folder : Folder)
    (world : ω) (folderOf : ω → Folder) (body : Transfer ω α) : Outcome α :=
  match Session.start direction config with
  | .error failure => { result := .error failure, folder }
  | .ok session =>
    match body { session, running := circumstances.running, world, grants := circumstances.grants } with
    | .ok value after => { result := .ok value, folder := folderOf after.world, events := after.events }
    | .error failure after => { result := .error failure, folder := folderOf after.world, events := after.events }

/-- The paths of a job, and whether its target may be overwritten. -/
structure Paths where
  source : String
  target : String
  overwrite : Bool := false
  deriving DecidableEq, Repr

open Transfer

/-- Images the allocated blocks of a file into an image file. -/
def cloneToImage (circumstances : Circumstances) (probe : Probe OpenFiles) (paths : Paths) (config : Config)
    (folder : Folder) : Outcome Summary :=
  run circumstances .toImage config folder (unopened folder) OpenFiles.folder do
    inWorld (openInput paths.source)
    let (descriptor, bitmap) ← Transfer.probe probe
    settling do
      ofExcept (checkOverwrite (← get).world.folder paths.target paths.overwrite)
      ofExcept (circumstances.machine.ensureMemory (memoryFigure config descriptor bitmap))
      ofExcept (circumstances.machine.ensureSpace (Layout.imageSize descriptor (imageOptions config)))
      inWorld (createImage paths.target paths.overwrite)
    writeImage circumstances.owner OpenFiles.source OpenFiles.target.toSink descriptor bitmap

/-- Copies the allocated blocks of a file onto another file, and compares both sides if the settings ask for it. -/
def cloneToPartition (circumstances : Circumstances) (probe : Probe OpenFiles) (paths : Paths)
    (config : Config) (folder : Folder) : Outcome Summary :=
  run circumstances .toPartition config folder (unopened folder) OpenFiles.folder do
    inWorld (openInput paths.source)
    let (descriptor, bitmap) ← Transfer.probe probe
    settling do
      ofExcept (checkOverwrite (← get).world.folder paths.target paths.overwrite)
      ofExcept (circumstances.machine.ensureMemory (memoryFigure config descriptor bitmap))
      inWorld (prepareTarget circumstances.machine paths.target descriptor.deviceSize.toNat (dataBytes descriptor))
    let summary ← copyPartition circumstances.owner OpenFiles.source OpenFiles.target descriptor bitmap
    if config.verify then
      inWorld (openInput paths.source)
      -- Both files are opened anew, so the comparison sees what is stored by now.
      inWorld (openCopy paths.target)
      verifyPartition circumstances.owner OpenFiles.source OpenFiles.copy descriptor bitmap
    return summary

/-- Restores an image file onto another file. -/
def restore (circumstances : Circumstances) (paths : Paths) (config : Config) (folder : Folder) :
    Outcome Summary :=
  run circumstances .fromImage config folder { world := unopened folder : ReadAhead OpenFiles }
    (·.world.folder) do
    inWorld (ReadAhead.below (openInput paths.source))
    let image := OpenFiles.source.toStream.readAhead
    let (head, bitmap) ← readImage image
    settling do
      ofExcept (checkOverwrite (← get).world.world.folder paths.target paths.overwrite)
      ofExcept (circumstances.machine.ensureMemory (memoryFigure config head.descriptor bitmap))
      inWorld (ReadAhead.below (prepareTarget circumstances.machine paths.target
        head.descriptor.deviceSize.toNat (dataBytes head.descriptor)))
    restoreBlocks circumstances.owner image OpenFiles.target.besideReadAhead head bitmap

/-- Decodes a whole image file and compares every tag, without writing anything. -/
def checkImage (circumstances : Circumstances) (path : String) (config : Config) (folder : Folder) :
    Outcome Summary :=
  run circumstances .fromImage config folder
    (({ world := unopened folder }, {}) : ReadAhead OpenFiles × Discard) (·.1.world.folder) do
    inWorld (onFirst (ReadAhead.below (openInput path)))
    let image := OpenFiles.source.toStream.readAhead.ofFirst
    let (head, bitmap) ← readImage image
    restoreBlocks circumstances.owner image Discard.target.ofSecond head bitmap

/-- Reads what can be told of an image file. -/
def imageInfo (path : String) (tolerate : Bool) (folder : Folder) (grants : Nat → Bool := addressable) :
    Except Error ImageInfo :=
  let read : Operation (ReadAhead OpenFiles) ImageInfo := do
    ReadAhead.below (openInput path)
    OpenFiles.source.toStream.readAhead.readInfo tolerate grants
  match read { world := unopened folder } with
  | .ok info _ => .ok info
  | .error failure _ => .error failure

end Job

end BlockImage
