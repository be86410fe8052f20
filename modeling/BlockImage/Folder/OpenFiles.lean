import BlockImage.Ends
import BlockImage.Folder

/-!
# Open files

A handle is a place and a position. Two handles may name the same place: what is written through one is then what
the other reads.
-/
namespace BlockImage

structure Handle where
  place : Place
  position : Nat := 0
  deriving DecidableEq, Repr

/-- A folder with a handle for reading and one for writing. -/
structure OpenFiles where
  folder : Folder
  input : Handle
  output : Handle

namespace OpenFiles

/-- What is at the place of a handle. Folders can be opened but not read. -/
def content (files : OpenFiles) (handle : Handle) : Except IoError ByteArray :=
  match files.folder.get? handle.place with
  | some (.file bytes) => return bytes
  | some .folder => throw .isADirectory
  | none => throw .notFound

/-- The position behind the last byte of what a handle names. -/
def endOf (files : OpenFiles) (handle : Handle) : Except IoError Nat :=
  match files.folder.get? handle.place with
  | some .folder => throw .noEnd
  | _ => (files.content handle).map ByteArray.size

/-- The bytes that one read through a handle gives. -/
def readThrough (files : OpenFiles) (handle : Handle) (wanted : Nat) : Except IoError ByteArray := do
  let content ← files.content handle
  return content.extract handle.position (handle.position + wanted)

theorem size_readThrough_le {files : OpenFiles} {handle : Handle} {wanted : Nat} {bytes : ByteArray}
    (returned : files.readThrough handle wanted = .ok bytes) : bytes.size ≤ wanted := by
  simp only [readThrough, bind, Except.bind] at returned
  split at returned
  · cases returned
  · cases returned
    rw [ByteArray.size_extract]
    omega

def seekInput (position : Nat) : Call OpenFiles Unit :=
  modify fun files => { files with input := { files.input with position } }

def seekOutput (position : Nat) : Call OpenFiles Unit :=
  modify fun files => { files with output := { files.output with position } }

def readInput (wanted : Nat) : Call OpenFiles ByteArray := fun files =>
  match files.readThrough files.input wanted with
  | .error cause => .error cause files
  | .ok bytes =>
    .ok bytes { files with input := { files.input with position := files.input.position + bytes.size } }

/-- One read through the other handle, when it too was opened for reading. -/
def readOutput (wanted : Nat) : Call OpenFiles ByteArray := fun files =>
  match files.readThrough files.output wanted with
  | .error cause => .error cause files
  | .ok bytes =>
    .ok bytes { files with output := { files.output with position := files.output.position + bytes.size } }

/-- One write through the handle for writing; the file grows as needed. -/
def write (offered : ByteArray) : Call OpenFiles Nat := fun files =>
  .ok offered.size {
    files with
    folder := files.folder.writeAt files.output.place files.output.position offered
    output := { files.output with position := files.output.position + offered.size } }

def source : Source OpenFiles where
  read := readInput
  read_le := by
    intro wanted files bytes after returned
    simp only [readInput] at returned
    split at returned
    · cases returned
    · next h =>
      cases returned
      exact size_readThrough_le h
  seek := seekInput
  length := do ofExcept ((← get).endOf (← get).input)

def target : Target OpenFiles where
  write := write
  write_le := by
    intro bytes files taken after returned
    simp only [write, EStateM.Result.ok.injEq] at returned
    omega
  sync := return ()
  seek := seekOutput

/-- The other handle as a source, for reading back what was written. -/
def copy : Source OpenFiles where
  read := readOutput
  read_le := by
    intro wanted files bytes after returned
    simp only [readOutput] at returned
    split at returned
    · cases returned
    · next h =>
      cases returned
      exact size_readThrough_le h
  seek := seekOutput
  length := do ofExcept ((← get).endOf (← get).output)

end OpenFiles

end BlockImage
