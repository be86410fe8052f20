import BlockImage.Bytes
import BlockImage.Error

/-!
# Folders of files

A folder maps places, which are paths without detours, to files and folders. Text paths are resolved step by step
from the top folder, with the failures that a file system reports on the way. Names, paths and files have limits, in
bytes.
-/
namespace BlockImage

/-- The names on the way from the top folder. Places outside of it begin with steps up, or with the root. -/
abbrev Place := List String

namespace Place

/-- The step that stays where it is; only a folder can be stayed in. -/
def stay : String := "."

def stepUp : String := ".."

def root : String := "/"

/-- Whether a step names an entry of a folder. -/
def isName (step : String) : Bool := step != stay && step != stepUp && step != root

/-- Whether a place is the top folder, above it, or the root. -/
def isTop (place : Place) : Bool := place.all (· == stepUp) || place == [root]

/-- The folder that a place lies in. Nothing lies above the root. -/
def parent (place : Place) : Place :=
  if place == [root] then place else if place.isTop then place ++ [stepUp] else place.dropLast

def path (place : Place) : String :=
  match place with
  | [] => "."
  | first :: more => if first = root then root ++ "/".intercalate more else "/".intercalate place

end Place

inductive Entry
  | file (bytes : ByteArray)
  | folder
  deriving DecidableEq

/-- The entries below the top folder, in the order in which they were made. -/
structure Folder where
  entries : List (Place × Entry) := []
  deriving DecidableEq

namespace Folder

def get? (folder : Folder) (place : Place) : Option Entry :=
  if place.isTop then some .folder else folder.entries.lookup place

/-- Puts an entry in place of an old one, or behind all others. -/
def put (folder : Folder) (place : Place) (entry : Entry) : Folder :=
  if folder.entries.any (·.1 == place) then
    { entries := folder.entries.map fun old => if old.1 == place then (place, entry) else old }
  else { entries := folder.entries ++ [(place, entry)] }

/-- The bytes of the file at a place; none for anything else. -/
def bytesAt (folder : Folder) (place : Place) : ByteArray :=
  match folder.get? place with
  | some (.file bytes) => bytes
  | _ => ByteArray.empty

/-- A path taken apart. -/
structure Route where
  steps : List String
  /-- Whether the path ends in a name with a slash behind it, so that only a folder will do. -/
  wantsFolder : Bool

def nameLimit : Nat := 255

def pathLimit : Nat := 4095

/-- The steps of a path; an empty path leads nowhere. -/
def route (path : String) : Except IoError Route :=
  if path.contains '\x00' then throw .zeroInPath
  else if path.isEmpty then throw .notFound
  else if pathLimit < path.utf8ByteSize then throw .nameTooLong
  else
    let parts := path.splitOn "/"
    let steps := parts.filter (· ≠ "")
    return {
      steps := if parts.head? = some "" then Place.root :: steps else steps
      wantsFolder := parts.getLast? = some "" ∧ steps.getLast?.any Place.isName }

/-- Follows one step from a folder. -/
def enter (folder : Folder) (place : Place) (step : String) : Except IoError Place :=
  match folder.get? place with
  | none => throw .notFound
  | some (.file _) => throw .notADirectory
  | some .folder =>
    if nameLimit < step.utf8ByteSize then throw .nameTooLong
    else return if step = Place.stay then place else if step = Place.stepUp then place.parent else place ++ [step]

/-- The place that a path leads to. Only its last step may lead to nothing. -/
def resolve (folder : Folder) (path : String) : Except IoError (Place × Bool) := do
  let route ← route path
  -- Each step looks at the folder that it starts from, so what the last one leads to is not looked at.
  let place ← route.steps.foldlM folder.enter []
  return (place, route.wantsFolder)

def find (folder : Folder) (path : String) : Except IoError (Place × Entry) := do
  let (place, wantsFolder) ← folder.resolve path
  match folder.get? place with
  | none => throw .notFound
  | some (.file bytes) => if wantsFolder then throw .notADirectory else return (place, .file bytes)
  | some .folder => return (place, .folder)

def exists? (folder : Folder) (path : String) : Bool := (folder.find path).toBool

/-- The place that a path leads to when a file may be made there. A path that asks for a folder is refused before
its last name is looked at. -/
def resolveFile (folder : Folder) (path : String) : Except IoError Place := do
  let route ← route path
  if route.wantsFolder then
    let place ← route.steps.dropLast.foldlM folder.enter []
    discard (folder.enter place Place.stay)
    throw .isADirectory
  else route.steps.foldlM folder.enter []

/-- Makes sure that there is a file to write to, and gives its place. -/
def openFile (folder : Folder) (path : String) : Except IoError (Place × Folder) := do
  let place ← folder.resolveFile path
  match folder.get? place with
  | some .folder => throw .isADirectory
  | some (.file _) => return (place, folder)
  | none => return (place, folder.put place (.file ByteArray.empty))

/-- Makes a file that is not there yet, and gives its place. -/
def createFile (folder : Folder) (path : String) : Except IoError (Place × Folder) := do
  let place ← folder.resolveFile path
  match folder.get? place with
  | some _ => throw .alreadyExists
  | none => return (place, folder.put place (.file ByteArray.empty))

/-- The entries directly in the top folder. -/
def listing (folder : Folder) : List (String × Entry) :=
  folder.entries.filterMap fun
    | ([name], entry) => some (name, entry)
    | _ => none

def createFolder (folder : Folder) (path : String) : Except IoError Folder := do
  let (place, _) ← folder.resolve path
  match folder.get? place with
  | some _ => throw .alreadyExists
  | none => return folder.put place .folder

def findFile (folder : Folder) (path : String) : Except IoError Place := do
  match ← folder.find path with
  | (_, .folder) => throw .isADirectory
  | (place, .file _) => return place

def setLength (folder : Folder) (place : Place) (size : Nat) : Folder :=
  folder.put place (.file (Bytes.resize (folder.bytesAt place) size))

/-- The most bytes that one file can hold: 2³² − 1 units of 4096 bytes. -/
def fileSizeLimit : Nat := (1 <<< 32 - 1) * 4096

/-- Extends the file at a place with zeros up to a size, unless it is as long already. -/
def extendFile (folder : Folder) (place : Place) (size : Nat) : Except IoError Folder :=
  if size ≤ (folder.bytesAt place).size then return folder
  else if fileSizeLimit < size then throw .fileTooLarge
  else return folder.setLength place size

/-- Replaces the contents of a file, which is made if it is not there. -/
def replaceFile (folder : Folder) (path : String) (bytes : ByteArray) : Except IoError Folder := do
  let (place, folder) ← folder.openFile path
  return folder.put place (.file bytes)

def writeAt (folder : Folder) (place : Place) (offset : Nat) (bytes : ByteArray) : Folder :=
  folder.put place (.file (Bytes.overwrite (folder.bytesAt place) offset bytes))

end Folder

end BlockImage
