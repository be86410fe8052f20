import BlockImage.Command.Arguments
import BlockImage.Text.Lossy

/-!
# What the program prints

Everything is a list of lines. Figures and names come from sessions and images; the time that a session took is
given as text.
-/
namespace BlockImage.Command

/-- A named line; the names are as wide as the widest of them. -/
def labelled (width : Nat) (label text : String) : String := "  " ++ Text.padRight width (label ++ ":") ++ " " ++ text

/-- A file or device before the work starts. -/
def describe (folder : Folder) (path : String) : String :=
  match Job.inspect folder path with
  | .ok found => found.text
  | .error _ => Text.padRight 15 path ++ " (will be created)"

/-- What is printed before a command that writes asks for leave. -/
def preamble (folder : Folder) : Command → List String
  | .clone paths _ _ => [
      labelled 7 "Source" (describe folder paths.source),
      labelled 7 "Image" paths.target,
      ""]
  | .copy paths _ _ => [
      s!"WARNING: This will overwrite the used blocks of '{paths.target}'.",
      labelled 7 "Source" (describe folder paths.source),
      labelled 7 "Target" (describe folder paths.target),
      ""]
  | .restore paths _ => [
      s!"WARNING: This will overwrite data on '{paths.target}'.",
      labelled 7 "Image" paths.source,
      labelled 7 "Target" (describe folder paths.target),
      ""]
  | .check .. | .info .. => []

/-- A line that is printed only where it applies. -/
def lineIf (applies : Bool) (line : String) : List String := if applies then [line] else []

/-- The counters of a session that ended well. -/
def summaryLines (elapsed : String) (summary : Summary) : List String :=
  [s!"  {summary.blocks} blocks, {Text.byteCount summary.bytes} in {elapsed}"]
    ++ lineIf (0 < summary.tags) s!"  {summary.tags} checksum groups"
    ++ lineIf (0 < summary.badSectors) s!"  WARNING: {summary.badSectors} unreadable sectors were zero-filled"
    ++ lineIf (0 < summary.skippedBlocks)
      s!"  WARNING: {summary.skippedBlocks} blocks could not be written and may hold stale data"
    ++ lineIf summary.mismatch
      s!"  NOTE: header claims {summary.reportedBlocks} used blocks, bitmap holds {summary.verifiedBlocks}"

def checksumText (options : Options) : String :=
  if options.blocksPerChecksum = 0 ∨ options.checksum = .none then "none"
  else s!"{options.checksum.name} every {options.blocksPerChecksum.toNat} blocks"
    ++ (if options.reseed then ", reseeded" else "")

def encodingText : BitmapEncoding → String
  | .bit => "bit per block"
  | .byte => "byte per block"

def formatText (header : Header) : String :=
  let text := fun {size : Nat} (bytes : Vector UInt8 size) => Text.decodeLossy bytes.toList
  text header.magic ++ " v" ++ text header.formatVersion ++ " (writer " ++ text header.writerVersion ++ ")"

def infoLines (path : String) (info : ImageInfo) : List String :=
  let descriptor := info.head.descriptor
  let line := labelled 13
  [ line "Image" path,
    line "Format" (formatText info.head.header),
    line "Filesystem" descriptor.name,
    line "Device size" (Text.byteCount descriptor.deviceSize.toNat),
    line "Block size" (toString descriptor.blockSize.toNat),
    line "Total blocks" (toString descriptor.totalBlocks.toNat),
    line "Used blocks" (toString descriptor.usedBlocks.toNat)]
    ++ lineIf info.mismatch (Text.padRight 16 "" ++ s!"NOTE: bitmap holds {info.countedBlocks}")
    ++ [
      line "Bitmap" (encodingText info.head.options.encoding),
      line "Checksum" (checksumText info.head.options),
      line "Image size" (Text.byteCount info.expectedSize)]
    ++ info.corruption.toList.map fun failure => "  WARNING: " ++ failure.message

/-- What is printed after a transfer that ended well. -/
def transferLines (headline : String) (summary : Summary) (elapsed : String) : List String :=
  "" :: headline :: summaryLines elapsed summary

def clonedLine (paths : Job.Paths) : String := s!"✨ Successfully imaged {paths.source} to {paths.target}."

def copiedLine (paths : Job.Paths) (verified : Bool) : String :=
  s!"✨ Successfully copied {paths.source} to {paths.target}" ++ (if verified then " (verified)." else ".")

def restoredLine (paths : Job.Paths) : String := s!"✨ Successfully restored {paths.source} to {paths.target}."

def intactLine (path : String) : String := s!"✨ {path} is intact."

/-- What a command that fails has failed to do. -/
def failing : Command → String
  | .clone paths _ _ => s!"failed to image {paths.source}"
  | .copy paths _ _ => s!"failed to copy {paths.source} to {paths.target}"
  | .restore paths _ => s!"failed to restore {paths.source}"
  | .check path _ => s!"image {path} failed the check"
  | .info path _ => s!"failed to read {path}"

/-! ### Failures -/

/-- A failure, and what brought it about: each cause brought about the one before it. -/
structure Failure where
  text : String
  causes : List String := []
  deriving DecidableEq, Repr

namespace Failure

def ofError (failure : Error) : Failure :=
  { text := failure.message, causes := failure.cause?.toList.map IoError.message }

/-- Puts a failure behind what it made fail. -/
def within (context : String) (failure : Failure) : Failure :=
  { text := context, causes := failure.text :: failure.causes }

/-- There is nobody to answer the question before writing. -/
def unconfirmed : Failure where
  text := "confirmation needs an interactive terminal; pass --yes to skip it"
  causes := ["IO error: not a terminal"]

/-- The lines of a text behind a mark; those after the first stand in the same column. -/
def indented (mark text : String) : List String :=
  match text.splitOn "\n" with
  | first :: more => (mark ++ first) :: more.map (Text.padRight mark.length "" ++ ·)
  | [] => []

/-- Causes are counted where there are several. -/
def causeLines : List String → List String
  | [] => []
  | [cause] => "" :: "Caused by:" :: indented "    " cause
  | causes => "" :: "Caused by:" :: causes.zipIdx.flatMap fun (cause, place) => indented s!"    {place}: " cause

def lines (failure : Failure) : List String := ("Error: " ++ failure.text) :: causeLines failure.causes

end Failure

/-! ### Other texts -/

def versionLines : List String := ["partimg 0.1.0"]

def usageLines : List String := [
  "Usage: partimg [--verbose] [--yes] COMMAND",
  "",
  "Commands:",
  "  clone SOURCE IMAGE    image the used blocks of a device into an image file",
  "  copy SOURCE TARGET    copy the used blocks of a device onto another device",
  "  restore IMAGE TARGET  restore an image file onto a device",
  "  check IMAGE           verify every checksum of an image without writing anything",
  "  info IMAGE            print the metadata of an image file"]

end BlockImage.Command
