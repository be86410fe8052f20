import BlockImage.Bitmap.Scan
import BlockImage.Session

/-!
Reading chunks from a source, sector by sector where the whole chunk cannot be read.
-/
namespace BlockImage.Transfer

variable {ω : Type}

/-- The sectors of `wanted` bytes, counted from their start; the last one may be shorter. -/
def sectors (wanted : Nat) : List (Nat × Nat) :=
  (List.range ((wanted + Config.sectorSize - 1) / Config.sectorSize)).map fun index =>
    (index * Config.sectorSize, min Config.sectorSize (wanted - index * Config.sectorSize))

/-- Reads one sector; zeros stand in for one that cannot be read. -/
def rescueSector (source : Source ω) (offset wanted : Nat) : Transfer ω ByteArray := do
  match ← attempt (inWorld (source.readAt offset wanted)) with
  | .ok bytes => return bytes
  | .error (_ : IoError) =>
    tally fun summary => { summary with badSectors := summary.badSectors + 1 }
    return Bytes.zeros wanted

/-- Reads each sector of a range on its own. -/
def rescue (source : Source ω) (offset wanted : Nat) : Transfer ω ByteArray :=
  (sectors wanted).foldlM (fun got (start, width) => do
    let bytes ← rescueSector source (offset + start) width
    return got ++ bytes) ByteArray.empty

/-- Reads a range of the source; a range that fails is rescued if the session is to do so. -/
def readRange (source : Source ω) (offset wanted : Nat) : Transfer ω ByteArray := do
  match ← attempt (inWorld (source.readAt offset wanted)) with
  | .ok bytes => return bytes
  | .error cause =>
    if (← get).session.config.rescue then rescue source offset wanted
    else throw (.read offset cause)

end BlockImage.Transfer
