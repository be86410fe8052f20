import BlockImage.Proofs.Image.Data
import BlockImage.Proofs.Image.Probed
import BlockImage.Proofs.Transfer.Pacing
import BlockImage.Proofs.Transfer.Reading
import BlockImage.Proofs.Trapping.Scans

/-!
# No trap catches a transfer from a source

Imaging, copying and comparing, with a trap wherever a working area is cut, a number divided or a place on a device
computed. Where the descriptor measures the bitmap none of the traps catches anything, so that each of them comes to the
same end as the transfer without traps.
-/
namespace BlockImage

variable {ω σ ι : Type}

/-- A plan with traps in its parts. -/
structure TrappingPlan (ω σ ι : Type) where
  descriptor : Descriptor
  prepare : Trapping ω σ
  chunks : Except Trap (List ι)
  size : ι → Nat
  move : σ → ι → Trapping ω (σ × Nat)
  finish : σ → Trapping ω Unit

namespace TrappingPlan

open Transfer Trapping

def step (owner : Owner) (plan : TrappingPlan ω σ ι) (state : σ) (chunk : ι) : Trapping ω σ := do
  plain (checkRunning owner)
  let (next, position) ← plan.move state chunk
  plain (countBlocks (plan.size chunk) plan.descriptor.blockSize.toNat)
  plain (report owner plan.descriptor.verifiedBlocks.toNat position)
  return next

def carryOut (owner : Owner) (plan : TrappingPlan ω σ ι) : Trapping ω Unit := do
  let state ← plan.prepare
  let chunks ← demand plan.chunks
  let state ← chunks.foldlM (plan.step owner) state
  plan.finish state

/-- Each part follows its counterpart. `holds` tells how the plan stands when chunks are left. -/
structure Follows (trapping : TrappingPlan ω σ ι) (plan : Plan ω σ ι) (holds : List ι → σ → Prop) : Prop where
  descriptor : trapping.descriptor = plan.descriptor
  size : trapping.size = plan.size
  chunks : trapping.chunks = .ok plan.chunks
  prepare : ∀ run, Trapping.Follows trapping.prepare plan.prepare run fun state _ => holds plan.chunks state
  move : ∀ {chunk rest state}, chunk ∈ plan.chunks → holds (chunk :: rest) state → ∀ run,
    Trapping.Follows (trapping.move state chunk) (plan.move state chunk) run fun reached _ => holds rest reached.1
  finish : ∀ state run, Trapping.Follows (trapping.finish state) (plan.finish state) run fun _ _ => True

theorem Follows.carryOut {trapping : TrappingPlan ω σ ι} {plan : Plan ω σ ι} {holds : List ι → σ → Prop}
    (follows : trapping.Follows plan holds) (owner : Owner) (run : Run ω) :
    Trapping.Follows (trapping.carryOut owner) (plan.carryOut owner) run fun _ _ => True := by
  refine (follows.prepare run).bind fun state there held => .demand follows.chunks ?_
  refine (Trapping.Follows.foldlM (fun rest state _ => holds rest state) ?_ held).bind fun state after _ =>
    follows.finish state after
  intro chunk rest state run member held
  refine (Trapping.Follows.plain_any _ _).bind fun _ there _ => (follows.move member held there).bind ?_
  rintro ⟨next, position⟩ moved held
  rw [follows.size, follows.descriptor]
  exact (Trapping.Follows.plain_any _ _).bind fun _ _ _ => (Trapping.Follows.plain_any _ _).bind fun _ _ _ => .pure held

end TrappingPlan

namespace Trapping

open Transfer

/-- What a transfer with traps does by the settings of its session. -/
def bySettings (next : Config → Trapping ω σ) : Trapping ω σ := do
  let run ← get
  next run.session.config

theorem Follows.bySettings {next : Config → Trapping ω σ} {next' : Config → Transfer ω σ} {run : Run ω}
    {returned : σ → Run ω → Prop} (follows : ∀ config, Follows (next config) (next' config) run returned) :
    Follows (bySettings next) (Transfer.bySettings next') run returned := .get_bind (follows _)

/-! ### Reading -/

def rescue (source : Source ω) (offset wanted : Nat) : Trapping ω ByteArray :=
  (sectors wanted).foldlM (fun got (start, width) => do
    let sector ← demand (place (offset + start))
    let bytes ← plain (rescueSector source sector width)
    return got ++ bytes) ByteArray.empty

/-- Reads a range of the source into the front of a working area. -/
def readRange (source : Source ω) (area offset wanted : Nat) : Trapping ω ByteArray := do
  demand (front area wanted)
  let start ← demand (place offset)
  match ← plain (attempt (inWorld (source.readAt start wanted))) with
  | .ok bytes => return bytes
  | .error (cause : IoError) =>
    if (← get).session.config.rescue then rescue source start wanted
    else throw (.failure (.read start cause))

theorem readRange_follows (source : Source ω) {area offset wanted : Nat} (fits : wanted ≤ area)
    (near : offset + wanted < UInt64.size) (run : Run ω) :
    Follows (readRange source area offset wanted) (Transfer.readRange source offset wanted) run fun _ _ => True := by
  refine .demand (front_of_le fits) (.demand (place_of_lt (by omega)) ((Follows.plain_any _ _).bind ?_))
  intro outcome there _
  cases outcome with
  | ok bytes => exact .pure trivial
  | error cause =>
    refine .get_bind (.ite (fun _ => ?_) fun _ => .throw _)
    refine .foldlM_any ?_ _ _
    rintro ⟨start, width⟩ member got run
    -- A sector begins before the end of the range.
    obtain ⟨index, inside, same⟩ := mem_sectors.mp member
    cases same
    exact .demand (place_of_lt (by omega)) ((Follows.plain_any _ _).bind fun _ _ _ => .pure trivial)

/-! ### Chunks and working areas -/

def chunkCapacity (config : Config) (blockSize : Nat) : Except Trap Nat := do
  let blocks ← quotient config.bufferSize (max blockSize 1)
  return max blocks 1

/-- Room for the tags of a chunk, and for `more` others. -/
def tagRoom (options : Options) (capacity more : Nat) : Except Trap Nat := do
  if options.tagged then
    let groups ← quotient capacity options.blocksPerChecksum.toNat
    return groups + more
  else return 0

def chunksOf (config : Config) (descriptor : Descriptor) (bitmap : Bitmap) : Except Trap (List Chunk) := do
  let capacity ← chunkCapacity config descriptor.blockSize.toNat
  chunks bitmap capacity

theorem chunkCapacity_eq (config : Config) (blockSize : Nat) :
    chunkCapacity config blockSize = .ok (config.chunkCapacity blockSize) := by
  rw [chunkCapacity, quotient_of_pos _ (max_one_pos blockSize)]
  rfl

theorem tagRoom_eq (options : Options) (capacity more : Nat) : tagRoom options capacity more =
    .ok (if options.tagged then capacity / options.blocksPerChecksum.toNat + more else 0) := by
  rw [tagRoom]
  split
  next tagged =>
    rw [quotient_of_pos _ (Layout.perTag_pos tagged)]
    rfl
  next => rfl

theorem chunksOf_eq (config : Config) (descriptor : Descriptor) (bitmap : Bitmap) :
    chunksOf config descriptor bitmap = .ok (bitmap.chunks (config.chunkCapacity descriptor.blockSize.toNat)) := by
  rw [chunksOf, chunkCapacity_eq]
  exact chunks_eq bitmap _

/-! ### Packing -/

/-- The whole blocks of what was read. -/
def blocks (width : Nat) (bytes : ByteArray) : Except Trap (List ByteArray) :=
  if width = 0 then throw .zeroDivisor else return Bytes.blocks width bytes

/-- The tag of a register, cut from the four bytes of its value. -/
def tag (register : Checksum.Register) : Except Trap ByteArray :=
  slice (LittleEndian.encode 4 register.value.toNat).toByteArray 0 register.algorithm.tagSize

def add (options : Options) (packing : Packing) (block : ByteArray) : Except Trap Packing := do
  let bytes := packing.bytes ++ block
  if options.tagged then
    let group := packing.group.add block
    if group.filled = options.blocksPerChecksum.toNat then
      let stored ← tag group.register
      return { bytes := bytes ++ stored, group := group.next options, tags := packing.tags + 1 }
    else return { packing with bytes, group }
  else return { packing with bytes }

def pack (options : Options) (group : Group) (blocks : List ByteArray) : Except Trap Packing :=
  blocks.foldlM (add options) { group }

theorem blocks_eq {width : Nat} (wide : 0 < width) (bytes : ByteArray) :
    blocks width bytes = .ok (Bytes.blocks width bytes) := if_neg (Nat.ne_of_gt wide)

theorem tag_eq (register : Checksum.Register) : tag register = .ok register.tag := by
  have size : (LittleEndian.encode 4 register.value.toNat).toByteArray.size = 4 := by simp
  have sizes : register.algorithm.tagSize = 0 ∨ register.algorithm.tagSize = 4 := by
    cases register.algorithm <;> simp [Checksum.Algorithm.tagSize]
  rw [tag, slice_of_le (Nat.zero_le _) (by omega), Checksum.Register.tag]
  rcases sizes with none | four
  · rw [none]
    exact congrArg _ (ByteArray.extract_eq_empty_iff.mpr (Nat.min_le_left _ _))
  · rw [four, Bytes.extract_eq_self (Nat.le_of_eq size)]

theorem add_eq (options : Options) (packing : Packing) (block : ByteArray) :
    add options packing block = .ok (packing.add options block) := by
  rw [add, Packing.add]
  by_cases tagged : options.tagged = true
  · rw [if_pos tagged, if_pos tagged]
    dsimp only
    split
    · rw [tag_eq]
      rfl
    · rfl
  · rw [if_neg tagged, if_neg tagged]
    rfl

theorem pack_eq (options : Options) (group : Group) (blocks : List ByteArray) :
    pack options group blocks = .ok (Transfer.pack options group blocks) := by
  have steps : add options = fun packing block => .ok (packing.add options block) := by
    funext packing block
    exact add_eq options packing block
  rw [pack, steps]
  exact List.foldlM_pure

/-! ### Imaging -/

def imagePlan (source : Source ω) (target : Sink ω) (descriptor : Descriptor) (bitmap : Bitmap) (config : Config) :
    TrappingPlan ω Written Chunk where
  descriptor
  prepare := do
    let area := config.chunkCapacity descriptor.blockSize.toNat * descriptor.blockSize.toNat
    let tags ← demand (tagRoom (imageOptions config) (config.chunkCapacity descriptor.blockSize.toNat) 1)
    plain do
      allocate [area, area + tags * (imageOptions config).checksum.tagSize]
      inWorld (target.writeHead descriptor (imageOptions config))
      inWorld (target.writeBitmap bitmap)
      enter .transferring
      return {
        group := .first (imageOptions config)
        offset := Layout.dataOffset descriptor.totalBlocks.toNat (imageOptions config).encoding }
  chunks := chunksOf config descriptor bitmap
  size := Chunk.count
  move written chunk := do
    let blockSize := descriptor.blockSize.toNat
    let data ← readRange source (config.chunkCapacity blockSize * blockSize) (chunk.first * blockSize)
      (chunk.count * blockSize)
    let blocks ← demand (blocks blockSize data)
    let packing ← demand (pack (imageOptions config) written.group blocks)
    plain do
      tally fun summary => { summary with tags := summary.tags + packing.tags }
      appendData target written packing.bytes
      return ({ group := packing.group, offset := written.offset + packing.bytes.size }, chunk.stop)
  finish written := do
    if (imageOptions config).tagged ∧ 0 < written.group.filled then
      let stored ← demand (tag written.group.register)
      plain do
        appendData target written stored
        tally fun summary => { summary with tags := summary.tags + 1 }

def writeImage (owner : Owner) (source : Source ω) (target : Sink ω) (descriptor : Descriptor) (bitmap : Bitmap) :
    Trapping ω Summary :=
  within (conclude target) (bySettings fun config => (imagePlan source target descriptor bitmap config).carryOut owner)

/-! ### Copying -/

def copyPlan (source : Source ω) (target : Target ω) (descriptor : Descriptor) (bitmap : Bitmap) (config : Config) :
    TrappingPlan ω Unit Chunk where
  descriptor
  prepare := plain do
    allocate (copyingBuffers config descriptor.blockSize.toNat)
    enter .transferring
  chunks := chunksOf config descriptor bitmap
  size := Chunk.count
  move _ chunk := do
    let blockSize := descriptor.blockSize.toNat
    let offset ← demand (place (chunk.first * blockSize))
    let data ← readRange source (config.chunkCapacity blockSize * blockSize) offset (chunk.count * blockSize)
    plain do
      match ← attempt (inWorld (target.writeAt offset data)) with
      | .ok () => pure ()
      | .error cause =>
        if (← get).session.config.skipWriteErrors then
          tally fun summary => { summary with skippedBlocks := summary.skippedBlocks + chunk.count }
        else throw (.write offset cause)
      return ((), chunk.stop)
  finish _ := pure ()

def copyPartition (owner : Owner) (source : Source ω) (target : Target ω) (descriptor : Descriptor) (bitmap : Bitmap) :
    Trapping ω Summary :=
  within (conclude target.toSink)
    (bySettings fun config => (copyPlan source target descriptor bitmap config).carryOut owner)

/-! ### Comparing -/

def verifyChunk (owner : Owner) (source copy : Source ω) (area blockSize : Nat) (chunk : Chunk) : Trapping ω Unit := do
  let size := chunk.count * blockSize
  plain (checkRunning owner)
  let offset ← demand (place (chunk.first * blockSize))
  let expected ← readRange source area offset size
  demand (front area size)
  plain do
    let found ← call (copy.readAt offset size) (.read offset)
    if expected ≠ found then throw (.verifyMismatch chunk.first)

def verifyPartition (owner : Owner) (source copy : Source ω) (descriptor : Descriptor) (bitmap : Bitmap) :
    Trapping ω Unit :=
  within settling do
    plain (enter .finalizing)
    let config := (← get).session.config
    let blockSize := descriptor.blockSize.toNat
    plain (allocate (verifyingBuffers config blockSize))
    let chunks ← demand (chunksOf config descriptor bitmap)
    chunks.forM (verifyChunk owner source copy (config.chunkCapacity blockSize * blockSize) blockSize)
    plain (enter .done)

/-! ### They follow the transfers without traps -/

/-- What concludes a transfer looks at nothing but its end. -/
theorem conclude_goes (target : Sink ω) (body : Transfer ω Unit) (run : Run ω) :
    conclude target body run = conclude target (fun _ => body run) run := rfl

theorem settling_goes (body : Transfer ω σ) (run : Run ω) : settling body run = settling (fun _ => body run) run := rfl

section

variable {descriptor : Descriptor} {bitmap : Bitmap} (measured : Measured descriptor bitmap)

include measured

/-- A chunk fits into the working area and lies on the device. -/
theorem within_of_chunk (config : Config) {chunk : Chunk}
    (member : chunk ∈ bitmap.chunks (config.chunkCapacity descriptor.blockSize.toNat)) :
    chunk.count * descriptor.blockSize.toNat ≤
        config.chunkCapacity descriptor.blockSize.toNat * descriptor.blockSize.toNat ∧
      chunk.first * descriptor.blockSize.toNat + chunk.count * descriptor.blockSize.toNat < UInt64.size := by
  constructor
  · have most := Bitmap.count_le_of_mem_chunks member
    rw [Nat.max_eq_left (chunkCapacity_pos _ _)] at most
    exact Nat.mul_le_mul_right _ most
  · rw [← Nat.add_mul]
    exact Nat.lt_of_le_of_lt (Nat.mul_le_mul_right _ (measured.total ▸ Bitmap.stop_le_total member)) measured.small

theorem imagePlan_follows (source : Source ω) (target : Sink ω) (config : Config) :
    (imagePlan source target descriptor bitmap config).Follows
      (Transfer.imagePlan source target descriptor bitmap config) fun _ _ => True where
  descriptor := rfl
  size := rfl
  chunks := chunksOf_eq config descriptor bitmap
  prepare run := .demand (tagRoom_eq _ _ _) (.plain_any _ _)
  move {chunk _ written} member _ run := by
    obtain ⟨fits, near⟩ := within_of_chunk measured config member
    refine (readRange_follows source fits near run).bind fun data there _ => ?_
    exact .demand (blocks_eq measured.blockSize_pos _) (.demand (pack_eq _ _ _) (.plain_any _ _))
  finish written run := by
    refine .ite (fun _ => .demand (tag_eq _) (.plain_any _ _)) fun _ => .pure trivial

theorem copyPlan_follows (source : Source ω) (target : Target ω) (config : Config) :
    (copyPlan source target descriptor bitmap config).Follows
      (Transfer.copyPlan source target descriptor bitmap config) fun _ _ => True where
  descriptor := rfl
  size := rfl
  chunks := chunksOf_eq config descriptor bitmap
  prepare run := .plain_any _ _
  move {chunk _ _} member _ run := by
    obtain ⟨fits, near⟩ := within_of_chunk measured config member
    exact .demand (place_of_lt (by omega)) ((readRange_follows source fits near run).bind fun data there _ =>
      .plain_any _ _)
  finish _ run := .pure trivial

theorem verifyChunk_follows (owner : Owner) (source copy : Source ω) (config : Config) {chunk : Chunk}
    (member : chunk ∈ bitmap.chunks (config.chunkCapacity descriptor.blockSize.toNat)) (run : Run ω) :
    Follows (verifyChunk owner source copy (config.chunkCapacity descriptor.blockSize.toNat *
        descriptor.blockSize.toNat) descriptor.blockSize.toNat chunk)
      (Transfer.verifyChunk owner source copy descriptor.blockSize.toNat chunk) run fun _ _ => True := by
  obtain ⟨fits, near⟩ := within_of_chunk measured config member
  refine (Follows.plain_any _ _).bind fun _ looked _ => .demand (place_of_lt (by omega)) ?_
  exact (readRange_follows source fits near looked).bind fun expected there _ =>
    .demand (front_of_le fits) (.plain_any _ _)

theorem writeImage_follows (owner : Owner) (source : Source ω) (target : Sink ω) (run : Run ω) :
    Follows (writeImage owner source target descriptor bitmap)
      (Transfer.writeImage owner source target descriptor bitmap) run fun _ _ => True := by
  rw [Transfer.writeImage, writeParts_eq]
  exact .within (.bySettings fun config => (imagePlan_follows measured source target config).carryOut owner run)
    (conclude_goes _ _ _)

theorem copyPartition_follows (owner : Owner) (source : Source ω) (target : Target ω) (run : Run ω) :
    Follows (copyPartition owner source target descriptor bitmap)
      (Transfer.copyPartition owner source target descriptor bitmap) run fun _ _ => True := by
  rw [copyPartition_eq]
  exact .within (.bySettings fun config => (copyPlan_follows measured source target config).carryOut owner run)
    (conclude_goes _ _ _)

theorem verifyPartition_follows (owner : Owner) (source copy : Source ω) (run : Run ω) :
    Follows (verifyPartition owner source copy descriptor bitmap)
      (Transfer.verifyPartition owner source copy descriptor bitmap) run fun _ _ => True := by
  refine .within ((Follows.plain_any _ _).bind fun _ entered _ => .get_bind ((Follows.plain_any _ _).bind
    fun _ granted _ => .demand (chunksOf_eq _ _ _) ?_)) (settling_goes _ _)
  rw [forM_eq_foldlM, forM_eq_foldlM]
  refine (Follows.foldlM_any (fun chunk member _ run => ?_) _ _).bind fun _ _ _ => .plain_any _ _
  exact verifyChunk_follows measured owner source copy _ member run

end

end Trapping

end BlockImage
