import BlockImage.Proofs.Agreement
import BlockImage.Proofs.Bitmap.Marked
import BlockImage.Transfer.Copying
import BlockImage.Transfer.Imaging
import BlockImage.Transfer.Restoring

/-!
# Transfers chunk by chunk

Images are written, partitions copied and images restored in one manner: something is prepared, then chunk after chunk
is moved, and behind the last one something may be left to do. The running flag is looked at before each chunk, and an
event is handed out behind it. A `Plan` tells the parts in which the three differ.
-/
namespace BlockImage

variable {ω ω' σ ι α : Type}

/-- What a transfer does beside looking at the flag, counting blocks and handing out events. -/
structure Plan (ω σ ι : Type) where
  descriptor : Descriptor
  prepare : Transfer ω σ
  chunks : List ι
  /-- Blocks of a chunk. -/
  size : ι → Nat
  /-- Moves a chunk and comes to the block behind it. -/
  move : σ → ι → Transfer ω (σ × Nat)
  finish : σ → Transfer ω Unit

namespace Plan

open Transfer

variable (owner : Owner) (plan : Plan ω σ ι)

def step (state : σ) (chunk : ι) : Transfer ω σ := do
  checkRunning owner
  let (next, position) ← plan.move state chunk
  countBlocks (plan.size chunk) plan.descriptor.blockSize.toNat
  report owner plan.descriptor.verifiedBlocks.toNat position
  return next

/-- The transfer up to the moment at which `count` chunks are done. -/
def upTo (count : Nat) : Transfer ω σ := do
  let state ← plan.prepare
  (plan.chunks.take count).foldlM (plan.step owner) state

def carryOut : Transfer ω Unit := do
  let state ← plan.prepare
  let state ← plan.chunks.foldlM (plan.step owner) state
  plan.finish state

/-- Wherever a transfer is between two chunks, it goes on from there. -/
theorem carryOut_eq_upTo (count : Nat) : plan.carryOut owner =
    plan.upTo owner count >>= fun state =>
      (plan.chunks.drop count).foldlM (plan.step owner) state >>= plan.finish := by
  have parts := List.take_append_drop count plan.chunks
  rw [carryOut, upTo, bind_assoc]
  refine bind_congr fun state => ?_
  rw [← bind_assoc, ← List.foldlM_append, parts]

end Plan

/-- What a transfer does that goes by the settings of its session. -/
def Transfer.bySettings (next : Config → Transfer ω α) : Transfer ω α := do
  let run ← get
  next run.session.config

/-- The sizes of the chunks that `left` blocks are moved in. -/
def chunkSizes (capacity left : Nat) : List Nat :=
  if left = 0 then []
  else min (max capacity 1) left :: chunkSizes capacity (left - min (max capacity 1) left)
termination_by left

namespace Transfer

def imagePlan (source : Source ω) (target : Sink ω) (descriptor : Descriptor) (bitmap : Bitmap) (config : Config) :
    Plan ω Written Chunk where
  descriptor
  prepare := do
    allocate (imagingBuffers config descriptor.blockSize.toNat)
    inWorld (target.writeHead descriptor (imageOptions config))
    inWorld (target.writeBitmap bitmap)
    enter .transferring
    return {
      group := .first (imageOptions config)
      offset := Layout.dataOffset descriptor.totalBlocks.toNat (imageOptions config).encoding }
  chunks := bitmap.chunks (config.chunkCapacity descriptor.blockSize.toNat)
  size := Chunk.count
  move written chunk := do
    let blockSize := descriptor.blockSize.toNat
    let data ← readRange source (chunk.first * blockSize) (chunk.count * blockSize)
    let packing := pack (imageOptions config) written.group (Bytes.blocks blockSize data)
    tally fun summary => { summary with tags := summary.tags + packing.tags }
    appendData target written packing.bytes
    return ({ group := packing.group, offset := written.offset + packing.bytes.size }, chunk.stop)
  finish := closeGroup target (imageOptions config)

def copyPlan (source : Source ω) (target : Target ω) (descriptor : Descriptor) (bitmap : Bitmap) (config : Config) :
    Plan ω Unit Chunk where
  descriptor
  prepare := do
    allocate (copyingBuffers config descriptor.blockSize.toNat)
    enter .transferring
  chunks := bitmap.chunks (config.chunkCapacity descriptor.blockSize.toNat)
  size := Chunk.count
  move _ chunk := do
    let blockSize := descriptor.blockSize.toNat
    let offset := chunk.first * blockSize
    let data ← readRange source offset (chunk.count * blockSize)
    match ← attempt (inWorld (target.writeAt offset data)) with
    | .ok () => pure ()
    | .error cause =>
      if (← get).session.config.skipWriteErrors then
        tally fun summary => { summary with skippedBlocks := summary.skippedBlocks + chunk.count }
      else throw (.write offset cause)
    return ((), chunk.stop)
  finish _ := pure ()

def restorePlan (image : Stream ω) (target : Target ω) (head : Head) (bitmap : Bitmap) (config : Config) :
    Plan ω Restored Nat where
  descriptor := head.descriptor
  prepare := do
    allocate (restoringBuffers config head.descriptor.blockSize.toNat head.options)
    enter .transferring
    return {
      group := .first head.options
      offset := Layout.dataOffset head.descriptor.totalBlocks.toNat head.options.encoding }
  chunks := chunkSizes (config.chunkCapacity head.descriptor.blockSize.toNat) head.descriptor.verifiedBlocks.toNat
  size := id
  move restored count := do
    let blockSize := head.descriptor.blockSize.toNat
    let last := restored.done + count = head.descriptor.verifiedBlocks.toNat
    let tags := plannedTags head.options restored.group.filled count last
    let size := count * blockSize + tags * head.options.checksum.tagSize
    let data ← call (image.readExactly size) (.read restored.offset)
    let unpacking ← unpack head restored.group data restored.done count
    let cursor ← scatter target bitmap blockSize restored.cursor count unpacking.blocks
    return ({ group := unpacking.group, done := restored.done + count, cursor, offset := restored.offset + size },
      cursor)
  finish _ := pure ()

/-! ### The transfers are their plans, carried out -/

theorem imagePlan_step (owner : Owner) (source : Source ω) (target : Sink ω) (descriptor : Descriptor)
    (bitmap : Bitmap) (config : Config) : (imagePlan source target descriptor bitmap config).step owner =
      imageChunk owner source target descriptor (imageOptions config) := by
  funext written chunk
  simp only [imageChunk, Plan.step, imagePlan, bind_assoc, pure_bind]

theorem writeParts_eq (owner : Owner) (source : Source ω) (target : Sink ω) (descriptor : Descriptor)
    (bitmap : Bitmap) : writeParts owner source target descriptor bitmap =
      bySettings fun config => (imagePlan source target descriptor bitmap config).carryOut owner := by
  simp only [writeParts, bySettings, Plan.carryOut, imagePlan_step]
  simp only [imagePlan, bind_assoc, pure_bind]

theorem copyPlan_step (owner : Owner) (source : Source ω) (target : Target ω) (descriptor : Descriptor)
    (bitmap : Bitmap) (config : Config) : (copyPlan source target descriptor bitmap config).step owner =
      fun _ chunk => copyChunk owner source target descriptor chunk := by
  funext _ chunk
  simp only [copyChunk, Plan.step, copyPlan, bind_assoc]
  refine bind_congr fun _ => bind_congr fun data => bind_congr fun outcome => ?_
  cases outcome with
  | ok _ => rfl
  | error cause =>
    simp only [bind_assoc]
    refine bind_congr fun run => ?_
    split <;> rfl

theorem copyPartition_eq (owner : Owner) (source : Source ω) (target : Target ω) (descriptor : Descriptor)
    (bitmap : Bitmap) : copyPartition owner source target descriptor bitmap = conclude target.toSink
      (bySettings fun config => (copyPlan source target descriptor bitmap config).carryOut owner) := by
  simp only [copyPartition, bySettings, Plan.carryOut, copyPlan_step, forM_eq_foldlM]
  simp only [copyPlan, bind_assoc]
  -- The loop comes to nothing itself, so there is nothing to finish.
  refine congrArg _ (bind_congr fun run => bind_congr fun _ => bind_congr fun _ => ?_)
  exact (bind_pure _).symm

theorem restorePlan_step (owner : Owner) (image : Stream ω) (target : Target ω) (head : Head) (bitmap : Bitmap)
    (config : Config) : (restorePlan image target head bitmap config).step owner =
      restoreChunk owner image target head bitmap := by
  funext restored count
  simp only [restoreChunk, Plan.step, restorePlan, bind_assoc, pure_bind, id]

theorem restoreFrom_eq (owner : Owner) (image : Stream ω) (target : Target ω) (head : Head) (bitmap : Bitmap)
    (capacity left : Nat) (restored : Restored) :
    restoreFrom owner image target head bitmap capacity left restored =
      (chunkSizes capacity left).foldlM (restoreChunk owner image target head bitmap) restored >>= fun _ => pure () := by
  induction left using Nat.strongRecOn generalizing restored with
  | ind left ih =>
    rw [restoreFrom, chunkSizes]
    split
    next none => rfl
    next some =>
      rw [List.foldlM_cons, bind_assoc]
      exact bind_congr fun restored => ih _ (by omega) restored

theorem restoreBlocks_eq (owner : Owner) (image : Stream ω) (target : Target ω) (head : Head) (bitmap : Bitmap) :
    restoreBlocks owner image target head bitmap = conclude target.toSink
      (bySettings fun config => (restorePlan image target head bitmap config).carryOut owner) := by
  simp only [restoreBlocks, bySettings, Plan.carryOut, restorePlan_step, restoreFrom_eq]
  simp only [restorePlan, bind_assoc, pure_bind]

end Transfer

/-! ### Plans that agree -/

/-- Two plans for the same chunks, of which each part agrees with its counterpart. -/
structure Plan.Agree (alike : Run ω → Run ω' → Prop) (plan : Plan ω σ ι) (other : Plan ω' σ ι) : Prop where
  descriptor : plan.descriptor = other.descriptor
  chunks : plan.chunks = other.chunks
  size : plan.size = other.size
  prepare : Agrees alike plan.prepare other.prepare
  move : ∀ state chunk, Agrees alike (plan.move state chunk) (other.move state chunk)
  finish : ∀ state, Agrees alike (plan.finish state) (other.finish state)

theorem Plan.Agree.carryOut {related : ω → ω' → Prop} {alike : Run ω → Run ω' → Prop} {plan : Plan ω σ ι}
    {other : Plan ω' σ ι} (agree : plan.Agree alike other) (lockstep : Lockstep related alike) (owner : Owner) :
    Agrees alike (plan.carryOut owner) (other.carryOut owner) := by
  refine .bind agree.prepare fun state => .bind ?_ agree.finish
  rw [agree.chunks]
  refine .foldlM (fun state chunk => .bind (lockstep.checkRunning_agrees owner) fun _ => ?_) state
  rw [agree.size, agree.descriptor]
  exact .bind (agree.move state chunk) fun _ => .bind (lockstep.onCount _ _) fun _ =>
    .bind (lockstep.report_agrees _ _ _) fun _ => .pure _

namespace Bridge

open Transfer

variable {related : ω → ω' → Prop} {alike : Run ω → Run ω' → Prop} (bridge : Bridge related alike)

include bridge

theorem bySettings_agrees {next : Config → Transfer ω α} {next' : Config → Transfer ω' α}
    (goes : ∀ config, Agrees alike (next config) (next' config)) :
    Agrees alike (bySettings next) (bySettings next') := by
  refine .get_bind fun run other held => ?_
  rw [bridge.config held]
  exact goes _

section Reading

variable {source : Source ω} {source' : Source ω'} (sources : source.Agree related source')

include sources

theorem rescueSector_agrees (offset wanted : Nat) :
    Agrees alike (rescueSector source offset wanted) (rescueSector source' offset wanted) := by
  refine .bind (bridge.inWorld_agrees (sources.readAt _ _)).attempt fun outcome => ?_
  cases outcome with
  | ok bytes => exact .pure _
  | error cause => exact .bind (bridge.tally_agrees fun _ => ⟨rfl, rfl, rfl, fun _ => rfl⟩) fun _ => .pure _

theorem readRange_agrees (offset wanted : Nat) :
    Agrees alike (readRange source offset wanted) (readRange source' offset wanted) := by
  refine .bind (bridge.inWorld_agrees (sources.readAt _ _)).attempt fun outcome => ?_
  cases outcome with
  | ok bytes => exact .pure _
  | error cause =>
    refine .get_bind fun run other held => ?_
    rw [bridge.config held]
    split
    · exact .foldlM (fun got sector => .bind (bridge.rescueSector_agrees sources _ _) fun _ => .pure _) _
    · exact .throw _

/-- Images are written alike from sources that agree to targets that agree. -/
theorem imagePlan_agree {target : Sink ω} {target' : Sink ω'} (targets : target.Agree related target')
    (descriptor : Descriptor) (bitmap : Bitmap) (config : Config) :
    (imagePlan source target descriptor bitmap config).Agree alike
      (imagePlan source' target' descriptor bitmap config) where
  descriptor := rfl
  chunks := rfl
  size := rfl
  prepare := .bind (bridge.allocate_agrees _) fun _ => .bind (bridge.inWorld_agrees (targets.writeHead _ _)) fun _ =>
    .bind (bridge.inWorld_agrees (targets.writeBitmap _)) fun _ => .bind (bridge.enter_agrees _) fun _ => .pure _
  move written chunk := .bind (bridge.readRange_agrees sources _ _) fun data =>
    .bind (bridge.tally_agrees fun _ => ⟨rfl, rfl, rfl, fun _ => rfl⟩) fun _ =>
      .bind (bridge.call_agrees (targets.writeAll _) _) fun _ => .pure _
  finish written := by
    unfold imagePlan closeGroup
    dsimp only
    split
    · exact .bind (bridge.call_agrees (targets.writeAll _) _) fun _ => bridge.tally_agrees fun _ => ⟨rfl, rfl, rfl, fun _ => rfl⟩
    · exact .pure _

/-- Partitions are copied alike from sources that agree to targets that agree. -/
theorem copyPlan_agree {target : Target ω} {target' : Target ω'} (targets : target.Agree related target')
    (descriptor : Descriptor) (bitmap : Bitmap) (config : Config) :
    (copyPlan source target descriptor bitmap config).Agree alike
      (copyPlan source' target' descriptor bitmap config) where
  descriptor := rfl
  chunks := rfl
  size := rfl
  prepare := .bind (bridge.allocate_agrees _) fun _ => bridge.enter_agrees _
  move _ chunk := by
    refine .bind (bridge.readRange_agrees sources _ _) fun data => ?_
    refine .bind (bridge.inWorld_agrees (targets.writeAt _ _)).attempt fun outcome => ?_
    cases outcome with
    | ok _ => exact .pure _
    | error cause =>
      refine .get_bind fun run other held => ?_
      rw [bridge.config held]
      split
      · exact .bind (bridge.tally_agrees fun _ => ⟨rfl, rfl, rfl, fun _ => rfl⟩) fun _ => .pure _
      · exact .bind (.throw _) fun _ => .pure _
  finish _ := .pure _

end Reading

section Restoring

theorem checkTag_agrees (register : Checksum.Register) (stored : ByteArray) (block : Nat) :
    Agrees alike (checkTag register stored block) (checkTag register stored block) := by
  refine .get_bind fun run other held => ?_
  rw [bridge.config held]
  split
  · exact .pure _
  · split
    · exact .pure _
    · split
      · exact .throw _
      · exact .pure _

theorem takeBlock_agrees (head : Head) (data : ByteArray) (unpacking : Unpacking) (number : Nat) :
    Agrees alike (takeBlock head data unpacking number) (takeBlock head data unpacking number) := by
  unfold takeBlock
  dsimp only
  split
  · split
    · exact .bind (bridge.checkTag_agrees _ _ _) fun _ =>
        .bind (bridge.tally_agrees fun _ => ⟨rfl, rfl, rfl, fun _ => rfl⟩) fun _ => .pure _
    · exact .pure _
  · exact .pure _

omit bridge in
/-- What is taken for a run of marked blocks goes to a place among the blocks of the bitmap. -/
theorem placed_within {bitmap : Bitmap} {cursor amount : Nat} {run : Chunk}
    (member : run ∈ bitmap.runs cursor amount) (blockSize : Nat) (blocks : ByteArray) (position : Nat) :
    run.first * blockSize + (blocks.extract position (position + run.count * blockSize)).size ≤
      bitmap.total * blockSize := by
  obtain ⟨block, marks, last⟩ := Bitmap.exists_last_of_mem_runs member
  have stop : run.first + run.count ≤ bitmap.total := by
    have below := Bitmap.lt_total_of_get marks
    rw [Chunk.stop] at last
    omega
  have inside := Nat.mul_le_mul_right blockSize stop
  rw [Nat.add_mul] at inside
  rw [ByteArray.size_extract]
  omega

/-- Blocks are put alike where the writes of their runs agree, also when the blocks themselves differ. -/
theorem scatter_agrees {target : Target ω} {target' : Target ω'} {bitmap : Bitmap} {blockSize cursor count : Nat}
    {blocks blocks' : ByteArray}
    (writes : ∀ run ∈ bitmap.runs cursor count, ∀ position, Agrees related
      (target.writeAt (run.first * blockSize) (blocks.extract position (position + run.count * blockSize)))
      (target'.writeAt (run.first * blockSize) (blocks'.extract position (position + run.count * blockSize)))) :
    Agrees alike (scatter target bitmap blockSize cursor count blocks)
      (scatter target' bitmap blockSize cursor count blocks') := by
  refine .bind (.discard (.foldlM_of_mem (fun position run member => ?_) _)) fun _ => ?_
  · exact .bind (bridge.call_agrees (writes run member position) _) fun _ => .pure _
  · split
    · exact .bind (.throw _) fun _ => .pure _
    · exact .bind (.pure _) fun _ => .pure _

/-- Images are restored alike where whole reads agree, and whole writes among the blocks of the bitmap. -/
theorem restorePlan_agree {image : Stream ω} {image' : Stream ω'} {target : Target ω} {target' : Target ω'}
    {head : Head} {bitmap : Bitmap}
    (reads : ∀ wanted, Agrees related (image.readExactly wanted) (image'.readExactly wanted))
    (writes : ∀ offset bytes, offset + bytes.size ≤ bitmap.total * head.descriptor.blockSize.toNat →
      Agrees related (target.writeAt offset bytes) (target'.writeAt offset bytes))
    (config : Config) :
    (restorePlan image target head bitmap config).Agree alike (restorePlan image' target' head bitmap config) where
  descriptor := rfl
  chunks := rfl
  size := rfl
  prepare := .bind (bridge.allocate_agrees _) fun _ => .bind (bridge.enter_agrees _) fun _ => .pure _
  move _ _ := .bind (bridge.call_agrees (reads _) _) fun data =>
    .bind (.foldlM (fun unpacking _ => bridge.takeBlock_agrees head data unpacking _) _) fun _ =>
      .bind (bridge.scatter_agrees fun _ member _ => writes _ _ (placed_within member ..)) fun _ => .pure _
  finish _ := .pure _

end Restoring

end Bridge

end BlockImage
