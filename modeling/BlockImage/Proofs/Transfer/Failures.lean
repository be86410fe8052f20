import BlockImage.Proofs.Image.Probed
import BlockImage.Proofs.Session
import BlockImage.Transfer.Copying
import BlockImage.Transfer.Imaging
import BlockImage.Transfer.Restoring

/-!
# How transfers fail

Settings, what is stored in an image and the target are judged before a transfer begins. From then on it only fails
because of its ends, its memory, its owner or the data: whatever the ends of a transfer do, it does not fail in one of the
early ways. For a restore this needs a head that counts the marked blocks, since otherwise blocks could be left over.
-/
namespace BlockImage

/-- The kinds of failures by which a job is refused before its target is touched. -/
def Error.earlyCategories : List String :=
  ["config", "format", "corrupt", "out-of-range", "target-exists", "insufficient-space"]

def Error.Early (failure : Error) : Prop := failure.category ∈ earlyCategories

theorem Error.not_early {failure : Error} (word : String) (is : failure.category = word)
    (late : word ∉ earlyCategories) : ¬ failure.Early := by
  rw [Early, is]
  exact late

namespace Transfer

variable {ε σ ω α β : Type}

/-- Wherever a computation begins, it does not fail early. -/
def FailsLate (body : EStateM Error σ α) : Prop :=
  ∀ state, Leads (body state) (fun _ _ => True) fun failure _ => ¬ failure.Early

/-! ### Steps of computations -/

namespace FailsLate

theorem pure (value : α) : FailsLate (Pure.pure value : EStateM Error σ α) := fun _ => trivial

theorem throw {failure : Error} (late : ¬ failure.Early) :
    FailsLate (MonadExcept.throw failure : EStateM Error σ α) := fun _ => late

theorem bind {body : EStateM Error σ α} {next : α → EStateM Error σ β} (first : FailsLate body)
    (goes : ∀ value, FailsLate (next value)) : FailsLate (body >>= next) := by
  intro state
  rw [leads_bind]
  exact (first state).weaken fun value after _ => goes value after

theorem get : FailsLate (MonadState.get : EStateM Error σ σ) := fun _ => trivial

theorem modify (change : σ → σ) : FailsLate (modify change : EStateM Error σ PUnit) := fun _ => trivial

theorem attempt (tried : EStateM ε σ α) : FailsLate (Transfer.attempt tried) :=
  fun _ => leads_attempt.mpr (.of_all (fun _ _ => trivial) fun _ _ => trivial)

theorem adaptExcept (called : EStateM ε σ α) {adapt : ε → Error} (late : ∀ failure, ¬ (adapt failure).Early) :
    FailsLate (called.adaptExcept adapt) :=
  fun _ => leads_adaptExcept.mpr (.of_all (fun _ _ => trivial) fun failure _ => late failure)

theorem inWorld {asked : EStateM Error ω α} (late : FailsLate asked) : FailsLate (Transfer.inWorld asked) :=
  fun run => leads_inWorld.mpr ((late run.world).mono (fun _ _ _ => trivial) fun _ _ late => late)

theorem call (called : Call ω α) {failure : IoError → Error} (late : ∀ cause, ¬ (failure cause).Early) :
    FailsLate (Transfer.call called failure) :=
  fun _ => leads_call.mpr (.of_all (fun _ _ => trivial) fun cause _ => late cause)

theorem settling {body : Transfer ω α} (late : FailsLate body) : FailsLate (Transfer.settling body) :=
  fun run => leads_settling.mpr (late run)

theorem foldlM {step : β → α → EStateM Error σ β} {items : List α} (late : ∀ value item, FailsLate (step value item))
    (value : β) : FailsLate (items.foldlM step value) :=
  fun _ => leads_foldlM (fun _ _ _ => True) (fun item _ value state _ _ => late value item state) trivial

theorem forM {step : α → EStateM Error σ PUnit} {items : List α} (late : ∀ item, FailsLate (step item)) :
    FailsLate (items.forM step) :=
  fun _ => leads_forM (fun _ _ => True) (fun item _ state _ _ => late item state) trivial

end FailsLate

/-! ### Steps of transfers -/

theorem not_early_read (offset : Nat) (cause : IoError) : ¬ (Error.read offset cause).Early :=
  Error.not_early "read" rfl (by decide)

theorem not_early_write (offset : Nat) (cause : IoError) : ¬ (Error.write offset cause).Early :=
  Error.not_early "write" rfl (by decide)

theorem checkRunning_failsLate (owner : Owner) : FailsLate (checkRunning owner : Transfer ω Unit) := by
  intro run
  have spares : owner.Spares (fun _ => True) run.running := .inl trivial
  exact leads_checkRunning spares (fun _ _ => trivial) fun _ _ => Error.not_early "cancelled" rfl (by decide)

theorem allocate_failsLate (sizes : List Nat) : FailsLate (allocate sizes : Transfer ω Unit) :=
  fun _ => leads_allocate (fun _ => trivial) fun _ _ _ => Error.not_early "insufficient-memory" rfl (by decide)

theorem report_failsLate (owner : Owner) (totalUnits position : Nat) :
    FailsLate (report owner totalUnits position : Transfer ω Unit) := fun _ => trivial

theorem rescue_failsLate (source : Source ω) (offset wanted : Nat) : FailsLate (rescue source offset wanted) := by
  apply FailsLate.foldlM
  rintro got ⟨start, width⟩
  apply FailsLate.bind
  · apply FailsLate.bind (.attempt _)
    intro result
    -- A sector that cannot be read is only counted.
    cases result with
    | ok bytes => exact .pure bytes
    | error cause => exact .bind (.modify _) fun _ => .pure _
  · exact fun bytes => .pure _

theorem readRange_failsLate (source : Source ω) (offset wanted : Nat) :
    FailsLate (readRange source offset wanted) := by
  apply FailsLate.bind (.attempt _)
  intro result
  cases result with
  | ok bytes => exact .pure bytes
  | error cause =>
    apply FailsLate.bind .get
    intro run
    split
    · exact rescue_failsLate source offset wanted
    · exact .throw (not_early_read offset cause)

theorem conclude_failsLate (target : Sink ω) {body : Transfer ω Unit} (late : FailsLate body) :
    FailsLate (conclude target body) := by
  intro run
  rw [conclude, leads_settling, leads_bind, leads_attempt]
  refine (late run).mono ?_ ?_
  · intro _ after _
    exact FailsLate.bind (.modify _) (fun _ => .bind (.call _ (not_early_write 0)) fun _ =>
      .bind (.modify _) fun _ => .bind .get fun _ => .pure _) after
  · intro failure after late
    exact FailsLate.bind (.attempt _) (fun _ => .throw late) after

/-! ### Writing images, copying and comparing -/

section

variable (owner : Owner) (source : Source ω) (descriptor : Descriptor)

theorem imageChunk_failsLate (target : Sink ω) (options : Options) (written : Written) (chunk : Chunk) :
    FailsLate (imageChunk owner source target descriptor options written chunk) := by
  apply FailsLate.bind (checkRunning_failsLate owner)
  intro _
  apply FailsLate.bind (readRange_failsLate source _ _)
  intro data
  apply FailsLate.bind (.modify _)
  intro _
  apply FailsLate.bind (.call _ (not_early_write _))
  intro _
  exact .bind (.modify _) fun _ => .bind (report_failsLate _ _ _) fun _ => .pure _

theorem closeGroup_failsLate (target : Sink ω) (options : Options) (written : Written) :
    FailsLate (closeGroup target options written) := by
  rw [closeGroup]
  split
  · exact .bind (.call _ (not_early_write _)) fun _ => .modify _
  · exact .pure _

theorem writeImage_failsLate (target : Sink ω) (bitmap : Bitmap) :
    FailsLate (writeImage owner source target descriptor bitmap) := by
  apply conclude_failsLate
  apply FailsLate.bind .get
  intro run
  apply FailsLate.bind (allocate_failsLate _)
  intro _
  apply FailsLate.bind (.inWorld (.adaptExcept _ (not_early_write _)))
  intro _
  apply FailsLate.bind (.inWorld (.bind (.adaptExcept _ (not_early_write _)) fun _ =>
    .adaptExcept _ (not_early_write _)))
  intro _
  apply FailsLate.bind (.modify _)
  intro _
  exact .bind (.foldlM (imageChunk_failsLate owner source descriptor target _) _) fun written =>
    closeGroup_failsLate target _ written

theorem copyChunk_failsLate (target : Target ω) (chunk : Chunk) :
    FailsLate (copyChunk owner source target descriptor chunk) := by
  have counts : FailsLate (countBlocks chunk.count descriptor.blockSize.toNat >>= fun _ =>
      report owner descriptor.verifiedBlocks.toNat chunk.stop : Transfer ω Unit) :=
    .bind (.modify _) fun _ => report_failsLate _ _ _
  apply FailsLate.bind (checkRunning_failsLate owner)
  intro _
  apply FailsLate.bind (readRange_failsLate source _ _)
  intro data
  apply FailsLate.bind (.attempt _)
  intro result
  cases result with
  | ok _ => exact counts
  | error cause =>
    apply FailsLate.bind .get
    intro run
    split
    · exact .bind (.modify _) fun _ => counts
    · exact .throw (not_early_write _ cause)

theorem copyPartition_failsLate (target : Target ω) (bitmap : Bitmap) :
    FailsLate (copyPartition owner source target descriptor bitmap) := by
  apply conclude_failsLate
  apply FailsLate.bind .get
  intro run
  apply FailsLate.bind (allocate_failsLate _)
  intro _
  exact .bind (.modify _) fun _ => .forM (copyChunk_failsLate owner source descriptor target)

theorem verifyChunk_failsLate (copy : Source ω) (blockSize : Nat) (chunk : Chunk) :
    FailsLate (verifyChunk owner source copy blockSize chunk) := by
  apply FailsLate.bind (checkRunning_failsLate owner)
  intro _
  apply FailsLate.bind (readRange_failsLate source _ _)
  intro expected
  apply FailsLate.bind (.call _ (not_early_read _))
  intro found
  split
  · exact .throw (Error.not_early "verify" rfl (by decide))
  · exact .pure _

theorem verifyPartition_failsLate (copy : Source ω) (bitmap : Bitmap) :
    FailsLate (verifyPartition owner source copy descriptor bitmap) := by
  apply FailsLate.settling
  apply FailsLate.bind (.modify _)
  intro _
  apply FailsLate.bind .get
  intro run
  apply FailsLate.bind (allocate_failsLate _)
  intro _
  exact .bind (.forM (verifyChunk_failsLate owner source copy _)) fun _ => .modify _

end

/-! ### Restoring -/

theorem checkTag_failsLate (register : Checksum.Register) (stored : ByteArray) (block : Nat) :
    FailsLate (checkTag register stored block : Transfer ω Unit) := by
  apply FailsLate.bind .get
  intro run
  split
  · exact .pure _
  · split
    · exact .pure _
    · split
      · exact .throw (Error.not_early "checksum-mismatch" rfl (by decide))
      · exact .pure _

theorem unpack_failsLate (head : Head) (group : Group) (data : ByteArray) (number count : Nat) :
    FailsLate (unpack head group data number count : Transfer ω Unpacking) := by
  apply FailsLate.foldlM
  intro unpacking index
  rw [takeBlock]
  dsimp only
  split
  · split
    · exact .bind (checkTag_failsLate _ _ _) fun _ => .bind (.modify _) fun _ => .pure _
    · exact .pure _
  · exact .pure _

section

variable {owner : Owner} {image : Stream ω} {target : Target ω} {head : Head} {bitmap : Bitmap}

/-- Where so many blocks are still marked, each of the blocks finds its place. -/
theorem scatter_leads_of_enough (target : Target ω) (blockSize : Nat) {cursor count : Nat} (blocks : ByteArray)
    (enough : count ≤ (bitmap.markedFrom cursor).length) (run : Run ω) :
    Leads (scatter target bitmap blockSize cursor count blocks run)
      (fun behind _ => bitmap.markedFrom behind = (bitmap.markedFrom cursor).drop count)
      fun failure _ => ¬ failure.Early := by
  have places : FailsLate ((bitmap.runs cursor count).foldlM (placeRun target blockSize blocks) 0) :=
    .foldlM (fun position chunk => .bind (.call _ (not_early_write _)) fun _ => .pure _) 0
  have all : ¬ Chunk.total (bitmap.runs cursor count) < count := by
    rw [bitmap.total_runs, Nat.min_eq_left enough]
    exact Nat.lt_irrefl count
  rw [scatter, leads_bind, leads_discard]
  refine (places run).weaken fun _ after _ => ?_
  rw [if_neg all]
  exact bitmap.markedFrom_runs cursor count

theorem restoreChunk_leads_of_enough (restored : Restored) {count : Nat}
    (enough : count ≤ (bitmap.markedFrom restored.cursor).length) (run : Run ω) :
    Leads (restoreChunk owner image target head bitmap restored count run)
      (fun after _ => bitmap.markedFrom after.cursor = (bitmap.markedFrom restored.cursor).drop count)
      fun failure _ => ¬ failure.Early := by
  rw [restoreChunk, leads_bind]
  refine (checkRunning_failsLate owner run).weaken fun _ looked _ => ?_
  rw [leads_bind]
  refine (FailsLate.call _ (not_early_read restored.offset) looked).weaken fun data read _ => ?_
  rw [leads_bind]
  refine (unpack_failsLate head restored.group data restored.done count read).weaken fun unpacking unpacked _ => ?_
  rw [leads_bind]
  exact (scatter_leads_of_enough target _ _ enough unpacked).weaken fun cursor _ behind => behind

/-- As long as no more blocks are left than are marked, none is left over. -/
theorem restoreFrom_leads_of_enough (capacity left : Nat) (restored : Restored)
    (enough : left ≤ (bitmap.markedFrom restored.cursor).length) (run : Run ω) :
    Leads (restoreFrom owner image target head bitmap capacity left restored run) (fun _ _ => True)
      fun failure _ => ¬ failure.Early := by
  induction left using Nat.strongRecOn generalizing restored run with
  | ind left ih =>
    rw [restoreFrom]
    split
    next none => trivial
    next some =>
      rw [leads_bind]
      refine (restoreChunk_leads_of_enough restored (by omega) run).weaken fun restored after behind => ?_
      apply ih _ (by omega)
      rw [behind, List.length_drop]
      omega

theorem restoreBlocks_failsLate (owner : Owner) (image : Stream ω) (target : Target ω)
    (measured : Measured head.descriptor bitmap) : FailsLate (restoreBlocks owner image target head bitmap) := by
  apply conclude_failsLate
  apply FailsLate.bind .get
  intro run
  apply FailsLate.bind (allocate_failsLate _)
  intro _
  apply FailsLate.bind (.modify _)
  intro _ started
  exact restoreFrom_leads_of_enough _ _ _ (Nat.le_of_eq measured.verifiedBlocks) started

end

end Transfer

end BlockImage
