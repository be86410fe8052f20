import BlockImage.Proofs.Job.RoundTrip
import Mathlib.Algebra.GroupWithZero.Nat

/-!
# The memory of a session

Before a session starts, it is asked for as much memory as its bitmap and two chunks take. What the session then works
with is no more than that only as long as no tags stand among the blocks, for whose room nobody asks, and as long as the
sum is not cut to 64 bits.
-/
namespace BlockImage.Job

open Transfer

variable {config : Config} {descriptor : Descriptor} {bitmap : Bitmap} {options : Options}

/-- The bytes of a bitmap and of the working areas beside it. -/
def heldMemory (bitmap : Bitmap) (areas : List Nat) : Nat := bitmap.bytes.size + areas.sum

/-- The bytes of a full chunk. -/
def chunkBytes (config : Config) (blockSize : Nat) : Nat := config.chunkCapacity blockSize * blockSize

/-- The memory that is asked for is enough for a bitmap and working areas. -/
def Covered (config : Config) (descriptor : Descriptor) (bitmap : Bitmap) (areas : List Nat) : Prop :=
  heldMemory bitmap areas ≤ memoryFigure config descriptor bitmap

/-- The bitmap and two chunks are counted in 64 bits. -/
def Countable (config : Config) (descriptor : Descriptor) (bitmap : Bitmap) : Prop :=
  bitmap.bytes.size + 2 * chunkBytes config descriptor.blockSize.toNat < UInt64.size

instance : Decidable (Countable config descriptor bitmap) := inferInstanceAs (Decidable (_ < _))

/-- Bytes for the tags of a full chunk and for `more` tags beside it. -/
def tagRoom (options : Options) (capacity more : Nat) : Nat :=
  (if options.tagged then capacity / options.blocksPerChecksum.toNat + more else 0) * options.checksum.tagSize

/-- Where there are tags, there has to be room for one at least. -/
theorem tagRoom_eq_zero_iff {capacity more : Nat} (some : 0 < more) :
    tagRoom options capacity more = 0 ↔ options.tagged = false := by
  cases tagged : options.tagged with
  | false => simp [tagRoom, tagged]
  | true =>
    have size := Layout.tagSize_of_tagged tagged
    have tags : 0 < capacity / options.blocksPerChecksum.toNat + more := Nat.add_pos_right _ some
    simp only [tagRoom, tagged, size, if_true, Bool.true_eq_false, iff_false]
    exact Nat.ne_of_gt (Nat.mul_pos tags (by decide))

/-- A chunk is no larger than the buffer or a single block. -/
theorem chunkBytes_lt (small : config.bufferSize < UInt64.size) (blockSize : UInt32) :
    chunkBytes config blockSize.toNat < UInt64.size := by
  have narrow : blockSize.toNat < UInt64.size := Nat.lt_trans blockSize.toNat_lt (by decide)
  rw [chunkBytes, Config.chunkCapacity]
  rcases Nat.le_total (config.bufferSize / max blockSize.toNat 1) 1 with few | many
  · rw [Nat.max_eq_right few, Nat.one_mul]
    exact narrow
  · rw [Nat.max_eq_left many]
    refine Nat.lt_of_le_of_lt ?_ small
    exact Nat.le_trans (Nat.mul_le_mul_left _ (Nat.le_max_left _ 1)) (Nat.div_mul_le_self _ _)

theorem memoryFigure_eq (config : Config) (descriptor : Descriptor) (bitmap : Bitmap) :
    memoryFigure config descriptor bitmap =
      (bitmap.bytes.size + 2 * chunkBytes config descriptor.blockSize.toNat) % UInt64.size := by
  rw [memoryFigure, sessionMemory, Nat.two_mul, ← Nat.add_assoc]
  rfl

/-- A sum that is cut to 64 bits does not even cover the bitmap and one chunk. -/
theorem covered_one_iff {areas : List Nat} (small : config.bufferSize < UInt64.size)
    (one : areas.sum = chunkBytes config descriptor.blockSize.toNat) :
    Covered config descriptor bitmap areas ↔ Countable config descriptor bitmap := by
  have chunk := chunkBytes_lt small descriptor.blockSize
  simp only [Covered, Countable, heldMemory, memoryFigure_eq, one, UInt64.size] at chunk ⊢
  omega

/-- The bitmap and two chunks are covered as far as they are counted, and nothing beside them. -/
theorem covered_two_iff {areas : List Nat} {room : Nat}
    (two : areas.sum = 2 * chunkBytes config descriptor.blockSize.toNat + room) :
    Covered config descriptor bitmap areas ↔ Countable config descriptor bitmap ∧ room = 0 := by
  simp only [Covered, Countable, heldMemory, memoryFigure_eq, two, UInt64.size]
  omega

theorem covered_copying_iff (small : config.bufferSize < UInt64.size) :
    Covered config descriptor bitmap (copyingBuffers config descriptor.blockSize.toNat) ↔
      Countable config descriptor bitmap :=
  covered_one_iff small (by simp [copyingBuffers, chunkBytes])

theorem covered_verifying_iff : Covered config descriptor bitmap
    (verifyingBuffers config descriptor.blockSize.toNat) ↔ Countable config descriptor bitmap := by
  have two : (verifyingBuffers config descriptor.blockSize.toNat).sum =
      2 * chunkBytes config descriptor.blockSize.toNat + 0 := by
    simp [verifyingBuffers, chunkBytes, Nat.two_mul]
  rw [covered_two_iff two]
  exact and_iff_left rfl

theorem covered_imaging_iff : Covered config descriptor bitmap
    (imagingBuffers config descriptor.blockSize.toNat) ↔
      Countable config descriptor bitmap ∧ (imageOptions config).tagged = false := by
  have two : (imagingBuffers config descriptor.blockSize.toNat).sum =
      2 * chunkBytes config descriptor.blockSize.toNat +
        tagRoom (imageOptions config) (config.chunkCapacity descriptor.blockSize.toNat) 1 := by
    simp [imagingBuffers, chunkBytes, tagRoom, Nat.two_mul, Nat.add_assoc]
  rw [covered_two_iff two, tagRoom_eq_zero_iff Nat.one_pos]

theorem covered_restoring_iff : Covered config descriptor bitmap
    (restoringBuffers config descriptor.blockSize.toNat options) ↔
      Countable config descriptor bitmap ∧ options.tagged = false := by
  have two : (restoringBuffers config descriptor.blockSize.toNat options).sum =
      2 * chunkBytes config descriptor.blockSize.toNat +
        tagRoom options (config.chunkCapacity descriptor.blockSize.toNat) 2 := by
    simp only [restoringBuffers, chunkBytes, tagRoom, List.sum_cons, List.sum_nil]
    omega
  rw [covered_two_iff two, tagRoom_eq_zero_iff Nat.two_pos]

/-- The memory that is asked for covers what a session works with just where its sum is not cut to 64 bits and, but for
copies and their comparison, there are no tags. -/
theorem memoryFigure_covers_iff (config : Config) (descriptor : Descriptor) (bitmap : Bitmap) (options : Options)
    (small : config.bufferSize < UInt64.size) :
    (Covered config descriptor bitmap (imagingBuffers config descriptor.blockSize.toNat) ↔
      Countable config descriptor bitmap ∧ (imageOptions config).tagged = false) ∧
    (Covered config descriptor bitmap (copyingBuffers config descriptor.blockSize.toNat) ↔
      Countable config descriptor bitmap) ∧
    (Covered config descriptor bitmap (verifyingBuffers config descriptor.blockSize.toNat) ↔
      Countable config descriptor bitmap) ∧
    (Covered config descriptor bitmap (restoringBuffers config descriptor.blockSize.toNat options) ↔
      Countable config descriptor bitmap ∧ options.tagged = false) :=
  ⟨covered_imaging_iff, covered_copying_iff small, covered_verifying_iff, covered_restoring_iff⟩

/-- A copy is covered, and so is an image without tags; a restored image with tags is not. -/
theorem memoryFigure_covers_iff_sample :
    Covered {} .sample .sample (copyingBuffers {} Descriptor.sample.blockSize.toNat) ∧
    Covered { blocksPerChecksum := 0 } .sample .sample
      (imagingBuffers { blocksPerChecksum := 0 } Descriptor.sample.blockSize.toNat) ∧
    ¬ Covered {} .sample .sample (restoringBuffers {} Descriptor.sample.blockSize.toNat (imageOptions {})) := by
  obtain ⟨_, copying, _, restoring⟩ := memoryFigure_covers_iff {} .sample .sample (imageOptions {}) (by decide)
  obtain ⟨imaging, _⟩ :=
    memoryFigure_covers_iff { blocksPerChecksum := 0 } .sample .sample (imageOptions {}) (by decide)
  refine ⟨copying.mpr (by decide), imaging.mpr ⟨by decide, rfl⟩, fun covered => ?_⟩
  cases (restoring.mp covered).2

/-- A machine that has just as much memory as the sample is said to need. -/
def scantCircumstances : Circumstances where
  machine := { availableMemory := some 2097153 }

/-- With the usual settings three blocks are imaged by a machine that has less memory than the session works with. -/
theorem memoryFigure_falls_short :
    Config.validate {} .toImage = .ok () ∧
    (∃ summary cloned events,
      cloneToImage scantCircumstances (.listed "listed" .sample .sample) samplePaths {} sampleFolder =
        { result := .ok summary, folder := cloned, events }) ∧
    memoryFigure {} .sample .sample = 2097153 ∧
    heldMemory .sample (imagingBuffers {} Descriptor.sample.blockSize.toNat) = 2162693 := by
  have found : sampleFolder.find samplePaths.source = .ok (["a"], .file ⟨#[7, 8, 9]⟩) :=
    Folder.find_of_resolveFile (sample_leads "a" (by decide)) rfl
  have offers : sampleFolder.Offers samplePaths.target samplePaths.overwrite ["b"] :=
    ⟨sample_leads "b" (by decide), .inr ⟨rfl, _, rfl⟩⟩
  have can : CanImage scantCircumstances {} .sample .sample :=
    { quiet := Owner.quiet_default, running := rfl, accepted := rfl, memory := rfl, space := rfl, granted := by decide }
  obtain ⟨probed, answered⟩ : ∃ probed, probe (.listed "listed" .sample .sample)
      (probing scantCircumstances {} sampleFolder ["a"]) = .ok (.sample, .sample) probed := ⟨_, rfl⟩
  obtain ⟨summary, cloned, events, ended, _⟩ := cloneToImage_writes_image found offers (by decide)
    (Probe.listed_onlyReads _ _ _) answered sample_inside can
  exact ⟨rfl, ⟨summary, cloned, events, ended⟩, rfl, rfl⟩

end BlockImage.Job
