import BlockImage.Proofs.Transfer.Checking
import BlockImage.Proofs.Transfer.Detection

/-!
# A check predicts restoring

A check opens an image and restores it to a target that discards everything. Of a target only failures could make a
difference, so a check comes to the same as restoring to any target that serves as far as the device of the image
reaches. What discards everything is such a target too, since no block of an image that opens ends behind the largest
word.
-/
namespace BlockImage

variable {σ τ : Type}

namespace Transfer

/-- A check of an image comes to the same as restoring the image to any target that serves as far as the device of the
image reaches: to the same summary or the same failure, by the same events, and to the same place in the image. -/
theorem checking_predicts_restoring (image : Stream σ) (target : Target τ) {kept : τ → Prop} (owner : Owner)
    (session : Session) (running : Bool) (grants : Nat → Bool) (source : σ) (disk : τ)
    (serves : ∀ head bitmap opened,
      readImage image { session, running, grants, world := source } = .ok (head, bitmap) opened →
        target.Serves kept head.descriptor.deviceSize.toNat)
    (held : kept disk) :
    Agree (Run.Alike fun (checked : σ × Discard) (restored : σ × τ) =>
        checked.1 = restored.1 ∧ checked.2.position < UInt64.size ∧ checked.2.length < UInt64.size)
      (readAndRestore owner image.ofFirst Discard.target.ofSecond { session, running, grants, world := (source, {}) })
      (readAndRestore owner image.ofFirst target.ofSecond { session, running, grants, world := (source, disk) }) := by
  let start : Run (σ × Discard) := { session, running, grants, world := (source, {}) }
  have reads : image.Agree Eq image := fun _ => .refl _
  have opens : Agrees (Run.Alike (Beside Eq fun discard disk => discard = ({} : Discard) ∧ kept disk))
      (readImage image.ofFirst) (readImage image.ofFirst) := readImage_agrees reads.ofFirst
  have begins : Run.Alike (Beside Eq fun discard disk => discard = ({} : Discard) ∧ kept disk) start
      { session, running, grants, world := (source, disk) } := ⟨rfl, rfl, rfl, rfl, rfl, rfl, rfl, held⟩
  have agree := opens begins
  refine agree.bind ?_ ?_
  · -- Nothing is discarded before the image is open.
    intro checked restored alike
    refine { alike with world := ⟨alike.world.1, ?_⟩ }
    rw [alike.world.2.1]
    decide
  · rintro ⟨head, bitmap⟩ checked restored answered alike
    have apart : Run.Alike (fun source world => source = world.1) { session, running, grants, world := source } start :=
      ⟨rfl, rfl, rfl, rfl, rfl, rfl⟩
    obtain ⟨alone, opened, _⟩ := (readImage_ofFirst_agrees image apart).exists_ok answered
    have room := (probed_of_readImage answered).deviceSize
    have word := head.descriptor.deviceSize.toNat_lt
    -- All blocks of an image that opens end at the end of its device at the latest, and that is a word.
    have disks := serves head bitmap alone opened
    rw [← room] at disks
    have discards := Discard.serves (Nat.le_refl (bitmap.total * head.descriptor.blockSize.toNat))
    have restores := restoreBlocks_agrees_of_serves discards disks image owner
    obtain ⟨same, clear, fine⟩ := alike.world
    have unused : checked.world.2.Within (bitmap.total * head.descriptor.blockSize.toNat) := by
      rw [clear]
      exact ⟨Nat.zero_le _, Nat.zero_le _⟩
    refine (restores { alike with world := ⟨same, unused, fine⟩ }).mono fun checked restored alike => ?_
    obtain ⟨same, within, _⟩ := alike.world
    rw [room] at within
    exact { alike with world := ⟨same, Nat.lt_of_le_of_lt within.position word, Nat.lt_of_le_of_lt within.length word⟩ }

/-- The sample is checked as it is restored to a device of four bytes, and passes. -/
theorem checking_predicts_restoring_sample : ∃ summary checked,
    readAndRestore {} Device.source.ofFirst.toStream Discard.target.ofSecond {
        session := (sampleRestoring ByteArray.empty).session
        world := ((sampleRestoring sampleImage).world.1, {}) } = .ok summary checked ∧
      checked.world.2.length < UInt64.size := by
  obtain ⟨opened, summary, restored, answered, finished⟩ := sampleImage_restores
  have whole : readAndRestore {} Device.source.ofFirst.toStream Device.target.ofSecond (sampleRestoring sampleImage) =
      .ok summary restored := by
    rw [readAndRestore, bind_of_ok answered]
    exact finished
  have agree := checking_predicts_restoring Device.source.toStream Device.target {}
    (sampleRestoring sampleImage).session true addressable (sampleRestoring sampleImage).world.1
    (sampleRestoring sampleImage).world.2 (fun head _ _ _ => Device.serves head.descriptor.deviceSize.toNat)
    (Faults.short_steady (by decide))
  obtain ⟨checked, came, alike⟩ := agree.exists_ok whole
  exact ⟨summary, checked, came, alike.world.2.2⟩

end Transfer

end BlockImage
