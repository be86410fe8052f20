import BlockImage.Proofs.Job.Cloning
import BlockImage.Proofs.Job.Restoring

/-!
# From a file to an image file and back

A file is imaged, the image file is told of and checked, and then it is restored to another file. Where nothing stands
in the way each of these jobs succeeds, and it changes the file it writes and no other one.
-/
namespace BlockImage

/-- Bytes that are brought over zeros behind the end are brought over nothing. -/
theorem Bitmap.Brings.of_padded {bitmap : Bitmap} {width size : Nat} {source before after : ByteArray}
    (brings : bitmap.Brings width source (Bytes.padded before size) after) :
    bitmap.Brings width source before after where
  allocated := brings.allocated
  elsewhere index outside := by rw [brings.elsewhere index outside, Bytes.byteAt_padded]
  grown := by
    refine Nat.le_trans ?_ brings.grown
    rw [Bytes.size_padded]
    exact Nat.le_max_left _ _

namespace Job

open Transfer

variable {circumstances : Circumstances} {config : Config} {prober : Probe OpenFiles} {paths : Paths} {folder : Folder}
  {source image : Place} {bytes : ByteArray} {descriptor : Descriptor} {bitmap : Bitmap}

/-- All blocks of a device lie in a file that was lengthened to its size, so restoring does not lengthen it further. -/
theorem size_restored (probed : Probed descriptor bitmap)
    (inside : ∀ block, bitmap.get block = true → (block + 1) * descriptor.blockSize.toNat ≤ bytes.size)
    (before : ByteArray) :
    (Bytes.place descriptor.blockSize.toNat (Bytes.padded before descriptor.deviceSize.toNat) bitmap.marked
      (bitmap.contents descriptor.blockSize.toNat bytes)).size = max before.size descriptor.deviceSize.toNat := by
  have sizes := Bitmap.size_of_mem_contents inside
  rw [Bytes.size_place_of_inside _ (fun block member => Nat.le_of_eq (sizes block member)), Bytes.size_padded]
  intro number member
  have below := Bitmap.lt_total_of_get (bitmap.mem_marked.mp member)
  rw [Bytes.size_padded, ← probed.deviceSize]
  exact Nat.le_trans (Nat.mul_le_mul_right _ below) (Nat.le_max_right _ _)

/-- The image file holds the image, as long as it is told to be, and passes its check. Restoring it brings the allocated
blocks to a file that is there or not, and that is at least as long as the device then. -/
theorem clone_check_restore (found : folder.find paths.source = .ok (source, .file bytes))
    (offers : folder.Offers paths.target paths.overwrite image) (apart : source ≠ image)
    (asked : (∃ (raw : RawBlocks) (memory : Nat → Bool), prober = raw.probe OpenFiles.source memory) ∨
      prober.OnlyReads ∧ ∀ block, bitmap.get block = true → (block + 1) * descriptor.blockSize.toNat ≤ bytes.size)
    {probed : Run OpenFiles}
    (answered : probe prober (probing circumstances config folder source) = .ok (descriptor, bitmap) probed)
    (can : CanImage circumstances config descriptor bitmap) :
    ∃ summary cloned events,
      cloneToImage circumstances prober paths config folder = { result := .ok summary, folder := cloned, events } ∧
      folder.Rewrites image (imageOf config descriptor bitmap bytes) cloned ∧
      (∀ grants : Nat → Bool, grants (bitmapSize bitmap.total) → ∀ tolerate, ∃ info,
        imageInfo paths.target tolerate cloned grants = .ok info ∧ info.expectedSize = (cloned.bytesAt image).size) ∧
      (∀ checker settings, CanRead checker settings (.written config descriptor) bitmap → ∃ summary events,
        checkImage checker paths.target settings cloned = { result := .ok summary, folder := cloned, events }) ∧
      ∀ restorer settings output overwrite place, folder.Offers output overwrite place → image ≠ place →
        CanRestore restorer settings (.written config descriptor) bitmap →
        ∃ summary restored events,
          restore restorer { source := paths.target, target := output, overwrite } settings cloned =
            { result := .ok summary, folder := restored, events } ∧
          cloned.Rewrites place (restored.bytesAt place) restored ∧
          (restored.bytesAt place).size = max (folder.bytesAt place).size descriptor.deviceSize.toNat ∧
          bitmap.Brings descriptor.blockSize.toNat bytes (folder.bytesAt place) (restored.bytesAt place) := by
  obtain ⟨reads, inside⟩ : prober.OnlyReads ∧
      ∀ block, bitmap.get block = true → (block + 1) * descriptor.blockSize.toNat ≤ bytes.size := by
    rcases asked with ⟨raw, memory, rfl⟩ | both
    · exact ⟨raw.probe_onlyReads memory, inside_of_raw (Folder.get?_of_find found) answered⟩
    · exact both
  have fits : Probed descriptor bitmap := probed_of_probe answered
  obtain ⟨summary, cloned, events, ended, rewrites⟩ :=
    cloneToImage_writes_image found offers apart reads answered inside can
  have imaged : cloned.find paths.target = .ok (image, .file (imageOf config descriptor bitmap bytes)) :=
    Folder.find_of_resolveFile (Folder.resolveFile_of_folders (rewrites.folders offers.vacant) offers.leads)
      rewrites.holds
  refine ⟨summary, cloned, events, ended, rewrites, fun grants room tolerate => ?_, fun checker settings can => ?_, ?_⟩
  · obtain ⟨info, told, _, _, size⟩ := imageInfo_of_imageOf imaged fits room inside tolerate
    rw [rewrites.bytesAt]
    exact ⟨info, told, size⟩
  · exact checkImage_of_imageOf imaged fits inside can
  · intro restorer settings output overwrite place target apart can
    let back : Paths := { source := paths.target, target := output, overwrite }
    have still : cloned.Offers back.target back.overwrite place :=
      target.of_rewrites rewrites offers.vacant apart.symm
    have before : cloned.bytesAt place = folder.bytesAt place := by
      rw [Folder.bytesAt, rewrites.others place apart.symm, Folder.bytesAt]
    obtain ⟨summary, restored, events, ended, rewrites'⟩ := restore_of_imageOf imaged still apart fits inside can
    refine ⟨summary, restored, events, ended, ?_⟩
    rw [rewrites'.bytesAt]
    refine ⟨rewrites', ?_, ?_⟩
    · rw [before]
      exact size_restored fits inside _
    · rw [before]
      exact (bitmap.brings_place _ inside).of_padded

/-- Three files: one to image, a longer one to be replaced by the image, and one to restore to. -/
def sampleFolder : Folder where
  entries := [(["a"], .file ⟨#[7, 8, 9]⟩), (["b"], .file (Bytes.zeros 200)), (["c"], .file ⟨#[1, 2, 3, 4]⟩)]

def samplePaths : Paths where
  source := "a"
  target := "b"
  overwrite := true

/-- A machine that has just about enough for the sample. -/
def sampleCircumstances : Circumstances where
  machine := { availableMemory := some (3 <<< 20), availableSpace := some 150 }

theorem sample_leads : ∀ name ∈ ["a", "b", "c"], sampleFolder.resolveFile name = .ok [name] := by
  have alone : ∀ name ∈ ["a", "b", "c"], name.splitOn "/" = [name] := by
    simp only [List.forall_mem_cons]
    refine ⟨?_, ?_, ?_, List.forall_mem_nil _⟩
    all_goals
      rw [String.splitOn, if_neg (by decide), String.splitOnAux, if_neg (by decide +kernel), if_neg (by decide +kernel),
        String.splitOnAux, if_pos (by decide +kernel)]
      decide +kernel
  have plain : ∀ name ∈ ["a", "b", "c"], name.contains '\x00' = false := by simp
  have others : ∀ name ∈ ["a", "b", "c"],
      name.utf8ByteSize ≤ Folder.nameLimit ∧ Place.isName name = true ∧ name ≠ "" := by decide
  intro name member
  obtain ⟨short, named, some⟩ := others name member
  exact Folder.resolveFile_of_name (alone name member) (plain name member) short named some

theorem sample_canImage : CanImage sampleCircumstances {} .sample .sample where
  quiet := Owner.quiet_default
  running := rfl
  accepted := rfl
  memory := rfl
  space := rfl
  granted := by decide

theorem sample_canRestore : CanRestore sampleCircumstances {} (.written {} .sample) .sample where
  quiet := Owner.quiet_default
  running := rfl
  accepted := rfl
  room := by decide
  granted := by decide
  memory := rfl
  space := rfl
  fits := by decide

theorem sample_inside : ∀ block, Bitmap.sample.get block = true →
    (block + 1) * Descriptor.sample.blockSize.toNat ≤ 3 := by
  intro block marks
  have below : block < 3 := Bitmap.lt_total_of_get marks
  change (block + 1) * 1 ≤ 3
  omega

theorem clone_check_restore_sample : ∃ summary cloned events,
    cloneToImage sampleCircumstances (.listed "listed" .sample .sample) samplePaths {} sampleFolder =
      { result := .ok summary, folder := cloned, events } ∧
    sampleFolder.Rewrites ["b"] (imageOf {} .sample .sample ⟨#[7, 8, 9]⟩) cloned ∧
    (∃ info, imageInfo "b" false cloned = .ok info ∧ info.expectedSize = (cloned.bytesAt ["b"]).size) ∧
    (∃ summary events, checkImage sampleCircumstances "b" {} cloned =
      { result := .ok summary, folder := cloned, events }) ∧
    ∃ summary restored events,
      restore sampleCircumstances { source := "b", target := "c", overwrite := true } {} cloned =
        { result := .ok summary, folder := restored, events } ∧
      (restored.bytesAt ["c"]).size = 4 ∧
      Bitmap.sample.Brings 1 ⟨#[7, 8, 9]⟩ ⟨#[1, 2, 3, 4]⟩ (restored.bytesAt ["c"]) := by
  have found : sampleFolder.find samplePaths.source = .ok (["a"], .file ⟨#[7, 8, 9]⟩) :=
    Folder.find_of_resolveFile (sample_leads "a" (by decide)) rfl
  have offers : sampleFolder.Offers samplePaths.target samplePaths.overwrite ["b"] :=
    ⟨sample_leads "b" (by decide), .inr ⟨rfl, _, rfl⟩⟩
  have target : sampleFolder.Offers "c" true ["c"] := ⟨sample_leads "c" (by decide), .inr ⟨rfl, _, rfl⟩⟩
  obtain ⟨probed, answered⟩ : ∃ probed, probe (.listed "listed" .sample .sample)
      (probing sampleCircumstances {} sampleFolder ["a"]) = .ok (.sample, .sample) probed := ⟨_, rfl⟩
  obtain ⟨summary, cloned, events, ended, rewrites, told, checks, restores⟩ :=
    clone_check_restore found offers (by decide) (.inr ⟨Probe.listed_onlyReads _ _ _, sample_inside⟩) answered
      sample_canImage
  obtain ⟨back, restored, more, ended', _, size, brings⟩ :=
    restores sampleCircumstances {} "c" true ["c"] target (by decide) sample_canRestore
  exact ⟨summary, cloned, events, ended, rewrites, told addressable (by decide) false,
    checks _ _ sample_canRestore.toCanRead, back, restored, more, ended', size, brings⟩

end Job

end BlockImage
