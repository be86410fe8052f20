import BlockImage.Folder.OpenFiles
import BlockImage.Proofs.Ends
import BlockImage.Proofs.Folder

/-!
# Files as the ends of a transfer

A handle on a file sees its bytes and never fails. Of two handles on different files, one does not see what is written
through the other.
-/
namespace BlockImage.OpenFiles

def inputView (files : OpenFiles) : View where
  bytes := files.folder.bytesAt files.input.place
  position := files.input.position

def outputView (files : OpenFiles) : View where
  bytes := files.folder.bytesAt files.output.place
  position := files.output.position

/-- The files with the handle for reading elsewhere. -/
def reading (files : OpenFiles) (position : Nat) : OpenFiles :=
  { files with input := { files.input with position } }

variable {β : Type} {kept : OpenFiles → Prop} {rest : OpenFiles → β}

/-- A handle on a file is a source that never fails. -/
theorem source_reads (readable : ∀ files, kept files → ∃ bytes, files.folder.get? files.input.place = some (.file bytes))
    (stays : ∀ files position, kept files → kept (files.reading position))
    (apart : ∀ files position, rest (files.reading position) = rest files) :
    source.Reads kept inputView rest fun _ => False where
  read wanted files positive held := by
    obtain ⟨bytes, there⟩ := readable files held
    have seen : (inputView files).bytes = bytes := Folder.bytesAt_of_get? there
    have content : files.content files.input = .ok bytes := by
      rw [OpenFiles.content, there]
      rfl
    have given : files.readThrough files.input wanted = .ok ((inputView files).take wanted) := by
      rw [readThrough, content, View.take, seen]
      rfl
    change Leads (readInput wanted files) _ _
    rw [readInput, given]
    refine ⟨⟨stays _ _ held, apart _ _⟩, (Bytes.extract_extent ..).symm, rfl, fun empty => .inl ?_⟩
    rw [View.size_take] at empty
    omega
  seek position files held := ⟨⟨stays _ _ held, apart _ _⟩, rfl⟩

/-- Reading through a handle moves its position at most. -/
theorem source_apart (stays : ∀ files position, kept files → kept (files.reading position))
    (apart : ∀ files position, rest (files.reading position) = rest files) : source.Apart kept rest where
  read wanted files held := by
    change Leads (readInput wanted files) _ _
    rw [readInput]
    cases files.readThrough files.input wanted with
    | error cause => exact .refl held
    | ok bytes => exact ⟨stays _ _ held, apart _ _⟩
  seek position files held := ⟨stays _ _ held, apart _ _⟩

theorem copy_apart (stays : ∀ files position, kept files → kept { files with output := { files.output with position } })
    (apart : ∀ files position, rest { files with output := { files.output with position } } = rest files) :
    copy.Apart kept rest where
  read wanted files held := by
    change Leads (readOutput wanted files) _ _
    rw [readOutput]
    cases files.readThrough files.output wanted with
    | error cause => exact .refl held
    | ok bytes => exact ⟨stays _ _ held, apart _ _⟩
  seek position files held := ⟨stays _ _ held, apart _ _⟩

/-- A handle on a file is a target that never fails. -/
theorem target_writes (vacant : ∀ files, kept files → files.folder.get? files.output.place ≠ some .folder)
    (stays : ∀ files bytes position, kept files → Frame kept rest files {
      files with
      folder := files.folder.put files.output.place (.file bytes)
      output := { files.output with position } })
    (moves : ∀ files position, kept files →
      Frame kept rest files { files with output := { files.output with position } }) :
    target.Writes kept outputView rest fun _ => False where
  write offered files positive held := by
    refine ⟨stays _ _ _ held, ?_, fun idle => absurd idle (Nat.ne_of_gt positive)⟩
    rw [Bytes.extract_eq_self (Nat.le_refl _), View.ext_iff]
    exact ⟨(Folder.rewrites_put (vacant files held)).bytesAt, rfl⟩
  sync files held := ⟨.refl held, rfl⟩
  seek position files held := ⟨moves _ _ held, rfl⟩

/-! ### Reading from one file -/

/-- A folder with a handle on one of its files. -/
structure Reading (folder : Folder) (input : Place) (files : OpenFiles) : Prop where
  same : files.folder = folder
  onInput : files.input.place = input

theorem Reading.reads {folder : Folder} {input : Place} {bytes : ByteArray}
    (there : folder.get? input = some (.file bytes)) :
    source.Reads (Reading folder input) inputView (fun _ => ()) fun _ => False := by
  apply source_reads
  · rintro files ⟨rfl, rfl⟩
    exact ⟨bytes, there⟩
  · rintro files position ⟨rfl, rfl⟩
    exact ⟨rfl, rfl⟩
  · intro files position
    rfl

/-! ### Writing to another file -/

/-- A folder with handles on two files, of which only the second one has changed. -/
structure Opened (folder : Folder) (input output : Place) (bytes : ByteArray) (files : OpenFiles) : Prop where
  apart : input ≠ output
  onInput : files.input.place = input
  onOutput : files.output.place = output
  source : folder.get? input = some (.file bytes)
  target : folder.Rewrites output (files.folder.bytesAt output) files.folder

namespace Opened

variable {folder : Folder} {input output : Place} {bytes : ByteArray} {files : OpenFiles}

/-- A file was written anew, or made, and the handle for writing is at its start. -/
theorem begun (onInput : files.input.place = input) (there : folder.get? input = some (.file bytes))
    (apart : input ≠ output) {more : ByteArray} {after : Folder} (rewrites : folder.Rewrites output more after) :
    Opened folder input output bytes { files with folder := after, output := { place := output } } := by
  refine ⟨apart, onInput, rfl, there, ?_⟩
  rw [rewrites.bytesAt]
  exact rewrites

theorem readable (opened : Opened folder input output bytes files) :
    files.folder.get? files.input.place = some (.file bytes) := by
  rw [opened.onInput, opened.target.others input opened.apart, opened.source]

theorem bytes_inputView (opened : Opened folder input output bytes files) : (inputView files).bytes = bytes :=
  Folder.bytesAt_of_get? opened.readable

theorem rewrites (opened : Opened folder input output bytes files) :
    folder.Rewrites output (outputView files).bytes files.folder := by
  rw [outputView, opened.onOutput]
  exact opened.target

/-- The files once bytes are put at the place of the handle for writing. -/
theorem put (opened : Opened folder input output bytes files) (more : ByteArray) (position : Nat) :
    Opened folder input output bytes {
      files with
      folder := files.folder.put files.output.place (.file more)
      output := { files.output with position } } := by
  have target := opened.target.put more
  refine ⟨opened.apart, opened.onInput, opened.onOutput, opened.source, ?_⟩
  rw [opened.onOutput, target.bytesAt]
  exact target

theorem reads : OpenFiles.source.Reads (Opened folder input output bytes) inputView outputView fun _ => False := by
  apply source_reads
  · exact fun files opened => ⟨bytes, opened.readable⟩
  · exact fun files position opened => { opened with }
  · exact fun files position => rfl

theorem writes : OpenFiles.target.Writes (Opened folder input output bytes) outputView inputView fun _ => False := by
  apply target_writes
  · intro files opened
    rw [opened.onOutput]
    exact opened.target.vacant
  · intro files more position opened
    have after := opened.put more position
    refine ⟨after, ?_⟩
    -- The file that is read from is another one.
    rw [View.ext_iff]
    exact ⟨after.bytes_inputView.trans opened.bytes_inputView.symm, rfl⟩
  · exact fun files position opened => ⟨{ opened with }, rfl⟩

end Opened

end BlockImage.OpenFiles
