import BlockImage.Proofs.Job.Opening
import BlockImage.Proofs.Job.RoundTrip
import BlockImage.Proofs.Transfer.Confinement

/-!
# Sources are only read

Whatever becomes of a job, its source keeps its bytes, unless the target is the same file and may be overwritten: nothing
keeps a job from being given one file twice. A file that is copied onto itself only becomes as long as its device.
-/
namespace BlockImage

namespace OpenFiles

/-- Both handles are on one and the same file. -/
structure Doubled (place : Place) (files : OpenFiles) : Prop where
  onInput : files.input.place = place
  onOutput : files.output.place = place
  there : ∃ bytes, files.folder.get? place = some (.file bytes)

namespace Doubled

variable {place : Place} {files : OpenFiles}

theorem same_bytes (doubled : Doubled place files) : (inputView files).bytes = (outputView files).bytes := by
  rw [inputView, outputView, doubled.onInput, doubled.onOutput]

theorem get? (doubled : Doubled place files) :
    files.folder.get? place = some (.file (outputView files).bytes) := by
  obtain ⟨bytes, there⟩ := doubled.there
  rw [outputView, doubled.onOutput, there, Folder.bytesAt_of_get? there]

theorem reads : OpenFiles.source.Reads (Doubled place) inputView outputView fun _ => False := by
  apply source_reads
  · intro files doubled
    rw [doubled.onInput]
    exact doubled.there
  · exact fun files position doubled => { doubled with }
  · exact fun files position => rfl

theorem writes : OpenFiles.target.Writes (Doubled place) outputView (fun _ => ()) fun _ => False := by
  apply target_writes
  · intro files doubled
    obtain ⟨bytes, there⟩ := doubled.there
    rw [doubled.onOutput, there]
    nofun
  · intro files bytes position doubled
    obtain ⟨before, there⟩ := doubled.there
    have vacant : files.folder.get? place ≠ some .folder := by
      rw [there]
      nofun
    refine ⟨⟨doubled.onInput, doubled.onOutput, bytes, ?_⟩, rfl⟩
    rw [doubled.onOutput]
    exact (Folder.rewrites_put vacant).holds
  · exact fun files position doubled => ⟨{ doubled with }, rfl⟩

end Doubled

end OpenFiles

namespace Transfer

open OpenFiles

/-- The file that both handles are on holds the given bytes. -/
def Holding (place : Place) (bytes : ByteArray) (files : OpenFiles) : Prop :=
  Doubled place files ∧ (outputView files).bytes = bytes

variable {place : Place} {bytes : ByteArray}

/-- A range is read as it is and written back. -/
theorem copyChunk_holding (owner : Owner) (descriptor : Descriptor) {chunk : Chunk}
    (inside : chunk.stop * descriptor.blockSize.toNat ≤ bytes.size) {run : Run OpenFiles}
    (holding : Holding place bytes run.world) :
    Leads (copyChunk owner OpenFiles.source OpenFiles.target descriptor chunk run)
      (fun _ after => Holding place bytes after.world) fun _ after => Holding place bytes after.world := by
  have spares (run : Run OpenFiles) : owner.Spares (fun _ => True) run.running := .inl trivial
  have counts (after : Run OpenFiles) (holding : Holding place bytes after.world) :
      Leads ((countBlocks chunk.count descriptor.blockSize.toNat >>= fun _ =>
          report owner descriptor.verifiedBlocks.toNat chunk.stop : Transfer OpenFiles Unit) after)
        (fun _ after => Holding place bytes after.world) fun _ after => Holding place bytes after.world := by
    rw [leads_bind, countBlocks, leads_tally]
    exact leads_report (spares _) fun _ _ => holding
  rw [Chunk.stop, Nat.add_mul] at inside
  rw [copyChunk, leads_bind]
  refine leads_checkRunning (spares run) (fun running _ => ?_) fun _ _ => holding
  obtain ⟨doubled, holds⟩ := holding
  rw [leads_bind, readRange, leads_bind, leads_attempt, leads_inWorld]
  refine (Doubled.reads.readAt _ _ run.world doubled).mono ?_ ?_
  · rintro data read ⟨frame, given, _⟩
    have same : (outputView read).bytes = bytes := by rw [frame.rest, holds]
    rw [doubled.same_bytes, holds] at given
    rw [leads_pure, leads_bind, leads_attempt, leads_inWorld]
    refine (Doubled.writes.writeAt _ data read frame.kept).mono ?_ ?_
    · rintro _ after ⟨later, placed⟩
      refine counts _ ⟨later.kept, ?_⟩
      change (outputView after).bytes = bytes
      rw [placed, View.bytes_put, View.seek, same, given]
      exact Bytes.overwrite_extract_self inside
    · rintro cause after ⟨_, none, _⟩
      exact none.elim
  · rintro cause read ⟨_, _, none | ⟨_, short⟩⟩
    · exact none.elim
    · rw [doubled.same_bytes, holds] at short
      omega

/-- A copy of a file onto itself leaves it as it is, however it ends. -/
theorem copyPartition_holding (owner : Owner) {descriptor : Descriptor} {bitmap : Bitmap}
    (probed : Probed descriptor bitmap) (long : descriptor.deviceSize.toNat ≤ bytes.size) (run : Run OpenFiles)
    (holding : Holding place bytes run.world) :
    Leads (copyPartition owner OpenFiles.source OpenFiles.target descriptor bitmap run)
      (fun _ after => Holding place bytes after.world) fun _ after => Holding place bytes after.world := by
  have writes : OpenFiles.target.Writes (Doubled place) outputView (fun _ => ()) fun _ => False := Doubled.writes
  refine Leads.mono (leads_conclude writes.toWrites (fun _ _ seen _ => seen.bytes = bytes)
    (fun _ _ seen _ => seen.bytes = bytes) ?_ fun _ _ _ _ _ _ same => same) ?_ ?_
  · rw [leads_bind, leads_get, leads_bind]
    refine leads_allocate (fun _ => ?_) fun _ _ _ => holding
    rw [leads_bind, leads_enter]
    refine leads_forM (fun _ (after : Run OpenFiles) => Holding place bytes after.world) ?_ holding
    intro chunk left after member holding
    refine copyChunk_holding owner descriptor ?_ holding
    -- Chunks lie within the device, and the file is at least as long.
    exact Nat.le_trans (probed.deviceSize ▸ Nat.mul_le_mul_right _ (Bitmap.stop_le_total member)) long
  · rintro _ after ⟨doubled, _, same⟩
    exact ⟨doubled, same⟩
  · exact fun _ _ holding => holding

end Transfer

namespace Job

open Transfer OpenFiles

/-- A job is given one file twice, which it may overwrite. -/
def OntoItself (folder : Folder) (paths : Paths) (source : Place) : Prop :=
  paths.overwrite = true ∧ folder.resolveFile paths.target = .ok source

section

variable {folder after : Folder} {paths : Paths} {source place : Place} {bytes more : ByteArray}

/-- Only a job that is given one file twice is offered its source as a target. -/
theorem ontoItself_of_offers (there : folder.get? source = some (.file bytes))
    (offers : folder.Offers paths.target paths.overwrite source) : OntoItself folder paths source := by
  refine ⟨?_, offers.leads⟩
  rcases offers.free with nothing | ⟨overwrites, _⟩
  · rw [there] at nothing
    cases nothing
  · exact overwrites

theorem opened_of_begun {files : OpenFiles} (there : folder.get? source = some (.file bytes)) (apart : source ≠ place)
    (begun : Begun folder source place more files) : Opened folder source place bytes files where
  apart := apart
  onInput := begun.onInput
  onOutput := by rw [begun.onOutput]
  source := there
  target := by
    rw [begun.rewrites.bytesAt]
    exact begun.rewrites

/-- A file that was made, or opened with its bytes, is no other one. -/
theorem get?_of_rewrites (there : folder.get? source = some (.file bytes))
    (rewrites : folder.Rewrites place (folder.bytesAt place) after) : after.get? source = some (.file bytes) := by
  by_cases same : source = place
  · subst same
    rw [rewrites.holds, Folder.bytesAt_of_get? there]
  · rw [rewrites.others source same, there]

end

variable {folder : Folder} {paths : Paths} {source : Place} {bytes : ByteArray}

/-- A job that has opened two different files leaves its source as it is. -/
theorem source_kept_apart (circumstances : Circumstances) (config : Config)
    (found : folder.find paths.source = .ok (source, .file bytes)) (other : ¬ OntoItself folder paths source) :
    (∀ prober : Probe OpenFiles, prober.Peeks →
      (cloneToImage circumstances prober paths config folder).folder.get? source = some (.file bytes) ∧
        (cloneToPartition circumstances prober paths config folder).folder.get? source = some (.file bytes)) ∧
      (restore circumstances paths config folder).folder.get? source = some (.file bytes) := by
  have there := Folder.get?_of_find found
  let holds : Except Error Summary → Folder → Prop := fun _ after => after.get? source = some (.file bytes)
  have refused (failure : Error) : holds (.error failure) folder := there
  have full : Full folder paths holds := fun _ _ _ _ _ rewrites => get?_of_rewrites there rewrites
  have opened {source' : Place} {entry : Entry} {place : Place} {more : ByteArray} {files : OpenFiles}
      (found' : folder.find paths.source = .ok (source', entry))
      (offers : folder.Offers paths.target paths.overwrite place) (begun : Begun folder source' place more files) :
      Opened folder source place bytes files := by
    rw [found] at found'
    cases found'
    refine opened_of_begun there ?_ begun
    rintro rfl
    exact other (ontoItself_of_offers there offers)
  have left {place : Place} {files : OpenFiles} (opened : Opened folder source place bytes files) :
      files.folder.get? source = some (.file bytes) := opened.onInput ▸ opened.readable
  have apart (place : Place) : OpenFiles.source.Apart (Opened folder source place bytes) outputView :=
    source_apart (fun _ _ opened => { opened with }) fun _ _ => rfl
  constructor
  · intro prober peeks
    constructor
    · refine @cloneToImage_leads _ _ _ _ _ holds peeks refused ?_
      intro source' entry place descriptor bitmap run found' offers probed begun
      exact (writeImage_keeps Opened.writes.toWrites (apart place) _ probed.total probed.blockSize_pos run
        (opened found' offers begun)).mono (fun _ _ => left) fun _ _ => left
    · refine @cloneToPartition_leads _ _ _ _ _ holds peeks refused full ?_
      intro source' entry place descriptor bitmap run found' offers probed begun
      refine (copyPartition_spares Opened.writes (apart place) descriptor run (opened found' offers begun)).mono ?_ ?_
      · exact fun _ _ spared => ⟨left spared.1, fun _ _ => left spared.1⟩
      · exact fun _ _ spared => left spared.1
  · refine @restore_leads _ _ _ _ holds refused full ?_
    intro source' entry place head bitmap run found' offers probed begun
    refine (restoreBlocks_spares Opened.writes.beside (apart place).toApart.readAhead head run
      (opened found' offers begun)).mono ?_ ?_
    · exact fun _ _ spared => left spared.1
    · exact fun _ _ spared => left spared.1

/-- A file that is copied onto itself keeps its bytes, with zeros behind them where it was shorter than its device. -/
theorem copy_onto_itself (circumstances : Circumstances) {prober : Probe OpenFiles} (peeks : prober.Peeks)
    (config : Config) (found : folder.find paths.source = .ok (source, .file bytes))
    (itself : OntoItself folder paths source) : ∃ size,
    (cloneToPartition circumstances prober paths config folder).folder.get? source =
      some (.file (Bytes.padded bytes size)) := by
  have there := Folder.get?_of_find found
  let holds : Except Error Summary → Folder → Prop := fun _ after =>
    ∃ size, after.get? source = some (.file (Bytes.padded bytes size))
  have as_it_was {after : Folder} (still : after.get? source = some (.file bytes)) :
      ∃ size, after.get? source = some (.file (Bytes.padded bytes size)) := by
    refine ⟨0, ?_⟩
    rw [Bytes.padded_eq_self (Nat.zero_le _)]
    exact still
  refine @cloneToPartition_leads _ _ _ _ _ holds peeks (fun _ => as_it_was there) ?_ ?_
  · exact fun _ _ _ _ _ rewrites => as_it_was (get?_of_rewrites there rewrites)
  · intro source' entry place descriptor bitmap run found' offers probed begun
    rw [found] at found'
    cases found'
    obtain rfl : source = place := Except.ok.inj (itself.2.symm.trans offers.leads)
    let long := Bytes.padded bytes descriptor.deviceSize.toNat
    have rewrites := begun.rewrites
    rw [Folder.bytesAt_of_get? there] at rewrites
    have onOutput : run.world.output.place = source := by rw [begun.onOutput]
    have holding : Holding source long run.world := by
      refine ⟨⟨begun.onInput, onOutput, _, rewrites.holds⟩, ?_⟩
      rw [outputView, onOutput]
      exact rewrites.bytesAt
    have reaches : descriptor.deviceSize.toNat ≤ long.size := by
      rw [Bytes.size_padded]
      exact Nat.le_max_right _ _
    have left {files : OpenFiles} (holding : Holding source long files) :
        ∃ size, files.folder.get? source = some (.file (Bytes.padded bytes size)) :=
      ⟨_, holding.2 ▸ holding.1.get?⟩
    refine (copyPartition_holding circumstances.owner probed reaches run holding).mono ?_ ?_
    · exact fun _ _ holding => ⟨left holding, fun _ _ => left holding⟩
    · exact fun _ _ holding => left holding

/-- However a job ends, the file that is its source has the bytes that it had before, unless it is the target as well and
may be overwritten. A copy onto itself at most adds zeros to it. -/
theorem source_is_only_read (circumstances : Circumstances) (config : Config)
    (found : folder.find paths.source = .ok (source, .file bytes)) :
    (¬ OntoItself folder paths source →
      (∀ prober : Probe OpenFiles, prober.Peeks →
        (cloneToImage circumstances prober paths config folder).folder.get? source = some (.file bytes) ∧
          (cloneToPartition circumstances prober paths config folder).folder.get? source = some (.file bytes)) ∧
        (restore circumstances paths config folder).folder.get? source = some (.file bytes)) ∧
      (OntoItself folder paths source → ∀ prober : Probe OpenFiles, prober.Peeks → ∃ size,
        (cloneToPartition circumstances prober paths config folder).folder.get? source =
          some (.file (Bytes.padded bytes size))) :=
  ⟨source_kept_apart circumstances config found,
    fun itself _ peeks => copy_onto_itself circumstances peeks config found itself⟩

/-- The paths of a job that is given one file twice. -/
def doubledPaths : Paths where
  source := "a"
  target := "a"
  overwrite := true

theorem source_is_only_read_sample :
    (cloneToImage sampleCircumstances (.listed "listed" .sample .sample) samplePaths {} sampleFolder).folder.get? ["a"] =
        some (.file ⟨#[7, 8, 9]⟩) ∧
      ∃ size, (cloneToPartition {} (.listed "listed" .sample .sample) doubledPaths {} sampleFolder).folder.get? ["a"] =
        some (.file (Bytes.padded ⟨#[7, 8, 9]⟩ size)) := by
  have led : sampleFolder.resolveFile "a" = .ok ["a"] := sample_leads "a" (by decide)
  have found : sampleFolder.find "a" = .ok (["a"], .file ⟨#[7, 8, 9]⟩) := Folder.find_of_resolveFile led rfl
  constructor
  · have other : ¬ OntoItself sampleFolder samplePaths ["a"] := by
      rintro ⟨_, led⟩
      have both := Except.ok.inj (led.symm.trans (sample_leads "b" (by decide)))
      exact absurd both (by decide)
    exact (((@source_is_only_read sampleFolder samplePaths _ _ sampleCircumstances {} found).1 other).1 _
      (Probe.listed_peeks ..)).1
  · have itself : OntoItself sampleFolder doubledPaths ["a"] := ⟨rfl, led⟩
    exact (@source_is_only_read sampleFolder doubledPaths _ _ {} {} found).2 itself _ (Probe.listed_peeks ..)

/-- The sample when it was probed and its first file is about to be emptied. -/
def sampleDoubled : Run OpenFiles where
  session := {
    direction := .toImage
    config := {}
    phase := .probing
    summary := { reportedBlocks := 2, verifiedBlocks := 2 } }
  world := { unopened sampleFolder with input := { place := ["a"] } }

/-- A file that is imaged into itself is lost. -/
theorem image_onto_itself_loses_source :
    sampleFolder.find doubledPaths.source = .ok (["a"], .file ⟨#[7, 8, 9]⟩) ∧
      (cloneToImage {} (.listed "listed" .sample .sample) doubledPaths {} sampleFolder).folder.get? ["a"] ≠
        some (.file ⟨#[7, 8, 9]⟩) := by
  have led : sampleFolder.resolveFile "a" = .ok ["a"] := sample_leads "a" (by decide)
  have found : sampleFolder.find doubledPaths.source = .ok (["a"], .file ⟨#[7, 8, 9]⟩) :=
    Folder.find_of_resolveFile led rfl
  have opened : sampleFolder.openFile doubledPaths.target = .ok (["a"], sampleFolder) :=
    Except.bind_eq_ok.mpr ⟨_, led, rfl⟩
  have answered : Transfer.probe (.listed "listed" .sample .sample) (probing {} {} sampleFolder ["a"]) =
      .ok (.sample, .sample) sampleDoubled := rfl
  have judged : checkOverwrite sampleDoubled.world.folder doubledPaths.target doubledPaths.overwrite = .ok () :=
    checkOverwrite_eq_ok_iff.mpr (.inl rfl)
  have created : createImage doubledPaths.target doubledPaths.overwrite sampleDoubled.world = .ok () {
      sampleDoubled.world with
      folder := sampleFolder.setLength ["a"] 0
      output := { place := ["a"] } } := by
    change EStateM.bind (ofExcept ((sampleFolder.openFile doubledPaths.target).mapError .io) : Operation OpenFiles _)
      _ sampleDoubled.world = _
    rw [opened]
    rfl
  -- What was emptied is the file that is still to be read.
  have lost : (stateAfter (writeImage {} OpenFiles.source OpenFiles.target.toSink .sample .sample {
      sampleDoubled with
      world := {
        sampleDoubled.world with
        folder := sampleFolder.setLength ["a"] 0
        output := { place := ["a"] } } })).world.folder.get? ["a"] ≠ some (.file ⟨#[7, 8, 9]⟩) := by
    decide +kernel
  refine ⟨found, ?_⟩
  rw [cloneToImage]
  refine @run_leads_of_accepted _ _ _ _ _ _ _ _ _
    (fun _ after => after.get? ["a"] ≠ some (.file ⟨#[7, 8, 9]⟩)) rfl ?_
  have input : Leads (openInput doubledPaths.source (unopened sampleFolder)) _ _ := openInput_leads found
  rw [leads_bind, leads_inWorld]
  refine input.mono ?_ fun _ _ none => none.elim
  rintro _ _ rfl
  rw [leads_bind]
  change Leads (Transfer.probe (.listed "listed" .sample .sample) (probing {} {} sampleFolder ["a"])) _ _
  rw [answered, leads_ok, leads_bind, leads_settling, leads_bind, leads_get, leads_bind, leads_ofExcept, judged]
  have remembers : ({} : Machine).ensureMemory (memoryFigure {} .sample .sample) = .ok () := rfl
  have fits : ({} : Machine).ensureSpace (Layout.imageSize .sample (imageOptions {})) = .ok () := rfl
  change Leads _ _ _
  rw [leads_bind, leads_ofExcept, remembers]
  change Leads _ _ _
  rw [leads_bind, leads_ofExcept, fits]
  change Leads _ _ _
  rw [leads_inWorld, created]
  exact Leads.of_stateAfter lost

end Job

end BlockImage
