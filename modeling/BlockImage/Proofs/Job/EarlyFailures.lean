import BlockImage.Proofs.Job.Opening
import BlockImage.Proofs.Job.RoundTrip

/-!
# Jobs that are refused change nothing

A job whose settings, source or target are refused leaves all files as they were. Since a transfer does not fail in those
ways any more, this can be told from the failure alone.
-/
namespace BlockImage.Job

open Transfer

/-- A job that failed early has changed nothing, and neither has one whose target exists and may not be overwritten,
which always fails. -/
structure Careful (folder : Folder) (paths : Paths) (result : Except Error Summary) (after : Folder) : Prop where
  early : ∀ failure, result = .error failure → failure.Early → after = folder
  taken : paths.overwrite = false → folder.exists? paths.target = true →
    (∃ failure, result = .error failure) ∧ after = folder

section

variable {folder after : Folder} {paths : Paths} {place : Place}

theorem Careful.refused (failure : Error) : Careful folder paths (.error failure) folder where
  early _ _ _ := rfl
  taken _ _ := ⟨⟨failure, rfl⟩, rfl⟩

/-- What became of a target that was offered does not matter, unless the job failed early. -/
theorem Careful.of_offers {result : Except Error Summary} (offers : folder.Offers paths.target paths.overwrite place)
    (late : ∀ failure, result = .error failure → ¬ failure.Early) : Careful folder paths result after where
  early failure failed early := absurd early (late failure failed)
  taken keeps there := by
    rcases offers.overwrites_or_missing with overwrites | missing
    · rw [keeps] at overwrites
      cases overwrites
    · rw [there] at missing
      cases missing

theorem Careful.ok (offers : folder.Offers paths.target paths.overwrite place) (summary : Summary) :
    Careful folder paths (.ok summary) after :=
  .of_offers offers nofun

theorem Careful.late (offers : folder.Offers paths.target paths.overwrite place) {failure : Error}
    (late : ¬ failure.Early) : Careful folder paths (.error failure) after :=
  .of_offers offers fun _ same => Except.error.inj same ▸ late

end

/-- Whatever the files, the settings and the source are, a job that fails early leaves all files as they are. -/
theorem early_failures_change_nothing (circumstances : Circumstances) (paths : Paths) (config : Config)
    (folder : Folder) :
    (∀ prober : Probe OpenFiles, prober.Peeks →
      Careful folder paths (cloneToImage circumstances prober paths config folder).result
          (cloneToImage circumstances prober paths config folder).folder ∧
        Careful folder paths (cloneToPartition circumstances prober paths config folder).result
          (cloneToPartition circumstances prober paths config folder).folder) ∧
      Careful folder paths (restore circumstances paths config folder).result
        (restore circumstances paths config folder).folder := by
  have full : Full folder paths (Careful folder paths) := fun _ _ _ late offers _ => .late offers late
  constructor
  · intro prober peeks
    constructor
    · apply cloneToImage_leads peeks .refused
      intro source entry place descriptor bitmap run _ offers _ _
      have late := writeImage_failsLate circumstances.owner OpenFiles.source descriptor OpenFiles.target.toSink bitmap
      exact (late run).mono (fun summary _ _ => .ok offers summary) fun _ _ late => .late offers late
    · apply cloneToPartition_leads peeks .refused full
      intro source entry place descriptor bitmap run _ offers _ _
      have late := copyPartition_failsLate circumstances.owner OpenFiles.source descriptor OpenFiles.target bitmap
      refine (late run).mono ?_ fun _ _ late => .late offers late
      exact fun summary _ _ => ⟨.ok offers summary, fun _ later => .late offers later⟩
  · apply restore_leads .refused full
    intro source entry place head bitmap run _ offers probed _
    have late := restoreBlocks_failsLate circumstances.owner OpenFiles.source.toStream.readAhead
      OpenFiles.target.besideReadAhead probed.measured
    exact (late run).mono (fun summary _ _ => .ok offers summary) fun _ _ late => .late offers late

/-- The paths of the sample, of which the target may not be overwritten. -/
def keepingPaths : Paths := { samplePaths with overwrite := false }

theorem early_failures_sample :
    (∃ failure, (cloneToImage sampleCircumstances (.listed "listed" .sample .sample) keepingPaths {}
      sampleFolder).result = .error failure) ∧
    (cloneToImage sampleCircumstances (.listed "listed" .sample .sample) keepingPaths {} sampleFolder).folder =
      sampleFolder ∧
    (cloneToPartition sampleCircumstances (.listed "listed" .sample .sample) keepingPaths {} sampleFolder).folder =
      sampleFolder ∧
    (restore sampleCircumstances keepingPaths {} sampleFolder).folder = sampleFolder := by
  have there : sampleFolder.exists? keepingPaths.target = true :=
    Folder.exists?_of_resolveFile (sample_leads "b" (by decide)) rfl
  obtain ⟨clones, restores⟩ := early_failures_change_nothing sampleCircumstances keepingPaths {} sampleFolder
  obtain ⟨images, copies⟩ := clones (.listed "listed" .sample .sample) (Probe.listed_peeks ..)
  exact ⟨(images.taken rfl there).1, (images.taken rfl there).2, (copies.taken rfl there).2,
    (restores.taken rfl there).2⟩

end BlockImage.Job
