import BlockImage.Proofs.Ends.ReadAhead
import BlockImage.Proofs.Job.Steps
import BlockImage.Proofs.Transfer.Failures

/-!
# What jobs do before they transfer

A job opens its source, learns what is on it and judges the target before it opens the target. Until then all files are
as they were, and from then on only the one at the place that the target's path leads to is another one. What holds
of a job that is refused, and of a transfer that begins with both files open, therefore holds of the job.
-/
namespace BlockImage

/-- A probe that does nothing to the source it is handed but read it, whether or not it finds an answer. -/
structure Probe.Peeks (prober : Probe OpenFiles) : Prop where
  describe : ∀ files, Leads (prober.describe files) (fun _ after => ∃ position, after = files.reading position)
    fun _ after => ∃ position, after = files.reading position
  allocation : ∀ descriptor files, Leads (prober.allocation descriptor files)
    (fun _ after => ∃ position, after = files.reading position) fun _ after => ∃ position, after = files.reading position

theorem RawBlocks.probe_peeks (raw : RawBlocks) (grants : Nat → Bool) : (raw.probe OpenFiles.source grants).Peeks where
  describe files := by
    change Leads ((OpenFiles.source.length.adaptExcept .io >>= _ : Operation OpenFiles Descriptor) files) _ _
    rw [leads_bind, leads_adaptExcept]
    change Leads ((get >>= fun files => MonadExcept.ofExcept (files.endOf files.input) : Call OpenFiles Nat) files) _ _
    rw [leads_bind, leads_get, leads_ofExcept]
    cases files.endOf files.input with
    | ok size => exact ⟨0, rfl⟩
    | error cause => exact ⟨files.input.position, rfl⟩
  allocation descriptor files := by
    rw [RawBlocks.probe]
    simp only [leads_bind, leads_ofExcept]
    cases Bitmap.create descriptor.totalBlocks.toNat grants with
    | ok bitmap => exact ⟨files.input.position, rfl⟩
    | error failure => exact ⟨files.input.position, rfl⟩

theorem Probe.listed_peeks (name : String) (descriptor : Descriptor) (bitmap : Bitmap) :
    (Probe.listed name descriptor bitmap : Probe OpenFiles).Peeks where
  describe files := ⟨files.input.position, rfl⟩
  allocation _ files := ⟨files.input.position, rfl⟩

namespace Job

open Transfer ReadAhead

variable {α ω : Type} {files : OpenFiles} {path : String} {overwrite : Bool}

/-! ### Steps that may be refused -/

section

variable {circumstances : Circumstances} {direction : Direction} {config : Config} {folder : Folder} {world : ω}
  {folderOf : ω → Folder} {body : Transfer ω α} {holds : Except Error α → Folder → Prop}

/-- What becomes of a job whose settings are accepted is what becomes of its session. -/
theorem run_leads_of_accepted (accepted : config.validate direction = .ok ())
    (leads : Leads (body {
        session := { direction, config }, running := circumstances.running, world, grants := circumstances.grants })
      (fun value after => holds (.ok value) (folderOf after.world))
      fun failure after => holds (.error failure) (folderOf after.world)) :
    holds (run circumstances direction config folder world folderOf body).result
      (run circumstances direction config folder world folderOf body).folder := by
  rw [run, Session.start_of_accepted accepted]
  cases came : body {
      session := { direction, config }, running := circumstances.running, world, grants := circumstances.grants } with
  | ok value after => simpa only [came] using leads.of_ok came
  | error failure after => simpa only [came] using leads.of_error came

theorem run_leads (refused : ∀ failure, holds (.error failure) folder)
    (leads : Leads (body {
        session := { direction, config }, running := circumstances.running, world, grants := circumstances.grants })
      (fun value after => holds (.ok value) (folderOf after.world))
      fun failure after => holds (.error failure) (folderOf after.world)) :
    holds (run circumstances direction config folder world folderOf body).result
      (run circumstances direction config folder world folderOf body).folder := by
  cases judged : config.validate direction with
  | error failure =>
    rw [run, Session.start, judged]
    exact refused failure
  | ok _ => exact run_leads_of_accepted judged leads

end

/-- Opening a file for reading moves the handle there, if there is one, and does nothing else. -/
theorem openInput_cases (path : String) (files : OpenFiles) :
    Leads (openInput path files)
      (fun _ after => ∃ place entry, files.folder.find path = .ok (place, entry) ∧
        after = { files with input := { place } })
      fun failure after => ¬ failure.Early ∧ after = files := by
  rw [openInput, leads_bind, leads_get, leads_bind, leads_adaptExcept, leads_ofExcept]
  cases found : files.folder.find path with
  | ok entry => exact ⟨entry.1, entry.2, rfl, rfl⟩
  | error cause => exact ⟨Error.not_early "io" rfl (by decide), rfl⟩

/-- The other handle is opened for reading in the same way. -/
theorem openCopy_keeps (path : String) (files : OpenFiles) :
    Leads (openCopy path files) (fun _ after => after.folder = files.folder)
      fun failure after => ¬ failure.Early ∧ after.folder = files.folder := by
  rw [openCopy, leads_bind, leads_get, leads_bind, leads_adaptExcept, leads_ofExcept]
  cases files.folder.find path with
  | ok entry => rfl
  | error cause => exact ⟨Error.not_early "io" rfl (by decide), rfl⟩

theorem checkOverwrite_eq_ok_iff {folder : Folder} :
    checkOverwrite folder path overwrite = .ok () ↔ overwrite = true ∨ folder.exists? path = false := by
  rw [checkOverwrite, ← Bool.not_eq_true]
  split
  next may => exact iff_of_true rfl may
  next refused => exact iff_of_false (fun granted => by cases granted) refused

/-- Whether a target may be overwritten, and whether there is room in memory, is found out without doing anything. -/
theorem leads_judge {β : Type} {folder : Folder} {room : Except Error Unit} {state : ω} {next : EStateM Error ω β}
    {returned : β → ω → Prop} {failed : Error → ω → Prop} (refused : ∀ failure, failed failure state)
    (goes : overwrite = true ∨ folder.exists? path = false → Leads (next state) returned failed) :
    Leads ((do
      ofExcept (checkOverwrite folder path overwrite)
      ofExcept room
      next : EStateM Error ω β) state) returned failed := by
  rw [leads_bind, leads_ofExcept]
  cases judged : checkOverwrite folder path overwrite with
  | error failure => exact refused failure
  | ok _ =>
    dsimp only
    rw [leads_bind, leads_ofExcept]
    cases room with
    | error failure => exact refused failure
    | ok _ => exact goes (checkOverwrite_eq_ok_iff.mp judged)

/-- An image file is made or emptied where it is offered, or else nothing happens. -/
theorem createImage_cases (may : overwrite = true ∨ files.folder.exists? path = false) :
    Leads (createImage path overwrite files)
      (fun _ after => ∃ place, files.folder.Offers path overwrite place ∧ Targeted files place ByteArray.empty after)
      fun _ after => after = files := by
  have offered : (∃ place, files.folder.Offers path overwrite place) ∨
      Leads (createImage path overwrite files) (fun _ _ => False) fun _ after => after = files := by
    rw [createImage, leads_bind, leads_get]
    cases overwrite with
    | true =>
      cases opened : files.folder.openFile path with
      | ok answer => exact .inl ⟨answer.1, Folder.offers_of_openFile opened may⟩
      | error cause =>
        right
        rw [if_pos rfl, leads_bind, leads_ofExcept]
        rfl
    | false =>
      cases created : files.folder.createFile path with
      | ok answer => exact .inl ⟨answer.1, Folder.offers_of_createFile created⟩
      | error cause =>
        right
        rw [if_neg Bool.false_ne_true]
        cases cause <;> rfl
  rcases offered with ⟨place, offers⟩ | refused
  · refine (createImage_leads offers).mono (fun _ after created => ⟨place, offers, created⟩) ?_
    exact fun _ _ none => none.elim
  · exact refused.mono (fun _ _ none => none.elim) fun _ _ same => same

/-- A target is opened where it is offered, if there is room for it, or else nothing happens. -/
theorem prepareTarget_cases (machine : Machine) (deviceSize dataBytes : Nat)
    (may : overwrite = true ∨ files.folder.exists? path = false) :
    Leads (prepareTarget machine path deviceSize dataBytes files)
      (fun _ after => ∃ place, files.folder.Offers path overwrite place ∧
        Targeted files place (Bytes.padded (files.folder.bytesAt place) deviceSize) after)
      fun failure after => after = files ∨ ∃ place, files.folder.Offers path overwrite place ∧
        NoRoom machine files place deviceSize dataBytes failure after := by
  cases opened : files.folder.openFile path with
  | ok answer =>
    have offers := Folder.offers_of_openFile opened may
    refine (prepareTarget_leads_of_offers machine deviceSize dataBytes offers).mono ?_ ?_
    · exact fun _ _ targeted => ⟨answer.1, offers, targeted⟩
    · exact fun _ _ full => .inr ⟨answer.1, offers, full⟩
  | error cause =>
    apply leads_prepareTarget
    · exact fun _ _ _ => .inl rfl
    · exact fun _ _ => .inl rfl
    · rw [leads_bind, openTarget, leads_bind, leads_get, leads_bind, leads_ofExcept, opened]
      exact .inl rfl

/-! ### What is read before and afterwards -/

theorem probe_leads_of_peeks {prober : Probe OpenFiles} (peeks : prober.Peeks) (run : Run OpenFiles) :
    Leads (Transfer.probe prober run)
      (fun answer after => Probed answer.1 answer.2 ∧ ∃ position, after.world = run.world.reading position)
      fun _ after => ∃ position, after.world = run.world.reading position := by
  apply @probe_keeps _ fun files => ∃ position, files = run.world.reading position
  · rintro _ ⟨position, rfl⟩
    exact peeks.describe _
  · rintro descriptor _ ⟨position, rfl⟩
    exact peeks.allocation descriptor _
  · exact ⟨run.world.input.position, rfl⟩

/-- To read an image file changes no file and leaves the handle on it. -/
theorem readImage_leads_of_input (run : Run (ReadAhead OpenFiles)) :
    Leads (readImage OpenFiles.source.toStream.readAhead run)
      (fun opened after => Probed opened.1.descriptor opened.2 ∧
        after.world.world.folder = run.world.world.folder ∧
        after.world.world.input.place = run.world.world.input.place)
      fun _ after => after.world.world.folder = run.world.world.folder := by
  have apart : OpenFiles.source.Apart (fun _ => True) fun files => (files.folder, files.input.place) :=
    OpenFiles.source_apart (fun _ _ _ => trivial) fun _ _ => rfl
  refine (readImage_keeps apart.toApart.readAhead run trivial).mono ?_ ?_
  · rintro opened after ⟨probed, frame⟩
    exact ⟨probed, congrArg Prod.fst frame.rest, congrArg Prod.snd frame.rest⟩
  · exact fun _ _ frame => congrArg Prod.fst frame.rest

theorem verifyChunk_keeps {ω β : Type} {source copy : Source ω} {kept : ω → Prop} {rest : ω → β}
    (first : source.Apart kept rest) (second : copy.Apart kept rest) (owner : Owner) (blockSize : Nat) (chunk : Chunk)
    {world : ω} {run : Run ω} (frame : Frame kept rest world run.world) :
    Leads (verifyChunk owner source copy blockSize chunk run) (fun _ after => Frame kept rest world after.world)
      fun _ after => Frame kept rest world after.world := by
  have spares : owner.Spares (fun _ => True) run.running := .inl trivial
  rw [verifyChunk, leads_bind]
  refine leads_checkRunning spares (fun running _ => ?_) fun _ _ => frame
  rw [leads_bind]
  refine Leads.mono (readRange_leads first _ _ ?_) ?_ ?_
  · exact frame.kept
  · rintro expected _ ⟨⟨_, read, rfl, later⟩, _⟩
    rw [leads_bind, leads_call]
    refine (second.readAt _ _ read later.kept).mono ?_ fun _ _ last => frame.trans (later.trans last)
    rintro found last ⟨last, _⟩
    split
    · exact frame.trans (later.trans last)
    · exact frame.trans (later.trans last)
  · rintro failure _ ⟨⟨_, read, rfl, later⟩, _⟩
    exact frame.trans later

/-- To compare both sides leaves alone what reading them does. -/
theorem verifyPartition_keeps {ω β : Type} {source copy : Source ω} {kept : ω → Prop} {rest : ω → β}
    (first : source.Apart kept rest) (second : copy.Apart kept rest) (owner : Owner) (descriptor : Descriptor)
    (bitmap : Bitmap) (run : Run ω) (held : kept run.world) :
    Leads (verifyPartition owner source copy descriptor bitmap run)
      (fun _ after => Frame kept rest run.world after.world) fun _ after => Frame kept rest run.world after.world := by
  have start : Frame kept rest run.world run.world := .refl held
  rw [verifyPartition, leads_settling, leads_bind, leads_enter, leads_bind, leads_get, leads_bind]
  refine leads_allocate (fun _ => ?_) fun _ _ _ => start
  rw [leads_bind]
  refine Leads.weaken (leads_forM (fun _ (after : Run ω) => Frame kept rest run.world after.world) ?_ ?_) ?_
  · intro chunk left after _ frame
    exact verifyChunk_keeps first second owner _ chunk frame
  · exact start
  · intro _ after frame
    exact frame

/-- A copy that is through is compared if the settings ask for it, which changes no file. -/
theorem compare_leads (owner : Owner) (paths : Paths) (config : Config) (descriptor : Descriptor) (bitmap : Bitmap)
    (summary : Summary) (run : Run OpenFiles) :
    Leads ((do
      if config.verify then
        inWorld (openInput paths.source)
        inWorld (openCopy paths.target)
        verifyPartition owner OpenFiles.source OpenFiles.copy descriptor bitmap
      return summary : Transfer OpenFiles Summary) run)
      (fun value after => value = summary ∧ after.world.folder = run.world.folder)
      fun failure after => ¬ failure.Early ∧ after.world.folder = run.world.folder := by
  split
  next =>
    have first : OpenFiles.source.Apart (fun _ => True) OpenFiles.folder :=
      OpenFiles.source_apart (fun _ _ _ => trivial) fun _ _ => rfl
    have second : OpenFiles.copy.Apart (fun _ => True) OpenFiles.folder :=
      OpenFiles.copy_apart (fun _ _ _ => trivial) fun _ _ => rfl
    simp only [leads_bind, leads_inWorld]
    refine (openInput_cases _ _).mono ?_ ?_
    · rintro _ opened ⟨place, entry, _, rfl⟩
      refine (openCopy_keeps _ _).mono ?_ ?_
      · intro _ both same
        have late := verifyPartition_failsLate owner OpenFiles.source descriptor OpenFiles.copy bitmap
        refine ((late _).and (verifyPartition_keeps first second owner descriptor bitmap _ trivial)).mono ?_ ?_
        · exact fun _ _ frame => ⟨rfl, frame.2.rest.trans same⟩
        · exact fun _ _ frame => ⟨frame.1, frame.2.rest.trans same⟩
      · exact fun _ _ kept => kept
    · rintro failure _ ⟨late, rfl⟩
      exact ⟨late, rfl⟩
  next => exact ⟨rfl, rfl⟩

/-! ### What becomes of jobs -/

/-- A transfer is about to begin: its handles are on both files, and of all files only the target is another one. -/
structure Begun (folder : Folder) (source place : Place) (bytes : ByteArray) (files : OpenFiles) : Prop where
  onInput : files.input.place = source
  onOutput : files.output = { place }
  rewrites : folder.Rewrites place bytes files.folder

theorem Begun.of_targeted {folder : Folder} {source place : Place} {bytes : ByteArray} {after : OpenFiles}
    (targeted : Targeted files place bytes after) (same : files.folder = folder) (onInput : files.input.place = source) :
    Begun folder source place bytes after := by
  obtain ⟨written, rewrites, rfl⟩ := targeted
  exact ⟨onInput, rfl, same ▸ rewrites⟩

variable {circumstances : Circumstances} {prober : Probe OpenFiles} {paths : Paths} {config : Config} {folder : Folder}
  {holds : Except Error Summary → Folder → Prop}

/-- A job on a device opens it and asks the probe, and so far no file has changed. -/
theorem leads_probing (peeks : prober.Peeks) {run : Run OpenFiles} {next : Descriptor × Bitmap → Transfer OpenFiles α}
    {returned : α → Run OpenFiles → Prop} {failed : Error → Run OpenFiles → Prop}
    (refused : ∀ failure after, after.world.folder = run.world.folder → failed failure after)
    (goes : ∀ source entry descriptor bitmap probed, run.world.folder.find path = .ok (source, entry) →
      Probed descriptor bitmap → probed.world.folder = run.world.folder → probed.world.input.place = source →
      Leads (next (descriptor, bitmap) probed) returned failed) :
    Leads ((do
      inWorld (openInput path)
      let answer ← Transfer.probe prober
      next answer : Transfer OpenFiles α) run) returned failed := by
  rw [leads_bind, leads_inWorld]
  refine (openInput_cases path run.world).mono ?_ ?_
  · rintro _ _ ⟨source, entry, found, rfl⟩
    rw [leads_bind]
    refine (probe_leads_of_peeks peeks _).mono ?_ ?_
    · rintro ⟨descriptor, bitmap⟩ probed ⟨fits, position, stands⟩
      apply goes source entry descriptor bitmap probed found fits
      · rw [stands]
        rfl
      · rw [stands]
        rfl
    · rintro failure probed ⟨position, stands⟩
      apply refused
      rw [stands]
      rfl
  · rintro failure _ ⟨_, rfl⟩
    exact refused failure _ rfl

/-- What holds of a job that is refused and of a session that images one file to another holds of the job. -/
theorem cloneToImage_leads (peeks : prober.Peeks) (refused : ∀ failure, holds (.error failure) folder)
    (images : ∀ source entry place descriptor bitmap (run : Run OpenFiles),
      folder.find paths.source = .ok (source, entry) → folder.Offers paths.target paths.overwrite place →
      Probed descriptor bitmap → Begun folder source place ByteArray.empty run.world →
      Leads (writeImage circumstances.owner OpenFiles.source OpenFiles.target.toSink descriptor bitmap run)
        (fun summary after => holds (.ok summary) after.world.folder)
        fun failure after => holds (.error failure) after.world.folder) :
    holds (cloneToImage circumstances prober paths config folder).result
      (cloneToImage circumstances prober paths config folder).folder := by
  rw [cloneToImage]
  refine run_leads refused (leads_probing peeks ?_ ?_)
  · intro failure after same
    exact same ▸ refused failure
  · intro source entry descriptor bitmap probed found fits same onInput
    have same : probed.world.folder = folder := same
    have refused' (failure : Error) : holds (.error failure) probed.world.folder := same ▸ refused failure
    rw [leads_bind, leads_settling, leads_bind, leads_get]
    refine leads_judge (fun failure => ?_) fun may => ?_
    · exact refused' failure
    rw [leads_bind, leads_ofExcept]
    cases circumstances.machine.ensureSpace (Layout.imageSize descriptor (imageOptions config)) with
    | error failure => exact refused' failure
    | ok _ =>
      refine leads_inWorld.mpr ((createImage_cases may).mono ?_ ?_)
      · rintro _ opened ⟨place, offers, targeted⟩
        exact images source entry place descriptor bitmap _ found (same ▸ offers) fits (.of_targeted targeted same onInput)
      · rintro failure _ rfl
        exact refused' failure

/-- A target for which there is no room may have been made by then, but nothing else has changed. -/
def Full (folder : Folder) (paths : Paths) (holds : Except Error Summary → Folder → Prop) : Prop :=
  ∀ failure place after, ¬ failure.Early → folder.Offers paths.target paths.overwrite place →
    folder.Rewrites place (folder.bytesAt place) after → holds (.error failure) after

theorem holds_of_noRoom (refused : ∀ failure, holds (.error failure) folder) (full : Full folder paths holds)
    {machine : Machine} {place : Place} {deviceSize dataBytes : Nat} {failure : Error} {after : OpenFiles}
    (same : files.folder = folder) (offers : folder.Offers paths.target paths.overwrite place)
    (none : NoRoom machine files place deviceSize dataBytes failure after) : holds (.error failure) after.folder := by
  subst same
  cases none with
  | space => exact refused failure
  | length large opened =>
    obtain ⟨made, rewrites, rfl⟩ := opened
    exact full _ place made (Error.not_early "io" rfl (by decide)) offers rewrites

/-- The same of a job that copies one file onto another, which it may compare with it afterwards. -/
theorem cloneToPartition_leads (peeks : prober.Peeks) (refused : ∀ failure, holds (.error failure) folder)
    (full : Full folder paths holds)
    (copies : ∀ source entry place descriptor bitmap (run : Run OpenFiles),
      folder.find paths.source = .ok (source, entry) → folder.Offers paths.target paths.overwrite place →
      Probed descriptor bitmap →
      Begun folder source place (Bytes.padded (folder.bytesAt place) descriptor.deviceSize.toNat) run.world →
      Leads (copyPartition circumstances.owner OpenFiles.source OpenFiles.target descriptor bitmap run)
        (fun summary after => holds (.ok summary) after.world.folder ∧
          ∀ failure, ¬ failure.Early → holds (.error failure) after.world.folder)
        fun failure after => holds (.error failure) after.world.folder) :
    holds (cloneToPartition circumstances prober paths config folder).result
      (cloneToPartition circumstances prober paths config folder).folder := by
  rw [cloneToPartition]
  refine run_leads refused (leads_probing peeks ?_ ?_)
  · intro failure after same
    exact same ▸ refused failure
  · intro source entry descriptor bitmap probed found fits same onInput
    have same : probed.world.folder = folder := same
    have refused' (failure : Error) : holds (.error failure) probed.world.folder := same ▸ refused failure
    rw [leads_bind, leads_settling, leads_bind, leads_get]
    refine leads_judge (fun failure => ?_) fun may => ?_
    · exact refused' failure
    refine leads_inWorld.mpr ((prepareTarget_cases _ _ _ may).mono ?_ ?_)
    · rintro _ opened ⟨place, offers, targeted⟩
      rw [same] at offers targeted
      rw [leads_bind]
      refine (copies source entry place descriptor bitmap _ found offers fits
        (.of_targeted targeted same onInput)).weaken ?_
      rintro summary after ⟨copied, late⟩
      refine (compare_leads circumstances.owner paths config descriptor bitmap summary after).mono ?_ ?_
      · rintro _ last ⟨rfl, still⟩
        exact still ▸ copied
      · rintro failure last ⟨later, still⟩
        exact still ▸ late failure later
    · rintro failure _ (rfl | ⟨place, offers, none⟩)
      · exact refused' failure
      · exact holds_of_noRoom refused full same (same ▸ offers) none

/-- The same of a job that restores an image file to another file. -/
theorem restore_leads (refused : ∀ failure, holds (.error failure) folder) (full : Full folder paths holds)
    (restores : ∀ source entry place head bitmap (run : Run (ReadAhead OpenFiles)),
      folder.find paths.source = .ok (source, entry) → folder.Offers paths.target paths.overwrite place →
      Probed head.descriptor bitmap →
      Begun folder source place (Bytes.padded (folder.bytesAt place) head.descriptor.deviceSize.toNat)
        run.world.world →
      Leads (restoreBlocks circumstances.owner OpenFiles.source.toStream.readAhead OpenFiles.target.besideReadAhead head
          bitmap run)
        (fun summary after => holds (.ok summary) after.world.world.folder)
        fun failure after => holds (.error failure) after.world.world.folder) :
    holds (restore circumstances paths config folder).result (restore circumstances paths config folder).folder := by
  rw [restore]
  apply run_leads refused
  rw [leads_bind, leads_inWorld, leads_below]
  refine (openInput_cases _ _).mono ?_ ?_
  · rintro _ _ ⟨source, entry, found, rfl⟩
    rw [leads_bind]
    refine (readImage_leads_of_input _).mono ?_ ?_
    · rintro ⟨head, bitmap⟩ opened ⟨fits, same, onInput⟩
      have same : opened.world.world.folder = folder := same
      have refused' (failure : Error) : holds (.error failure) opened.world.world.folder := same ▸ refused failure
      rw [leads_bind, leads_settling, leads_bind, leads_get]
      refine leads_judge (fun failure => ?_) fun may => ?_
      · exact refused' failure
      refine leads_inWorld.mpr (leads_below.mpr ((prepareTarget_cases _ _ _ may).mono ?_ ?_))
      · rintro _ ready ⟨place, offers, targeted⟩
        rw [same] at offers targeted
        exact restores source entry place head bitmap _ found offers fits (.of_targeted targeted same onInput)
      · rintro failure _ (rfl | ⟨place, offers, none⟩)
        · exact refused' failure
        · exact holds_of_noRoom refused full same (same ▸ offers) none
    · intro failure opened same
      rw [same]
      exact refused failure
  · rintro failure _ ⟨_, rfl⟩
    exact refused failure

end Job

end BlockImage
