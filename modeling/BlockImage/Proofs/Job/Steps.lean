import BlockImage.Job
import BlockImage.Proofs.Folder.OpenFiles
import BlockImage.Proofs.Image.Opening

/-!
# The steps of a job

Where nothing stands in the way of a job, it opens its source and its target, and of all files only the target is
another one then: an image file is empty, and a target to restore to is as long as the device at least.
-/
namespace BlockImage

/-- A probe that changes nothing but the place where the source is read next. -/
structure Probe.OnlyReads (prober : Probe OpenFiles) : Prop where
  describe : ∀ files, Leads (prober.describe files) (fun _ after => ∃ position, after = files.reading position)
    fun _ _ => True
  allocation : ∀ descriptor files, Leads (prober.allocation descriptor files)
    (fun _ after => ∃ position, after = files.reading position) fun _ _ => True

theorem OpenFiles.length_leads (files : OpenFiles) :
    Leads (OpenFiles.source.length files)
      (fun size after => after = files ∧ files.endOf files.input = .ok size) fun _ _ => True := by
  change Leads ((get >>= fun files => MonadExcept.ofExcept (files.endOf files.input) : Call OpenFiles Nat) files) _ _
  rw [leads_bind, leads_get, leads_ofExcept]
  cases files.endOf files.input with
  | ok size => exact ⟨rfl, rfl⟩
  | error cause => trivial

theorem RawBlocks.probe_onlyReads (raw : RawBlocks) (grants : Nat → Bool) :
    (raw.probe OpenFiles.source grants).OnlyReads where
  describe files := by
    rw [RawBlocks.probe]
    simp only [leads_bind, leads_adaptExcept]
    refine files.length_leads.mono ?_ fun _ _ _ => trivial
    rintro size after ⟨rfl, _⟩
    exact ⟨0, rfl⟩
  allocation descriptor files := by
    rw [RawBlocks.probe]
    simp only [leads_bind, leads_ofExcept]
    cases Bitmap.create descriptor.totalBlocks.toNat grants with
    | ok bitmap => exact ⟨files.input.position, rfl⟩
    | error failure => trivial

/-- A probe that answers what it is told beforehand. -/
def Probe.listed {ω : Type} (name : String) (descriptor : Descriptor) (bitmap : Bitmap) : Probe ω where
  name
  describe := return descriptor
  allocation _ := return bitmap

theorem Probe.listed_onlyReads (name : String) (descriptor : Descriptor) (bitmap : Bitmap) :
    (Probe.listed name descriptor bitmap : Probe OpenFiles).OnlyReads where
  describe files := ⟨files.input.position, rfl⟩
  allocation _ files := ⟨files.input.position, rfl⟩

namespace Transfer

variable {run probed : Run OpenFiles} {descriptor : Descriptor} {bitmap : Bitmap}

/-- Probing changes neither the settings nor the files, and takes no memory away. -/
theorem probe_onlyReads {prober : Probe OpenFiles} (reads : prober.OnlyReads)
    (answered : probe prober run = .ok (descriptor, bitmap) probed) :
    probed.session.config = run.session.config ∧ probed.grants = run.grants ∧ probed.running = run.running ∧
      ∃ position, probed.world = run.world.reading position := by
  have asked : ∀ (geometry : Descriptor) files, (∃ position, files = run.world.reading position) →
      Leads (prober.allocation geometry files) (fun _ after => ∃ position, after = run.world.reading position)
        fun _ _ => True := by
    rintro geometry _ ⟨position, rfl⟩
    exact reads.allocation geometry _
  obtain ⟨_, ⟨_, _, stands⟩, running, settings, grants⟩ := (probe_leads (reads.describe run.world) asked).of_ok answered
  exact ⟨settings, grants, running, stands⟩

/-- Blocks that are counted in a file lie in it. -/
theorem inside_of_raw {raw : RawBlocks} {grants : Nat → Bool} {bytes : ByteArray}
    (there : run.world.folder.get? run.world.input.place = some (.file bytes))
    (answered : probe (raw.probe OpenFiles.source grants) run = .ok (descriptor, bitmap) probed) :
    ∀ block, bitmap.get block = true → (block + 1) * descriptor.blockSize.toNat ≤ bytes.size := by
  let counted : Descriptor → Prop := fun geometry =>
    geometry.totalBlocks.toNat * geometry.blockSize.toNat ≤ bytes.size
  have describe : Leads ((raw.probe OpenFiles.source grants).describe run.world) (fun geometry _ => counted geometry)
      fun _ _ => True := by
    rw [RawBlocks.probe]
    simp only [leads_bind, leads_adaptExcept]
    refine run.world.length_leads.mono ?_ fun _ _ _ => trivial
    rintro size _ ⟨_, ends⟩
    have same : size = bytes.size := by
      rw [OpenFiles.endOf, OpenFiles.content, there] at ends
      exact (Except.ok.inj ends).symm
    subst same
    -- Storing the number of blocks can only make it smaller.
    have whole := Nat.div_mul_le_self bytes.size raw.blockSize.toNat
    have fewer : (UInt64.ofNat (bytes.size / raw.blockSize.toNat)).toNat ≤ bytes.size / raw.blockSize.toNat := by
      rw [UInt64.toNat_ofNat']
      exact Nat.mod_le _ _
    exact Nat.le_trans (Nat.mul_le_mul_right _ fewer) whole
  have allocation : ∀ geometry files, counted geometry →
      Leads ((raw.probe OpenFiles.source grants).allocation geometry files) (fun _ _ => counted geometry)
        fun _ _ => True :=
    fun _ _ counts => .of_all (fun _ _ => counts) fun _ _ => trivial
  obtain ⟨fits, ⟨geometry, same, counts⟩, _⟩ := (probe_leads describe allocation).of_ok answered
  have inside : counted descriptor := by
    change descriptor = geometry.verifiedBy bitmap at same
    rw [same]
    exact counts
  intro block marks
  have below : block < descriptor.totalBlocks.toNat := fits.total ▸ Bitmap.lt_total_of_get marks
  exact Nat.le_trans (Nat.mul_le_mul_right _ below) inside

end Transfer

namespace Job

variable {α ω : Type} {folder : Folder} {files : OpenFiles} {path : String} {overwrite : Bool} {place : Place}

/-- A job whose session succeeds gives what the session gives. -/
theorem run_of_leads {circumstances : Circumstances} {direction : Direction} {config : Config} {world : ω}
    {folderOf : ω → Folder} {body : Transfer ω α} (accepted : config.validate direction = .ok ())
    {done : α → Folder → Prop}
    (leads : Leads (body {
        session := { direction, config }, running := circumstances.running, world, grants := circumstances.grants })
      (fun value after => done value (folderOf after.world)) fun _ _ => False) :
    ∃ value after events, run circumstances direction config folder world folderOf body =
      { result := .ok value, folder := after, events } ∧ done value after := by
  obtain ⟨value, after, came, held⟩ := leads.exists_ok
  refine ⟨value, folderOf after.world, after.events, ?_, held⟩
  simp only [run, Session.start_of_accepted accepted, came]

theorem openInput_leads {entry : Entry} (found : files.folder.find path = .ok (place, entry)) :
    Leads (openInput path files) (fun _ after => after = { files with input := { place } }) fun _ _ => False := by
  rw [openInput, leads_bind, leads_get, leads_bind, leads_adaptExcept, leads_ofExcept, found]
  rfl

theorem checkOverwrite_eq (offers : folder.Offers path overwrite place) :
    checkOverwrite folder path overwrite = .ok () := by
  rw [checkOverwrite, if_pos]
  · rfl
  · rcases offers.overwrites_or_missing with overwrites | missing
    · exact .inl overwrites
    · exact .inr (by rw [missing]; exact Bool.false_ne_true)

/-- An image file is made anew, or emptied. -/
theorem createImage_leads (offers : files.folder.Offers path overwrite place) :
    Leads (createImage path overwrite files)
      (fun _ after => ∃ folder, files.folder.Rewrites place ByteArray.empty folder ∧
        after = { files with folder, output := { place } })
      fun _ _ => False := by
  rw [createImage, leads_bind, leads_get]
  split
  next overwrites =>
    obtain ⟨opened, same, rewrites⟩ := offers.openFile
    rw [leads_bind, leads_ofExcept, same]
    have emptied : Bytes.resize (opened.bytesAt place) 0 = ByteArray.empty := by
      rw [← ByteArray.size_eq_zero_iff, Bytes.size_resize]
    refine ⟨_, ?_, rfl⟩
    change files.folder.Rewrites place ByteArray.empty (opened.put place (.file (Bytes.resize (opened.bytesAt place) 0)))
    rw [emptied]
    exact rewrites.put _
  next keeps =>
    have nothing : files.folder.get? place = none := offers.free.resolve_right fun there => keeps there.1
    obtain ⟨created, same, rewrites⟩ := offers.createFile nothing
    rw [same]
    exact ⟨created, rewrites, rfl⟩

/-- What is at a free place is as long as the file there. -/
theorem inspect_eq (offers : folder.Offers path overwrite place) :
    inspect folder path = .error .notFound ∨
      ∃ info, inspect folder path = .ok info ∧ info.size = (folder.bytesAt place).size := by
  rcases offers.free with nothing | ⟨_, bytes, there⟩
  · refine .inl ?_
    rw [inspect, Folder.find_of_none offers.leads nothing]
    rfl
  · refine .inr ⟨{ path, size := bytes.size }, ?_, ?_⟩
    · rw [inspect, Folder.find_of_resolveFile offers.leads there]
      rfl
    · rw [Folder.bytesAt_of_get? there]

/-- A file is lengthened where it is short, unless it would be too long then. -/
theorem extendFile_cases (size : Nat) {opened : Folder}
    (rewrites : folder.Rewrites place (folder.bytesAt place) opened) :
    (∃ after, opened.extendFile place size = .ok after ∧
      folder.Rewrites place (Bytes.padded (folder.bytesAt place) size) after) ∨
    Folder.fileSizeLimit < size ∧ opened.extendFile place size = .error .fileTooLarge := by
  rw [Folder.extendFile, rewrites.bytesAt]
  split
  next long =>
    rw [Bytes.padded_eq_self long]
    exact .inl ⟨opened, rfl, rewrites⟩
  next short =>
    split
    next large => exact .inr ⟨large, rfl⟩
    next fits =>
      refine .inl ⟨_, rfl, ?_⟩
      rw [Folder.setLength, rewrites.bytesAt, Bytes.resize_eq_padded (by omega)]
      exact rewrites.put _

/-- The handle for writing is on the file at a place, which holds the given bytes; no other file has changed. -/
def Targeted (files : OpenFiles) (place : Place) (bytes : ByteArray) (after : OpenFiles) : Prop :=
  ∃ folder, files.folder.Rewrites place bytes folder ∧ after = { files with folder, output := { place } }

/-- There is no room for a target: either for its data, before it was opened, or for a file as long as the device. -/
inductive NoRoom (machine : Machine) (files : OpenFiles) (place : Place) (deviceSize dataBytes : Nat) :
    Error → OpenFiles → Prop
  | space {failure : Error} (full : machine.ensureSpace dataBytes = .error failure) :
      NoRoom machine files place deviceSize dataBytes failure files
  | length {after : OpenFiles} (large : Folder.fileSizeLimit < deviceSize)
      (opened : Targeted files place (files.folder.bytesAt place) after) :
      NoRoom machine files place deviceSize dataBytes (.io .fileTooLarge) after

/-- Where there is room for a target, or none is asked for, it is opened and lengthened. -/
theorem leads_prepareTarget {machine : Machine} {deviceSize dataBytes : Nat} {returned : Unit → OpenFiles → Prop}
    {failed : Error → OpenFiles → Prop}
    (broken : ∀ cause, cause ≠ .notFound → inspect files.folder path = .error cause → failed (.io cause) files)
    (full : ∀ failure, machine.ensureSpace dataBytes = .error failure → failed failure files)
    (goes : Leads (((do
      openTarget path
      let files ← get
      let folder ← ofExcept ((files.folder.extendFile files.output.place deviceSize).mapError .io)
      set { files with folder }) : Operation OpenFiles Unit) files) returned failed) :
    Leads (prepareTarget machine path deviceSize dataBytes files) returned failed := by
  have room {next : Unit → Operation OpenFiles Unit} (goes : Leads (next () files) returned failed) :
      Leads ((ofExcept (machine.ensureSpace dataBytes) >>= next : Operation OpenFiles Unit) files) returned failed := by
    rw [leads_bind, leads_ofExcept]
    cases space : machine.ensureSpace dataBytes with
    | error failure => exact full failure space
    | ok _ => exact goes
  rw [prepareTarget, leads_bind, leads_get]
  -- Room is asked for where the target is missing or short.
  cases inspected : inspect files.folder path with
  | error cause =>
    cases cause
    case notFound => exact room goes
    all_goals exact broken _ nofun inspected
  | ok info =>
    dsimp only
    split
    · exact room goes
    · exact goes

/-- A target that is offered is opened and lengthened, unless there is no room for it. -/
theorem prepareTarget_leads_of_offers (machine : Machine) (deviceSize dataBytes : Nat)
    (offers : files.folder.Offers path overwrite place) :
    Leads (prepareTarget machine path deviceSize dataBytes files)
      (fun _ => Targeted files place (Bytes.padded (files.folder.bytesAt place) deviceSize))
      (NoRoom machine files place deviceSize dataBytes) := by
  obtain ⟨opened, same, rewrites⟩ := offers.openFile
  have opens : (files.folder.openFile path).mapError Error.io = .ok (place, opened) := by
    rw [same]
    rfl
  apply leads_prepareTarget
  · intro cause other broken
    -- Either nothing is there or a file.
    rcases inspect_eq offers with missing | ⟨info, there, _⟩
    · rw [missing, Except.error.injEq] at broken
      exact absurd broken.symm other
    · rw [there] at broken
      cases broken
  · exact fun failure full => .space full
  · simp only [leads_bind, leads_ofExcept, openTarget, beginOutput, leads_get, leads_modify, opens]
    rcases extendFile_cases deviceSize rewrites with ⟨after, extended, padded⟩ | ⟨large, refused⟩
    · rw [extended]
      exact ⟨after, padded, rfl⟩
    · rw [refused]
      exact .length large ⟨opened, rewrites, rfl⟩

/-- A target is there then, with its bytes and zeros behind them up to the size of the device. -/
theorem prepareTarget_leads {machine : Machine} {deviceSize dataBytes : Nat}
    (offers : files.folder.Offers path overwrite place) (space : machine.ensureSpace dataBytes = .ok ())
    (fits : deviceSize ≤ Folder.fileSizeLimit) :
    Leads (prepareTarget machine path deviceSize dataBytes files)
      (fun _ after => ∃ folder,
        files.folder.Rewrites place (Bytes.padded (files.folder.bytesAt place) deviceSize) folder ∧
        after = { files with folder, output := { place } })
      fun _ _ => False := by
  refine (prepareTarget_leads_of_offers machine deviceSize dataBytes offers).mono (fun _ _ opened => opened) ?_
  intro failure after none
  cases none with
  | space full =>
    rw [space] at full
    cases full
  | length large => omega

end Job

end BlockImage
