import BlockImage.Proofs.Image.Decoding
import BlockImage.Proofs.Image.Probed
import BlockImage.Transfer.Restoring

/-!
# What restoring takes from a stream

A session that restores an image takes the blocks that the stream holds, however many it reads at a time, and puts them
where the bitmap marks them. It fails at the first tag that does not fit, unless tags are to be ignored.
-/
namespace BlockImage

/-- A run whose session has counted so many more tags. -/
def Run.countTags {ω : Type} (run : Run ω) (count : Nat) : Run ω :=
  { run with
    session := { run.session with summary := { run.session.summary with tags := run.session.summary.tags + count } } }

@[simp] theorem Run.countTags_countTags {ω : Type} (run : Run ω) (first second : Nat) :
    (run.countTags first).countTags second = run.countTags (first + second) := by
  simp [countTags, Nat.add_assoc]

/-- Nothing but the world of a run has changed, and that within its frame. -/
def Run.Frames {ω β : Type} (run : Run ω) (kept : ω → Prop) (rest : ω → β) (after : Run ω) : Prop :=
  ∃ world, after = { run with world } ∧ Frame kept rest run.world world

/-- A write failed as `fails` allows, and nothing but the world of the run has changed. -/
structure Run.FailsToWrite {ω β : Type} (run : Run ω) (kept : ω → Prop) (rest : ω → β) (fails : IoError → Prop)
    (failure : Error) (after : Run ω) : Prop where
  frames : run.Frames kept rest after
  written : ∃ offset cause, failure = .write offset cause ∧ fails cause

theorem Run.Frames.trans {ω β : Type} {first second third : Run ω} {kept : ω → Prop} {rest : ω → β}
    (left : first.Frames kept rest second) (right : second.Frames kept rest third) : first.Frames kept rest third := by
  obtain ⟨_, rfl, earlier⟩ := left
  obtain ⟨world, rfl, later⟩ := right
  exact ⟨world, rfl, earlier.trans later⟩

theorem Run.Frames.kept {ω β : Type} {run after : Run ω} {kept : ω → Prop} {rest : ω → β}
    (frames : run.Frames kept rest after) : kept after.world := by
  obtain ⟨_, rfl, frame⟩ := frames
  exact frame.kept

namespace Transfer

variable {ω : Type} {head : Head} {stream data : ByteArray} {base number : Nat}

theorem checkTag_leads {run : Run ω} {register : Checksum.Register} {stored : ByteArray} {block : Nat}
    (tags : 0 < register.algorithm.tagSize) (size : stored.size = register.algorithm.tagSize) :
    Leads (checkTag register stored block run)
      (fun _ after => after = run ∧ (run.session.config.ignoreChecksum = true ∨
        UInt32.ofNat (LittleEndian.decode stored.data.toList) = register.value))
      fun failure after => after = run ∧ run.session.config.ignoreChecksum = false ∧
        UInt32.ofNat (LittleEndian.decode stored.data.toList) ≠ register.value ∧
        failure = .checksumMismatch block register.algorithm
          (UInt32.ofNat (LittleEndian.decode stored.data.toList)) register.value := by
  have read : Checksum.Register.readTag? register.algorithm stored =
      some (UInt32.ofNat (LittleEndian.decode stored.data.toList)) := by
    rw [Checksum.Register.readTag?, if_neg (by omega), Bytes.extract_eq_self (Nat.le_of_eq size)]
  rw [checkTag, leads_bind, leads_get]
  -- A tag of the right size can be read, so only the setting and the comparison decide.
  cases ignores : run.session.config.ignoreChecksum with
  | true => exact ⟨rfl, .inl rfl⟩
  | false =>
    rw [read]
    change Leads ((if _ ≠ register.value then throw _ else pure () : Transfer ω Unit) run) _ _
    split
    next differs => exact ⟨rfl, rfl, differs, rfl⟩
    next same => exact ⟨rfl, .inr (Decidable.of_not_not same)⟩

/-- What was read of the stream begins at `base`, and so far the blocks before `number` are taken off it. -/
structure Unpacked (head : Head) (stream data : ByteArray) (base number : Nat) (unpacking : Unpacking) : Prop where
  read : data = stream.extract base (base + data.size)
  position : base + unpacking.position = head.startOf number
  group : number < head.total → unpacking.group = Group.after head.options (head.blocksIn stream) number

/-- The failure that a tag gives which does not fit. -/
def mismatchAt (head : Head) (stream : ByteArray) (number : Nat) : Error :=
  .checksumMismatch number head.options.checksum (head.storedIn stream number) (head.registerIn stream number).value

namespace Unpacked

variable {unpacking : Unpacking}

theorem extract_eq (unpacked : Unpacked head stream data base number unpacking) {start count : Nat}
    (within : start + count ≤ data.size) :
    data.extract start (start + count) = stream.extract (base + start) (base + start + count) := by
  rw [unpacked.read, ByteArray.extract_extract, Nat.min_eq_left (by omega), Nat.add_assoc]

theorem block_eq (unpacked : Unpacked head stream data base number unpacking)
    (within : unpacking.position + head.width ≤ data.size) :
    data.extract unpacking.position (unpacking.position + head.width) = head.blockIn stream number := by
  rw [unpacked.extract_eq within, unpacked.position, Head.blockIn]

theorem tag_eq (unpacked : Unpacked head stream data base number unpacking)
    (within : unpacking.position + head.width + head.options.checksum.tagSize ≤ data.size) :
    data.extract (unpacking.position + head.width)
        (unpacking.position + head.width + head.options.checksum.tagSize) = head.tagIn stream number := by
  rw [unpacked.extract_eq within, ← Nat.add_assoc, unpacked.position, Head.tagIn]

/-- With the block the register is the one whose value the tag behind it stores. -/
theorem add_eq (unpacked : Unpacked head stream data base number unpacking) (tagged : head.options.tagged = true)
    (inside : number < head.total) : unpacking.group.add (head.blockIn stream number) =
      { register := head.registerIn stream number,
        filled := number % head.options.blocksPerChecksum.toNat + 1 } := by
  have bound : number < (head.blocksIn stream).length := by
    rw [Head.length_blocksIn]
    exact inside
  rw [unpacked.group inside, ← Head.getElem_blocksIn bound, Group.add_after tagged bound, Head.registerIn]

/-- Where no tag follows the block, the group that it is added to goes on. -/
theorem add_eq_after (unpacked : Unpacked head stream data base number unpacking) (tagged : head.options.tagged = true)
    (inside : number < head.total) (goes : ¬ head.Closes number) :
    unpacking.group.add (head.blockIn stream number) =
      Group.after head.options (head.blocksIn stream) (number + 1) := by
  have bound : number < (head.blocksIn stream).length := by
    rw [Head.length_blocksIn]
    exact inside
  rw [unpacked.group inside, ← Head.getElem_blocksIn bound]
  exact Group.add_after_eq tagged bound fun zero => goes ⟨tagged, .inl zero⟩

end Unpacked

/-- The next block comes off what was read, and the tag behind it, unless that does not fit. -/
theorem takeBlock_leads {unpacking : Unpacking} (unpacked : Unpacked head stream data base number unpacking)
    (inside : number < head.total) (reaches : head.startOf (number + 1) ≤ base + data.size)
    (whole : base + data.size ≤ stream.size) {run : Run ω} :
    Leads (takeBlock head data unpacking number run)
      (fun taken after => Unpacked head stream data base (number + 1) taken ∧
        taken.blocks = unpacking.blocks ++ head.blockIn stream number ∧
        (head.Closes number → run.session.config.ignoreChecksum = true ∨ head.Fits stream number) ∧
        after = run.countTags (if head.Closes number then 1 else 0))
      fun failure after => after = run ∧ run.session.config.ignoreChecksum = false ∧ head.Closes number ∧
        ¬ head.Fits stream number ∧ failure = mismatchAt head stream number := by
  have position := unpacked.position
  have next := Head.startOf_succ inside
  rw [takeBlock]
  simp only [unpacked.block_eq (by omega)]
  by_cases closes : head.Closes number
  · -- The block fills its group or is the last one: its tag is compared, and the next group begins.
    rw [if_pos closes] at next
    have stored : (head.tagIn stream number).size = (head.registerIn stream number).algorithm.tagSize := by
      change _ = head.options.checksum.tagSize
      rw [Head.tagIn, ByteArray.size_extract]
      omega
    rw [if_pos closes.1, unpacked.add_eq closes.1 inside, if_pos ((Layout.closes_iff closes.1).mp closes), leads_bind,
      unpacked.tag_eq (by omega)]
    refine (checkTag_leads (Layout.tagSize_pos closes.1) stored).mono ?_ ?_
    · rintro _ after ⟨rfl, fits⟩
      rw [leads_bind, leads_tally, leads_pure, if_pos closes]
      refine ⟨⟨unpacked.read, ?_, fun more => ?_⟩, rfl, fun _ => fits, rfl⟩
      · change base + (unpacking.position + head.width + head.options.checksum.tagSize) = _
        omega
      · exact Group.next_eq_after closes.1 (closes.2.resolve_right (by omega)) _
    · rintro failure after ⟨rfl, compares, unfit, rfl⟩
      exact ⟨rfl, compares, closes, unfit, rfl⟩
  · rw [if_neg closes] at next
    have stands : base + (unpacking.position + head.width) = head.startOf (number + 1) := by omega
    rw [if_neg closes]
    by_cases tagged : head.options.tagged = true
    · -- The group goes on.
      have goes := unpacked.add_eq tagged inside
      rw [if_pos tagged, goes, if_neg (mt (Layout.closes_iff tagged).mpr closes), leads_pure, ← goes]
      exact ⟨⟨unpacked.read, stands, fun _ => unpacked.add_eq_after tagged inside closes⟩, rfl,
        fun closed => absurd closed closes, rfl⟩
    · -- Without tags the group never changes.
      rw [if_neg tagged, leads_pure]
      refine ⟨⟨unpacked.read, stands, fun more => ?_⟩, rfl, fun closed => absurd closed closes, rfl⟩
      change unpacking.group = _
      rw [unpacked.group inside, Group.after, Group.after, if_neg tagged, if_neg tagged]

/-- Of the blocks from `first` on and before `stop`, all tags fit, unless they are to be ignored. -/
def Accepted (head : Head) (stream : ByteArray) (ignores : Bool) (first stop : Nat) : Prop :=
  ∀ number, first ≤ number → number < stop → head.Closes number → ignores = true ∨ head.Fits stream number

/-- Of the tags of the blocks from `first` on, one does not fit, and it is not ignored; those before it fit. -/
def Rejected (head : Head) (stream : ByteArray) (ignores : Bool) (first stop : Nat) (failure : Error) : Prop :=
  ignores = false ∧ ∃ number, first ≤ number ∧ number < stop ∧ head.Closes number ∧ ¬ head.Fits stream number ∧
    Accepted head stream ignores first number ∧ failure = mismatchAt head stream number

theorem Accepted.of_le {ignores : Bool} {first stop : Nat} (none : stop ≤ first) :
    Accepted head stream ignores first stop :=
  fun _ behind before => absurd (Nat.lt_of_lt_of_le before none) (Nat.not_lt.mpr behind)

theorem Accepted.append {ignores : Bool} {first middle stop : Nat} (earlier : Accepted head stream ignores first middle)
    (later : Accepted head stream ignores middle stop) : Accepted head stream ignores first stop := by
  intro number behind before closes
  -- Each of the blocks lies in one of the two parts.
  rcases Nat.lt_or_ge number middle with passed | ahead
  · exact earlier number behind passed closes
  · exact later number ahead before closes

theorem Rejected.behind {ignores : Bool} {first middle stop last : Nat} {failure : Error} (ordered : first ≤ middle)
    (within : stop ≤ last) (earlier : Accepted head stream ignores first middle)
    (rejected : Rejected head stream ignores middle stop failure) : Rejected head stream ignores first last failure := by
  obtain ⟨compares, number, behind, before, closes, unfit, accepted, rfl⟩ := rejected
  exact ⟨compares, number, Nat.le_trans ordered behind, Nat.lt_of_lt_of_le before within, closes, unfit,
    earlier.append accepted, rfl⟩

/-- Of the blocks behind `done`, the first `index` are off, their tags are accepted, and as many are counted as follow
them. -/
structure Unpacks (head : Head) (stream data : ByteArray) (run : Run ω) (done index : Nat) (unpacking : Unpacking)
    (after : Run ω) : Prop where
  unpacked : Unpacked head stream data (head.startOf done) (done + index) unpacking
  blocks : unpacking.blocks = Bytes.join (((head.blocksIn stream).drop done).take index)
  accepted : Accepted head stream run.session.config.ignoreChecksum done (done + index)
  counted : ∃ tags, after = run.countTags tags ∧ Layout.tagsBefore head.options head.total done + tags =
    Layout.tagsBefore head.options head.total (done + index)

theorem Unpacks.takeBlock {run after : Run ω} {done index count : Nat} {unpacking : Unpacking}
    (unpacks : Unpacks head stream data run done index unpacking after) (below : index < count)
    (within : done + count ≤ head.total) (reaches : head.startOf (done + count) ≤ head.startOf done + data.size)
    (whole : head.startOf done + data.size ≤ stream.size) :
    Leads (takeBlock head data unpacking (done + index) after) (Unpacks head stream data run done (index + 1))
      fun failure later => (∃ tags, later = run.countTags tags) ∧
        Rejected head stream run.session.config.ignoreChecksum done (done + count) failure := by
  have reach : head.startOf (done + index + 1) ≤ head.startOf (done + count) := Head.startOf_mono (by omega) within
  obtain ⟨tags, rfl, counted⟩ := unpacks.counted
  refine (takeBlock_leads unpacks.unpacked (by omega) (by omega) whole).mono ?_ ?_
  · rintro taken later ⟨unpacked, more, fits, rfl⟩
    have bound : done + index < (head.blocksIn stream).length := by
      rw [Head.length_blocksIn]
      omega
    have item : ((head.blocksIn stream).drop done)[index]? = some (head.blockIn stream (done + index)) := by
      rw [List.getElem?_drop, List.getElem?_eq_getElem bound, Head.getElem_blocksIn]
    refine ⟨unpacked, ?_, ?_, _, Run.countTags_countTags .., ?_⟩
    · rw [more, unpacks.blocks, List.take_add_one, item, Option.toList_some, Bytes.join_append, Bytes.join_cons,
        Bytes.join_nil, ByteArray.append_empty]
    · -- Behind those accepted so far there is only the tag that has just been compared.
      refine unpacks.accepted.append fun number behind before closes => ?_
      obtain rfl : number = done + index := by omega
      exact fits closes
    · rw [← Nat.add_assoc, counted, ← Nat.add_assoc, Layout.tagsBefore_succ (.inl (by omega))]
  · rintro failure later ⟨rfl, compares, closes, unfit, rfl⟩
    exact ⟨⟨tags, rfl⟩, compares, done + index, by omega, by omega, closes, unfit, unpacks.accepted, rfl⟩

/-- Consecutive blocks come off what was read up to the first tag that does not fit. -/
theorem unpack_leads {group : Group} {done count : Nat} (within : done + count ≤ head.total)
    (read : data = stream.extract (head.startOf done) (head.startOf done + data.size))
    (size : head.startOf done + data.size = head.startOf (done + count))
    (whole : head.startOf (done + count) ≤ stream.size)
    (stands : done < head.total → group = Group.after head.options (head.blocksIn stream) done) (run : Run ω) :
    Leads (unpack head group data done count run) (Unpacks head stream data run done count)
      fun failure after => (∃ tags, after = run.countTags tags) ∧
        Rejected head stream run.session.config.ignoreChecksum done (done + count) failure := by
  rw [unpack]
  refine leads_foldlM_range (Unpacks head stream data run done) ?_ ?_
  · intro index unpacking after below unpacks
    exact unpacks.takeBlock below within (Nat.le_of_eq size.symm) (size ▸ whole)
  · exact ⟨⟨read, rfl, stands⟩, rfl, .of_le (Nat.le_refl _), 0, rfl, rfl⟩

section Scattering

variable {β : Type} {kept : ω → Prop} {view : ω → View} {rest : ω → β} {fails : IoError → Prop} {target : Target ω}
  {bitmap : Bitmap}

theorem placeRun_leads (writes : target.Writes kept view rest fails) (width : Nat) (blocks : ByteArray)
    (position : Nat) (chunk : Chunk) {run : Run ω} (held : kept run.world) :
    Leads (placeRun target width blocks position chunk run)
      (fun stop after => run.Frames kept rest after ∧
        stop = position + chunk.count * width ∧
        (view after.world).bytes = Bytes.overwrite (view run.world).bytes (chunk.first * width)
          (blocks.extract position (position + chunk.count * width)))
      fun failure after => run.FailsToWrite kept rest fails failure after ∧
        ∃ amount ≤ chunk.count * width,
          (view after.world).bytes = Bytes.overwrite (view run.world).bytes (chunk.first * width)
            ((blocks.extract position (position + chunk.count * width)).extract 0 amount) := by
  rw [placeRun, leads_bind, leads_call]
  refine (writes.writeAt _ _ run.world held).mono ?_ ?_
  · rintro _ world ⟨frame, placed⟩
    exact ⟨⟨world, rfl, frame⟩, rfl, by rw [placed]; rfl⟩
  · rintro cause world ⟨frame, fault, unmoved | ⟨amount, within, placed⟩⟩
    · -- The target did not even get to the place, so nothing was written.
      have none : (blocks.extract position (position + chunk.count * width)).extract 0 0 = ByteArray.empty :=
        ByteArray.extract_eq_empty_iff.mpr (Nat.min_le_left _ _)
      refine ⟨⟨⟨world, rfl, frame⟩, _, cause, rfl, fault⟩, 0, Nat.zero_le _, ?_⟩
      rw [none, Bytes.overwrite_empty, unmoved]
    · rw [ByteArray.size_extract] at within
      refine ⟨⟨⟨world, rfl, frame⟩, _, cause, rfl, fault⟩, amount, by omega, ?_⟩
      rw [placed]
      rfl

/-- As many of the blocks are at the numbered places as come before `position`, and the chunks that are left have the
places of the others. -/
def Scattered (kept : ω → Prop) (view : ω → View) (rest : ω → β) (width : Nat) (numbers : List Nat)
    (blocks : List ByteArray) (run : Run ω) (left : List Chunk) (position : Nat) (after : Run ω) : Prop :=
  ∃ used ≤ blocks.length, position = used * width ∧ numbers.drop used = left.flatMap Chunk.blocks ∧
    run.Frames kept rest after ∧
    (view after.world).bytes = Bytes.place width (view run.world).bytes (numbers.take used) (blocks.take used)

/-- A write failed, and what was written before it are the first bytes of the blocks. -/
def Torn (kept : ω → Prop) (view : ω → View) (rest : ω → β) (fails : IoError → Prop) (width : Nat) (numbers : List Nat)
    (blocks : List ByteArray) (run : Run ω) (failure : Error) (after : Run ω) : Prop :=
  run.FailsToWrite kept rest fails failure after ∧ ∃ amount ≤ (Bytes.join blocks).size,
    (view after.world).bytes = Bytes.place width (view run.world).bytes numbers (Bytes.cut amount blocks)

theorem Scattered.placeRun (writes : target.Writes kept view rest fails) {width : Nat} {numbers : List Nat}
    {blocks : List ByteArray} (length : numbers.length = blocks.length)
    (sizes : ∀ block ∈ blocks, block.size = width) {chunk : Chunk} {left : List Chunk} {position : Nat}
    {run after : Run ω}
    (scattered : Scattered kept view rest width numbers blocks run (chunk :: left) position after) :
    Leads (placeRun target width (Bytes.join blocks) position chunk after)
      (Scattered kept view rest width numbers blocks run left)
      (Torn kept view rest fails width numbers blocks run) := by
  obtain ⟨used, within, rfl, ahead, frames, bytes⟩ := scattered
  rw [List.flatMap_cons] at ahead
  have fits : used + chunk.count ≤ blocks.length := by
    have lengths := congrArg List.length ahead
    rw [List.length_drop, length, List.length_append, Chunk.length_blocks] at lengths
    omega
  -- The next places are those of the chunk, which follow each other, so one write fills them all.
  let piece := (blocks.drop used).take chunk.count
  have pieceLength : piece.length = chunk.count := by
    rw [List.length_take, List.length_drop, Nat.min_eq_left (by omega)]
  have pieceSizes : ∀ block ∈ piece, block.size = width :=
    fun block member => sizes block (List.mem_of_mem_drop (List.mem_of_mem_take member))
  have places : numbers.take (used + chunk.count) =
      numbers.take used ++ List.range' chunk.first piece.length := by
    rw [List.take_add, ahead, List.take_left' (Chunk.length_blocks _), pieceLength, Chunk.blocks]
  have parts : blocks.take (used + chunk.count) = blocks.take used ++ piece := List.take_add ..
  have both (count : Nat) : (numbers.take count).length = (blocks.take count).length := by
    rw [List.length_take, length, List.length_take]
  refine (placeRun_leads writes width _ _ chunk frames.kept).mono ?_ ?_
  · rintro stop later ⟨more, rfl, placed⟩
    refine ⟨used + chunk.count, fits, by rw [Nat.add_mul], ?_, frames.trans more, ?_⟩
    · rw [← List.drop_drop, ahead, List.drop_left' (Chunk.length_blocks _)]
    · rw [placed, bytes, Bytes.extract_join sizes fits, places, parts, Bytes.place_append _ (both used),
        Bytes.place_range' _ _ pieceSizes]
  · rintro failure later ⟨⟨more, written⟩, amount, bound, placed⟩
    have front : (Bytes.join (blocks.take used)).size = used * width := by
      rw [Bytes.size_join fun block member => sizes block (List.mem_of_mem_take member), List.length_take,
        Nat.min_eq_left within]
    have whole : (Bytes.join (blocks.take (used + chunk.count))).size = used * width + chunk.count * width := by
      rw [parts, Bytes.join_append, ByteArray.size_append, front, Bytes.size_join pieceSizes, pieceLength]
    have all : (Bytes.join blocks).size = (Bytes.join (blocks.take (used + chunk.count))).size +
        (Bytes.join (blocks.drop (used + chunk.count))).size := by
      rw [← ByteArray.size_append, ← Bytes.join_append, List.take_append_drop]
    refine ⟨⟨frames.trans more, written⟩, used * width + amount, by omega, ?_⟩
    -- What was written of the chunk follows the blocks before it, and of those behind it nothing has come.
    rw [placed, bytes, Bytes.extract_join sizes fits, ← Bytes.place_cut_range' _ _ pieceSizes,
      ← Bytes.place_cut_append _ (both used), front, ← places, ← parts,
      ← Bytes.place_cut_of_le _ (both _) (numbers.drop (used + chunk.count)) (blocks.drop (used + chunk.count))
        (by omega), List.take_append_drop, List.take_append_drop]

/-- With no chunk left all blocks are at their places. -/
theorem Scattered.all {width : Nat} {numbers : List Nat} {blocks : List ByteArray}
    (length : numbers.length = blocks.length) {position : Nat} {run after : Run ω}
    (scattered : Scattered kept view rest width numbers blocks run [] position after) :
    run.Frames kept rest after ∧
      (view after.world).bytes = Bytes.place width (view run.world).bytes numbers blocks := by
  obtain ⟨used, within, -, ahead, frames, bytes⟩ := scattered
  have all : used = blocks.length := by
    have lengths := congrArg List.length ahead
    rw [List.length_drop, length, List.flatMap_nil, List.length_nil] at lengths
    omega
  subst all
  refine ⟨frames, ?_⟩
  rw [bytes, List.take_of_length_le (l := blocks) (Nat.le_refl _),
    List.take_of_length_le (l := numbers) (Nat.le_of_eq length)]

theorem scatter_leads (writes : target.Writes kept view rest fails) {width cursor count : Nat}
    {blocks : List ByteArray} (given : blocks.length = count) (sizes : ∀ block ∈ blocks, block.size = width)
    (room : count ≤ (bitmap.markedFrom cursor).length) {run : Run ω} (held : kept run.world) :
    Leads (scatter target bitmap width cursor count (Bytes.join blocks) run)
      (fun next after => run.Frames kept rest after ∧
        bitmap.markedFrom next = (bitmap.markedFrom cursor).drop count ∧
        (view after.world).bytes = Bytes.place width (view run.world).bytes
          ((bitmap.markedFrom cursor).take count) blocks)
      (Torn kept view rest fails width ((bitmap.markedFrom cursor).take count) blocks run) := by
  subst given
  have length : ((bitmap.markedFrom cursor).take blocks.length).length = blocks.length := by
    rw [List.length_take, Nat.min_eq_left room]
  have start : Scattered kept view rest width ((bitmap.markedFrom cursor).take blocks.length) blocks run
      (bitmap.runs cursor blocks.length) 0 run :=
    ⟨0, Nat.zero_le _, by simp, (bitmap.flatMap_runs cursor blocks.length).symm, ⟨run.world, rfl, .refl held⟩, rfl⟩
  rw [scatter, leads_bind, leads_discard]
  refine (leads_foldlM (Scattered kept view rest width _ blocks run) ?_ start).weaken ?_
  · exact fun _ _ _ _ _ scattered => scattered.placeRun writes length sizes
  · intro position after scattered
    -- As many blocks are marked as have come in, so none is left over.
    have enough : ¬ Chunk.total (bitmap.runs cursor blocks.length) < blocks.length := by
      rw [bitmap.total_runs, Nat.min_eq_left room]
      exact Nat.lt_irrefl _
    obtain ⟨frames, bytes⟩ := scattered.all length
    rw [if_neg enough, leads_pure]
    exact ⟨frames, bitmap.markedFrom_runs cursor blocks.length, bytes⟩

end Scattering

/-- Where a session that began to restore at `start` stands behind `done` blocks of the stream. -/
structure Restoring (kept : ω → Prop) (input output : ω → View) (owner : Owner) (excused : Error → Prop) (head : Head)
    (bitmap : Bitmap) (start : Run ω) (done : Nat) (restored : Restored) (run : Run ω) : Prop where
  kept : kept run.world
  spares : owner.Spares excused run.running
  compares : run.session.config.ignoreChecksum = start.session.config.ignoreChecksum
  counted : restored.done = done
  group : done < head.total →
    restored.group = Group.after head.options (head.blocksIn (input start.world).left) done
  cursor : bitmap.markedFrom restored.cursor = bitmap.marked.drop done
  stands : input run.world = (input start.world).skip (head.startOf done)
  placed : (output run.world).bytes = Bytes.place head.width (output start.world).bytes (bitmap.marked.take done)
    ((head.blocksIn (input start.world).left).take done)
  tags : run.session.summary.tags = start.session.summary.tags + Layout.tagsBefore head.options head.total done
  blocks : run.session.summary.blocks = start.session.summary.blocks + done
  told : unitsTold run.events = if done = 0 then unitsTold start.events else start.session.summary.blocks + done
  accepted : Accepted head (input start.world).left start.session.config.ignoreChecksum 0 done
  whole : head.startOf done ≤ (input start.world).left.size

/-- What a session comes to that restores all blocks of the stream behind `origin`. -/
structure Completed (head : Head) (bitmap : Bitmap) (ignores : Bool) (origin : View) (bytes : ByteArray) (before : Nat)
    (summary : Summary) (output input : View) : Prop where
  input : input = origin.skip (head.startOf head.total)
  whole : head.startOf head.total ≤ origin.left.size
  output : output.bytes = Bytes.place head.width bytes bitmap.marked (head.blocksIn origin.left)
  tags : summary.tags = before + Layout.tagsBefore head.options head.total head.total
  accepted : Accepted head origin.left ignores 0 head.total

/-- Behind the front of the image no block is done. -/
theorem Restoring.at_start {kept : ω → Prop} {input output : ω → View} {owner : Owner} {excused : Error → Prop}
    {bitmap : Bitmap} {start : Run ω} (held : kept start.world) (spares : owner.Spares excused start.running) :
    Restoring kept input output owner excused head bitmap start 0 {
        group := .first head.options
        offset := Layout.dataOffset head.descriptor.totalBlocks.toNat head.options.encoding }
      { start with session := { start.session with phase := .transferring } } where
  kept := held
  spares := spares
  compares := rfl
  counted := rfl
  group _ := Group.after_zero.symm
  cursor := rfl
  stands := by simp
  placed := rfl
  tags := by simp
  blocks := rfl
  told := rfl
  accepted := .of_le (Nat.le_refl _)
  whole := by simp

/-- With as many blocks as the bitmap marks all done, nothing is left to take. -/
theorem Restoring.completed {kept : ω → Prop} {input output : ω → View} {owner : Owner} {excused : Error → Prop}
    {bitmap : Bitmap} {start : Run ω} {restored : Restored} {run : Run ω} (total : head.total = bitmap.marked.length)
    (restoring : Restoring kept input output owner excused head bitmap start head.total restored run) :
    Completed head bitmap start.session.config.ignoreChecksum (input start.world) (output start.world).bytes
      start.session.summary.tags run.session.summary (output run.world) (input run.world) where
  input := restoring.stands
  whole := restoring.whole
  output := by
    rw [restoring.placed, List.take_of_length_le (Nat.le_of_eq total.symm),
      List.take_of_length_le (Nat.le_of_eq Head.length_blocksIn)]
  tags := restoring.tags
  accepted := restoring.accepted

/-- How the target is left by a restore that fails among the blocks from `done` on and before `stop`: those before `done`
are restored, and behind them there is nothing of the stream but what had come when a write failed. -/
structure Stopped (head : Head) (bitmap : Bitmap) (origin : View) (bytes : ByteArray) (done stop : Nat)
    (failure : Error) (left : ByteArray) : Prop where
  within : stop ≤ head.total
  whole : head.startOf stop ≤ origin.left.size
  mismatch : ∀ block algorithm stored computed, failure = .checksumMismatch block algorithm stored computed →
    done ≤ block ∧ block < stop
  laid : ∃ amount, done * head.width ≤ amount ∧ amount ≤ stop * head.width ∧
    (amount = done * head.width ∨ ∃ offset cause, failure = .write offset cause) ∧
    left = Bytes.place head.width bytes (bitmap.marked.take stop)
      (Bytes.cut amount ((head.blocksIn origin.left).take stop))

/-- Why restoring the stream behind `origin` may fail. -/
def Fails (excused : Error → Prop) (head : Head) (ignores : Bool) (origin : View) (failure : Error) : Prop :=
  excused failure ∨ (∃ offset, failure = .read offset .endOfDevice ∧ origin.left.size < head.startOf head.total) ∨
    Rejected head origin.left ignores 0 head.total failure

/-- The tags that are planned for the next blocks are those that follow them. -/
theorem plannedTags_eq {filled done count : Nat} (more : done < head.total)
    (stands : head.options.tagged = true → filled = done % head.options.blocksPerChecksum.toNat) :
    Layout.tagsBefore head.options head.total done +
        plannedTags head.options filled count (decide (done + count = head.total)) =
      Layout.tagsBefore head.options head.total (done + count) := by
  unfold plannedTags Layout.tagsBefore
  by_cases tagged : head.options.tagged = true
  · have wide := Layout.perTag_pos tagged
    have parts := Nat.div_add_mod done head.options.blocksPerChecksum.toNat
    -- The blocks done make up whole groups and the begun part of another one, on which the next blocks follow.
    have sum : done + count = head.options.blocksPerChecksum.toNat * (done / head.options.blocksPerChecksum.toNat) +
        (done % head.options.blocksPerChecksum.toNat + count) := by omega
    have quotient : (done + count) / head.options.blocksPerChecksum.toNat =
        done / head.options.blocksPerChecksum.toNat +
          (done % head.options.blocksPerChecksum.toNat + count) / head.options.blocksPerChecksum.toNat := by
      rw [sum, Nat.mul_add_div wide]
    have rest : (done % head.options.blocksPerChecksum.toNat + count) % head.options.blocksPerChecksum.toNat =
        (done + count) % head.options.blocksPerChecksum.toNat := Nat.mod_add_mod ..
    have early : ¬ (done = head.total ∧ done % head.options.blocksPerChecksum.toNat ≠ 0) := by omega
    rw [if_pos tagged, if_pos tagged, if_pos tagged, stands tagged, if_neg early, rest, quotient]
    simp only [decide_eq_true_eq]
    omega
  · rw [if_neg tagged, if_neg tagged, if_neg tagged]

/-- What is read for the next blocks, with the tags that are planned, ends where the blocks behind them begin. -/
theorem startOf_add_planned {filled done : Nat} (count : Nat) (more : done < head.total)
    (stands : head.options.tagged = true → filled = done % head.options.blocksPerChecksum.toNat) :
    head.startOf done + (count * head.width +
        plannedTags head.options filled count (decide (done + count = head.total)) * head.options.checksum.tagSize) =
      head.startOf (done + count) := by
  rw [Head.startOf, Head.startOf, Layout.startOf, Layout.startOf, ← plannedTags_eq more stands, Nat.add_mul, Nat.add_mul]
  omega

section

variable {kept : ω → Prop} {input output : ω → View} {fails : IoError → Prop} {owner : Owner} {excused : Error → Prop}
  {image : Stream ω} {target : Target ω} {bitmap : Bitmap} {start : Run ω} {done : Nat} {restored : Restored}
  {run : Run ω}

/-- With the first blocks come and nothing of those behind them, only the first ones are laid. -/
theorem place_cut_blocksIn {marked : List Nat} (total : head.total = marked.length) (bytes : ByteArray) {done stop : Nat}
    (behind : done ≤ stop) (within : stop ≤ head.total) (whole : head.startOf done ≤ stream.size) :
    Bytes.place head.width bytes (marked.take stop)
        (Bytes.cut (done * head.width) ((head.blocksIn stream).take stop)) =
      Bytes.place head.width bytes (marked.take done) ((head.blocksIn stream).take done) := by
  have size := Head.size_join_blocksIn (Nat.le_trans behind within) whole
  have length : (marked.take done).length = ((head.blocksIn stream).take done).length := by
    rw [List.length_take, List.length_take, Head.length_blocksIn, total]
  obtain ⟨count, rfl⟩ := Nat.exists_eq_add_of_le behind
  rw [List.take_add, List.take_add, Bytes.place_cut_of_le _ length _ _ (Nat.le_of_eq size.symm),
    Bytes.cut_of_size_le (Nat.le_of_eq size)]

/-- A failure before anything of the next chunk was written leaves the target as it was. -/
theorem Restoring.stopped
    (restoring : Restoring kept input output owner excused head bitmap start done restored run)
    (total : head.total = bitmap.marked.length) {stop : Nat} (behind : done ≤ stop) (within : stop ≤ head.total)
    (whole : head.startOf stop ≤ (input start.world).left.size) {failure : Error}
    (mismatch : ∀ block algorithm stored computed, failure = .checksumMismatch block algorithm stored computed →
      done ≤ block ∧ block < stop) :
    Stopped head bitmap (input start.world) (output start.world).bytes done stop failure
      (output run.world).bytes where
  within := within
  whole := whole
  mismatch := mismatch
  laid := by
    refine ⟨done * head.width, Nat.le_refl _, Nat.mul_le_mul_right _ behind, .inl rfl, ?_⟩
    rw [place_cut_blocksIn total _ behind within restoring.whole, restoring.placed]

/-- Where a write of the next chunk failed, there are the blocks before it and what had come of its own. -/
theorem Restoring.stopped_by_write
    (restoring : Restoring kept input output owner excused head bitmap start done restored run)
    (total : head.total = bitmap.marked.length) {count : Nat} (within : done + count ≤ head.total)
    (whole : head.startOf (done + count) ≤ (input start.world).left.size) {amount : Nat}
    (bound : amount ≤ count * head.width) (offset : Nat) (cause : IoError) :
    Stopped head bitmap (input start.world) (output start.world).bytes done (done + count) (.write offset cause)
      (Bytes.place head.width (output run.world).bytes ((bitmap.markedFrom restored.cursor).take count)
        (Bytes.cut amount (((head.blocksIn (input start.world).left).drop done).take count))) where
  within := within
  whole := whole
  mismatch := nofun
  laid := by
    have lengths : (bitmap.marked.take done).length =
        ((head.blocksIn (input start.world).left).take done).length := by
      rw [List.length_take, List.length_take, Head.length_blocksIn, total]
    refine ⟨done * head.width + amount, Nat.le_add_right _ _, ?_, .inr ⟨offset, cause, rfl⟩, ?_⟩
    · rw [Nat.add_mul]
      exact Nat.add_le_add_left bound _
    · rw [restoring.cursor, restoring.placed, List.take_add, List.take_add, ← Bytes.place_cut_append _ lengths,
        Head.size_join_blocksIn (Nat.le_trans (Nat.le_add_right _ _) within) restoring.whole]

/-- Blocks laid at the next marked places come behind those that are there. -/
theorem Restoring.placed_append
    (restoring : Restoring kept input output owner excused head bitmap start done restored run)
    (total : head.total = bitmap.marked.length) (count : Nat) :
    Bytes.place head.width (output run.world).bytes ((bitmap.markedFrom restored.cursor).take count)
        (((head.blocksIn (input start.world).left).drop done).take count) =
      Bytes.place head.width (output start.world).bytes (bitmap.marked.take (done + count))
        ((head.blocksIn (input start.world).left).take (done + count)) := by
  have lengths : (bitmap.marked.take done).length =
      ((head.blocksIn (input start.world).left).take done).length := by
    rw [List.length_take, List.length_take, Head.length_blocksIn, total]
  rw [restoring.cursor, restoring.placed, List.take_add, List.take_add, Bytes.place_append _ lengths]

/-- The bytes of the next chunk come as a whole, or the stream is too short for the data. -/
theorem Restoring.readChunk (reads : image.Reads kept input output fails)
    (restoring : Restoring kept input output owner excused head bitmap start done restored run)
    {count wanted : Nat} (positive : 0 < wanted) (size : head.startOf done + wanted = head.startOf (done + count))
    (within : done + count ≤ head.total) :
    Leads (image.readExactly wanted run.world)
      (fun data world => Frame kept output run.world world ∧
        head.startOf (done + count) ≤ (input start.world).left.size ∧ data.size = wanted ∧
        data = (input start.world).left.extract (head.startOf done) (head.startOf done + data.size) ∧
        input world = (input start.world).skip (head.startOf (done + count)))
      fun cause world => Frame kept output run.world world ∧
        (fails cause ∨ cause = .endOfDevice ∧ (input start.world).left.size < head.startOf head.total) := by
  have reach : head.startOf (done + count) ≤ head.startOf head.total := Head.startOf_mono within (Nat.le_refl _)
  refine (reads.readExactly wanted run.world restoring.kept).mono ?_ ?_
  · rintro data world ⟨frame, given, length, moved⟩
    rw [restoring.stands, View.take_skip, ← length] at given
    rw [restoring.stands, View.skip_skip, size] at moved
    refine ⟨frame, ?_, length, given, moved⟩
    -- All the bytes came, so the stream holds them.
    have bound := congrArg ByteArray.size given
    rw [length, ByteArray.size_extract] at bound
    omega
  · rintro cause world ⟨frame, same, fault | ⟨rfl, short⟩⟩
    · exact ⟨frame, .inl fault⟩
    · rw [restoring.stands] at short
      refine ⟨frame, .inr ⟨rfl, ?_⟩⟩
      -- What this chunk is short of, the whole data is.
      change (input start.world).bytes.size < (input start.world).position + head.startOf done + wanted at short
      rw [View.size_left]
      omega

/-- A restore with chunks of `capacity` blocks that began at `start` fails while it moves one chunk, or at the end. -/
structure Halted (input output : ω → View) (head : Head) (bitmap : Bitmap) (capacity : Nat) (start : Run ω)
    (done stop : Nat) (failure : Error) (events : Array Event) (left : ByteArray) : Prop where
  stopped : Stopped head bitmap (input start.world) (output start.world).bytes done stop failure left
  near : stop ≤ done + capacity
  chunked : capacity ∣ done ∨ done = head.total ∧ ∃ offset cause, failure = .write offset cause
  told : unitsTold events = if done = 0 then unitsTold start.events else start.session.summary.blocks + done

/-- With all blocks restored, what is left to fail is the request to sync. -/
theorem Completed.halted {ignores : Bool} {before capacity : Nat} {summary : Summary} {seen other : View}
    (done : Completed head bitmap ignores (input start.world) (output start.world).bytes before summary seen other)
    (total : head.total = bitmap.marked.length) {events : Array Event}
    (told : unitsTold events =
      if head.total = 0 then unitsTold start.events else start.session.summary.blocks + head.total)
    (offset : Nat) (cause : IoError) :
    Halted input output head bitmap capacity start head.total head.total (.write offset cause) events seen.bytes where
  stopped := {
    within := Nat.le_refl _
    whole := done.whole
    mismatch := nofun
    laid := by
      have stream := Head.size_join_blocksIn (Nat.le_refl _) done.whole
      have all : (head.blocksIn (input start.world).left).take head.total = head.blocksIn (input start.world).left :=
        List.take_of_length_le (Nat.le_of_eq Head.length_blocksIn)
      refine ⟨_, Nat.le_refl _, Nat.le_refl _, .inl rfl, ?_⟩
      rw [Bytes.cut_of_size_le (Nat.le_of_eq stream), all, List.take_of_length_le (Nat.le_of_eq total.symm), done.output] }
  near := Nat.le_add_right _ _
  chunked := .inr ⟨rfl, offset, cause, rfl⟩
  told := told

variable (reads : image.Reads kept input output fails) (writes : target.Writes kept output input fails)
  (unread : ∀ offset cause, fails cause → excused (.read offset cause))
  (unwritten : ∀ offset cause, fails cause → excused (.write offset cause))
  (measured : Measured head.descriptor bitmap)

include reads writes unread unwritten measured

theorem restoreChunk_leads
    (restoring : Restoring kept input output owner excused head bitmap start done restored run)
    {count : Nat} (positive : 0 < count) (within : done + count ≤ head.total) :
    Leads (restoreChunk owner image target head bitmap restored count run)
      (fun restored after =>
        Restoring kept input output owner excused head bitmap start (done + count) restored after)
      fun failure after => kept after.world ∧
        Fails excused head start.session.config.ignoreChecksum (input start.world) failure ∧
        (∃ stop ≤ done + count, Stopped head bitmap (input start.world) (output start.world).bytes done stop failure
          (output after.world).bytes) ∧
        unitsTold after.events = unitsTold run.events := by
  have total : head.total = bitmap.marked.length := measured.verifiedBlocks
  have filled (tagged : head.options.tagged = true) :
      restored.group.filled = done % head.options.blocksPerChecksum.toNat := by
    rw [restoring.group (by omega), Group.filled_after tagged]
  have size := startOf_add_planned count (by omega) filled
  have some : 0 < count * head.width := Nat.mul_pos positive measured.blockSize_pos
  rw [restoreChunk, leads_bind]
  refine leads_checkRunning restoring.spares (fun running spares => ?_) fun running allowed =>
    ⟨restoring.kept, .inl allowed, ⟨done, Nat.le_add_right _ _,
      restoring.stopped total (Nat.le_refl _) (by omega) restoring.whole nofun⟩, rfl⟩
  rw [leads_bind, leads_call, restoring.counted]
  refine (restoring.readChunk reads (by omega) size within).mono ?_ ?_
  · rintro data world ⟨frame, whole, length, given, moved⟩
    rw [leads_bind]
    -- The blocks come off what was read, and go to as many marked places as are passed.
    refine (unpack_leads within given (length ▸ size) whole restoring.group _).mono ?_ ?_
    · rintro unpacking after ⟨unpacked, blocks, accepted, tags, rfl, counted⟩
      have given : (((head.blocksIn (input start.world).left).drop done).take count).length = count := by
        rw [List.length_take, List.length_drop, Head.length_blocksIn]
        omega
      have room : count ≤ (bitmap.markedFrom restored.cursor).length := by
        rw [restoring.cursor, List.length_drop]
        omega
      have before : (output world).bytes = (output run.world).bytes := congrArg View.bytes frame.rest
      rw [leads_bind, blocks]
      refine (scatter_leads writes given (Head.sizes_blocksIn within whole) room frame.kept).mono ?_ ?_
      · rintro cursor after ⟨⟨last, rfl, later⟩, ahead, placed⟩
        rw [leads_bind, countBlocks, leads_tally, leads_bind]
        refine leads_report spares fun running spares => ?_
        rw [leads_pure]
        have summed : run.session.summary.blocks + count = start.session.summary.blocks + (done + count) := by
          rw [restoring.blocks, Nat.add_assoc]
        refine ⟨later.kept, spares, restoring.compares, rfl, unpacked.group, ?_, ?_, ?_, ?_, summed, ?_, ?_, whole⟩
        · rw [ahead, restoring.cursor, List.drop_drop]
        · exact later.rest.trans moved
        · change (output last).bytes = Bytes.place _ (output world).bytes _ _ at placed
          rw [before, restoring.placed_append total] at placed
          exact placed
        · change run.session.summary.tags + tags = _
          rw [restoring.tags, Nat.add_assoc, counted]
        · rw [unitsTold_push, if_neg (by omega)]
          exact summed
        · exact restoring.accepted.append (restoring.compares ▸ accepted)
      · rintro failure after ⟨⟨⟨last, rfl, later⟩, offset, cause, rfl, fault⟩, amount, bound, placed⟩
        rw [Bytes.size_join (Head.sizes_blocksIn within whole), given] at bound
        change (output last).bytes = Bytes.place _ (output world).bytes _ _ at placed
        rw [before] at placed
        refine ⟨later.kept, .inl (unwritten _ _ fault), ⟨done + count, Nat.le_refl _, ?_⟩, rfl⟩
        change Stopped _ _ _ _ _ _ _ (output last).bytes
        rw [placed]
        exact restoring.stopped_by_write total within whole bound offset cause
    · rintro failure after ⟨⟨tags, rfl⟩, rejected⟩
      have compared : Rejected head (input start.world).left start.session.config.ignoreChecksum done (done + count)
          failure := restoring.compares ▸ rejected
      refine ⟨frame.kept, .inr (.inr (compared.behind (Nat.zero_le _) within restoring.accepted)),
        ⟨done + count, Nat.le_refl _, ?_⟩, rfl⟩
      change Stopped _ _ _ _ _ _ _ (output world).bytes
      rw [frame.rest]
      refine restoring.stopped total (Nat.le_add_right _ _) within whole ?_
      rintro block algorithm stored computed rfl
      obtain ⟨_, number, behind, before, _, _, _, same⟩ := compared
      cases same
      exact ⟨behind, before⟩
  · rintro cause world ⟨frame, reason⟩
    refine ⟨frame.kept, ?_, ⟨done, Nat.le_add_right _ _, ?_⟩, rfl⟩
    · rcases reason with fault | ⟨rfl, short⟩
      · exact .inl (unread _ _ fault)
      · exact .inr (.inl ⟨_, rfl, short⟩)
    · change Stopped _ _ _ _ _ _ _ (output world).bytes
      rw [frame.rest]
      exact restoring.stopped total (Nat.le_refl _) (by omega) restoring.whole nofun

/-- The chunks together bring back every block, however many each of them takes. -/
theorem restoreFrom_leads (capacity : Nat) {left : Nat} (rest : done + left = head.total)
    (chunked : max capacity 1 ∣ done)
    (restoring : Restoring kept input output owner excused head bitmap start done restored run) :
    Leads (restoreFrom owner image target head bitmap capacity left restored run)
      (fun _ after => ∃ restored,
        Restoring kept input output owner excused head bitmap start head.total restored after)
      fun failure after => kept after.world ∧
        Fails excused head start.session.config.ignoreChecksum (input start.world) failure ∧
        ∃ done stop, Halted input output head bitmap (max capacity 1) start done stop failure after.events
          (output after.world).bytes := by
  -- Each chunk leaves fewer blocks, since it takes at least one.
  induction left using Nat.strongRecOn generalizing done restored run with
  | ind left ih =>
    rw [restoreFrom]
    split
    next none =>
      obtain rfl : done = head.total := by omega
      exact ⟨restored, restoring⟩
    next some =>
      have positive : 0 < min (max capacity 1) left := by omega
      rw [leads_bind]
      refine (restoreChunk_leads reads writes unread unwritten measured restoring positive (by omega)).mono ?_ ?_
      · intro restored after restoring
        by_cases full : max capacity 1 ≤ left
        · -- The chunk is a full one, so that the next one begins at a multiple again.
          have count : min (max capacity 1) left = max capacity 1 := Nat.min_eq_left full
          rw [count] at restoring ⊢
          exact ih _ (by omega) (by omega) ((Nat.dvd_add_right chunked).mpr (Nat.dvd_refl _)) restoring
        · -- The chunk is the last one.
          have none : left - min (max capacity 1) left = 0 := by omega
          have last : done + min (max capacity 1) left = head.total := by omega
          rw [none, restoreFrom, if_pos rfl]
          exact ⟨restored, last ▸ restoring⟩
      · rintro failure after ⟨held, reason, ⟨stop, near, stopped⟩, told⟩
        exact ⟨held, reason, done, stop, stopped, by omega, .inl chunked, told.trans restoring.told⟩

/-- A session that restores an image takes the blocks of the stream to their places, or fails for a reason and behind
whole chunks. -/
theorem restoreBlocks_leads (run : Run ω) (held : kept run.world)
    (spares : owner.Spares excused run.running)
    (granted : ∀ size ∈ restoringBuffers run.session.config head.width head.options,
      ¬ run.grants size → excused (.insufficientMemory size 0)) :
    Leads (restoreBlocks owner image target head bitmap run)
      (fun summary after => kept after.world ∧ Completed head bitmap run.session.config.ignoreChecksum
        (input run.world) (output run.world).bytes run.session.summary.tags summary (output after.world)
        (input after.world))
      fun failure after => Fails excused head run.session.config.ignoreChecksum (input run.world) failure ∧
        ∃ done stop, Halted input output head bitmap (run.session.config.chunkCapacity head.width) run done stop failure
          after.events (output after.world).bytes := by
  have total : head.total = bitmap.marked.length := measured.verifiedBlocks
  have capacity : max (run.session.config.chunkCapacity head.width) 1 = run.session.config.chunkCapacity head.width :=
    Nat.max_eq_left (Nat.le_max_right _ _)
  have restoring : Restoring kept input output owner excused head bitmap run 0 _ _ := .at_start held spares
  refine (leads_conclude writes.toWrites
    (fun summary events target image => Completed head bitmap run.session.config.ignoreChecksum (input run.world)
        (output run.world).bytes run.session.summary.tags summary target image ∧
      unitsTold events = if head.total = 0 then unitsTold run.events
        else run.session.summary.blocks + head.total)
    (fun failure events target _ =>
      Fails excused head run.session.config.ignoreChecksum (input run.world) failure ∧
        ∃ done stop, Halted input output head bitmap (run.session.config.chunkCapacity head.width) run done stop failure
          events target.bytes) ?_ ?_).mono ?_ ?_
  · rw [leads_bind, leads_get, leads_bind]
    refine leads_allocate (fun _ => ?_) fun size member refused => ⟨held, .inl (granted size member refused), 0, 0,
      restoring.stopped total (Nat.le_refl _) (Nat.zero_le _) restoring.whole nofun, Nat.zero_le _,
      .inl (Nat.dvd_zero _), rfl⟩
    rw [leads_bind, leads_enter]
    refine (restoreFrom_leads reads writes unread unwritten measured _ (Nat.zero_add _) (Nat.dvd_zero _)
      restoring).mono ?_ ?_
    · rintro _ after ⟨restored, restoring⟩
      exact ⟨restoring.kept, restoring.completed total, restoring.told⟩
    · rintro failure after ⟨held, reason, halted⟩
      rw [capacity] at halted
      exact ⟨held, reason, halted⟩
  · -- All blocks are restored when the request to sync fails.
    rintro cause summary events target image fault ⟨done, told⟩
    exact ⟨.inl (unwritten 0 cause fault), _, _, done.halted total told 0 cause⟩
  · rintro summary after ⟨held, _, done, _⟩
    exact ⟨held, done⟩
  · exact fun _ _ broke => broke.2

end

end Transfer

end BlockImage
