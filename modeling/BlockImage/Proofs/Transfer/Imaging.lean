import BlockImage.Proofs.Bitmap.Marked
import BlockImage.Proofs.Image.Data
import BlockImage.Proofs.Image.Front
import BlockImage.Proofs.Transfer.Reading

/-!
# What imaging writes

A session that images a device writes `Layout.image` of the blocks that it was given, however they were cut into
chunks. The invariant of the loop says that head, bitmap and the data begun so far are written, and that the group
stands behind the blocks done. So whenever the session breaks off, what is written is a front of the image.
-/
namespace BlockImage

namespace Layout

def front (options : Options) (descriptor : Descriptor) (bitmap : Bitmap) : ByteArray :=
  Head.encode descriptor options ++ bitmap.bytes ++ Head.storedCrc (Checksum.ofBytes bitmap.bytes)

theorem image_eq (options : Options) (descriptor : Descriptor) (bitmap : Bitmap) (blocks : List ByteArray) :
    image options descriptor bitmap blocks = front options descriptor bitmap ++ data options blocks := rfl

theorem size_front (options : Options) {descriptor : Descriptor} {bitmap : Bitmap}
    (total : bitmap.total = descriptor.totalBlocks.toNat) :
    (front options descriptor bitmap).size = dataOffset descriptor.totalBlocks.toNat .bit := by
  rw [front, ByteArray.size_append, ByteArray.size_append, Head.size_encode, Head.size_storedCrc, bitmap.size_bytes,
    total]
  rfl

/-- More blocks only add to the end of what is begun. -/
theorem startsWith_front_begun (options : Options) (descriptor : Descriptor) (bitmap : Bitmap)
    (done more : List ByteArray) :
    Bytes.StartsWith (image options descriptor bitmap (done ++ more))
      (front options descriptor bitmap ++ begun options done) :=
  (Transfer.startsWith_begun options done more).append_left _

/-- The pieces that an image is written in: each is given by where it begins and where it stops, and comes when some
of the chunks are written. -/
inductive Piece (options : Options) (descriptor : Descriptor) (bitmap : Bitmap) (chunks : List Chunk) :
    List Chunk → Nat → Nat → Prop
  | head : Piece options descriptor bitmap chunks [] 0 bitmapOffset
  | bitmap : Piece options descriptor bitmap chunks [] bitmapOffset (bitmapOffset + bitmap.bytes.size)
  | crc : Piece options descriptor bitmap chunks [] (bitmapOffset + bitmap.bytes.size)
      (front options descriptor bitmap).size
  | chunk {written left : List Chunk} {chunk : Chunk} (next : chunks = written ++ chunk :: left) :
      Piece options descriptor bitmap chunks written
        ((front options descriptor bitmap).size +
          startOf options descriptor.blockSize.toNat 0 (Chunk.total written))
        ((front options descriptor bitmap).size +
          startOf options descriptor.blockSize.toNat 0 (Chunk.total (written ++ [chunk])))
  | tag : Piece options descriptor bitmap chunks chunks
      ((front options descriptor bitmap).size + startOf options descriptor.blockSize.toNat 0 (Chunk.total chunks))
      ((front options descriptor bitmap).size +
        startOf options descriptor.blockSize.toNat (Chunk.total chunks) (Chunk.total chunks))

end Layout

namespace Transfer

variable {ω : Type}

/-- The chunks of which the caller was told since `start`, one event for each. -/
structure Reported (start : Run ω) (events : Array Event) (chunks : List Chunk) : Prop where
  positions : events.toList.map Event.position = start.events.toList.map Event.position ++ chunks.map Chunk.stop
  units : unitsTold events =
    if chunks = [] then unitsTold start.events else start.session.summary.blocks + Chunk.total chunks

theorem Reported.push {start : Run ω} {events : Array Event} {chunks : List Chunk} (told : Reported start events chunks)
    (chunk : Chunk) (totalUnits : Nat) : Reported start (events.push {
      unitsDone := start.session.summary.blocks + Chunk.total (chunks ++ [chunk])
      totalUnits
      position := chunk.stop }) (chunks ++ [chunk]) where
  positions := by
    rw [Array.toList_push, List.map_append, told.positions, List.map_append, List.append_assoc]
    rfl
  units := by
    rw [unitsTold_push, if_neg (List.append_ne_nil_of_right_ne_nil _ (List.cons_ne_nil _ _))]

theorem Reported.nothing (start : Run ω) : Reported start start.events [] := ⟨(List.append_nil _).symm, rfl⟩

/-- The blocks `done`, which are those of the chunks `passed`, are in the image that was begun at `start`. -/
structure Imaged (kept : ω → Prop) (view : ω → View) (owner : Owner) (excused : Error → Prop) (options : Options)
    (width : Nat) (given : List Nat → List ByteArray → Prop) (start : Run ω) (front : ByteArray) (passed : List Chunk)
    (done : List ByteArray) (written : Written) (run : Run ω) : Prop where
  kept : kept run.world
  spares : owner.Spares excused run.running
  settings : run.session.config = start.session.config
  group : written.group = Group.after options done done.length
  offset : written.offset = front.size + Layout.startOf options width 0 done.length
  placed : view run.world = (view start.world).put (front ++ Layout.begun options done)
  tags : run.session.summary.tags = start.session.summary.tags + Layout.tagsBefore options 0 done.length
  blocks : run.session.summary.blocks = start.session.summary.blocks + Chunk.total passed
  told : Reported start run.events passed
  given : given (passed.flatMap Chunk.blocks) done
  length : done.length = Chunk.total passed
  sizes : ∀ block ∈ done, block.size = width

/-- What a session comes to that writes the image of a device where `start` stands. -/
def Wrote (options : Options) (descriptor : Descriptor) (bitmap : Bitmap) (given : List Nat → List ByteArray → Prop)
    (start : View) (before : Nat) (summary : Summary) (seen : View) : Prop :=
  ∃ blocks, given bitmap.marked blocks ∧ (∀ block ∈ blocks, block.size = descriptor.blockSize.toNat) ∧
    seen = start.put (Layout.image options descriptor bitmap blocks) ∧
    summary.tags = before + Layout.tagsBefore options blocks.length blocks.length

/-- How much of an image is there when imaging ends with a failure, of whose chunks some were reported. -/
def EndsAt (options : Options) (descriptor : Descriptor) (bitmap : Bitmap) (chunks reported : List Chunk)
    (size : Nat) : Error → Prop
  | .cancelled | .read .. => size = (Layout.front options descriptor bitmap).size +
      Layout.startOf options descriptor.blockSize.toNat 0 (Chunk.total reported)
  | .write offset _ => ∃ stop, Layout.Piece options descriptor bitmap chunks reported offset stop ∧
      offset ≤ size ∧ size ≤ stop
  | .insufficientMemory .. => size = 0
  | _ => False

/-- Imaging broke off when so many bytes of the image were written. They are the front of the image, whatever the
blocks are that were still to come behind those that were read. -/
structure Unfinished (view : ω → View) (options : Options) (descriptor : Descriptor) (bitmap : Bitmap)
    (given : List Nat → List ByteArray → Prop) (chunks : List Chunk) (start : Run ω) (reported passed : List Chunk)
    (done : List ByteArray) (bytes : ByteArray) (failure : Error) (events : Array Event) (seen : View) : Prop where
  told : Reported start events reported
  within : ∃ left, chunks = passed ++ left
  given : given (passed.flatMap Chunk.blocks) done
  length : done.length = Chunk.total passed
  placed : seen = (view start.world).put bytes
  starts : ∀ more, done.length + more.length = Chunk.total chunks →
    Bytes.StartsWith (Layout.image options descriptor bitmap (done ++ more)) bytes
  ends : EndsAt options descriptor bitmap chunks reported bytes.size failure

/-- Imaging ended with a failure, which is excused, before it was through. -/
def Broke (kept : ω → Prop) (view : ω → View) (excused : Error → Prop) (options : Options) (descriptor : Descriptor)
    (bitmap : Bitmap) (given : List Nat → List ByteArray → Prop) (chunks : List Chunk) (start : Run ω)
    (failure : Error) (after : Run ω) : Prop :=
  kept after.world ∧ excused failure ∧ ∃ reported passed done bytes,
    Unfinished view options descriptor bitmap given chunks start reported passed done bytes failure after.events
      (view after.world)

section

variable {β : Type} {kept : ω → Prop} {view : ω → View} {rest : ω → β} {fails : IoError → Prop} {owner : Owner}
  {excused : Error → Prop} {options : Options} {given : List Nat → List ByteArray → Prop} {start : Run ω}
  {source : Source ω} {target : Sink ω} {allowed : Chunk → Prop} {descriptor : Descriptor} {bitmap : Bitmap}
  {chunks passed : List Chunk} {done : List ByteArray} {written : Written} {run : Run ω}

/-- With head and bitmap written, the loop starts behind no blocks. -/
theorem Imaged.behind_front (total : bitmap.total = descriptor.totalBlocks.toNat) (gathers : Gathers given)
    {world : ω} (held : kept world) (spares : owner.Spares excused start.running)
    (placed : view world = (view start.world).put
      (Layout.front (imageOptions start.session.config) descriptor bitmap)) :
    Imaged kept view owner excused (imageOptions start.session.config) descriptor.blockSize.toNat given start
      (Layout.front (imageOptions start.session.config) descriptor bitmap) [] [] {
        group := .first (imageOptions start.session.config)
        offset := Layout.dataOffset descriptor.totalBlocks.toNat (imageOptions start.session.config).encoding }
      { start with session := { start.session with phase := .transferring }, world } where
  kept := held
  spares := spares
  settings := rfl
  group := Group.after_zero.symm
  offset := by
    rw [Layout.size_front _ total, List.length_nil, Layout.startOf_zero]
    rfl
  placed := by
    change view world = (view start.world).put (_ ++ ByteArray.empty)
    rw [placed, ByteArray.append_empty]
  tags := by simp
  blocks := rfl
  told := .nothing start
  given := gathers.nil
  length := rfl
  sizes := by simp

/-- Between two chunks the image is begun up to the next block. -/
theorem Imaged.unfinished
    (imaged : Imaged kept view owner excused options descriptor.blockSize.toNat given start
      (Layout.front options descriptor bitmap) passed done written run)
    (within : ∃ left, chunks = passed ++ left) {failure : Error}
    (between : failure = .cancelled ∨ ∃ offset cause, failure = .read offset cause) :
    Unfinished view options descriptor bitmap given chunks start passed passed done
      (Layout.front options descriptor bitmap ++ Layout.begun options done) failure run.events (view run.world) where
  told := imaged.told
  within := within
  given := imaged.given
  length := imaged.length
  placed := imaged.placed
  starts more _ := Layout.startsWith_front_begun ..
  ends := by
    have size : (Layout.front options descriptor bitmap ++ Layout.begun options done).size =
        (Layout.front options descriptor bitmap).size +
          Layout.startOf options descriptor.blockSize.toNat 0 (Chunk.total passed) := by
      rw [ByteArray.size_append, Layout.size_begun imaged.sizes, imaged.length]
    rcases between with rfl | ⟨offset, cause, rfl⟩
    · exact size
    · exact size

/-- The blocks of a chunk come behind those of the chunks before it. -/
theorem Imaged.gather
    (imaged : Imaged kept view owner excused options descriptor.blockSize.toNat given start
      (Layout.front options descriptor bitmap) passed done written run)
    (gathers : Gathers given) {chunk : Chunk} (apart : ∀ number ∈ passed.flatMap Chunk.blocks, number ∉ chunk.blocks)
    {blocks : List ByteArray} (count : blocks.length = chunk.count)
    (new : ∀ block ∈ blocks, block.size = descriptor.blockSize.toNat) (came : given chunk.blocks blocks) :
    given ((passed ++ [chunk]).flatMap Chunk.blocks) (done ++ blocks) ∧
      (done ++ blocks).length = Chunk.total (passed ++ [chunk]) ∧
      ∀ block ∈ done ++ blocks, block.size = descriptor.blockSize.toNat := by
  refine ⟨?_, ?_, ?_⟩
  · rw [List.flatMap_append, List.flatMap_singleton]
    exact gathers.append apart imaged.given came
  · rw [List.length_append, count, imaged.length, Chunk.total_append]
    rfl
  · intro block member
    rcases List.mem_append.mp member with earlier | later
    · exact imaged.sizes block earlier
    · exact new block later

/-- Imaging breaks off in the piece that it failed to write. -/
theorem broke_of_partlyPut (unwritten : ∀ offset cause, fails cause → excused (.write offset cause))
    {reported : List Chunk} {before piece : ByteArray} {offset : Nat} {failure : Error} (held : kept run.world)
    (put : PartlyPut fails ((view start.world).put before) offset piece failure (view run.world))
    (told : Reported start run.events reported) (within : ∃ left, chunks = passed ++ left)
    (gathered : given (passed.flatMap Chunk.blocks) done) (length : done.length = Chunk.total passed)
    (begins : before.size = offset)
    (next : Layout.Piece options descriptor bitmap chunks reported offset (offset + piece.size))
    (starts : ∀ more, done.length + more.length = Chunk.total chunks →
      Bytes.StartsWith (Layout.image options descriptor bitmap (done ++ more)) (before ++ piece)) :
    Broke kept view excused options descriptor bitmap given chunks start failure run := by
  obtain ⟨⟨cause, rfl, fault⟩, amount, most, placed⟩ := put
  have size : (before ++ piece.extract 0 amount).size = offset + amount := by
    rw [ByteArray.size_append, ByteArray.size_extract, begins, Nat.min_eq_left most, Nat.sub_zero]
  refine ⟨held, unwritten _ _ fault, reported, passed, done, before ++ piece.extract 0 amount, {
    told := told
    within := within
    given := gathered
    length := length
    placed := by rw [placed, View.put_put]
    starts := fun more whole => (starts more whole).trans ((Bytes.startsWith_extract piece amount).append_left before)
    ends := ⟨_, next, ?_, ?_⟩ }⟩
  · rw [size]
    exact Nat.le_add_right _ _
  · rw [size]
    exact Nat.add_le_add_left most _

variable (writes : target.Writes kept view rest fails)
  (unwritten : ∀ offset cause, fails cause → excused (.write offset cause))

include writes unwritten

/-- The last tag completes the data. -/
theorem closeGroup_leads
    (imaged : Imaged kept view owner excused options descriptor.blockSize.toNat given start
      (Layout.front options descriptor bitmap) chunks done written run) :
    Leads (closeGroup target options written run)
      (fun _ after => kept after.world ∧
        view after.world = (view start.world).put (Layout.image options descriptor bitmap done) ∧
        after.session.summary.tags =
          start.session.summary.tags + Layout.tagsBefore options done.length done.length)
      (Broke kept view excused options descriptor bitmap given chunks start) := by
  have placed := imaged.placed
  have tags := imaged.tags
  rw [closeGroup, imaged.group, Layout.image_eq, Layout.data_eq, Layout.tagsBefore_total_eq, ← ByteArray.append_assoc]
  split
  next partly =>
    -- The last group is not full, so its tag is still to come.
    rw [leads_bind, appendData, leads_call]
    refine (writes.writeAll _ run.world imaged.kept).mono ?_ ?_
    · rintro _ world ⟨frame, wrote⟩
      rw [leads_tally]
      refine ⟨frame.kept, ?_, ?_⟩
      · rw [wrote, placed, View.put_put]
      · change run.session.summary.tags + 1 = _
        rw [tags, Nat.add_assoc]
    · rintro cause world ⟨frame, fault, put⟩
      rw [placed] at put
      have size : (Group.after options done done.length).register.tag.size = options.checksum.tagSize := by
        rw [Checksum.Register.size_tag, Group.after, if_pos partly.1]
      have next : Layout.Piece options descriptor bitmap chunks chunks written.offset
          (written.offset + (Group.after options done done.length).register.tag.size) := by
        have stop : Layout.startOf options descriptor.blockSize.toNat done.length done.length =
            Layout.startOf options descriptor.blockSize.toNat 0 done.length + options.checksum.tagSize := by
          rw [Layout.startOf, Layout.startOf, Layout.tagsBefore_total_eq, if_pos partly, Nat.add_mul]
          omega
        have last := @Layout.Piece.tag options descriptor bitmap chunks
        rw [← imaged.length, stop, ← Nat.add_assoc, ← imaged.offset] at last
        rw [size]
        exact last
      refine broke_of_partlyPut unwritten frame.kept ⟨⟨cause, rfl, fault⟩, put⟩ imaged.told
        ⟨[], (List.append_nil _).symm⟩ imaged.given imaged.length ?_ next ?_
      · rw [ByteArray.size_append, Layout.size_begun imaged.sizes, imaged.offset]
      · -- No block is missing, so there is no data but what is written and the tag.
        intro more whole
        have none : more = [] := List.length_eq_zero_iff.mp (by rw [imaged.length] at whole; omega)
        rw [none, List.append_nil, Layout.image_eq, Layout.data_eq, if_pos partly, ← ByteArray.append_assoc]
        exact .refl _
  next whole =>
    rw [leads_pure, ByteArray.append_empty, Nat.add_zero]
    exact ⟨imaged.kept, placed, tags⟩

variable (gathers : Gathers given)
  (gives : source.GivesBlocks kept view start.session.config descriptor.blockSize.toNat allowed given excused)

include gathers gives

theorem imageChunk_leads
    (imaged : Imaged kept view owner excused options descriptor.blockSize.toNat given start
      (Layout.front options descriptor bitmap) passed done written run)
    {chunk : Chunk} {left : List Chunk} (next : chunks = passed ++ chunk :: left) (wide : 0 < descriptor.blockSize.toNat)
    (apart : ∀ number ∈ passed.flatMap Chunk.blocks, number ∉ chunk.blocks) (may : allowed chunk) :
    Leads (imageChunk owner source target descriptor options written chunk run)
      (fun written after => ∃ more, Imaged kept view owner excused options descriptor.blockSize.toNat given start
        (Layout.front options descriptor bitmap) (passed ++ [chunk]) (done ++ more) written after)
      (Broke kept view excused options descriptor bitmap given chunks start) := by
  rw [imageChunk, leads_bind]
  refine leads_checkRunning imaged.spares (fun running spares => ?_) fun running allowed =>
    ⟨imaged.kept, allowed, _, _, _, _, imaged.unfinished ⟨_, next⟩ (.inl rfl)⟩
  rw [leads_bind]
  refine (gives chunk { run with running, looks := run.looks + 1 } may imaged.kept imaged.settings).mono ?_ ?_
  · rintro data after ⟨⟨badSectors, world, rfl, frame⟩, size, blocks⟩
    -- What is packed carries the data on from the blocks done to those that have come in.
    have packs := pack_packs options done (Bytes.blocks descriptor.blockSize.toNat data)
    rw [← imaged.group] at packs
    have count : (Bytes.blocks descriptor.blockSize.toNat data).length = chunk.count := by
      rw [Bytes.length_blocks, size, Nat.mul_div_cancel _ wide]
    obtain ⟨gathered, length, sizes⟩ :=
      imaged.gather gathers apart count (fun _ member => Bytes.size_of_mem_blocks member) blocks
    generalize pack options written.group _ = packing at packs ⊢
    -- The data goes on by what is packed.
    have ahead : (Layout.front options descriptor bitmap).size + Layout.startOf options descriptor.blockSize.toNat 0
        (done ++ Bytes.blocks descriptor.blockSize.toNat data).length = written.offset + packing.bytes.size := by
      have both := congrArg ByteArray.size packs.bytes
      rw [ByteArray.size_append, Layout.size_begun imaged.sizes, Layout.size_begun sizes] at both
      rw [imaged.offset, Nat.add_assoc, both]
    rw [leads_bind, leads_tally, leads_bind, appendData, leads_call]
    refine (writes.writeAll _ world frame.kept).mono ?_ ?_
    · rintro _ last ⟨later, placed⟩
      rw [leads_bind, countBlocks, leads_tally, leads_bind]
      refine leads_report spares fun running spares => ?_
      have counted : run.session.summary.blocks + chunk.count =
          start.session.summary.blocks + Chunk.total (passed ++ [chunk]) := by
        rw [imaged.blocks, Chunk.total_append, Nat.add_assoc]
        rfl
      refine ⟨Bytes.blocks descriptor.blockSize.toNat data, later.kept, spares, imaged.settings, packs.group,
        ahead.symm, ?_, ?_, counted, ?_, gathered, length, sizes⟩
      · change view last = _
        rw [placed, frame.rest, imaged.placed, View.put_put, ByteArray.append_assoc, packs.bytes]
      · change run.session.summary.tags + _ = _
        rw [imaged.tags, Nat.add_assoc, packs.tags]
      · have told := imaged.told.push chunk descriptor.verifiedBlocks.toNat
        rw [← counted] at told
        exact told
    · rintro cause last ⟨later, fault, put⟩
      rw [frame.rest, imaged.placed] at put
      have piece : Layout.Piece options descriptor bitmap chunks passed written.offset
          (written.offset + packing.bytes.size) := by
        have this := @Layout.Piece.chunk options descriptor bitmap chunks passed left chunk next
        rwa [← length, ahead, ← imaged.length, ← imaged.offset] at this
      refine broke_of_partlyPut unwritten later.kept ⟨⟨cause, rfl, fault⟩, put⟩ imaged.told
        ⟨left, by rw [next, List.append_assoc]; rfl⟩ gathered length ?_ piece ?_
      · rw [ByteArray.size_append, Layout.size_begun imaged.sizes, imaged.offset]
      · -- The data that these blocks begin goes on with what was packed.
        intro more _
        rw [ByteArray.append_assoc, packs.bytes]
        exact Layout.startsWith_front_begun ..
  · rintro failure after ⟨⟨badSectors, world, rfl, frame⟩, allowed, told⟩
    have within : ∃ left, chunks = passed ++ left := ⟨_, next⟩
    have unfinished := imaged.unfinished within (.inr told)
    rw [← frame.rest] at unfinished
    exact ⟨frame.kept, allowed, _, _, _, _, unfinished⟩

/-- The chunks together bring in every marked block. -/
theorem imageChunks_leads (capacity : Nat) (may : ∀ chunk ∈ bitmap.chunks capacity, allowed chunk)
    (wide : 0 < descriptor.blockSize.toNat)
    (imaged : Imaged kept view owner excused options descriptor.blockSize.toNat given start
      (Layout.front options descriptor bitmap) [] [] written run) :
    Leads ((bitmap.chunks capacity).foldlM (imageChunk owner source target descriptor options) written run)
      (fun written after => ∃ blocks, Imaged kept view owner excused options descriptor.blockSize.toNat given start
        (Layout.front options descriptor bitmap) (bitmap.chunks capacity) blocks written after)
      (Broke kept view excused options descriptor bitmap given (bitmap.chunks capacity) start) := by
  -- Of the chunks some are passed, and the others are left.
  let holds : List Chunk → Written → Run ω → Prop := fun left written after =>
    ∃ passed done, bitmap.chunks capacity = passed ++ left ∧
      Imaged kept view owner excused options descriptor.blockSize.toNat given start
        (Layout.front options descriptor bitmap) passed done written after
  refine (leads_foldlM holds ?_ ⟨[], [], rfl, imaged⟩).weaken ?_
  · rintro chunk left written after member ⟨passed, done, next, imaged⟩
    -- Marked blocks are listed in ascending order, so those of the chunk are not passed yet.
    have apart : ∀ number ∈ passed.flatMap Chunk.blocks, number ∉ chunk.blocks := by
      have ascending : bitmap.marked.Pairwise (· < ·) := bitmap.markedFrom_ascending 0
      rw [← bitmap.flatMap_chunks capacity, next, List.flatMap_append, List.flatMap_cons] at ascending
      intro number earlier new
      exact Nat.lt_irrefl _ ((List.pairwise_append.mp ascending).2.2 number earlier number
        (List.mem_append_left _ new))
    refine (imageChunk_leads writes unwritten gathers gives imaged next wide apart (may chunk member)).weaken ?_
    rintro written later ⟨more, imaged⟩
    exact ⟨passed ++ [chunk], done ++ more, by rw [next, List.append_assoc]; rfl, imaged⟩
  · rintro written after ⟨passed, done, next, imaged⟩
    rw [List.append_nil] at next
    exact ⟨done, next ▸ imaged⟩

omit gives

/-- The head is written first. -/
theorem writeHead_leads (chunks : List Chunk) (held : kept start.world) :
    Leads (target.writeHead descriptor options start.world)
      (fun _ world => kept world ∧ view world = (view start.world).put (Head.encode descriptor options))
      fun failure world => Broke kept view excused options descriptor bitmap given chunks start failure
        { start with world } := by
  refine (writes.writeHead descriptor options start.world held).mono (fun _ _ head => head) ?_
  rintro failure world ⟨held, part⟩
  rw [← View.put_empty (view start.world)] at part
  have first : Layout.Piece options descriptor bitmap chunks [] 0 (0 + (Head.encode descriptor options).size) := by
    rw [Nat.zero_add, Head.size_encode]
    exact .head
  have within : ∃ left, chunks = [] ++ left := ⟨chunks, rfl⟩
  refine broke_of_partlyPut unwritten held part (.nothing start) within gathers.nil rfl rfl first fun more _ => ?_
  rw [ByteArray.empty_append, Layout.image_eq, Layout.front, ByteArray.append_assoc, ByteArray.append_assoc]
  exact Bytes.startsWith_append _ _

/-- Behind the head the bitmap completes the front. -/
theorem writeBitmap_leads (chunks : List Chunk) {world : ω} (held : kept world)
    (head : view world = (view start.world).put (Head.encode descriptor options)) :
    Leads (target.writeBitmap bitmap world)
      (fun _ after => kept after ∧ view after = (view start.world).put (Layout.front options descriptor bitmap))
      fun failure after => Broke kept view excused options descriptor bitmap given chunks start failure
        { start with world := after } := by
  have headSize : (Head.encode descriptor options).size = Layout.bitmapOffset := Head.size_encode ..
  refine (writes.writeBitmap bitmap world held).mono ?_ ?_
  · rintro _ after ⟨held, body⟩
    rw [body, head, View.put_put, ← ByteArray.append_assoc]
    exact ⟨held, rfl⟩
  · rintro failure after ⟨held, part⟩
    rw [head, View.put_put] at part
    have starts (more : List ByteArray) : Bytes.StartsWith (Layout.image options descriptor bitmap ([] ++ more))
        (Layout.front options descriptor bitmap) := ⟨_, rfl⟩
    have within : ∃ left, chunks = [] ++ left := ⟨chunks, rfl⟩
    rcases part with body | crc
    · refine broke_of_partlyPut unwritten held body (.nothing start) within gathers.nil rfl headSize .bitmap
        fun more _ => (starts more).trans ?_
      exact Bytes.startsWith_append _ _
    · have last : Layout.Piece options descriptor bitmap chunks [] (Layout.bitmapOffset + bitmap.bytes.size)
          (Layout.bitmapOffset + bitmap.bytes.size + (Head.storedCrc (Checksum.ofBytes bitmap.bytes)).size) := by
        have last := @Layout.Piece.crc options descriptor bitmap chunks
        rwa [Layout.front, ByteArray.size_append, ByteArray.size_append, headSize] at last
      refine broke_of_partlyPut unwritten held crc (.nothing start) within gathers.nil rfl ?_ last
        fun more _ => starts more
      rw [ByteArray.size_append, headSize]

include gives

/-- A session that images a device writes the image of the blocks that it was given, or breaks off with a front of it. -/
theorem writeParts_leads (total : bitmap.total = descriptor.totalBlocks.toNat)
    (wide : 0 < descriptor.blockSize.toNat)
    (may : ∀ chunk ∈ bitmap.chunks (start.session.config.chunkCapacity descriptor.blockSize.toNat), allowed chunk)
    (held : kept start.world) (spares : owner.Spares excused start.running)
    (granted : ∀ size ∈ imagingBuffers start.session.config descriptor.blockSize.toNat,
      ¬ start.grants size → excused (.insufficientMemory size 0)) :
    Leads (writeParts owner source target descriptor bitmap start)
      (fun _ after => kept after.world ∧ Wrote (imageOptions start.session.config) descriptor bitmap given
        (view start.world) start.session.summary.tags after.session.summary (view after.world))
      (Broke kept view excused (imageOptions start.session.config) descriptor bitmap given
        (bitmap.chunks (start.session.config.chunkCapacity descriptor.blockSize.toNat)) start) := by
  rw [writeParts, leads_bind, leads_get, leads_bind]
  refine leads_allocate (fun _ => ?_) fun size member refused => ⟨held, granted size member refused, [], [], [],
    ByteArray.empty, {
    told := .nothing start
    within := ⟨_, rfl⟩
    given := gathers.nil
    length := rfl
    placed := (View.put_empty _).symm
    starts := fun more _ => ⟨_, (ByteArray.empty_append ..).symm⟩
    ends := rfl }⟩
  rw [leads_bind, leads_inWorld]
  refine (writeHead_leads writes unwritten gathers _ held).weaken ?_
  rintro _ headed ⟨held, head⟩
  rw [leads_bind, leads_inWorld]
  refine (writeBitmap_leads writes unwritten gathers _ held head).weaken ?_
  rintro _ fronted ⟨held, placed⟩
  rw [leads_bind, leads_enter, leads_bind]
  refine (imageChunks_leads writes unwritten gathers gives _ may wide
    (.behind_front total gathers held spares placed)).weaken ?_
  rintro written last ⟨blocks, imaged⟩
  refine (closeGroup_leads writes unwritten imaged).weaken ?_
  rintro _ after ⟨held, placed, tags⟩
  refine ⟨held, blocks, ?_, imaged.sizes, placed, tags⟩
  rw [← bitmap.flatMap_chunks (start.session.config.chunkCapacity descriptor.blockSize.toNat)]
  exact imaged.given

/-- A session that images a device writes the image of the blocks that it was given, or fails as is excused. -/
theorem writeImage_leads (total : bitmap.total = descriptor.totalBlocks.toNat)
    (wide : 0 < descriptor.blockSize.toNat)
    (may : ∀ chunk ∈ bitmap.chunks (start.session.config.chunkCapacity descriptor.blockSize.toNat), allowed chunk)
    (held : kept start.world) (spares : owner.Spares excused start.running)
    (granted : ∀ size ∈ imagingBuffers start.session.config descriptor.blockSize.toNat,
      ¬ start.grants size → excused (.insufficientMemory size 0)) :
    Leads (writeImage owner source target descriptor bitmap start)
      (fun summary after => kept after.world ∧ Wrote (imageOptions start.session.config) descriptor bitmap given
        (view start.world) start.session.summary.tags summary (view after.world))
      fun failure _ => excused failure := by
  refine (leads_conclude writes
    (fun summary _ seen _ => Wrote (imageOptions start.session.config) descriptor bitmap given (view start.world)
      start.session.summary.tags summary seen)
    (fun failure _ _ _ => excused failure) ?_ ?_).mono ?_ ?_
  · refine (writeParts_leads writes unwritten gathers gives total wide may held spares granted).mono ?_ ?_
    · exact fun _ _ wrote => wrote
    · rintro failure after ⟨held, allowed, _⟩
      exact ⟨held, allowed⟩
  · exact fun cause _ _ _ _ fault _ => unwritten 0 cause fault
  · rintro summary after ⟨held, _, wrote⟩
    exact ⟨held, wrote⟩
  · exact fun _ _ broke => broke.2

end

/-- However imaging ends, it leaves alone what reading the source and writing the target do. -/
theorem writeImage_keeps {β : Type} {kept : ω → Prop} {view : ω → View} {rest : ω → β} {fails : IoError → Prop}
    {source : Source ω} {target : Sink ω} (writes : target.Writes kept view rest fails) (apart : source.Apart kept view)
    (owner : Owner) {descriptor : Descriptor} {bitmap : Bitmap} (total : bitmap.total = descriptor.totalBlocks.toNat)
    (wide : 0 < descriptor.blockSize.toNat) (run : Run ω) (held : kept run.world) :
    Leads (writeImage owner source target descriptor bitmap run) (fun _ after => kept after.world)
      fun _ after => kept after.world := by
  have spares : owner.Spares (fun _ => True) run.running := .inl trivial
  have parts := writeParts_leads writes (fun _ _ _ => trivial) gathers_length
    (apart.givesBlocks run.session.config wide fun _ => True) total wide (fun _ _ => trivial) held spares
    fun _ _ _ => trivial
  refine (leads_conclude writes (fun _ _ _ _ => True) (fun _ _ _ _ => True) ?_ fun _ _ _ _ _ _ _ => trivial).mono ?_ ?_
  · exact parts.mono (fun _ _ wrote => ⟨wrote.1, trivial⟩) fun _ _ broke => ⟨broke.1, trivial⟩
  · exact fun _ _ finished => finished.1
  · exact fun _ _ broke => broke.1

end Transfer

end BlockImage
