import BlockImage.Proofs.Transfer.PartialImage
import BlockImage.Proofs.Transfer.Rescue

/-!
# Imaging what comes in

Where it is known what every chunk of a source comes in as, the image that is written is known, and how many bad sectors
are counted. Nothing is asked of the descriptor but that its blocks hold bytes, and however imaging ends, a front of that
image is left.
-/
namespace BlockImage.Transfer

section

variable {ω β : Type} {kept : ω → Prop} {view : ω → View} {rest : ω → β} {fails : IoError → Prop} {owner : Owner}
  {excused : Error → Prop} {source : Source ω} {target : Sink ω} {descriptor : Descriptor} {bitmap : Bitmap}
  {content : ByteArray} {lost : Chunk → List (Nat × Nat)} {start : Run ω} {passed left : List Chunk} {chunk : Chunk}
  {written : Written} {run : Run ω}

/-- What `content` holds of the blocks of some chunks. -/
def contentsOf (width : Nat) (content : ByteArray) (chunks : List Chunk) : List ByteArray :=
  (chunks.flatMap Chunk.blocks).map (Bytes.blockAt width content)

theorem contentsOf_concat (width : Nat) (content : ByteArray) (passed : List Chunk) (chunk : Chunk) :
    contentsOf width content (passed ++ [chunk]) =
      contentsOf width content passed ++ chunk.blocks.map (Bytes.blockAt width content) := by
  rw [contentsOf, List.flatMap_append, List.flatMap_singleton, List.map_append, contentsOf]

/-- Some chunks of `content` are in the image that was begun at `start`, and their bad sectors are counted. -/
structure Stored (kept : ω → Prop) (view : ω → View) (owner : Owner) (excused : Error → Prop) (descriptor : Descriptor)
    (bitmap : Bitmap) (content : ByteArray) (lost : Chunk → List (Nat × Nat)) (start : Run ω) (passed : List Chunk) (written : Written)
    (run : Run ω) : Prop where
  kept : kept run.world
  spares : owner.Spares excused run.running
  settings : run.session.config = start.session.config
  group : written.group = Group.after (imageOptions start.session.config)
    (contentsOf descriptor.blockSize.toNat content passed)
    (contentsOf descriptor.blockSize.toNat content passed).length
  placed : view run.world = (view start.world).put
    (Layout.front (imageOptions start.session.config) descriptor bitmap ++
      Layout.begun (imageOptions start.session.config) (contentsOf descriptor.blockSize.toNat content passed))
  badSectors : run.session.summary.badSectors = start.session.summary.badSectors + (passed.flatMap lost).length

/-- Imaging failed as is excused, and left a front of the image of `content`. -/
def LeftFront (view : ω → View) (excused : Error → Prop) (descriptor : Descriptor) (bitmap : Bitmap)
    (content : ByteArray) (start : Run ω) (failure : Error) (seen : View) : Prop :=
  excused failure ∧ ∃ front, Bytes.StartsWith (imageOf start.session.config descriptor bitmap content) front ∧
    seen = (view start.world).put front

/-- A piece of the image that was written in part leaves a front of it. -/
theorem leftFront_of_partlyPut (unwritten : ∀ offset cause, fails cause → excused (.write offset cause))
    {before piece : ByteArray} {offset : Nat} {failure : Error} {seen : View}
    (put : PartlyPut fails ((view start.world).put before) offset piece failure seen)
    (starts : Bytes.StartsWith (imageOf start.session.config descriptor bitmap content) (before ++ piece)) :
    LeftFront view excused descriptor bitmap content start failure seen := by
  obtain ⟨⟨cause, rfl, fault⟩, amount, _, placed⟩ := put
  refine ⟨unwritten _ _ fault, before ++ piece.extract 0 amount, ?_, ?_⟩
  · exact starts.trans ((Bytes.startsWith_extract piece amount).append_left before)
  · rw [placed, View.put_put]

/-- The first chunks make up a front of the image. -/
theorem startsWith_contentsOf
    (next : bitmap.chunks (start.session.config.chunkCapacity descriptor.blockSize.toNat) = passed ++ left) :
    Bytes.StartsWith (imageOf start.session.config descriptor bitmap content)
      (Layout.front (imageOptions start.session.config) descriptor bitmap ++
        Layout.begun (imageOptions start.session.config) (contentsOf descriptor.blockSize.toNat content passed)) := by
  rw [imageOf, Bitmap.contents_of_chunks next]
  exact Layout.startsWith_front_begun ..

variable (writes : target.Writes kept view rest fails)
  (unwritten : ∀ offset cause, fails cause → excused (.write offset cause))

include writes unwritten

/-- The last tag completes the image. -/
theorem closeGroup_leads_of_content
    (stored : Stored kept view owner excused descriptor bitmap content lost start
      (bitmap.chunks (start.session.config.chunkCapacity descriptor.blockSize.toNat)) written run) :
    Leads (closeGroup target (imageOptions start.session.config) written run)
      (fun _ after => kept after.world ∧
        view after.world = (view start.world).put (imageOf start.session.config descriptor bitmap content) ∧
        after.session.summary.badSectors = run.session.summary.badSectors)
      fun failure after => kept after.world ∧
        LeftFront view excused descriptor bitmap content start failure (view after.world) := by
  have placed := stored.placed
  have contents : contentsOf descriptor.blockSize.toNat content
      (bitmap.chunks (start.session.config.chunkCapacity descriptor.blockSize.toNat)) =
      bitmap.contents descriptor.blockSize.toNat content := by
    rw [contentsOf, bitmap.flatMap_chunks]
    rfl
  have image : imageOf start.session.config descriptor bitmap content =
      Layout.front (imageOptions start.session.config) descriptor bitmap ++
        Layout.begun (imageOptions start.session.config) (contentsOf descriptor.blockSize.toNat content
          (bitmap.chunks (start.session.config.chunkCapacity descriptor.blockSize.toNat))) ++
        if (imageOptions start.session.config).tagged ∧ 0 < written.group.filled then written.group.register.tag
        else ByteArray.empty := by
    rw [stored.group, contents, imageOf, Layout.image_eq, Layout.data_eq, ByteArray.append_assoc]
  rw [closeGroup]
  split
  next partly =>
    -- The last group is not full, so its tag is still to come.
    rw [if_pos partly] at image
    rw [leads_bind, appendData, leads_call]
    refine (writes.writeAll _ run.world stored.kept).mono ?_ ?_
    · rintro _ world ⟨frame, wrote⟩
      rw [leads_tally]
      refine ⟨frame.kept, ?_, rfl⟩
      rw [wrote, placed, View.put_put, image]
    · rintro cause world ⟨frame, fault, put⟩
      rw [placed] at put
      refine ⟨frame.kept, leftFront_of_partlyPut unwritten ⟨⟨cause, rfl, fault⟩, put⟩ ?_⟩
      rw [image]
      exact .refl _
  next whole =>
    rw [if_neg whole, ByteArray.append_empty] at image
    exact ⟨stored.kept, placed.trans (by rw [image]), rfl⟩

variable (gives : source.GivesContent kept view start.session.config descriptor.blockSize.toNat
    (· ∈ bitmap.chunks (start.session.config.chunkCapacity descriptor.blockSize.toNat)) content lost)
  (inside : ∀ chunk ∈ bitmap.chunks (start.session.config.chunkCapacity descriptor.blockSize.toNat),
    chunk.stop * descriptor.blockSize.toNat ≤ content.size)
  (wide : 0 < descriptor.blockSize.toNat)

include gives inside wide

theorem imageChunk_leads_of_content
    (next : bitmap.chunks (start.session.config.chunkCapacity descriptor.blockSize.toNat) = passed ++ chunk :: left)
    (stored : Stored kept view owner excused descriptor bitmap content lost start passed written run) :
    Leads (imageChunk owner source target descriptor (imageOptions start.session.config) written chunk run)
      (fun written after =>
        Stored kept view owner excused descriptor bitmap content lost start (passed ++ [chunk]) written after)
      fun failure after => kept after.world ∧
        LeftFront view excused descriptor bitmap content start failure (view after.world) := by
  have member : chunk ∈ bitmap.chunks (start.session.config.chunkCapacity descriptor.blockSize.toNat) := by
    rw [next]
    exact List.mem_append_right _ List.mem_cons_self
  have next' : bitmap.chunks (start.session.config.chunkCapacity descriptor.blockSize.toNat) =
      passed ++ [chunk] ++ left := by
    rw [next, List.append_assoc]
    rfl
  rw [imageChunk, leads_bind]
  refine leads_checkRunning stored.spares (fun running spares => ?_) fun running allowed =>
    ⟨stored.kept, allowed, _, startsWith_contentsOf next, stored.placed⟩
  rw [leads_bind]
  refine (gives chunk { run with running, looks := run.looks + 1 } member stored.kept stored.settings).mono ?_ ?_
  · rintro data _ ⟨rfl, world, rfl, frame⟩
    rw [Bytes.blocks_extract wide (inside chunk member)]
    -- What is packed carries the data on from the chunks passed to this one.
    have packs := pack_packs (imageOptions start.session.config)
      (contentsOf descriptor.blockSize.toNat content passed)
      (chunk.blocks.map (Bytes.blockAt descriptor.blockSize.toNat content))
    rw [← stored.group, ← contentsOf_concat] at packs
    have blocks : List.range' chunk.first chunk.count = chunk.blocks := rfl
    rw [blocks]
    generalize pack (imageOptions start.session.config) written.group _ = packing at packs ⊢
    rw [leads_bind, leads_tally, leads_bind, appendData, leads_call]
    refine (writes.writeAll _ world frame.kept).mono ?_ ?_
    · rintro _ last ⟨later, placed⟩
      rw [leads_bind, countBlocks, leads_tally, leads_bind]
      refine leads_report spares fun running spares =>
        ⟨later.kept, spares, stored.settings, packs.group, ?_, ?_⟩
      · change view last = _
        rw [placed, frame.rest, stored.placed, View.put_put, ByteArray.append_assoc, packs.bytes]
      · change run.session.summary.badSectors + (lost chunk).length = _
        rw [stored.badSectors, List.flatMap_append, List.length_append, List.flatMap_singleton, Nat.add_assoc]
    · rintro cause last ⟨later, fault, put⟩
      rw [frame.rest, stored.placed] at put
      refine ⟨later.kept, leftFront_of_partlyPut unwritten ⟨⟨cause, rfl, fault⟩, put⟩ ?_⟩
      rw [ByteArray.append_assoc, packs.bytes]
      exact startsWith_contentsOf next'
  · exact fun _ _ none => none.elim

/-- Imaging writes the image of what comes in and counts the bad sectors, or it leaves a front of that image. -/
theorem writeParts_leads_of_content (held : kept start.world) (spares : owner.Spares excused start.running)
    (granted : ∀ size ∈ imagingBuffers start.session.config descriptor.blockSize.toNat,
      ¬ start.grants size → excused (.insufficientMemory size 0)) :
    Leads (writeParts owner source target descriptor bitmap start)
      (fun _ after => kept after.world ∧
        view after.world = (view start.world).put (imageOf start.session.config descriptor bitmap content) ∧
        after.session.summary.badSectors = start.session.summary.badSectors +
          ((bitmap.chunks (start.session.config.chunkCapacity descriptor.blockSize.toNat)).flatMap lost).length)
      fun failure after => kept after.world ∧
        LeftFront view excused descriptor bitmap content start failure (view after.world) := by
  have front : Bytes.StartsWith (imageOf start.session.config descriptor bitmap content)
      (Head.encode descriptor (imageOptions start.session.config) ++ bitmap.bytes ++
        Head.storedCrc (Checksum.ofBytes bitmap.bytes)) := Bytes.startsWith_append _ _
  rw [writeParts, leads_bind, leads_get, leads_bind]
  refine leads_allocate (fun _ => ?_) fun size member refused =>
    ⟨held, granted size member refused, ByteArray.empty, ⟨_, (ByteArray.empty_append ..).symm⟩, (View.put_empty _).symm⟩
  rw [leads_bind, leads_inWorld]
  refine (writes.writeHead descriptor (imageOptions start.session.config) start.world held).mono ?_ ?_
  · rintro _ headed ⟨held, head⟩
    rw [leads_bind, leads_inWorld]
    refine (writes.writeBitmap bitmap headed held).mono ?_ ?_
    · rintro _ fronted ⟨held, body⟩
      rw [leads_bind, leads_enter, leads_bind]
      -- Of the chunks some are passed, and the others are left.
      let holds : List Chunk → Written → Run ω → Prop := fun left written after => ∃ passed,
        bitmap.chunks (start.session.config.chunkCapacity descriptor.blockSize.toNat) = passed ++ left ∧
        Stored kept view owner excused descriptor bitmap content lost start passed written after
      have first : Stored kept view owner excused descriptor bitmap content lost start []
          { group := .first (imageOptions start.session.config)
            offset := Layout.dataOffset descriptor.totalBlocks.toNat (imageOptions start.session.config).encoding }
          { start with session := { start.session with phase := .transferring }, world := fronted } := by
        refine ⟨held, spares, rfl, Group.after_zero.symm, ?_, rfl⟩
        change view fronted = (view start.world).put (_ ++ ByteArray.empty)
        rw [body, head, View.put_put, ByteArray.append_empty, Layout.front, ByteArray.append_assoc]
      refine Leads.weaken (leads_foldlM holds ?_ ⟨[], rfl, first⟩) ?_
      · rintro chunk left written after _ ⟨passed, next, stored⟩
        refine (imageChunk_leads_of_content writes unwritten gives inside wide next stored).weaken fun _ _ stored => ?_
        exact ⟨passed ++ [chunk], by rw [next, List.append_assoc]; rfl, stored⟩
      · rintro written after ⟨passed, next, stored⟩
        rw [List.append_nil] at next
        subst next
        refine (closeGroup_leads_of_content writes unwritten stored).weaken ?_
        rintro _ last ⟨held, placed, counted⟩
        exact ⟨held, placed, counted.trans stored.badSectors⟩
    · rintro failure fronted ⟨held, part⟩
      rw [head, View.put_put] at part
      refine ⟨held, ?_⟩
      rcases part with body | crc
      · exact leftFront_of_partlyPut unwritten body (front.trans (Bytes.startsWith_append _ _))
      · exact leftFront_of_partlyPut unwritten crc front
  · rintro failure headed ⟨held, part⟩
    rw [← View.put_empty (view start.world)] at part
    refine ⟨held, leftFront_of_partlyPut unwritten part ?_⟩
    rw [ByteArray.empty_append]
    rw [ByteArray.append_assoc] at front
    exact front.trans (Bytes.startsWith_append _ _)

theorem writeImage_leads_of_content (held : kept start.world) (spares : owner.Spares excused start.running)
    (granted : ∀ size ∈ imagingBuffers start.session.config descriptor.blockSize.toNat,
      ¬ start.grants size → excused (.insufficientMemory size 0)) :
    Leads (writeImage owner source target descriptor bitmap start)
      (fun summary after =>
        view after.world = (view start.world).put (imageOf start.session.config descriptor bitmap content) ∧
        summary.badSectors = start.session.summary.badSectors +
          ((bitmap.chunks (start.session.config.chunkCapacity descriptor.blockSize.toNat)).flatMap lost).length)
      fun failure after => LeftFront view excused descriptor bitmap content start failure (view after.world) := by
  refine Leads.mono (leads_conclude writes
    (fun summary _ seen _ =>
      seen = (view start.world).put (imageOf start.session.config descriptor bitmap content) ∧
      summary.badSectors = start.session.summary.badSectors +
        ((bitmap.chunks (start.session.config.chunkCapacity descriptor.blockSize.toNat)).flatMap lost).length)
    (fun failure _ seen _ => LeftFront view excused descriptor bitmap content start failure seen)
    (writeParts_leads_of_content writes unwritten gives inside wide held spares granted) ?_) ?_ ?_
  · rintro cause _ _ _ _ fault ⟨placed, _⟩
    exact ⟨unwritten 0 cause fault, _, .refl _, placed⟩
  · exact fun _ _ finished => finished.2.2
  · exact fun _ _ broke => broke.2

end

end BlockImage.Transfer
