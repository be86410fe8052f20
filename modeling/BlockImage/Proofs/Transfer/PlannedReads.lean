import BlockImage.Proofs.Transfer.Acceptance
import BlockImage.Proofs.Transfer.Confinement
import BlockImage.Proofs.Trapping.Safety

/-!
# Reads that are planned

Before a restore reads the blocks of a chunk it counts the tags that they complete, and asks for as many bytes at once.
What takes the blocks off these bytes goes block by block and knows nothing of the count. Whatever the bytes are, both
come to the same: the bytes are used up exactly, there is room for them, and no tag falls between two reads.
-/
namespace BlockImage

variable {ω : Type}

namespace Transfer

variable {head : Head}

/-- The tags that are planned for the next `count` blocks. -/
def tagsPlanned (head : Head) (restored : Restored) (count : Nat) : Nat :=
  plannedTags head.options restored.group.filled count (restored.done + count = head.total)

/-- The bytes that are read for the next `count` blocks. -/
def bytesPlanned (head : Head) (restored : Restored) (count : Nat) : Nat :=
  count * head.width + tagsPlanned head restored count * head.options.checksum.tagSize

/-! ### Taking apart what was read -/

/-- Of the bytes read behind `done` blocks, `index` blocks are taken, with as many tags as follow them. -/
structure Decoded (head : Head) (start : Run ω) (done index : Nat) (unpacking : Unpacking) (run : Run ω) : Prop where
  taken : Trapping.Taken head done index unpacking
  below : head.options.tagged = true → unpacking.group.filled < head.options.blocksPerChecksum.toNat
  counted : ∃ tags, run = start.countTags tags ∧
    Layout.tagsBefore head.options head.total done + tags = Layout.tagsBefore head.options head.total (done + index)

/-- A group that is not full is none either when another block is taken: it goes on, or the next one begins. -/
theorem takeBlock_leads_below (data : ByteArray) {unpacking : Unpacking}
    (below : head.options.tagged = true → unpacking.group.filled < head.options.blocksPerChecksum.toNat)
    (number : Nat) (run : Run ω) :
    Leads (takeBlock head data unpacking number run)
      (fun taken _ => head.options.tagged = true → taken.group.filled < head.options.blocksPerChecksum.toNat)
      fun _ _ => True := by
  rw [takeBlock]
  dsimp only
  split
  next tagged =>
    have room := below tagged
    split
    next closes =>
      exact leads_bind_of_next fun _ _ => leads_bind_of_next fun _ _ => fun _ => Layout.perTag_pos tagged
    next goes =>
      intro _
      change unpacking.group.filled + 1 < _
      change ¬ (unpacking.group.filled + 1 = _ ∨ _) at goes
      omega
  next untagged => exact fun tagged => absurd tagged untagged

/-- A tag is counted where one is taken. -/
theorem takeBlock_leads_counted (data : ByteArray) {number : Nat} {unpacking : Unpacking}
    (stands : Trapping.Stands head number unpacking.group) (inside : number < head.total) (run : Run ω) :
    Leads (takeBlock head data unpacking number run)
      (fun _ after => after = run.countTags (if head.Closes number then 1 else 0)) fun _ _ => True := by
  rw [takeBlock]
  dsimp only
  split
  next tagged =>
    have closes_iff := stands.closes_iff tagged inside
    split
    next full =>
      rw [if_pos ((closes_iff _).mp full), leads_bind]
      refine (checkTag_keeps _ _ _ run).mono ?_ fun _ _ _ => trivial
      rintro _ after rfl
      exact leads_bind.mpr rfl
    next goes => rw [if_neg (mt (closes_iff _).mpr goes)]; rfl
  next untagged => rw [if_neg fun closes => untagged closes.1]; rfl

theorem Decoded.takeBlock {data : ByteArray} {start run : Run ω} {done index : Nat} {unpacking : Unpacking}
    (decoded : Decoded head start done index unpacking run) (inside : done + index < head.total)
    (reaches : head.startOf (done + index + 1) ≤ head.startOf done + data.size) :
    Leads (takeBlock head data unpacking (done + index) run) (Decoded head start done (index + 1)) fun _ _ => True := by
  obtain ⟨tags, rfl, counted⟩ := decoded.counted
  have taken := (decoded.taken.takeBlock inside reaches (start.countTags tags)).leads
  have below := takeBlock_leads_below data decoded.below (done + index) (start.countTags tags)
  have more := takeBlock_leads_counted data decoded.taken.stands inside (start.countTags tags)
  refine ((taken.and below).and more).mono ?_ fun _ _ _ => trivial
  rintro unpacking after ⟨⟨taken, below⟩, rfl⟩
  refine ⟨taken, below, _, Run.countTags_countTags .., ?_⟩
  rw [← Nat.add_assoc, counted, ← Nat.add_assoc, Layout.tagsBefore_succ (.inl inside)]

theorem of_chunkSizes_eq_cons {capacity left count : Nat} {rest : List Nat}
    (sizes : chunkSizes capacity left = count :: rest) :
    0 < count ∧ count = min (max capacity 1) left ∧ rest = chunkSizes capacity (left - count) := by
  rw [chunkSizes] at sizes
  split at sizes
  next none => cases sizes
  next some =>
    obtain ⟨rfl, rfl⟩ := List.cons.inj sizes
    exact ⟨by omega, rfl, rfl⟩

/-- Where a restore stands that moves at most `capacity` blocks at a time, and has chunks of the sizes `rest` before
it. -/
structure Underway (head : Head) (capacity : Nat) (rest : List Nat) (restored : Restored) : Prop where
  within : restored.done ≤ head.total
  sizes : rest = chunkSizes capacity (head.total - restored.done)
  stands : Trapping.Stands head restored.done restored.group
  below : head.options.tagged = true → restored.group.filled < head.options.blocksPerChecksum.toNat
  offset : restored.offset =
    Layout.dataOffset head.descriptor.totalBlocks.toNat head.options.encoding + head.startOf restored.done

/-- Before any chunk nothing is restored, and all chunks are to come. -/
theorem Underway.at_start (head : Head) (capacity : Nat) : Underway head capacity (chunkSizes capacity head.total) {
    group := .first head.options
    offset := Layout.dataOffset head.descriptor.totalBlocks.toNat head.options.encoding } where
  within := Nat.zero_le _
  sizes := rfl
  stands := .at_start
  below tagged := Layout.perTag_pos tagged
  offset := by rw [Head.startOf_zero, Nat.add_zero]

namespace Underway

variable {restored : Restored} {capacity count : Nat} {rest : List Nat}

theorem size_eq (underway : Underway head capacity (count :: rest) restored) :
    count = min (max capacity 1) (head.total - restored.done) := (of_chunkSizes_eq_cons underway.sizes.symm).2.1

theorem positive (underway : Underway head capacity (count :: rest) restored) : 0 < count :=
  (of_chunkSizes_eq_cons underway.sizes.symm).1

theorem more (underway : Underway head capacity (count :: rest) restored) : restored.done + count ≤ head.total := by
  have within := underway.within
  have size := underway.size_eq
  omega

/-- The planned bytes end where the blocks behind the chunk begin. -/
theorem ends (underway : Underway head capacity (count :: rest) restored) :
    head.startOf restored.done + bytesPlanned head restored count = head.startOf (restored.done + count) := by
  have more := underway.more
  have some := underway.positive
  exact startOf_add_planned count (by omega) fun tagged => underway.stands.filled tagged (by omega)

/-- Whatever was read, taking the blocks off it uses it up, with as many tags as were planned. -/
theorem unpack_decodes (underway : Underway head capacity (count :: rest) restored) {data : ByteArray}
    (size : data.size = bytesPlanned head restored count) (run : Run ω) :
    Leads (unpack head restored.group data restored.done count run)
      (fun unpacking after => unpacking.position = data.size ∧
        after = run.countTags (tagsPlanned head restored count) ∧
        Decoded head run restored.done count unpacking after)
      fun _ _ => True := by
  have more := underway.more
  have some := underway.positive
  have ends := underway.ends
  have decodes : Leads (unpack head restored.group data restored.done count run)
      (Decoded head run restored.done count) fun _ _ => True := by
    rw [unpack]
    refine leads_foldlM_range (Decoded head run restored.done) ?_ ?_
    · intro index unpacking after below decoded
      refine decoded.takeBlock (by omega) ?_
      rw [size, ends]
      exact Head.startOf_mono (by omega) more
    · exact ⟨⟨rfl, by rw [Nat.zero_mul]; rfl, underway.stands⟩, underway.below, 0, rfl, rfl⟩
  refine decodes.weaken fun unpacking after decoded => ?_
  obtain ⟨tags, counts, sum⟩ := decoded.counted
  have position := decoded.taken.position
  have same : tags = tagsPlanned head restored count := by
    have more : restored.done < head.total := by omega
    refine Nat.add_left_cancel (sum.trans ?_)
    exact (plannedTags_eq more fun tagged => underway.stands.filled tagged more).symm
  exact ⟨by omega, same ▸ counts, decoded⟩

end Underway

/-! ### The restore as a whole -/

/-- The read for the next chunk comes out even: it fits into its working area, begins where a block begins and ends where
one does, and whatever it brings is used up by the blocks and tags that are taken off it. -/
structure ComesOutEven (head : Head) (area : Nat) (restored : Restored) (count : Nat) : Prop where
  begun : head.options.tagged = true → restored.group.filled < head.options.blocksPerChecksum.toNat
  fits : bytesPlanned head restored count ≤ area
  begins : restored.offset =
    Layout.dataOffset head.descriptor.totalBlocks.toNat head.options.encoding + head.startOf restored.done
  ends : head.startOf restored.done + bytesPlanned head restored count = head.startOf (restored.done + count)
  /-- No tag falls between two reads. -/
  whole : ∀ number, restored.done ≤ number → number < restored.done + count → head.Closes number →
    head.startOf number + head.width + head.options.checksum.tagSize ≤
      head.startOf restored.done + bytesPlanned head restored count
  decodes : ∀ {ω : Type} (data : ByteArray) (run : Run ω), data.size = bytesPlanned head restored count →
    Leads (unpack head restored.group data restored.done count run)
      (fun unpacking after => unpacking.position = data.size ∧ after = run.countTags (tagsPlanned head restored count) ∧
        (head.options.tagged = true → unpacking.group.filled < head.options.blocksPerChecksum.toNat))
      fun _ _ => True
  /-- No piece is cut that does not lie within what was read. -/
  inside : ∀ {ω : Type} (data : ByteArray), data.size = bytesPlanned head restored count →
    Untrapped (@Trapping.unpack ω head restored.group data restored.done count)
      (unpack head restored.group data restored.done count)

theorem Underway.comesOutEven {restored : Restored} {count capacity : Nat} {rest : List Nat}
    (underway : Underway head capacity (count :: rest) restored) (room : 0 < capacity) :
    ComesOutEven head (capacity * head.width +
      (if head.options.tagged then capacity / head.options.blocksPerChecksum.toNat + 2 else 0) *
        head.options.checksum.tagSize) restored count where
  begun := underway.below
  fits := by
    have most : count ≤ capacity := by
      have size := underway.size_eq
      omega
    exact Nat.add_le_add (Nat.mul_le_mul_right _ most)
      (Nat.mul_le_mul_right _ (Trapping.plannedTags_le underway.below most _))
  begins := underway.offset
  ends := underway.ends
  whole number behind before closes := by
    have more := underway.more
    have next := @Head.startOf_succ head number (by omega)
    rw [if_pos closes] at next
    rw [underway.ends, ← next]
    exact Head.startOf_mono (by omega) more
  decodes data run size := by
    refine (underway.unpack_decodes size run).weaken ?_
    rintro unpacking after ⟨position, counted, decoded⟩
    exact ⟨position, counted, decoded.below⟩
  inside data size := .of_follows fun run =>
    (Trapping.unpack_follows underway.stands underway.more (size ▸ underway.ends) run).any

variable (owner : Owner) (image : Stream ω) (target : Target ω) (head : Head) (bitmap : Bitmap) (config : Config)

/-- A chunk that is moved leaves the restore where the next one can be planned. -/
theorem restorePlan_step_leads {restored : Restored} {capacity count : Nat} {rest : List Nat}
    (underway : Underway head capacity (count :: rest) restored) (run : Run ω) :
    Leads ((restorePlan image target head bitmap config).step owner restored count run)
      (fun next _ => Underway head capacity rest next) fun _ _ => True := by
  have ends := underway.ends
  have offset := underway.offset
  obtain ⟨_, _, later⟩ := of_chunkSizes_eq_cons underway.sizes.symm
  rw [restorePlan_step, restoreChunk]
  refine leads_bind_of_next fun _ there => ?_
  rw [leads_bind, leads_call]
  refine (image.leads_size_readExactly _ there.world).mono ?_ fun _ _ _ => trivial
  intro data world size
  rw [leads_bind]
  refine (underway.unpack_decodes size _).weaken ?_
  rintro unpacking after ⟨_, _, decoded⟩
  refine leads_bind_of_next fun cursor _ => leads_bind_of_next fun _ _ => leads_bind_of_next fun _ _ => ?_
  refine ⟨underway.more, ?_, decoded.taken.stands, decoded.below, ?_⟩
  · rw [later, Nat.sub_sub]
  · change restored.offset + bytesPlanned head restored count = _ + head.startOf (restored.done + count)
    rw [offset, ← ends, Nat.add_assoc]

theorem restorePlan_upTo_leads (chunk : Nat) (run : Run ω) :
    Leads ((restorePlan image target head bitmap config).upTo owner chunk run)
      (fun restored _ => (∀ size ∈ restoringBuffers config head.width head.options, run.grants size) ∧
        Underway head (config.chunkCapacity head.width)
          ((restorePlan image target head bitmap config).chunks.drop chunk) restored)
      fun _ _ => True := by
  let capacity := config.chunkCapacity head.width
  let chunks := chunkSizes capacity head.total
  rw [Plan.upTo, leads_bind]
  have prepared : Leads ((restorePlan image target head bitmap config).prepare run)
      (fun restored _ => (∀ size ∈ restoringBuffers config head.width head.options, run.grants size) ∧
        Underway head capacity chunks restored) fun _ _ => True := by
    refine leads_bind.mpr (leads_allocate (fun granted => ?_) fun _ _ _ => trivial)
    exact leads_bind_of_next fun _ _ => ⟨granted, .at_start head capacity⟩
  refine prepared.weaken ?_
  rintro restored there ⟨granted, underway⟩
  refine Leads.weaken ?_ fun _ _ underway => ⟨granted, underway⟩
  -- What is left are the chunks that are still to be moved, and those behind them.
  refine leads_foldlM (fun rest restored _ => Underway head capacity (rest ++ chunks.drop chunk) restored) ?_ ?_
  · exact fun count rest restored run _ underway =>
      restorePlan_step_leads owner image target head bitmap config underway run
  · change Underway head capacity (chunks.take chunk ++ chunks.drop chunk) restored
    rwa [List.take_append_drop]

variable {owner image target head bitmap config}

/-- Before each chunk of a restore, whatever its image, its target and its owner did so far: as many blocks come next as
fit, or as are left; and the read that is planned for them comes out even. -/
theorem planned_reads_come_out_even {run there : Run ω} {restored : Restored} {chunk : Nat}
    (more : chunk < (restorePlan image target head bitmap config).chunks.length)
    (came : (restorePlan image target head bitmap config).upTo owner chunk run = .ok restored there) :
    ∃ area, (restoringBuffers config head.width head.options).head? = some area ∧ run.grants area ∧
      (restorePlan image target head bitmap config).chunks[chunk] =
        min (config.chunkCapacity head.width) (head.total - restored.done) ∧
      ComesOutEven head area restored (restorePlan image target head bitmap config).chunks[chunk] := by
  obtain ⟨granted, underway⟩ := (restorePlan_upTo_leads owner image target head bitmap config chunk run).of_ok came
  rw [List.drop_eq_getElem_cons more] at underway
  have room := chunkCapacity_pos config head.width
  have size := underway.size_eq
  rw [Nat.max_eq_left room] at size
  exact ⟨_, rfl, granted _ List.mem_cons_self, size, underway.comesOutEven room⟩

/-- A restore that succeeds comes past every chunk. -/
theorem exists_upTo_of_restoreBlocks {run after : Run ω} {summary : Summary}
    (done : restoreBlocks owner image target head bitmap run = .ok summary after) (chunk : Nat) :
    ∃ restored there, (restorePlan image target head bitmap run.session.config).upTo owner chunk run =
      .ok restored there := by
  have plan : (bySettings fun config => (restorePlan image target head bitmap config).carryOut owner) run =
      (restorePlan image target head bitmap run.session.config).carryOut owner run := rfl
  rw [restoreBlocks_eq] at done
  cases carried : (bySettings fun config => (restorePlan image target head bitmap config).carryOut owner) run with
  | error failure there =>
    rw [conclude_of_error carried] at done
    cases done
  | ok _ there =>
    rw [plan, Plan.carryOut_eq_upTo _ _ chunk] at carried
    obtain ⟨restored, there, came, _⟩ := bind_eq_ok.mp carried
    exact ⟨restored, there, came⟩

/-- A session that restores the sample one block at a time. -/
def sampleBlockwise : Run (Device × Device) where
  session := { direction := .fromImage, config := { bufferSize := 1 } }
  world := ({ bytes := Layout.data (imageOptions sampleImaging.session.config) sampleBlocks, faults := .short 3 },
    { bytes := ⟨#[1, 2, 3, 4]⟩, faults := .short 1 })

/-- Behind the first block of the sample and its tag, the second one and its tag come out even. -/
theorem planned_reads_come_out_even_sample : ∃ restored there,
    (restorePlan Device.source.ofFirst.toStream Device.target.ofSecond
      (.written sampleImaging.session.config .sample) .sample sampleBlockwise.session.config).upTo {} 1
        sampleBlockwise = .ok restored there ∧
    ComesOutEven (.written sampleImaging.session.config .sample) 13 restored 1 := by
  let head : Head := .written sampleImaging.session.config .sample
  have sizes : ∀ block ∈ sampleBlocks, block.size = head.width := by decide
  have undisturbed : Undisturbed {} head sampleBlockwise :=
    ⟨Owner.quiet_default, rfl, by decide, Faults.short_steady (by decide), Faults.short_steady (by decide)⟩
  have formed : head.WellFormed false (Layout.data head.options sampleBlocks) := by
    constructor
    · apply Nat.le_of_eq
      rw [← Head.startOf_total, Head.size_data rfl sizes]
    · exact .inr (.inr fun number inside closes => Head.fits_data rfl sizes inside closes)
  have stream : sampleBlockwise.world.1.view.left = Layout.data head.options sampleBlocks :=
    Bytes.extract_eq_self (Nat.le_refl _)
  obtain ⟨summary, after, done⟩ := (restores_exactly_wellFormed Probed.sample.measured undisturbed).1.mpr (stream ▸ formed)
  obtain ⟨restored, there, came⟩ := exists_upTo_of_restoreBlocks done 1
  have chunks : (restorePlan Device.source.ofFirst.toStream Device.target.ofSecond head .sample
      sampleBlockwise.session.config).chunks = [1, 1] := by
    have capacity : sampleBlockwise.session.config.chunkCapacity head.width = 1 := by decide
    have total : head.total = 2 := by decide
    change chunkSizes (sampleBlockwise.session.config.chunkCapacity head.width) head.total = [1, 1]
    rw [capacity, total, chunkSizes, chunkSizes, chunkSizes]
    rfl
  obtain ⟨area, asked, _, _, even⟩ := planned_reads_come_out_even (by rw [chunks]; decide) came
  simp only [chunks, List.getElem_cons_succ, List.getElem_cons_zero] at even
  have areas : (restoringBuffers sampleBlockwise.session.config head.width head.options).head? = some 13 := by decide
  obtain rfl : 13 = area := Option.some.inj (areas.symm.trans asked)
  exact ⟨restored, there, came, even⟩

end Transfer

end BlockImage
