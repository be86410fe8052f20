import BlockImage.Proofs.Bitmap.Marked
import BlockImage.Proofs.Session
import BlockImage.Transfer.Reading

/-!
# What is read of a source

A range that can be read is what the source holds there. Of a source that may fail, only the number of bytes is known,
since zeros may stand in for what could not be read.
-/
namespace BlockImage

variable {ω β : Type}

/-- A run whose session has only read from its source. -/
def Run.haveRead (run : Run ω) (badSectors : Nat) (world : ω) : Run ω :=
  { run with
    session := { run.session with summary := { run.session.summary with badSectors } }
    world }

/-- What a read of a source does to a run. -/
def Run.HasRead (kept : ω → Prop) (rest : ω → β) (run after : Run ω) : Prop :=
  ∃ badSectors world, after = run.haveRead badSectors world ∧ Frame kept rest run.world world

/-- What is known of the blocks with given numbers, and thereby of all blocks of several runs. -/
structure Gathers (given : List Nat → List ByteArray → Prop) : Prop where
  nil : given [] []
  append : ∀ {numbers blocks others more}, (∀ number ∈ numbers, number ∉ others) → given numbers blocks →
    given others more → given (numbers ++ others) (blocks ++ more)

theorem gathers_length : Gathers fun numbers blocks => blocks.length = numbers.length where
  nil := rfl
  append _ first second := by rw [List.length_append, List.length_append, first, second]

theorem gathers_map (content : Nat → ByteArray) : Gathers fun numbers blocks => blocks = numbers.map content where
  nil := rfl
  append _ first second := by rw [List.map_append, first, second]

/-- Reading one of some chunks gives as many bytes as it has, of whose blocks `given` tells, or fails as is excused. -/
def Source.GivesBlocks (source : Source ω) (kept : ω → Prop) (rest : ω → β) (config : Config) (width : Nat)
    (chunks : Chunk → Prop) (given : List Nat → List ByteArray → Prop) (excused : Error → Prop) : Prop :=
  ∀ chunk run, chunks chunk → kept run.world → run.session.config = config →
    Leads (Transfer.readRange source (chunk.first * width) (chunk.count * width) run)
      (fun data after => run.HasRead kept rest after ∧ data.size = chunk.count * width ∧
        given chunk.blocks (Bytes.blocks width data))
      fun failure after => run.HasRead kept rest after ∧ excused failure ∧ ∃ offset cause, failure = .read offset cause

namespace Transfer

theorem mem_sectors {wanted : Nat} {sector : Nat × Nat} :
    sector ∈ sectors wanted ↔ ∃ index, index * Config.sectorSize < wanted ∧
      sector = (index * Config.sectorSize, min Config.sectorSize (wanted - index * Config.sectorSize)) := by
  rw [sectors, List.mem_map]
  refine exists_congr fun index => ?_
  rw [List.mem_range, Config.sectorSize, eq_comm]
  exact and_congr_left fun _ => by omega

variable {source : Source ω} {kept : ω → Prop} {rest : ω → β}

/-- Sector by sector a range leads to where the reads of its sectors lead, of which none makes it fail: `holds` is true of
how many sectors are through, of the bytes so far and of the run. -/
theorem leads_rescue {offset wanted : Nat} (holds : Nat → ByteArray → Run ω → Prop)
    (steps : ∀ index got run, index * Config.sectorSize < wanted → holds index got run →
      Leads (source.readAt (offset + index * Config.sectorSize)
          (min Config.sectorSize (wanted - index * Config.sectorSize)) run.world)
        (fun bytes world => holds (index + 1) (got ++ bytes) { run with world })
        fun _ world => holds (index + 1)
          (got ++ Bytes.zeros (min Config.sectorSize (wanted - index * Config.sectorSize)))
          (run.haveRead (run.session.summary.badSectors + 1) world))
    {run : Run ω} (start : holds 0 ByteArray.empty run) :
    Leads (rescue source offset wanted run)
      (holds ((wanted + Config.sectorSize - 1) / Config.sectorSize)) fun _ _ => False := by
  rw [rescue, sectors, List.foldlM_map]
  refine leads_foldlM_range holds ?_ start
  intro index got between inside held
  have begins : index * Config.sectorSize < wanted := by
    rw [Config.sectorSize] at inside ⊢
    omega
  rw [leads_bind, rescueSector, leads_bind, leads_attempt, leads_inWorld]
  refine (steps index got between begins held).mono ?_ ?_
  · exact fun _ _ held => held
  · -- A sector that cannot be read counts as a bad one, and zeros stand in for it.
    intro cause world held
    rw [leads_bind, leads_tally, leads_pure]
    exact held

private theorem rescue_leads (apart : source.Apart kept rest) (offset wanted : Nat) {run before : Run ω}
    (reading : run.HasRead kept rest before) :
    Leads (rescue source offset wanted before)
      (fun data after => run.HasRead kept rest after ∧ data.size = wanted)
      fun _ _ => False := by
  -- The sectors so far are whole, but for the last one, which ends where the range does.
  let holds : Nat → ByteArray → Run ω → Prop := fun index got after =>
    run.HasRead kept rest after ∧ got.size = min (index * Config.sectorSize) wanted
  refine (leads_rescue holds ?_ ⟨reading, by simp⟩).weaken ?_
  · rintro index got between - ⟨⟨badSectors, world, rfl, frame⟩, size⟩
    refine (apart.readAt _ _ world frame.kept).mono ?_ ?_
    · rintro bytes after ⟨later, more⟩
      refine ⟨⟨badSectors, after, rfl, frame.trans later⟩, ?_⟩
      rw [ByteArray.size_append, size, more, Nat.add_mul]
      omega
    · intro cause after later
      refine ⟨⟨badSectors + 1, after, rfl, frame.trans later⟩, ?_⟩
      rw [ByteArray.size_append, size, Bytes.size_zeros, Nat.add_mul]
      omega
  · rintro data after ⟨reading, size⟩
    refine ⟨reading, ?_⟩
    rw [size, Config.sectorSize]
    omega

theorem readRange_leads (apart : source.Apart kept rest) (offset wanted : Nat) {run : Run ω}
    (held : kept run.world) :
    Leads (readRange source offset wanted run)
      (fun data after => run.HasRead kept rest after ∧ data.size = wanted)
      fun failure after => run.HasRead kept rest after ∧ ∃ offset cause, failure = .read offset cause := by
  rw [readRange, leads_bind, leads_attempt, leads_inWorld]
  refine (apart.readAt offset wanted run.world held).mono ?_ ?_
  · rintro bytes after ⟨frame, size⟩
    exact ⟨⟨_, after, rfl, frame⟩, size⟩
  · -- The whole range failed, so each sector is tried on its own, if bad sectors are to be skipped.
    intro cause after frame
    have reading : run.HasRead kept rest { run with world := after } := ⟨_, after, rfl, frame⟩
    rw [leads_bind, leads_get]
    split
    · exact (rescue_leads apart offset wanted reading).mono (fun _ _ read => read) fun _ _ absurd => absurd.elim
    · exact ⟨reading, offset, cause, rfl⟩

end Transfer

theorem Source.Apart.givesBlocks {source : Source ω} {kept : ω → Prop} {rest : ω → β}
    (apart : source.Apart kept rest) (config : Config) {width : Nat} (wide : 0 < width) (chunks : Chunk → Prop) :
    source.GivesBlocks kept rest config width chunks (fun numbers blocks => blocks.length = numbers.length)
      fun _ => True := by
  intro chunk run _ held _
  refine (Transfer.readRange_leads apart _ _ held).mono ?_ ?_
  · rintro data after ⟨reading, size⟩
    refine ⟨reading, size, ?_⟩
    change (Bytes.blocks width data).length = chunk.blocks.length
    rw [Bytes.length_blocks, size, Nat.mul_div_cancel _ wide, Chunk.length_blocks]
  · rintro failure after ⟨reading, told⟩
    exact ⟨reading, trivial, told⟩

theorem Source.Reads.givesBlocks {source : Source ω} {kept : ω → Prop} {view : ω → View} {rest : ω → β}
    (reads : source.Reads kept view rest fun _ => False) (config : Config) {width : Nat} (wide : 0 < width)
    {bytes : ByteArray} (holds : ∀ world, kept world → (view world).bytes = bytes) {chunks : Chunk → Prop}
    (inside : ∀ chunk, chunks chunk → chunk.stop * width ≤ bytes.size) (excused : Error → Prop) :
    source.GivesBlocks kept rest config width chunks
      (fun numbers blocks => blocks = numbers.map (Bytes.blockAt width bytes)) excused := by
  intro chunk run member held _
  have within : (chunk.first + chunk.count) * width ≤ bytes.size := inside chunk member
  rw [Transfer.readRange, leads_bind, leads_attempt, leads_inWorld]
  refine (reads.readAt (chunk.first * width) (chunk.count * width) run.world held).mono ?_ ?_
  · rintro data after ⟨frame, given, size, _⟩
    refine ⟨⟨_, after, rfl, frame⟩, size, ?_⟩
    change Bytes.blocks width data = (List.range' chunk.first chunk.count).map (Bytes.blockAt width bytes)
    rw [given, holds _ held, Bytes.blocks_extract wide within]
  · rintro cause after ⟨_, _, fault | ⟨_, short⟩⟩
    · exact fault.elim
    · rw [holds _ held, ← Nat.add_mul] at short
      omega

end BlockImage
