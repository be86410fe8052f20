import BlockImage.Proofs.Bytes.Place
import BlockImage.Proofs.Transfer.Reading

/-!
# What is salvaged of a source

Of a source whose reads may fail, a session takes what the source holds, with zeros behind its end and in place of the
sectors that could not be read on their own. The sectors lost in one chunk lie within that chunk, so that all chunks are
taken from one and the same byte string.
-/
namespace BlockImage

namespace Bytes

/-- Some piece covers an offset. Pieces are given by where they begin and how many bytes they have. -/
def Covered (pieces : List (Nat × Nat)) (index : Nat) : Prop :=
  ∃ piece ∈ pieces, piece.1 ≤ index ∧ index < piece.1 + piece.2

/-- Zeros laid over some pieces. -/
def blank (bytes : ByteArray) (pieces : List (Nat × Nat)) : ByteArray :=
  pieces.foldl (fun bytes piece => overwrite bytes piece.1 (zeros piece.2)) bytes

theorem blank_append (bytes : ByteArray) (pieces more : List (Nat × Nat)) :
    blank bytes (pieces ++ more) = blank (blank bytes pieces) more := List.foldl_append

theorem byteAt_blank_of_not_covered (bytes : ByteArray) {pieces : List (Nat × Nat)} {index : Nat}
    (outside : ¬ Covered pieces index) : byteAt (blank bytes pieces) index = byteAt bytes index := by
  induction pieces generalizing bytes with
  | nil => rfl
  | cons piece pieces ih =>
    change byteAt (blank (overwrite bytes piece.1 (zeros piece.2)) pieces) index = _
    rw [ih _ fun ⟨other, member, within⟩ => outside ⟨other, List.mem_cons_of_mem _ member, within⟩, byteAt_overwrite,
      size_zeros, if_neg fun within => outside ⟨piece, List.mem_cons_self, within⟩]

theorem byteAt_blank_of_covered (bytes : ByteArray) {pieces : List (Nat × Nat)} {index : Nat}
    (covered : Covered pieces index) : byteAt (blank bytes pieces) index = 0 := by
  induction pieces generalizing bytes with
  | nil =>
    obtain ⟨_, member, _⟩ := covered
    cases member
  | cons piece pieces ih =>
    change byteAt (blank (overwrite bytes piece.1 (zeros piece.2)) pieces) index = 0
    -- Either a later piece covers the offset as well, or the zeros of this one stay.
    by_cases later : Covered pieces index
    · exact ih _ later
    · obtain ⟨other, member, within⟩ := covered
      rcases List.mem_cons.mp member with rfl | behind
      · rw [byteAt_blank_of_not_covered _ later, byteAt_overwrite, size_zeros, if_pos within, byteAt_zeros]
      · exact absurd ⟨other, behind, within⟩ later

theorem size_le_size_blank (bytes : ByteArray) (pieces : List (Nat × Nat)) : bytes.size ≤ (blank bytes pieces).size := by
  induction pieces generalizing bytes with
  | nil => exact Nat.le_refl _
  | cons piece pieces ih =>
    refine Nat.le_trans ?_ (ih _)
    rw [size_overwrite]
    split <;> omega

/-- Only the pieces that reach into a range matter in it. -/
theorem extract_blank_congr {bytes : ByteArray} {pieces others : List (Nat × Nat)} {start stop : Nat}
    (within : stop ≤ bytes.size)
    (same : ∀ index, start ≤ index → index < stop → (Covered pieces index ↔ Covered others index)) :
    (blank bytes pieces).extract start stop = (blank bytes others).extract start stop := by
  have first := size_le_size_blank bytes pieces
  have second := size_le_size_blank bytes others
  refine ext_byteAt ?_ fun place => ?_
  · rw [ByteArray.size_extract, ByteArray.size_extract]
    omega
  · rw [byteAt_extract, byteAt_extract]
    split
    next inside =>
      by_cases covered : Covered pieces (start + place)
      · rw [byteAt_blank_of_covered _ covered,
          byteAt_blank_of_covered _ ((same _ (Nat.le_add_right _ _) inside).mp covered)]
      · rw [byteAt_blank_of_not_covered _ covered,
          byteAt_blank_of_not_covered _ (mt (same _ (Nat.le_add_right _ _) inside).mpr covered)]
    next => rfl

theorem extract_blank_of_apart {bytes : ByteArray} {pieces : List (Nat × Nat)} {start stop : Nat}
    (within : stop ≤ bytes.size) (apart : ∀ piece ∈ pieces, piece.1 + piece.2 ≤ start ∨ stop ≤ piece.1) :
    (blank bytes pieces).extract start stop = bytes.extract start stop := by
  have outside (index : Nat) (begin : start ≤ index) (before : index < stop) : ¬ Covered pieces index := by
    rintro ⟨piece, member, begins, ends⟩
    have away := apart piece member
    omega
  have none (index : Nat) : ¬ Covered [] index := fun ⟨_, member, _⟩ => absurd member List.not_mem_nil
  exact @extract_blank_congr bytes pieces [] start stop within fun index begin before =>
    iff_of_false (outside index begin before) (none index)

theorem extract_blank_append {bytes : ByteArray} (pieces : List (Nat × Nat)) {more : List (Nat × Nat)}
    {start stop : Nat} (within : stop ≤ bytes.size)
    (apart : ∀ piece ∈ more, piece.1 + piece.2 ≤ start ∨ stop ≤ piece.1) :
    (blank bytes (pieces ++ more)).extract start stop = (blank bytes pieces).extract start stop := by
  rw [blank_append]
  exact extract_blank_of_apart (Nat.le_trans within (size_le_size_blank bytes pieces)) apart

theorem extract_blank_append_right {bytes : ByteArray} {pieces : List (Nat × Nat)} (more : List (Nat × Nat))
    {start stop : Nat} (within : stop ≤ bytes.size)
    (apart : ∀ piece ∈ pieces, piece.1 + piece.2 ≤ start ∨ stop ≤ piece.1) :
    (blank bytes (pieces ++ more)).extract start stop = (blank bytes more).extract start stop := by
  refine extract_blank_congr within fun index begin before => ?_
  constructor
  · rintro ⟨piece, member, begins, ends⟩
    rcases List.mem_append.mp member with earlier | later
    · have away := apart piece earlier
      omega
    · exact ⟨piece, later, begins, ends⟩
  · rintro ⟨piece, member, covers⟩
    exact ⟨piece, List.mem_append_right _ member, covers⟩

end Bytes

variable {ω β : Type}

/-- There is a read of the range that the source refuses. -/
def Source.Refuses (source : Source ω) (kept : ω → Prop) (offset wanted : Nat) : Prop :=
  ∃ world cause after, kept world ∧ source.readAt offset wanted world = .error cause after

/-- A piece is a sector of a chunk, and the source refused it. -/
structure Source.Lacks (source : Source ω) (kept : ω → Prop) (offset wanted : Nat) (piece : Nat × Nat) : Prop where
  sector : ∃ sector ∈ Transfer.sectors wanted, piece = (offset + sector.1, sector.2)
  refused : source.Refuses kept piece.1 piece.2

theorem Source.Lacks.within {source : Source ω} {kept : ω → Prop} {offset wanted : Nat} {piece : Nat × Nat}
    (lacks : source.Lacks kept offset wanted piece) : offset ≤ piece.1 ∧ piece.1 + piece.2 ≤ offset + wanted := by
  obtain ⟨sector, member, rfl⟩ := lacks.sector
  obtain ⟨index, inside, rfl⟩ := List.mem_map.mp member
  have begins : index * Config.sectorSize ≤ wanted := by
    have below := List.mem_range.mp inside
    rw [Config.sectorSize] at below ⊢
    omega
  dsimp only
  omega

/-- The sectors of a chunk do not reach into other blocks. -/
theorem Source.Lacks.apart {source : Source ω} {kept : ω → Prop} {chunk : Chunk} {width : Nat} {piece : Nat × Nat}
    (lacks : source.Lacks kept (chunk.first * width) (chunk.count * width) piece) {number : Nat}
    (outside : number ∉ chunk.blocks) : piece.1 + piece.2 ≤ number * width ∨ (number + 1) * width ≤ piece.1 := by
  obtain ⟨begins, ends⟩ := lacks.within
  rw [Chunk.mem_blocks, Chunk.stop] at outside
  rcases Nat.lt_or_ge number chunk.first with before | behind
  · exact .inr (Nat.le_trans (Nat.mul_le_mul_right _ before) begins)
  · have stop : (chunk.first + chunk.count) * width ≤ number * width := Nat.mul_le_mul_right _ (by omega)
    rw [Nat.add_mul] at stop
    exact .inl (Nat.le_trans ends stop)

namespace Transfer

variable {source : Source ω} {kept : ω → Prop} {view : ω → View} {rest : ω → β} {fails : IoError → Prop}
  {bytes : ByteArray} {size : Nat}

/-- What was read of a range is what the source holds there, but for the pieces that it lacks. -/
def Salvaged (source : Source ω) (kept : ω → Prop) (content : ByteArray) (offset wanted reach : Nat) (data : ByteArray) :
    Prop :=
  ∃ lost, (∀ piece ∈ lost, source.Lacks kept offset wanted piece ∧ piece.1 + piece.2 ≤ offset + reach) ∧
    data = (Bytes.blank content lost).extract offset (offset + reach)

section

variable {content got : ByteArray} {offset wanted reach width : Nat}

/-- A sector that was read comes behind those before it, of which no lost one reaches into it. -/
theorem Salvaged.append_read (salvaged : Salvaged source kept content offset wanted reach got)
    (within : offset + reach + width ≤ content.size) :
    Salvaged source kept content offset wanted (reach + width)
      (got ++ content.extract (offset + reach) (offset + reach + width)) := by
  obtain ⟨lost, lacked, rfl⟩ := salvaged
  refine ⟨lost, ?_, ?_⟩
  · intro piece member
    have bound := lacked piece member
    exact ⟨bound.1, by omega⟩
  · have same : (Bytes.blank content lost).extract (offset + reach) (offset + reach + width) =
        content.extract (offset + reach) (offset + reach + width) := by
      apply Bytes.extract_blank_of_apart within
      intro piece member
      exact .inl (lacked piece member).2
    rw [← same, ← Nat.add_assoc, ← ByteArray.extract_eq_extract_append_extract (offset + reach)
      (Nat.le_add_right _ _) (Nat.le_add_right _ _)]

/-- Zeros stand in for a sector that was refused, and leave alone what comes before it. -/
theorem Salvaged.append_lost (salvaged : Salvaged source kept content offset wanted reach got)
    (within : offset + reach + width ≤ content.size)
    (lacks : source.Lacks kept offset wanted (offset + reach, width)) :
    Salvaged source kept content offset wanted (reach + width) (got ++ Bytes.zeros width) := by
  obtain ⟨lost, lacked, rfl⟩ := salvaged
  refine ⟨lost ++ [(offset + reach, width)], ?_, ?_⟩
  · intro piece member
    rcases List.mem_append.mp member with earlier | new
    · have bound := lacked piece earlier
      exact ⟨bound.1, by omega⟩
    · rw [List.mem_singleton.mp new]
      exact ⟨lacks, Nat.le_of_eq (Nat.add_assoc ..)⟩
  · have front : (Bytes.blank content (lost ++ [(offset + reach, width)])).extract offset (offset + reach) =
        (Bytes.blank content lost).extract offset (offset + reach) := by
      apply Bytes.extract_blank_append lost (by omega)
      intro piece new
      rw [List.mem_singleton.mp new]
      exact .inr (Nat.le_refl _)
    have zeros : (Bytes.blank content (lost ++ [(offset + reach, width)])).extract (offset + reach)
        (offset + reach + width) = Bytes.zeros width := by
      have put := Bytes.extract_overwrite (Bytes.blank content lost) (offset + reach) (Bytes.zeros width)
      rw [Bytes.size_zeros] at put
      rw [Bytes.blank_append]
      exact put
    rw [← Nat.add_assoc, ByteArray.extract_eq_extract_append_extract (offset + reach) (Nat.le_add_right _ _)
      (Nat.le_add_right _ _), front, zeros]

end

/-- A read that succeeds gives what the source holds, behind whose end there are zeros. -/
theorem extract_padded {offset wanted : Nat} {data : ByteArray}
    (given : data = bytes.extract offset (offset + wanted)) (whole : data.size = wanted) :
    data = (Bytes.padded bytes size).extract offset (offset + wanted) := by
  rw [Bytes.padded, ByteArray.extract_append, ← given]
  have none : (Bytes.zeros (size - bytes.size)).extract (offset - bytes.size) (offset + wanted - bytes.size) =
      ByteArray.empty := by
    rw [given, ByteArray.size_extract] at whole
    refine ByteArray.extract_eq_empty_iff.mpr ?_
    omega
  rw [none, ByteArray.append_empty]

section

variable (reads : source.Reads kept view rest fails) (holds : ∀ world, kept world → (view world).bytes = bytes)

include reads holds

private theorem rescue_salvages {offset wanted : Nat} (inside : offset + wanted ≤ (Bytes.padded bytes size).size)
    {run before : Run ω} (reading : run.HasRead kept rest before) :
    Leads (rescue source offset wanted before)
      (fun data after => run.HasRead kept rest after ∧
        Salvaged source kept (Bytes.padded bytes size) offset wanted wanted data)
      fun _ _ => False := by
  let content := Bytes.padded bytes size
  let through : Nat → ByteArray → Run ω → Prop := fun index got after => run.HasRead kept rest after ∧
    Salvaged source kept content offset wanted (min (index * Config.sectorSize) wanted) got
  have start : Salvaged source kept content offset wanted (min (0 * Config.sectorSize) wanted) ByteArray.empty := by
    refine ⟨[], nofun, ?_⟩
    rw [Nat.zero_mul, Nat.zero_min]
    exact (ByteArray.extract_eq_empty_iff.mpr (Nat.min_le_left _ _)).symm
  refine (leads_rescue through ?_ ⟨reading, start⟩).weaken ?_
  · rintro index got between begins ⟨⟨badSectors, world, rfl, frame⟩, salvaged⟩
    rw [Nat.min_eq_left (Nat.le_of_lt begins)] at salvaged
    have reach : min ((index + 1) * Config.sectorSize) wanted =
        index * Config.sectorSize + min Config.sectorSize (wanted - index * Config.sectorSize) := by
      rw [Nat.add_mul]
      omega
    have within : offset + index * Config.sectorSize +
        min Config.sectorSize (wanted - index * Config.sectorSize) ≤ content.size := by
      change _ ≤ content.size at inside
      omega
    refine (reads.readAt _ _ world frame.kept).of_failure.mono ?_ ?_
    · rintro data after ⟨later, given, length, _⟩
      rw [holds _ frame.kept] at given
      refine ⟨⟨badSectors, after, rfl, frame.trans later⟩, ?_⟩
      rw [reach, extract_padded given length]
      exact salvaged.append_read within
    · rintro cause after ⟨⟨later, _⟩, refused⟩
      refine ⟨⟨badSectors + 1, after, rfl, frame.trans later⟩, ?_⟩
      rw [reach]
      refine salvaged.append_lost within ⟨⟨_, List.mem_map.mpr ⟨index, List.mem_range.mpr ?_, rfl⟩, rfl⟩,
        world, cause, after, frame.kept, refused⟩
      rw [Config.sectorSize] at begins ⊢
      omega
  · rintro data after ⟨reading, salvaged⟩
    have all : min ((wanted + Config.sectorSize - 1) / Config.sectorSize * Config.sectorSize) wanted = wanted := by
      rw [Config.sectorSize]
      omega
    rw [all] at salvaged
    exact ⟨reading, salvaged⟩

/-- Without rescue no piece is lost, since the range is refused as a whole. -/
theorem readRange_salvages {offset wanted : Nat} (inside : offset + wanted ≤ (Bytes.padded bytes size).size)
    {run : Run ω} (held : kept run.world) :
    Leads (readRange source offset wanted run)
      (fun data after => run.HasRead kept rest after ∧ ∃ lost,
        (∀ piece ∈ lost, source.Lacks kept offset wanted piece ∧ run.session.config.rescue = true) ∧
        data = (Bytes.blank (Bytes.padded bytes size) lost).extract offset (offset + wanted))
      fun failure after => run.HasRead kept rest after ∧ ∃ offset cause, failure = .read offset cause := by
  rw [readRange, leads_bind, leads_attempt, leads_inWorld]
  refine (reads.readAt offset wanted run.world held).mono ?_ ?_
  · rintro data after ⟨frame, given, length, _⟩
    rw [holds _ held] at given
    exact ⟨⟨_, after, rfl, frame⟩, [], List.forall_mem_nil _, extract_padded given length⟩
  · rintro cause after ⟨frame, _⟩
    have reading : run.HasRead kept rest { run with world := after } := ⟨_, after, rfl, frame⟩
    rw [leads_bind, leads_get]
    split
    next rescues =>
      refine (rescue_salvages reads holds inside reading).mono ?_ fun _ _ absurd => absurd.elim
      rintro data after ⟨reading, lost, lacked, same⟩
      exact ⟨reading, lost, fun piece member => ⟨(lacked piece member).1, rescues⟩, same⟩
    next => exact ⟨reading, offset, cause, rfl⟩

end

/-! ### Blocks of several chunks -/

/-- The pieces are sectors of chunks of the given blocks, which the source refused when the chunks were rescued. -/
def LostIn (source : Source ω) (kept : ω → Prop) (config : Config) (width : Nat) (allowed : Chunk → Prop)
    (numbers : List Nat) (lost : List (Nat × Nat)) : Prop :=
  ∀ piece ∈ lost, config.rescue = true ∧ ∃ chunk, allowed chunk ∧ (∀ block ∈ chunk.blocks, block ∈ numbers) ∧
    source.Lacks kept (chunk.first * width) (chunk.count * width) piece

/-- Blocks are what a byte string holds, but for the pieces that were lost. -/
def SalvagedBlocks (source : Source ω) (kept : ω → Prop) (config : Config) (width : Nat) (allowed : Chunk → Prop)
    (content : ByteArray) (numbers : List Nat) (blocks : List ByteArray) : Prop :=
  (∀ number ∈ numbers, (number + 1) * width ≤ content.size) ∧ ∃ lost,
    LostIn source kept config width allowed numbers lost ∧
      blocks = numbers.map (Bytes.blockAt width (Bytes.blank content lost))

/-- What is lost in some blocks does not concern the others. -/
theorem gathers_salvaged (source : Source ω) (kept : ω → Prop) (config : Config) (width : Nat) (allowed : Chunk → Prop)
    (content : ByteArray) : Gathers (SalvagedBlocks source kept config width allowed content) where
  nil := ⟨nofun, [], nofun, rfl⟩
  append := by
    rintro numbers blocks others more apart ⟨inside, lost, lostIn, rfl⟩ ⟨inside', lost', lostIn', rfl⟩
    refine ⟨?_, lost ++ lost', ?_, ?_⟩
    · intro number member
      rcases List.mem_append.mp member with first | second
      · exact inside number first
      · exact inside' number second
    · intro piece member
      rcases List.mem_append.mp member with first | second
      · obtain ⟨rescues, chunk, may, within, lacks⟩ := lostIn piece first
        exact ⟨rescues, chunk, may, fun block member => List.mem_append_left _ (within block member), lacks⟩
      · obtain ⟨rescues, chunk, may, within, lacks⟩ := lostIn' piece second
        exact ⟨rescues, chunk, may, fun block member => List.mem_append_right _ (within block member), lacks⟩
    · rw [List.map_append]
      congr 1
      · apply List.map_congr_left
        intro number member
        refine (Bytes.extract_blank_append lost (inside number member) fun piece later => ?_).symm
        obtain ⟨_, chunk, _, within, lacks⟩ := lostIn' piece later
        exact lacks.apart fun inside => apart number member (within number inside)
      · apply List.map_congr_left
        intro number member
        refine (Bytes.extract_blank_append_right lost' (inside' number member) fun piece earlier => ?_).symm
        obtain ⟨_, chunk, _, within, lacks⟩ := lostIn piece earlier
        exact lacks.apart fun inside => apart number (within number inside) member

/-- Reading chunks of a source salvages their blocks. -/
theorem givesBlocks_salvaged (reads : source.Reads kept view rest fails)
    (holds : ∀ world, kept world → (view world).bytes = bytes) (config : Config) {width : Nat} (wide : 0 < width)
    {allowed : Chunk → Prop} (inside : ∀ chunk, allowed chunk → chunk.stop * width ≤ size) :
    source.GivesBlocks kept rest config width allowed
      (SalvagedBlocks source kept config width allowed (Bytes.padded bytes size)) fun _ => True := by
  intro chunk run may held settings
  have within : chunk.first * width + chunk.count * width ≤ (Bytes.padded bytes size).size := by
    have bound := inside chunk may
    rw [Chunk.stop, Nat.add_mul] at bound
    rw [Bytes.size_padded]
    omega
  refine (readRange_salvages reads holds within held).mono ?_ ?_
  · rintro data after ⟨reading, lost, lacked, rfl⟩
    have grown := Bytes.size_le_size_blank (Bytes.padded bytes size) lost
    refine ⟨reading, ?_, ?_, lost, ?_, ?_⟩
    · rw [ByteArray.size_extract]
      omega
    · intro number member
      obtain ⟨_, before⟩ := Chunk.mem_blocks.mp member
      have stop : (number + 1) * width ≤ chunk.stop * width := Nat.mul_le_mul_right _ before
      rw [Chunk.stop, Nat.add_mul chunk.first] at stop
      exact Nat.le_trans stop within
    · intro piece member
      obtain ⟨lacks, rescues⟩ := lacked piece member
      exact ⟨settings ▸ rescues, chunk, may, fun _ inside => inside, lacks⟩
    · refine Bytes.blocks_extract wide ?_
      rw [Nat.add_mul]
      exact Nat.le_trans within grown
  · rintro failure after ⟨reading, told⟩
    exact ⟨reading, trivial, told⟩

end Transfer

end BlockImage
