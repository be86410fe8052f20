import BlockImage.Proofs.Device.BadPlaces
import BlockImage.Proofs.Transfer.Salvage

/-!
# What is rescued of a device with bad places

With rescue no read of such a device makes a transfer fail. Of a range that cannot be read as a whole, the sectors that
can be read on their own are what the device holds there, and the others are zeros and count as bad.
-/
namespace BlockImage

/-- Reading one of some chunks never fails, gives what a byte string holds there, and counts its lost sectors. -/
def Source.GivesContent {ω β : Type} (source : Source ω) (kept : ω → Prop) (rest : ω → β) (config : Config) (width : Nat)
    (chunks : Chunk → Prop) (content : ByteArray) (lost : Chunk → List (Nat × Nat)) : Prop :=
  ∀ chunk run, chunks chunk → kept run.world → run.session.config = config →
    Leads (Transfer.readRange source (chunk.first * width) (chunk.count * width) run)
      (fun data after => data = content.extract (chunk.first * width) (chunk.first * width + chunk.count * width) ∧
        ∃ world, after = run.haveRead (run.session.summary.badSectors + (lost chunk).length) world ∧
          Frame kept rest run.world world)
      fun _ _ => False

/-- What else is known of the other side of a world outlives a read. -/
theorem Source.GivesContent.beside {σ τ γ : Type} {source : Source (σ × τ)} {kept : σ → Prop} {config : Config}
    {width : Nat} {chunks : Chunk → Prop} {content : ByteArray} {lost : Chunk → List (Nat × Nat)}
    (gives : source.GivesContent (fun world => kept world.1) Prod.snd config width chunks content lost)
    (others : τ → Prop) (seen : τ → γ) :
    source.GivesContent (fun world => kept world.1 ∧ others world.2) (fun world => seen world.2) config width chunks content
      lost := by
  intro chunk run member held settings
  refine (gives chunk run member held.1 settings).weaken ?_
  rintro data after ⟨given, world, reached, frame⟩
  have same : world.2 = run.world.2 := frame.rest
  exact ⟨given, world, reached, ⟨frame.kept, same ▸ held.2⟩, congrArg seen same⟩

namespace Transfer

/-- The sectors of a range that cannot be read, each given by where it begins on the device and its size. -/
def unreadableSectors (size : Nat) (bad : Nat → Bool) (offset wanted : Nat) : List (Nat × Nat) :=
  ((sectors wanted).map fun sector => (offset + sector.1, sector.2)).filter fun piece =>
    !readable size bad piece.1 piece.2

section

variable {size offset wanted : Nat} {bad : Nat → Bool}

theorem mem_unreadableSectors {piece : Nat × Nat} : piece ∈ unreadableSectors size bad offset wanted ↔
    (∃ sector ∈ sectors wanted, piece = (offset + sector.1, sector.2)) ∧
      readable size bad piece.1 piece.2 = false := by
  rw [unreadableSectors, List.mem_filter, List.mem_map, Bool.not_eq_true']
  refine and_congr_left fun _ => exists_congr fun sector => and_congr_right fun _ => ?_
  exact eq_comm

/-- A range that can be read has no sectors that cannot. -/
theorem unreadableSectors_of_readable (whole : readable size bad offset wanted = true) :
    unreadableSectors size bad offset wanted = [] := by
  rw [List.eq_nil_iff_forall_not_mem]
  rintro _ member
  obtain ⟨⟨sector, inside, rfl⟩, not⟩ := mem_unreadableSectors.mp member
  obtain ⟨index, begins, rfl⟩ := mem_sectors.mp inside
  rw [readable_of_within whole (Nat.le_add_right _ _) (by dsimp only; omega)] at not
  cases not

/-- Unreadable sectors lie within their range. -/
theorem within_of_mem_unreadableSectors {piece : Nat × Nat}
    (member : piece ∈ unreadableSectors size bad offset wanted) :
    offset ≤ piece.1 ∧ piece.1 + piece.2 ≤ offset + wanted := by
  obtain ⟨⟨sector, inside, rfl⟩, _⟩ := mem_unreadableSectors.mp member
  obtain ⟨index, begins, rfl⟩ := mem_sectors.mp inside
  dsimp only
  omega

/-- With zeros laid over the unreadable sectors of a range, each of its sectors is either as it was or zero. -/
theorem extract_sector {content : ByteArray} (inside : offset + wanted ≤ content.size) {sector : Nat × Nat}
    (member : sector ∈ sectors wanted) :
    (Bytes.blank content (unreadableSectors size bad offset wanted)).extract (offset + sector.1)
        (offset + sector.1 + sector.2) =
      if readable size bad (offset + sector.1) sector.2 then
        content.extract (offset + sector.1) (offset + sector.1 + sector.2)
      else Bytes.zeros sector.2 := by
  obtain ⟨index, begins, rfl⟩ := mem_sectors.mp member
  have grown := Bytes.size_le_size_blank content (unreadableSectors size bad offset wanted)
  dsimp only
  split
  next whole =>
    apply Bytes.extract_blank_of_apart (by omega)
    intro piece unread
    obtain ⟨⟨other, among, rfl⟩, not⟩ := mem_unreadableSectors.mp unread
    obtain ⟨place, starts, rfl⟩ := mem_sectors.mp among
    -- A sector that can be read is another one, and sectors do not overlap.
    have different : place ≠ index := by
      rintro rfl
      rw [whole] at not
      cases not
    simp only [Config.sectorSize] at begins starts ⊢
    omega
  next not =>
    have lost : (offset + index * Config.sectorSize, min Config.sectorSize (wanted - index * Config.sectorSize)) ∈
        unreadableSectors size bad offset wanted :=
      mem_unreadableSectors.mpr ⟨⟨_, member, rfl⟩, Bool.eq_false_iff.mpr not⟩
    refine Bytes.ext_byteAt ?_ fun place => ?_
    · rw [ByteArray.size_extract, Bytes.size_zeros]
      omega
    · rw [Bytes.byteAt_extract, Bytes.byteAt_zeros]
      split
      next before =>
        exact Bytes.byteAt_blank_of_covered _ ⟨_, lost, Nat.le_add_right _ _, before⟩
      next => rfl

/-- How many of the first sectors of a range cannot be read. -/
def unreadableAmong (size : Nat) (bad : Nat → Bool) (offset wanted count : Nat) : Nat :=
  (List.range count).countP fun index => !readable size bad (offset + index * Config.sectorSize)
    (min Config.sectorSize (wanted - index * Config.sectorSize))

theorem unreadableAmong_succ (index : Nat) : unreadableAmong size bad offset wanted (index + 1) =
    unreadableAmong size bad offset wanted index + if readable size bad (offset + index * Config.sectorSize)
      (min Config.sectorSize (wanted - index * Config.sectorSize)) then 0 else 1 := by
  rw [unreadableAmong, List.range_succ, List.countP_append, List.countP_singleton, unreadableAmong]
  congr 1
  cases readable size bad (offset + index * Config.sectorSize) _ <;> rfl

theorem length_unreadableSectors : (unreadableSectors size bad offset wanted).length =
    unreadableAmong size bad offset wanted ((wanted + Config.sectorSize - 1) / Config.sectorSize) := by
  rw [unreadableSectors, sectors, List.map_map, List.filter_map, List.length_map, unreadableAmong,
    List.countP_eq_length_filter]
  rfl

/-- A range that can be read is not touched by zeros behind the end. -/
theorem extract_of_readable {bytes : ByteArray} (whole : readable bytes.size bad offset wanted = true) (size : Nat) :
    bytes.extract offset (offset + wanted) = (Bytes.padded bytes size).extract offset (offset + wanted) := by
  refine Bytes.ext_byteAt ?_ fun place => ?_
  · rcases Nat.eq_zero_or_pos wanted with rfl | some
    · simp only [ByteArray.size_extract]
      omega
    · have inside := le_of_readable whole some
      rw [ByteArray.size_extract, ByteArray.size_extract, Bytes.size_padded]
      omega
  · rw [Bytes.byteAt_extract, Bytes.byteAt_extract, Bytes.byteAt_padded]

end

section

variable {σ τ : Type} {source : Source σ} {kept : σ → Prop} {bytes : ByteArray} {bad : Nat → Bool}
  {offset wanted size : Nat}

/-- A range of `content` has come in, and so many bad sectors were counted meanwhile. -/
def Came (kept : σ → Prop) (run : Run (σ × τ)) (content : ByteArray) (offset reach counted : Nat) (data : ByteArray)
    (after : Run (σ × τ)) : Prop :=
  data = content.extract offset (offset + reach) ∧ ∃ world,
    after = run.haveRead (run.session.summary.badSectors + counted) world ∧
      Frame (fun world => kept world.1) Prod.snd run.world world

variable (outside : source.ReadsOutside kept bytes bad)

include outside

theorem leads_readAt_ofFirst {world : σ × τ} (held : kept world.1) :
    Leads ((source.ofFirst : Source (σ × τ)).readAt offset wanted world)
      (fun data after => Frame (fun world => kept world.1) Prod.snd world after ∧
        readable bytes.size bad offset wanted = true ∧ data = bytes.extract offset (offset + wanted))
      fun _ after => Frame (fun world => kept world.1) Prod.snd world after ∧
        readable bytes.size bad offset wanted = false := by
  rw [source.readAt_ofFirst]
  refine leads_onFirst.mpr ((outside.readAt offset wanted world.1 held).mono ?_ ?_)
  · rintro data first ⟨still, whole, given⟩
    exact ⟨⟨still, rfl⟩, whole, given⟩
  · rintro cause first ⟨still, not⟩
    exact ⟨⟨still, rfl⟩, not⟩

/-- Sector by sector a range comes in, with zeros for what cannot be read. -/
theorem rescue_leads_of_readsOutside (inside : offset + wanted ≤ (Bytes.padded bytes size).size)
    {run : Run (σ × τ)} (held : kept run.world.1) :
    Leads (rescue source.ofFirst offset wanted run)
      (Came kept run (Bytes.blank (Bytes.padded bytes size) (unreadableSectors bytes.size bad offset wanted)) offset wanted
        (unreadableSectors bytes.size bad offset wanted).length)
      fun _ _ => False := by
  let content := Bytes.blank (Bytes.padded bytes size) (unreadableSectors bytes.size bad offset wanted)
  let holds : Nat → ByteArray → Run (σ × τ) → Prop := fun index =>
    Came kept run content offset (min (index * Config.sectorSize) wanted)
      (unreadableAmong bytes.size bad offset wanted index)
  have start : holds 0 ByteArray.empty run := by
    refine ⟨?_, run.world, rfl, .refl held⟩
    rw [Nat.zero_mul, Nat.zero_min]
    exact (ByteArray.extract_eq_empty_iff.mpr (Nat.min_le_left _ _)).symm
  refine (leads_rescue holds ?_ start).weaken ?_
  · rintro index got between begins ⟨rfl, world, rfl, frame⟩
    have sector := @extract_sector bytes.size offset wanted bad _ inside _ (mem_sectors.mpr ⟨index, begins, rfl⟩)
    have counts := @unreadableAmong_succ bytes.size offset wanted bad index
    dsimp only at sector
    -- What comes in of this sector is the next part of the content, whether it can be read or not.
    have grows : content.extract offset (offset + min ((index + 1) * Config.sectorSize) wanted) =
        content.extract offset (offset + min (index * Config.sectorSize) wanted) ++
          content.extract (offset + index * Config.sectorSize) (offset + index * Config.sectorSize +
            min Config.sectorSize (wanted - index * Config.sectorSize)) := by
      have reach : offset + min ((index + 1) * Config.sectorSize) wanted = offset + index * Config.sectorSize +
          min Config.sectorSize (wanted - index * Config.sectorSize) := by
        rw [Nat.add_mul]
        omega
      rw [reach, Nat.min_eq_left (Nat.le_of_lt begins)]
      exact ByteArray.extract_eq_extract_append_extract _ (Nat.le_add_right _ _) (Nat.le_add_right _ _)
    refine (leads_readAt_ofFirst outside frame.kept).mono ?_ ?_
    · rintro data after ⟨later, whole, rfl⟩
      rw [if_pos whole] at sector counts
      refine ⟨?_, after, ?_, frame.trans later⟩
      · rw [grows, sector, extract_of_readable whole]
      · rw [counts]
        rfl
    · rintro cause after ⟨later, not⟩
      rw [if_neg (Bool.eq_false_iff.mp not)] at sector counts
      refine ⟨?_, after, ?_, frame.trans later⟩
      · rw [grows, sector]
      · rw [counts]
        rfl
  · intro data after came
    have all : min ((wanted + Config.sectorSize - 1) / Config.sectorSize * Config.sectorSize) wanted = wanted := by
      rw [Config.sectorSize]
      omega
    have came : Came kept run content offset _ _ data after := came
    rw [all, ← length_unreadableSectors] at came
    exact came

/-- A range comes in, with zeros for what cannot be read, if it can be read as a whole or is rescued. -/
theorem readRange_leads_of_readsOutside (inside : offset + wanted ≤ (Bytes.padded bytes size).size) {run : Run (σ × τ)}
    (held : kept run.world.1)
    (comes : readable bytes.size bad offset wanted = true ∨ run.session.config.rescue = true) :
    Leads (readRange source.ofFirst offset wanted run)
      (Came kept run (Bytes.blank (Bytes.padded bytes size) (unreadableSectors bytes.size bad offset wanted)) offset wanted
        (unreadableSectors bytes.size bad offset wanted).length)
      fun _ _ => False := by
  rw [readRange, leads_bind, leads_attempt, leads_inWorld]
  refine (leads_readAt_ofFirst outside held).mono ?_ ?_
  · rintro data after ⟨frame, whole, rfl⟩
    rw [unreadableSectors_of_readable whole]
    exact ⟨extract_of_readable whole size, after, rfl, frame⟩
  · rintro cause after ⟨frame, not⟩
    rw [leads_bind, leads_get]
    rcases comes with whole | rescues
    · rw [whole] at not
      cases not
    · rw [if_pos rescues]
      refine (rescue_leads_of_readsOutside outside inside frame.kept).weaken ?_
      rintro data last ⟨given, world, rfl, later⟩
      exact ⟨given, world, rfl, frame.trans later⟩

end

/-! ### The sectors of several chunks -/

/-- The sectors of some chunks that cannot be read, counted from where each chunk begins. -/
def lostSectors (size : Nat) (bad : Nat → Bool) (width : Nat) (chunks : List Chunk) : List (Nat × Nat) :=
  chunks.flatMap fun chunk => unreadableSectors size bad (chunk.first * width) (chunk.count * width)

/-- What comes in of a device when some chunks are rescued: its bytes with zeros behind its end and in place of the lost
sectors. -/
def rescued (bytes : ByteArray) (size : Nat) (bad : Nat → Bool) (width : Nat) (chunks : List Chunk) : ByteArray :=
  Bytes.blank (Bytes.padded bytes size) (lostSectors bytes.size bad width chunks)

section

variable {size width : Nat} {bad : Nat → Bool} {chunks : List Chunk}

theorem lostSectors_append (chunks others : List Chunk) : lostSectors size bad width (chunks ++ others) =
    lostSectors size bad width chunks ++ lostSectors size bad width others := List.flatMap_append

theorem within_of_mem_lostSectors {piece : Nat × Nat} (member : piece ∈ lostSectors size bad width chunks) :
    ∃ chunk ∈ chunks, chunk.first * width ≤ piece.1 ∧ piece.1 + piece.2 ≤ chunk.stop * width := by
  obtain ⟨chunk, among, inside⟩ := List.mem_flatMap.mp member
  have within := within_of_mem_unreadableSectors inside
  rw [← Nat.add_mul] at within
  exact ⟨chunk, among, within⟩

/-- What is lost of other chunks does not concern a range of a chunk. -/
theorem extract_blank_lostSectors (ascending : chunks.Pairwise fun chunk later => chunk.stop ≤ later.first)
    {chunk : Chunk} (member : chunk ∈ chunks) {content : ByteArray} {start stop : Nat} (within : stop ≤ content.size)
    (behind : chunk.first * width ≤ start) (before : stop ≤ chunk.stop * width) :
    (Bytes.blank content (lostSectors size bad width chunks)).extract start stop =
      (Bytes.blank content (unreadableSectors size bad (chunk.first * width) (chunk.count * width))).extract start
        stop := by
  obtain ⟨earlier, later, rfl⟩ := List.append_of_mem member
  obtain ⟨_, ascending, apart⟩ := List.pairwise_append.mp ascending
  rw [lostSectors_append, Bytes.extract_blank_append_right _ within]
  · change (Bytes.blank content (unreadableSectors size bad _ _ ++ lostSectors size bad width later)).extract _ _ = _
    rw [Bytes.extract_blank_append _ within]
    intro piece lost
    obtain ⟨other, among, begins, _⟩ := within_of_mem_lostSectors lost
    have follows : chunk.stop * width ≤ other.first * width :=
      Nat.mul_le_mul_right _ ((List.pairwise_cons.mp ascending).1 other among)
    exact .inr (by omega)
  · intro piece lost
    obtain ⟨other, among, _, ends⟩ := within_of_mem_lostSectors lost
    have follows : other.stop * width ≤ chunk.first * width :=
      Nat.mul_le_mul_right _ (apart other among chunk List.mem_cons_self)
    exact .inl (by omega)

/-- Each sector of a chunk is what the device holds there if it can be read, and else zeros. -/
theorem extract_rescued (ascending : chunks.Pairwise fun chunk later => chunk.stop ≤ later.first) {chunk : Chunk}
    (member : chunk ∈ chunks) {bytes : ByteArray} (inside : chunk.stop * width ≤ (Bytes.padded bytes size).size)
    {sector : Nat × Nat} (among : sector ∈ sectors (chunk.count * width)) :
    (rescued bytes size bad width chunks).extract (chunk.first * width + sector.1)
        (chunk.first * width + sector.1 + sector.2) =
      if readable bytes.size bad (chunk.first * width + sector.1) sector.2 then
        bytes.extract (chunk.first * width + sector.1) (chunk.first * width + sector.1 + sector.2)
      else Bytes.zeros sector.2 := by
  have within := inside
  rw [Chunk.stop, Nat.add_mul] at within
  have ends : sector.1 + sector.2 ≤ chunk.count * width := by
    obtain ⟨index, begins, rfl⟩ := mem_sectors.mp among
    dsimp only
    omega
  rw [rescued, extract_blank_lostSectors ascending member (by omega) (Nat.le_add_right _ _)
    (by rw [Chunk.stop, Nat.add_mul]; omega), extract_sector within among]
  split
  next whole => exact (extract_of_readable whole size).symm
  next => rfl

/-- A chunk that can be read as a whole comes in as the device holds it. -/
theorem extract_rescued_of_readable (ascending : chunks.Pairwise fun chunk later => chunk.stop ≤ later.first)
    {chunk : Chunk} (member : chunk ∈ chunks) {bytes : ByteArray}
    (inside : chunk.stop * width ≤ (Bytes.padded bytes size).size)
    (whole : readable bytes.size bad (chunk.first * width) (chunk.count * width) = true) :
    (rescued bytes size bad width chunks).extract (chunk.first * width) (chunk.stop * width) =
      bytes.extract (chunk.first * width) (chunk.stop * width) := by
  rw [rescued, extract_blank_lostSectors ascending member inside (Nat.le_refl _) (Nat.le_refl _),
    unreadableSectors_of_readable whole, Chunk.stop, Nat.add_mul, extract_of_readable whole size]
  rfl

/-- Where all chunks can be read nothing is lost. -/
theorem rescued_of_readable {bytes : ByteArray}
    (whole : ∀ chunk ∈ chunks, readable bytes.size bad (chunk.first * width) (chunk.count * width) = true) :
    rescued bytes size bad width chunks = Bytes.padded bytes size := by
  have none : lostSectors bytes.size bad width chunks = [] :=
    List.flatMap_eq_nil_iff.mpr fun chunk member => unreadableSectors_of_readable (whole chunk member)
  rw [rescued, none]
  rfl

theorem size_le_size_rescued (bytes : ByteArray) : size ≤ (rescued bytes size bad width chunks).size := by
  refine Nat.le_trans ?_ (Bytes.size_le_size_blank _ _)
  rw [Bytes.size_padded]
  exact Nat.le_max_right _ _

/-- Chunks of a device with bad places come in as what is rescued of them. -/
theorem givesContent_rescued {σ τ : Type} {source : Source σ} {kept : σ → Prop} {bytes : ByteArray}
    (outside : source.ReadsOutside kept bytes bad) (config : Config)
    (ascending : chunks.Pairwise fun chunk later => chunk.stop ≤ later.first)
    (inside : ∀ chunk ∈ chunks, chunk.stop * width ≤ (Bytes.padded bytes size).size)
    (comes : ∀ chunk ∈ chunks, readable bytes.size bad (chunk.first * width) (chunk.count * width) = true ∨
      config.rescue = true) :
    (source.ofFirst : Source (σ × τ)).GivesContent (fun world => kept world.1) Prod.snd config width (· ∈ chunks)
      (rescued bytes size bad width chunks)
      fun chunk => unreadableSectors bytes.size bad (chunk.first * width) (chunk.count * width) := by
  intro chunk run member held settings
  have within := inside chunk member
  rw [Chunk.stop, Nat.add_mul] at within
  refine (readRange_leads_of_readsOutside outside within held (settings ▸ comes chunk member)).weaken ?_
  rintro data after ⟨rfl, reached⟩
  refine ⟨?_, reached⟩
  have stops : chunk.first * width + chunk.count * width = chunk.stop * width := (Nat.add_mul ..).symm
  rw [rescued, extract_blank_lostSectors ascending member within (Nat.le_refl _) (Nat.le_of_eq stops)]

/-! ### Sectors that are aligned -/

theorem sectors_add {first : Nat} (aligned : Config.sectorSize ∣ first) (second : Nat) :
    sectors (first + second) =
      sectors first ++ (sectors second).map fun sector => (first + sector.1, sector.2) := by
  obtain ⟨count, rfl⟩ := aligned
  have all : (Config.sectorSize * count + second + Config.sectorSize - 1) / Config.sectorSize =
      count + (second + Config.sectorSize - 1) / Config.sectorSize := by
    rw [Config.sectorSize]
    omega
  have front : (Config.sectorSize * count + Config.sectorSize - 1) / Config.sectorSize = count := by
    rw [Config.sectorSize]
    omega
  rw [sectors, sectors, sectors, all, front, List.range_add, List.map_append, List.map_map, List.map_map]
  congr 1
  · refine List.map_congr_left fun index member => ?_
    have below := List.mem_range.mp member
    rw [Prod.mk.injEq]
    refine ⟨rfl, ?_⟩
    rw [Config.sectorSize]
    omega
  · refine List.map_congr_left fun index _ => ?_
    rw [Function.comp_apply, Function.comp_apply, Prod.mk.injEq]
    constructor
    · rw [Nat.add_mul, Nat.mul_comm count]
    · rw [Nat.add_mul, Nat.mul_comm count, Nat.add_sub_add_left]

theorem unreadableSectors_add {first : Nat} (aligned : Config.sectorSize ∣ first) (offset second : Nat) :
    unreadableSectors size bad offset (first + second) =
      unreadableSectors size bad offset first ++ unreadableSectors size bad (offset + first) second := by
  rw [unreadableSectors, sectors_add aligned, List.map_append, List.filter_append, List.map_map, unreadableSectors,
    unreadableSectors]
  congr 3
  funext sector
  rw [Function.comp_apply, Nat.add_assoc]

/-- Where blocks consist of whole sectors, those of a chunk are those of its blocks. -/
theorem unreadableSectors_eq_flatMap (aligned : Config.sectorSize ∣ width) (first count : Nat) :
    unreadableSectors size bad (first * width) (count * width) =
      (List.range' first count).flatMap fun block => unreadableSectors size bad (block * width) width := by
  induction count with
  | zero =>
    rw [Nat.zero_mul]
    rfl
  | succ count ih =>
    rw [Nat.add_mul, Nat.one_mul, unreadableSectors_add (Nat.dvd_mul_left_of_dvd aligned count), ih, ← Nat.add_mul,
      List.range'_concat, List.flatMap_append, Nat.one_mul, List.flatMap_singleton]

/-- Where blocks consist of whole sectors, what is lost does not depend on how the blocks are cut into chunks. -/
theorem lostSectors_eq_flatMap (aligned : Config.sectorSize ∣ width) (bitmap : Bitmap) (capacity : Nat) :
    lostSectors size bad width (bitmap.chunks capacity) =
      bitmap.marked.flatMap fun block => unreadableSectors size bad (block * width) width := by
  rw [← bitmap.flatMap_chunks capacity, List.flatMap_assoc, lostSectors]
  congr 1
  funext chunk
  exact unreadableSectors_eq_flatMap aligned chunk.first chunk.count

end

end Transfer

end BlockImage
