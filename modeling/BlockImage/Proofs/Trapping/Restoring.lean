import BlockImage.Proofs.Transfer.Restoring
import BlockImage.Proofs.Trapping.Sources

/-!
# No trap catches a restore

Restoring, with a trap wherever what was read is cut, a number divided or a place on a device computed. The tags that are
planned make a read end exactly where the last piece is cut, whatever the stream gives, and the blocks of a chunk are as
many bytes as are cut for its runs.
-/
namespace BlockImage.Trapping

open Transfer

variable {ω : Type}

/-! ### Restoring with traps -/

/-- Size of the working area that the stream is read into. -/
def readArea (config : Config) (head : Head) : Except Trap Nat := do
  let capacity := config.chunkCapacity head.width
  let tags ← tagRoom head.options capacity 2
  return capacity * head.width + tags * head.options.checksum.tagSize

def plannedTags (options : Options) (filled count : Nat) (last : Bool) : Except Trap Nat := do
  if options.tagged then
    let full ← quotient (filled + count) options.blocksPerChecksum.toNat
    let begun ← remainder (filled + count) options.blocksPerChecksum.toNat
    return full + if last ∧ begun ≠ 0 then 1 else 0
  else return 0

def readTag? (algorithm : Checksum.Algorithm) (stored : ByteArray) : Except Trap (Option UInt32) := do
  if algorithm.tagSize = 0 then return none
  else
    let bytes ← slice stored 0 algorithm.tagSize
    return some (UInt32.ofNat (LittleEndian.decode bytes.data.toList))

def checkTag (register : Checksum.Register) (stored : ByteArray) (block : Nat) : Trapping ω Unit := do
  unless (← get).session.config.ignoreChecksum do
    match ← demand (readTag? register.algorithm stored) with
    | none => pure ()
    | some tag =>
      if tag ≠ register.value then
        throw (.failure (.checksumMismatch block register.algorithm tag register.value))

def takeBlock (head : Head) (data : ByteArray) (unpacking : Unpacking) (number : Nat) : Trapping ω Unpacking := do
  let options := head.options
  let stop := unpacking.position + head.width
  let block ← demand (slice data unpacking.position stop)
  let blocks := unpacking.blocks ++ block
  if options.tagged then
    let group := unpacking.group.add block
    if group.filled = options.blocksPerChecksum.toNat ∨ number + 1 = head.total then
      let tagStop := stop + options.checksum.tagSize
      let stored ← demand (slice data stop tagStop)
      checkTag group.register stored number
      plain do
        tally fun summary => { summary with tags := summary.tags + 1 }
        return { blocks, group := group.next options, position := tagStop }
    else return { blocks, group, position := stop }
  else return { unpacking with blocks, position := stop }

def unpack (head : Head) (group : Group) (data : ByteArray) (number count : Nat) : Trapping ω Unpacking :=
  (List.range count).foldlM (fun unpacking index => takeBlock head data unpacking (number + index)) { group }

def placeRun (target : Target ω) (blockSize : Nat) (blocks : ByteArray) (position : Nat) (run : Chunk) :
    Trapping ω Nat := do
  let stop := position + run.count * blockSize
  let offset ← demand (place (run.first * blockSize))
  let piece ← demand (slice blocks position stop)
  plain do
    call (target.writeAt offset piece) (.write offset)
    return stop

/-- Writes the whole blocks among the bytes to the next marked blocks. -/
def scatter (target : Target ω) (bitmap : Bitmap) (blockSize cursor : Nat) (blocks : ByteArray) : Trapping ω Nat := do
  let count ← demand (quotient blocks.size blockSize)
  let runs ← demand (runs bitmap cursor count)
  discard (runs.foldlM (placeRun target blockSize blocks) 0)
  if Chunk.total runs < count then throw (.failure (.format .surplusBlocks))
  return (runs.getLast?.map Chunk.stop).getD cursor

def restorePlan (image : Stream ω) (target : Target ω) (head : Head) (bitmap : Bitmap) (config : Config) :
    TrappingPlan ω Restored Nat where
  descriptor := head.descriptor
  prepare := do
    let area ← demand (readArea config head)
    plain do
      allocate [area, config.chunkCapacity head.width * head.width]
      enter .transferring
      return {
        group := .first head.options
        offset := Layout.dataOffset head.descriptor.totalBlocks.toNat head.options.encoding }
  chunks := do
    let capacity ← chunkCapacity config head.width
    return chunkSizes capacity head.total
  size := id
  move restored count := do
    let tags ← demand (plannedTags head.options restored.group.filled count (restored.done + count = head.total))
    let size := count * head.width + tags * head.options.checksum.tagSize
    let area ← demand (readArea config head)
    demand (front area size)
    let data ← plain (call (image.readExactly size) (.read restored.offset))
    let unpacking ← unpack head restored.group data restored.done count
    let cursor ← scatter target bitmap head.width restored.cursor unpacking.blocks
    return ({ group := unpacking.group, done := restored.done + count, cursor, offset := restored.offset + size },
      cursor)
  finish _ := pure ()

def restoreBlocks (owner : Owner) (image : Stream ω) (target : Target ω) (head : Head) (bitmap : Bitmap) :
    Trapping ω Summary :=
  within (conclude target.toSink)
    (bySettings fun config => (restorePlan image target head bitmap config).carryOut owner)

/-! ### Numbers of tags -/

theorem readArea_eq (config : Config) (head : Head) : readArea config head =
    .ok (config.chunkCapacity head.width * head.width +
      (if head.options.tagged then config.chunkCapacity head.width / head.options.blocksPerChecksum.toNat + 2 else 0) *
        head.options.checksum.tagSize) := by
  rw [readArea, tagRoom_eq]
  rfl

theorem plannedTags_eq (options : Options) (filled count : Nat) (last : Bool) :
    plannedTags options filled count last = .ok (Transfer.plannedTags options filled count last) := by
  rw [plannedTags, Transfer.plannedTags]
  split
  next tagged =>
    rw [quotient_of_pos _ (Layout.perTag_pos tagged), remainder_of_pos _ (Layout.perTag_pos tagged)]
    rfl
  next => rfl

/-- There is room for the tags of a chunk, also when a group was begun before it. -/
theorem plannedTags_le {options : Options} {filled count capacity : Nat}
    (begun : options.tagged = true → filled < options.blocksPerChecksum.toNat) (most : count ≤ capacity) (last : Bool) :
    Transfer.plannedTags options filled count last ≤
      if options.tagged then capacity / options.blocksPerChecksum.toNat + 2 else 0 := by
  rw [Transfer.plannedTags]
  split
  next tagged =>
    have full : (filled + count) / options.blocksPerChecksum.toNat ≤
        capacity / options.blocksPerChecksum.toNat + 1 := by
      rw [← Nat.add_div_right _ (Layout.perTag_pos tagged)]
      exact Nat.div_le_div_right (by have := begun tagged; omega)
    split <;> omega
  next => exact Nat.le_refl _

theorem readExactly_follows (image : Stream ω) (wanted : Nat) (failure : IoError → Error) (run : Run ω) :
    Follows (plain (call (image.readExactly wanted) failure)) (call (image.readExactly wanted) failure) run
      fun data _ => data.size = wanted :=
  .plain (leads_call.mpr (image.leads_size_readExactly wanted run.world))

/-! ### Taking blocks off what was read -/

section

variable {head : Head} {data : ByteArray}

/-- The group as it is between two blocks. -/
structure Stands (head : Head) (done : Nat) (group : Group) : Prop where
  algorithm : group.register.algorithm = head.options.checksum
  filled : head.options.tagged = true → done < head.total →
    group.filled = done % head.options.blocksPerChecksum.toNat

theorem Stands.at_start : Stands head 0 (.first head.options) := ⟨rfl, fun _ _ => (Nat.zero_mod _).symm⟩

/-- Of what was read behind the first `done` blocks, `index` blocks are taken. -/
structure Taken (head : Head) (done index : Nat) (unpacking : Unpacking) : Prop where
  position : head.startOf done + unpacking.position = head.startOf (done + index)
  size : unpacking.blocks.size = index * head.width
  stands : Stands head (done + index) unpacking.group

theorem readTag?_eq {algorithm : Checksum.Algorithm} {stored : ByteArray} (size : stored.size = algorithm.tagSize) :
    readTag? algorithm stored = .ok (Checksum.Register.readTag? algorithm stored) := by
  rw [readTag?, Checksum.Register.readTag?]
  split
  next => rfl
  next =>
    rw [slice_of_le (Nat.zero_le _) (Nat.le_of_eq size.symm)]
    rfl

theorem checkTag_follows {register : Checksum.Register} {stored : ByteArray}
    (size : stored.size = register.algorithm.tagSize) (block : Nat) (run : Run ω) :
    Follows (checkTag register stored block) (Transfer.checkTag register stored block) run fun _ _ => True := by
  refine .get_bind (.ite (fun _ => .pure trivial) fun _ => .demand (readTag?_eq size) ?_)
  cases Checksum.Register.readTag? register.algorithm stored with
  | none => exact .pure trivial
  | some tag => exact .ite (fun _ => .throw _) fun _ => .pure trivial

/-- Behind a tag a group begins anew. -/
theorem Stands.next {number : Nat} {group : Group} (stands : Stands head number group) (closes : head.Closes number)
    (block : ByteArray) : Stands head (number + 1) ((group.add block).next head.options) where
  algorithm := by
    rw [Group.next]
    split
    · exact stands.algorithm
    · exact stands.algorithm
  filled _ more := (closes.2.resolve_right (Nat.ne_of_lt more)).symm

/-- Where no tag follows, the block goes into the group. -/
theorem Stands.add {number : Nat} {group : Group} (stands : Stands head number group) (inside : number < head.total)
    (goes : ¬ head.Closes number) (block : ByteArray) : Stands head (number + 1) (group.add block) where
  algorithm := stands.algorithm
  filled tagged _ := by
    have before : (group.add block).filled = number % head.options.blocksPerChecksum.toNat + 1 :=
      congrArg (· + 1) (stands.filled tagged inside)
    rcases Layout.succ_mod_cases (Layout.perTag_pos tagged) number with ⟨_, zero, _⟩ | ⟨_, rest, _⟩
    · exact absurd ⟨tagged, .inl zero⟩ goes
    · rw [before, rest]

theorem Stands.closes_iff {number : Nat} {group : Group} (stands : Stands head number group)
    (tagged : head.options.tagged = true) (inside : number < head.total) (block : ByteArray) :
    (group.add block).filled = head.options.blocksPerChecksum.toNat ∨ number + 1 = head.total ↔ head.Closes number := by
  have before : (group.add block).filled = number % head.options.blocksPerChecksum.toNat + 1 :=
    congrArg (· + 1) (stands.filled tagged inside)
  rw [before, Head.Closes, Layout.closes_iff tagged]

theorem Taken.takeBlock {done index : Nat} {unpacking : Unpacking} (taken : Taken head done index unpacking)
    (inside : done + index < head.total) (reaches : head.startOf (done + index + 1) ≤ head.startOf done + data.size)
    (run : Run ω) :
    Follows (takeBlock head data unpacking (done + index)) (Transfer.takeBlock head data unpacking (done + index)) run
      fun more _ => Taken head done (index + 1) more := by
  have position := taken.position
  have next := Head.startOf_succ inside
  have within : unpacking.position + head.width ≤ data.size := by omega
  have size : (unpacking.blocks ++ data.extract unpacking.position (unpacking.position + head.width)).size =
      (index + 1) * head.width := by
    rw [ByteArray.size_append, ByteArray.size_extract, taken.size, Nat.add_mul]
    omega
  refine .demand (slice_of_le (Nat.le_add_right _ _) within) (.ite (fun tagged => ?_) fun untagged => ?_)
  · refine .ite (fun full => ?_) fun goes => ?_
    · -- A tag follows the block, and what was read reaches behind it.
      have closes := (taken.stands.closes_iff tagged inside _).mp full
      rw [if_pos closes] at next
      have tag : unpacking.position + head.width + head.options.checksum.tagSize ≤ data.size := by omega
      refine .demand (slice_of_le (Nat.le_add_right _ _) tag) ((checkTag_follows ?_ _ _).bind fun _ there _ => .plain ?_)
      · change _ = unpacking.group.register.algorithm.tagSize
        rw [taken.stands.algorithm, ByteArray.size_extract]
        omega
      · refine leads_bind_of_next fun _ _ => ⟨?_, size, taken.stands.next closes _⟩
        change _ + (unpacking.position + head.width + head.options.checksum.tagSize) = head.startOf (done + index + 1)
        omega
    · have goes := mt (taken.stands.closes_iff tagged inside _).mpr goes
      rw [if_neg goes] at next
      refine .pure ⟨?_, size, taken.stands.add inside goes _⟩
      change _ + (unpacking.position + head.width) = head.startOf (done + index + 1)
      omega
  · rw [if_neg fun closes => untagged closes.1] at next
    refine .pure ⟨?_, size, taken.stands.algorithm, fun tagged => absurd tagged untagged⟩
    change _ + (unpacking.position + head.width) = head.startOf (done + index + 1)
    omega

theorem unpack_follows {group : Group} {done count : Nat} (stands : Stands head done group)
    (within : done + count ≤ head.total) (size : head.startOf done + data.size = head.startOf (done + count))
    (run : Run ω) :
    Follows (unpack head group data done count) (Transfer.unpack head group data done count) run
      fun unpacking _ => Taken head done count unpacking := by
  refine .foldlM_range (fun index unpacking _ => Taken head done index unpacking) ?_ ?_
  · intro index unpacking run below taken
    refine taken.takeBlock (by omega) ?_ run
    rw [size]
    exact Head.startOf_mono (by omega) within
  · exact ⟨rfl, by rw [Nat.zero_mul]; rfl, stands⟩

end

/-! ### Placing blocks -/

theorem placeRun_follows (target : Target ω) (blockSize : Nat) {blocks : ByteArray} {position : Nat} {chunk : Chunk}
    (near : chunk.first * blockSize < UInt64.size) (within : position + chunk.count * blockSize ≤ blocks.size)
    (run : Run ω) :
    Follows (placeRun target blockSize blocks position chunk) (Transfer.placeRun target blockSize blocks position chunk)
      run fun stop _ => stop = position + chunk.count * blockSize :=
  .demand (place_of_lt near) (.demand (slice_of_le (Nat.le_add_right _ _) within)
    (.plain (leads_bind_of_next fun _ _ => rfl)))

example (target : Target ω) (run : Run ω) :
    placeRun target 2 ⟨#[7, 8]⟩ 0 ⟨1 <<< 63, 1⟩ run = .error (.trap .farPlace) run := rfl

example (target : Target ω) (run : Run ω) :
    placeRun target 2 ⟨#[7, 8]⟩ 0 ⟨3, 2⟩ run = .error (.trap .outside) run := rfl

/-- The runs of as many blocks as there are bytes for lie on the device and within the bytes. -/
theorem scatter_follows (target : Target ω) {bitmap : Bitmap} {blockSize count : Nat} (cursor : Nat)
    {blocks : ByteArray} (wide : 0 < blockSize) (small : bitmap.total * blockSize < UInt64.size)
    (size : blocks.size = count * blockSize) (run : Run ω) :
    Follows (scatter target bitmap blockSize cursor blocks)
      (Transfer.scatter target bitmap blockSize cursor count blocks) run fun _ _ => True := by
  have all : blocks.size / blockSize = count := by rw [size, Nat.mul_div_cancel _ wide]
  refine .demand (quotient_of_pos _ wide) ?_
  rw [all]
  refine .demand (runs_eq bitmap cursor count) ((Follows.discard ?_).bind fun _ after _ => ?_)
  · refine (Follows.foldlM (fun rest position _ => position + Chunk.total rest * blockSize ≤ blocks.size) ?_ ?_).any
    · intro chunk rest position run member room
      rw [Chunk.total, Nat.add_mul, ← Nat.add_assoc] at room
      obtain ⟨last, marked, stop⟩ := Bitmap.exists_last_of_mem_runs member
      have inside := Bitmap.lt_total_of_get marked
      have below : chunk.first ≤ bitmap.total := by
        rw [Chunk.stop] at stop
        omega
      have near := Nat.lt_of_le_of_lt (Nat.mul_le_mul_right blockSize below) small
      refine (placeRun_follows target blockSize near (by omega) run).weaken ?_
      rintro _ _ rfl
      exact room
    · rw [Nat.zero_add, size, bitmap.total_runs]
      exact Nat.mul_le_mul_right _ (Nat.min_le_left _ _)
  · exact .ite (fun _ => (Follows.throw _).bind fun _ _ (absurd : False) => absurd.elim) fun _ => .pure trivial

/-! ### The restore as a whole -/

section

variable {head : Head} {bitmap : Bitmap} (measured : Measured head.descriptor bitmap)

include measured

/-- Between two chunks the blocks of those that are left are the ones to come. -/
theorem restorePlan_follows (image : Stream ω) (target : Target ω) (config : Config) :
    (restorePlan image target head bitmap config).Follows (Transfer.restorePlan image target head bitmap config)
      fun rest restored => restored.done + rest.sum = head.total ∧ Stands head restored.done restored.group where
  descriptor := rfl
  size := rfl
  chunks := by
    change (chunkCapacity config head.width >>= _) = _
    rw [chunkCapacity_eq]
    rfl
  prepare run := by
    refine .demand (readArea_eq config head) (.plain ?_)
    exact leads_bind_of_next fun _ _ => leads_bind_of_next fun _ _ =>
      ⟨(Nat.zero_add _).trans (sum_chunkSizes _ _), .at_start⟩
  move {count rest restored} member := by
    rintro ⟨left, stands⟩ run
    have bounds := of_mem_chunkSizes member
    rw [Nat.max_eq_left (chunkCapacity_pos _ _)] at bounds
    rw [List.sum_cons] at left
    have filled (tagged : head.options.tagged = true) := stands.filled tagged (by omega)
    have size := startOf_add_planned count (by omega) filled
    refine .demand (plannedTags_eq _ _ _ _) (.demand (readArea_eq _ _) (.demand (front_of_le ?_) ?_))
    · -- What is read of a chunk fits into the working area.
      have begun (tagged : head.options.tagged = true) :
          restored.group.filled < head.options.blocksPerChecksum.toNat := by
        rw [filled tagged]
        exact Nat.mod_lt _ (Layout.perTag_pos tagged)
      exact Nat.add_le_add (Nat.mul_le_mul_right _ bounds.2) (Nat.mul_le_mul_right _ (plannedTags_le begun bounds.2 _))
    · refine (readExactly_follows image _ _ run).bind fun data there given => ?_
      refine (unpack_follows stands (by omega) (given ▸ size) there).bind fun unpacking after taken => ?_
      refine (scatter_follows target _ measured.blockSize_pos (measured.total ▸ measured.small) taken.size after).bind
        fun cursor placed _ => .pure ⟨?_, taken.stands⟩
      exact (Nat.add_assoc _ _ _).trans left
  finish _ run := .pure trivial

theorem restoreBlocks_follows (owner : Owner) (image : Stream ω) (target : Target ω) (run : Run ω) :
    Follows (restoreBlocks owner image target head bitmap)
      (Transfer.restoreBlocks owner image target head bitmap) run fun _ _ => True := by
  rw [restoreBlocks_eq]
  exact .within (.bySettings fun config => (restorePlan_follows measured image target config).carryOut owner run)
    (conclude_goes _ _ _)

end

end BlockImage.Trapping
