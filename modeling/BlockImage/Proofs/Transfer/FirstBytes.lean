import BlockImage.Proofs.Transfer.Checking
import BlockImage.Proofs.Transfer.PlannedReads
import Mathlib.Data.List.Forall2

/-!
# What the legacy checksum sees

The legacy checksum folds the first byte of a block as often as the block has bytes, so of a block its tags see the first
byte and the size. Two streams are followed side by side that are as long as each other and agree on every tag and on the
first byte of every block. Whatever else they hold, and in whatever pieces they give it, the registers stand alike behind
each block, and so one of them is restored if and only if the other one is, by the same events.
-/
namespace BlockImage

variable {σ σ' τ τ' ω ω' : Type} {related : ω → ω' → Prop}

/-- Blocks of one size that begin with the same byte. -/
structure Bytes.BeginAlike (block other : ByteArray) : Prop where
  size : other.size = block.size
  first : byteAt other 0 = byteAt block 0

/-- The legacy checksum sees the first byte of a block, and how many bytes the block has. -/
theorem Checksum.Algorithm.fold_crc32Legacy_eq {block block' : ByteArray} (alike : Bytes.BeginAlike block block')
    (register : UInt32) : crc32Legacy.fold register block' = crc32Legacy.fold register block := by
  have size := alike.size
  simp only [fold, size]
  split
  next some =>
    have some' : 0 < block'.size := size ▸ some
    have same : block'[0] = block[0] := by
      rw [← Bytes.byteAt_of_lt some, ← alike.first, Bytes.byteAt_of_lt]
    rw [same]
  next none => rfl

theorem Checksum.Algorithm.ofBlocks_crc32Legacy_eq {blocks blocks' : List ByteArray}
    (alike : List.Forall₂ Bytes.BeginAlike blocks blocks') :
    crc32Legacy.ofBlocks blocks' = crc32Legacy.ofBlocks blocks := by
  suffices folds : ∀ register, blocks'.foldl crc32Legacy.fold register = blocks.foldl crc32Legacy.fold register from
    folds seed
  induction alike with
  | nil => exact fun _ => rfl
  | cons first _ ih =>
    intro register
    rw [List.foldl_cons, List.foldl_cons, fold_crc32Legacy_eq first, ih]

theorem Group.add_eq_of_legacy {group : Group} (legacy : group.register.algorithm = .crc32Legacy)
    {block block' : ByteArray} (alike : Bytes.BeginAlike block block') : group.add block' = group.add block := by
  simp only [add, Checksum.Register.update, legacy, Checksum.Algorithm.fold_crc32Legacy_eq alike]

/-- Data of one size that agree on every tag and on the first byte of every block. -/
structure Head.SameFirsts (head : Head) (stream other : ByteArray) : Prop where
  size : other.size = stream.size
  first : ∀ number < head.total,
    Bytes.byteAt other (head.startOf number) = Bytes.byteAt stream (head.startOf number)
  tag : ∀ number < head.total, head.Closes number → head.tagIn other number = head.tagIn stream number

/-- Blocks that begin alike have the same legacy tags. -/
theorem Head.sameFirsts_data {head : Head} (legacy : head.options.checksum = .crc32Legacy) (wide : 0 < head.width)
    {blocks blocks' : List ByteArray} (length : blocks.length = head.total)
    (sizes : ∀ block ∈ blocks, block.size = head.width) (alike : List.Forall₂ Bytes.BeginAlike blocks blocks') :
    head.SameFirsts (Layout.data head.options blocks) (Layout.data head.options blocks') := by
  have length' : blocks'.length = head.total := alike.length_eq.symm.trans length
  have begins (number : Nat) (inside : number < blocks.length) (inside' : number < blocks'.length) :
      Bytes.BeginAlike blocks[number] blocks'[number] := (List.forall₂_iff_get.mp alike).2 number inside inside'
  have sizes' : ∀ block ∈ blocks', block.size = head.width := by
    intro block member
    obtain ⟨number, inside', rfl⟩ := List.mem_iff_getElem.mp member
    have inside : number < blocks.length := by omega
    rw [(begins number inside inside').size, sizes _ (List.getElem_mem inside)]
  have firstByte (stream : ByteArray) (number : Nat) :
      Bytes.byteAt stream (head.startOf number) = Bytes.byteAt (head.blockIn stream number) 0 := by
    rw [blockIn, Bytes.byteAt_extract, Nat.add_zero, if_pos (by omega)]
  constructor
  · rw [size_data length sizes, size_data length' sizes']
  · intro number inside
    rw [firstByte, firstByte, blockIn_data length' sizes' (by omega), blockIn_data length sizes (by omega)]
    exact (begins number _ _).first
  · intro number inside closes
    have covered : List.Forall₂ Bytes.BeginAlike (Layout.covered head.options blocks number)
        (Layout.covered head.options blocks' number) := List.forall₂_drop _ (List.forall₂_take _ alike)
    rw [tagIn_data length' sizes' (by omega) closes, tagIn_data length sizes (by omega) closes, Layout.register,
      Layout.register, legacy, Checksum.Algorithm.ofBlocks_crc32Legacy_eq covered]

/-! ### Streams that are read side by side -/

/-- Of either stream the data from `origin` on is read up to the block with a given number. -/
structure Abreast (head : Head) (kept : σ → Prop) (view : σ → View) (origin : View) (number : Nat) (world : σ) :
    Prop where
  kept : kept world
  stands : view world = origin.skip (head.startOf number)

section Streams

variable {stream : Stream σ} {other : Stream σ'} {kept : σ → Prop} {kept' : σ' → Prop} {view : σ → View}
  {view' : σ' → View} {origin origin' : View} {head : Head} {number wanted : Nat}

/-- A stream that never fails gives what is wanted if it is as long as that. -/
theorem Abreast.readExactly_leads (reads : stream.Reads kept view (fun _ => ()) fun _ => False) {world : σ}
    (abreast : Abreast head kept view origin number world) (some : 0 < wanted) :
    Leads (stream.readExactly wanted world)
      (fun data after => kept after ∧ data.size = wanted ∧
        data = origin.left.extract (head.startOf number) (head.startOf number + wanted) ∧
        view after = origin.skip (head.startOf number + wanted) ∧ head.startOf number + wanted ≤ origin.left.size)
      fun cause after => kept after ∧ cause = .endOfDevice ∧ origin.left.size < head.startOf number + wanted := by
  refine (reads.readExactly wanted world abreast.kept).mono ?_ ?_
  · rintro data after ⟨frame, given, size, moved⟩
    rw [abreast.stands, View.take_skip] at given
    rw [abreast.stands, View.skip_skip] at moved
    have bound := congrArg ByteArray.size given
    rw [size, ByteArray.size_extract] at bound
    exact ⟨frame.kept, size, given, moved, by omega⟩
  · rintro cause after ⟨frame, _, fault | ⟨rfl, short⟩⟩
    · exact fault.elim
    · rw [abreast.stands] at short
      change origin.bytes.size < origin.position + head.startOf number + wanted at short
      refine ⟨frame.kept, rfl, ?_⟩
      rw [View.size_left]
      omega

/-- Two streams that never fail and are as long as each other give as much, or end alike. -/
theorem readExactly_abreast (reads : stream.Reads kept view (fun _ => ()) fun _ => False)
    (reads' : other.Reads kept' view' (fun _ => ()) fun _ => False) (size : origin'.left.size = origin.left.size)
    {world : σ} {world' : σ'} (abreast : Abreast head kept view origin number world)
    (abreast' : Abreast head kept' view' origin' number world') {next : Nat}
    (ends : head.startOf number + wanted = head.startOf next) :
    LeadsBoth (stream.readExactly wanted world) (other.readExactly wanted world')
      (fun data after data' after' => data.size = wanted ∧ data'.size = wanted ∧
        data = origin.left.extract (head.startOf number) (head.startOf number + data.size) ∧
        data' = origin'.left.extract (head.startOf number) (head.startOf number + data'.size) ∧
        Abreast head kept view origin next after ∧ Abreast head kept' view' origin' next after')
      fun _ after after' => kept after ∧ kept' after' := by
  rcases Nat.eq_zero_or_pos wanted with rfl | some
  · -- Where nothing is wanted neither stream is read.
    have empty (bytes : ByteArray) (start : Nat) : ByteArray.empty = bytes.extract start (start + 0) := by
      refine (ByteArray.size_eq_zero_iff.mp ?_).symm
      rw [ByteArray.size_extract]
      omega
    rw [Stream.readExactly, Stream.readExactly, Stream.readMore, Stream.readMore, if_pos rfl, if_pos rfl]
    rw [Nat.add_zero] at ends
    exact ⟨rfl, rfl, empty _ _, empty _ _, ⟨abreast.kept, ends ▸ abreast.stands⟩, abreast'.kept, ends ▸ abreast'.stands⟩
  · have leads := abreast.readExactly_leads reads some
    have leads' := abreast'.readExactly_leads reads' some
    cases came : stream.readExactly wanted world with
    | ok data after =>
      obtain ⟨held, count, given, moved, whole⟩ := leads.of_ok came
      refine .of_ok_left (leads'.mono ?_ fun _ _ short => by omega)
      rintro data' after' ⟨held', count', given', moved', _⟩
      rw [ends] at moved moved'
      exact ⟨count, count', count.symm ▸ given, count'.symm ▸ given', ⟨held, moved⟩, held', moved'⟩
    | error cause after =>
      obtain ⟨held, rfl, short⟩ := leads.of_error came
      refine .of_error_left (leads'.mono (fun _ _ given => by omega) ?_)
      rintro cause' after' ⟨held', rfl, _⟩
      exact ⟨rfl, held, held'⟩

end Streams

namespace Transfer

/-! ### Taking blocks off both -/

/-- Of either side as much is taken, and the groups stand alike. -/
structure Level (unpacking other : Unpacking) : Prop where
  group : other.group = unpacking.group
  position : other.position = unpacking.position

section Unpacking

variable {alike : Run ω → Run ω' → Prop} {head : Head} {stream stream' data data' : ByteArray}
  {done index : Nat} {unpacking unpacking' : Unpacking}

/-- What both sides were given of data that agree as far as the legacy checksum sees. -/
structure Given (head : Head) (done : Nat) (stream stream' data data' : ByteArray) : Prop where
  firsts : head.SameFirsts stream stream'
  size : data'.size = data.size
  read : data = stream.extract (head.startOf done) (head.startOf done + data.size)
  read' : data' = stream'.extract (head.startOf done) (head.startOf done + data'.size)

namespace Given

variable (given : Given head done stream stream' data data')

include given

theorem beginAlike {position number : Nat} (starts : head.startOf done + position = head.startOf number)
    (inside : number < head.total) (stop : Nat) :
    Bytes.BeginAlike (data.extract position stop) (data'.extract position stop) where
  size := by rw [ByteArray.size_extract, ByteArray.size_extract, given.size]
  first := by
    rw [Bytes.byteAt_extract, Bytes.byteAt_extract, given.read, given.read', Bytes.byteAt_extract,
      Bytes.byteAt_extract, given.size, Nat.add_zero, starts, given.firsts.first number inside]

theorem tag_eq {position number : Nat} (starts : head.startOf done + position = head.startOf number)
    (inside : number < head.total) (closes : head.Closes number)
    (within : position + head.width + head.options.checksum.tagSize ≤ data.size) :
    data'.extract (position + head.width) (position + head.width + head.options.checksum.tagSize) =
      data.extract (position + head.width) (position + head.width + head.options.checksum.tagSize) := by
  have tag := given.firsts.tag number inside closes
  rw [Head.tagIn, Head.tagIn, ← starts] at tag
  have within' := given.size ▸ within
  rw [given.read, given.read', ByteArray.extract_extract, ByteArray.extract_extract,
    Nat.min_eq_left (by omega), Nat.min_eq_left (by omega)]
  simpa only [Nat.add_assoc] using tag

end Given

variable (bridge : Bridge related alike) (legacy : head.options.checksum = .crc32Legacy)
  (given : Given head done stream stream' data data')

include bridge legacy given

/-- Behind a block that both sides have taken their registers stand alike, and a tag is compared alike. -/
theorem takeBlock_leadsBoth (taken : Trapping.Taken head done index unpacking) (level : Level unpacking unpacking')
    (inside : done + index < head.total) (reaches : head.startOf (done + index + 1) ≤ head.startOf done + data.size)
    {run : Run ω} {run' : Run ω'} (held : alike run run') :
    LeadsBoth (takeBlock head data unpacking (done + index) run) (takeBlock head data' unpacking' (done + index) run')
      (fun taken after taken' after' => Level taken taken' ∧ alike after after') fun _ => alike := by
  have position := taken.position
  have next := Head.startOf_succ inside
  have added := Group.add_eq_of_legacy (taken.stands.algorithm.trans legacy)
    (given.beginAlike position inside (unpacking.position + head.width))
  rw [takeBlock, takeBlock]
  dsimp only
  rw [level.position, level.group, added]
  split
  next tagged =>
    split
    next full =>
      have closes := (taken.stands.closes_iff tagged inside _).mp full
      rw [if_pos closes] at next
      rw [given.tag_eq position inside closes (by omega)]
      have checks := bridge.checkTag_agrees
        (unpacking.group.add (data.extract unpacking.position (unpacking.position + head.width))).register
        (data.extract (unpacking.position + head.width)
          (unpacking.position + head.width + head.options.checksum.tagSize)) (done + index)
      refine (checks held).leadsBoth.bind ?_
      rintro _ there _ there' ⟨_, held⟩
      have aside : Summary.Aside fun summary => { summary with tags := summary.tags + 1 } :=
        fun _ => ⟨rfl, rfl, rfl, fun _ => rfl⟩
      refine (bridge.tally_agrees aside held).leadsBoth.bind ?_
      rintro _ after _ after' ⟨_, held⟩
      exact ⟨⟨rfl, rfl⟩, held⟩
    next goes => exact ⟨⟨rfl, rfl⟩, held⟩
  next untagged => exact ⟨⟨rfl, rfl⟩, held⟩

theorem unpack_leadsBoth {group : Group} {count : Nat} (stands : Trapping.Stands head done group)
    (within : done + count ≤ head.total) (ends : head.startOf done + data.size = head.startOf (done + count))
    {run : Run ω} {run' : Run ω'} (held : alike run run') :
    LeadsBoth (unpack head group data done count run) (unpack head group data' done count run')
      (fun unpacking after unpacking' after' => Level unpacking unpacking' ∧ alike after after') fun _ => alike := by
  rw [unpack, unpack]
  refine (LeadsBoth.foldlM_range (fun index unpacking after unpacking' after' =>
    (Level unpacking unpacking' ∧ alike after after') ∧ Trapping.Taken head done index unpacking) ?_ ?_).mono
      (fun _ _ _ _ taken => taken.1) fun _ _ _ held => held
  · rintro index unpacking after unpacking' after' below ⟨⟨level, held⟩, taken⟩
    have inside : done + index < head.total := by omega
    have reaches : head.startOf (done + index + 1) ≤ head.startOf done + data.size := by
      rw [ends]
      exact Head.startOf_mono (by omega) within
    exact (takeBlock_leadsBoth bridge legacy given taken level inside reaches held).and_left
      (taken.takeBlock inside reaches after).leads
  · exact ⟨⟨⟨rfl, rfl⟩, held⟩, rfl, by rw [Nat.zero_mul]; rfl, stands⟩

end Unpacking

/-! ### Which algorithm a failure names -/

/-- A tag that does not fit is told of with the algorithm of the head. -/
def NamesAlgorithm (head : Head) (failure : Error) : Prop :=
  ∀ block algorithm stored computed, failure = .checksumMismatch block algorithm stored computed →
    algorithm = head.options.checksum

section Names

variable {head : Head}

theorem checkTag_names {register : Checksum.Register} (algorithm : register.algorithm = head.options.checksum)
    (stored : ByteArray) (block : Nat) (run : Run ω) :
    Leads (checkTag register stored block run) (fun _ _ => True) fun failure _ => NamesAlgorithm head failure := by
  rw [checkTag, leads_bind, leads_get]
  cases run.session.config.ignoreChecksum with
  | true => trivial
  | false =>
    cases Checksum.Register.readTag? register.algorithm stored with
    | none => trivial
    | some tag =>
      change Leads ((if _ ≠ register.value then throw _ else pure () : Transfer ω Unit) run) _ _
      split
      next differs =>
        rintro _ _ _ _ same
        cases same
        exact algorithm
      next fits => trivial

theorem unpack_names {group : Group} (algorithm : group.register.algorithm = head.options.checksum) (data : ByteArray)
    (number count : Nat) (run : Run ω) :
    Leads (unpack head group data number count run)
      (fun unpacking _ => unpacking.group.register.algorithm = head.options.checksum)
      fun failure _ => NamesAlgorithm head failure := by
  refine leads_foldlM (fun _ (unpacking : Unpacking) _ => unpacking.group.register.algorithm = head.options.checksum)
    ?_ algorithm
  intro index _ unpacking there _ algorithm
  rw [takeBlock]
  dsimp only
  split
  · split
    · rw [leads_bind]
      refine Leads.weaken (checkTag_names (by exact algorithm) _ _ there) fun _ _ _ => ?_
      rw [leads_bind, leads_tally, leads_pure, Group.next]
      split <;> exact algorithm
    · exact algorithm
  · exact algorithm

theorem scatter_names (target : Target ω) (bitmap : Bitmap) (blockSize cursor count : Nat) (blocks : ByteArray)
    (run : Run ω) :
    Leads (scatter target bitmap blockSize cursor count blocks run) (fun _ _ => True)
      fun failure _ => NamesAlgorithm head failure := by
  rw [scatter, leads_bind, leads_discard]
  refine (leads_foldlM (fun _ _ _ => True) (fun chunk _ position there _ _ => ?_) trivial).weaken fun _ _ _ => ?_
  · rw [placeRun, leads_bind, leads_call]
    exact .of_all (fun _ _ => trivial) fun _ _ => by rintro _ _ _ _ ⟨⟩
  · split
    · rintro _ _ _ _ ⟨⟩
    · trivial

theorem restoreChunk_names (owner : Owner) (image : Stream ω) (target : Target ω) (bitmap : Bitmap) {restored : Restored}
    (algorithm : restored.group.register.algorithm = head.options.checksum) (count : Nat) (run : Run ω) :
    Leads (restoreChunk owner image target head bitmap restored count run)
      (fun next _ => next.group.register.algorithm = head.options.checksum)
      fun failure _ => NamesAlgorithm head failure := by
  have spares : owner.Spares (fun _ => True) run.running := .inl trivial
  rw [restoreChunk, leads_bind]
  refine leads_checkRunning spares (fun _ _ => ?_) fun _ _ => by rintro _ _ _ _ ⟨⟩
  rw [leads_bind, leads_call]
  refine .of_all (fun data world => ?_) fun _ _ => by rintro _ _ _ _ ⟨⟩
  rw [leads_bind]
  refine (unpack_names algorithm data _ _ _).weaken fun unpacking after algorithm => ?_
  rw [leads_bind]
  exact (scatter_names target bitmap _ _ _ _ after).weaken fun _ _ _ => algorithm

theorem restoreBlocks_names (owner : Owner) (image : Stream ω) (target : Target ω) (head : Head) (bitmap : Bitmap)
    (run : Run ω) :
    Leads (restoreBlocks owner image target head bitmap run) (fun _ _ => True)
      fun failure _ => NamesAlgorithm head failure := by
  have body : Leads ((restorePlan image target head bitmap run.session.config).carryOut owner run) (fun _ _ => True)
      fun failure _ => NamesAlgorithm head failure := by
    have prepared : Leads ((restorePlan image target head bitmap run.session.config).prepare run)
        (fun restored _ => restored.group.register.algorithm = head.options.checksum)
        fun failure _ => NamesAlgorithm head failure :=
      leads_bind.mpr (leads_allocate (fun _ => rfl) fun _ _ _ => by rintro _ _ _ _ ⟨⟩)
    rw [Plan.carryOut, leads_bind]
    refine prepared.weaken fun restored there algorithm => ?_
    rw [leads_bind, restorePlan_step]
    exact (leads_foldlM (fun _ restored _ => restored.group.register.algorithm = head.options.checksum)
      (fun count _ _ there _ algorithm => restoreChunk_names owner image target bitmap algorithm count there)
      algorithm).weaken fun _ _ _ => trivial
  rw [restoreBlocks_eq, conclude, leads_settling, leads_bind, leads_attempt]
  refine body.mono ?_ ?_
  · intro _ after _
    rw [leads_bind, leads_enter, leads_bind, leads_call]
    exact .of_all (fun _ _ => trivial) fun _ _ => by rintro _ _ _ _ ⟨⟩
  · intro failure after names
    rw [leads_bind, leads_attempt]
    exact .of_all (fun _ _ => names) fun _ _ => names

end Names

/-! ### The restore as a whole -/

section Restores

variable {stream : Stream σ} {other : Stream σ'} {kept : σ → Prop} {kept' : σ' → Prop} {view : σ → View}
  {view' : σ' → View} {target : Target τ} {target' : Target τ'} {serving : τ → Prop} {serving' : τ' → Prop}
  {origin origin' : View} {head : Head} {bitmap : Bitmap} {config : Config}

/-- Whatever the blocks are, they are put alike on targets that serve. -/
theorem scatter_agrees_of_serves {first : σ → σ' → Prop} {alike : Run (σ × τ) → Run (σ' × τ') → Prop} {blockSize : Nat}
    (bridge : Bridge (Beside first fun disk disk' => serving disk ∧ serving' disk') alike)
    (serves : target.Serves serving (bitmap.total * blockSize))
    (serves' : target'.Serves serving' (bitmap.total * blockSize)) (cursor count : Nat) (blocks blocks' : ByteArray) :
    Agrees alike (scatter target.ofSecond bitmap blockSize cursor count blocks)
      (scatter target'.ofSecond bitmap blockSize cursor count blocks') := by
  refine bridge.scatter_agrees fun run member position => ?_
  rw [Target.writeAt_ofSecond, Target.writeAt_ofSecond]
  exact (agrees_of_kept (serves.writeAt (Bridge.placed_within member ..))
    (serves'.writeAt (Bridge.placed_within member ..))).onSecond

/-- Of both streams as many blocks are read, and both targets serve. -/
abbrev Sides (head : Head) (kept : σ → Prop) (kept' : σ' → Prop) (view : σ → View) (view' : σ' → View)
    (serving : τ → Prop) (serving' : τ' → Prop) (origin origin' : View) (number : Nat) : σ × τ → σ' × τ' → Prop :=
  Beside (fun world world' => Abreast head kept view origin number world ∧ Abreast head kept' view' origin' number world')
    fun disk disk' => serving disk ∧ serving' disk'

/-- What is left of that when a restore is over. -/
abbrev Ended (kept : σ → Prop) (kept' : σ' → Prop) (serving : τ → Prop) (serving' : τ' → Prop) :
    σ × τ → σ' × τ' → Prop :=
  Beside (fun world world' => kept world ∧ kept' world') fun disk disk' => serving disk ∧ serving' disk'

theorem Sides.ended {number : Nat} {run : Run (σ × τ)} {run' : Run (σ' × τ')}
    (held : run.Alike (Sides head kept kept' view view' serving serving' origin origin' number) run') :
    run.Alike (Ended kept kept' serving serving') run' :=
  { held with world := ⟨⟨held.world.1.1.kept, held.world.1.2.kept⟩, held.world.2⟩ }

variable (reads : stream.Reads kept view (fun _ => ()) fun _ => False)
  (reads' : other.Reads kept' view' (fun _ => ()) fun _ => False)
  (serves : target.Serves serving (bitmap.total * head.width))
  (serves' : target'.Serves serving' (bitmap.total * head.width))
  (legacy : head.options.checksum = .crc32Legacy) (firsts : head.SameFirsts origin.left origin'.left)

include reads reads' serves serves' legacy firsts

/-- A chunk is moved alike from both sides. -/
theorem move_leadsBoth {capacity count : Nat} {rest : List Nat} {restored : Restored}
    (underway : Underway head capacity (count :: rest) restored) {run : Run (σ × τ)} {run' : Run (σ' × τ')}
    (held : run.Alike (Sides head kept kept' view view' serving serving' origin origin' restored.done) run') :
    LeadsBoth ((restorePlan stream.ofFirst target.ofSecond head bitmap config).move restored count run)
      ((restorePlan other.ofFirst target'.ofSecond head bitmap config).move restored count run')
      (fun moved after moved' after' => (moved' = moved ∧ moved.1.done = restored.done + count) ∧
        after.Alike (Sides head kept kept' view view' serving serving' origin origin' (restored.done + count)) after')
      fun _ => Run.Alike (Ended kept kept' serving serving') := by
  have lockstep := Run.alike_lockstep
    (Sides head kept kept' view view' serving serving' origin origin' (restored.done + count))
  have ends := underway.ends
  have given : LeadsBoth
      (call ((stream.ofFirst : Stream (σ × τ)).readExactly (bytesPlanned head restored count)) (.read restored.offset) run)
      (call ((other.ofFirst : Stream (σ' × τ')).readExactly (bytesPlanned head restored count)) (.read restored.offset)
        run')
      (fun data after data' after' => (data.size = bytesPlanned head restored count ∧
          Given head restored.done origin.left origin'.left data data') ∧
        after.Alike (Sides head kept kept' view view' serving serving' origin origin' (restored.done + count)) after')
      fun _ => Run.Alike (Ended kept kept' serving serving') := by
    refine .adaptExcept (.inWorld ?_)
    rw [Stream.readExactly, Stream.readExactly, Stream.readMore_ofFirst, Stream.readMore_ofFirst]
    refine .onFirst ((readExactly_abreast reads reads' firsts.size held.world.1.1 held.world.1.2 ends).mono ?_ ?_)
    · rintro data first data' first' ⟨size, size', read, read', abreast, abreast'⟩
      exact ⟨⟨size, firsts, size'.trans size.symm, read, read'⟩, held.session, held.running, held.looks, held.events,
        held.grants, ⟨abreast, abreast'⟩, held.world.2⟩
    · rintro _ first first' kept
      exact ⟨held.session, held.running, held.looks, held.events, held.grants, kept, held.world.2⟩
  refine given.bind ?_
  rintro data there data' there' ⟨⟨size, given⟩, held⟩
  have unpacked := unpack_leadsBoth lockstep.toBridge legacy given underway.stands underway.more (size ▸ ends) held
  refine (unpacked.mono_failed fun _ _ _ => Sides.ended).bind ?_
  rintro unpacking taken unpacking' taken' ⟨level, held⟩
  have scattered := scatter_agrees_of_serves lockstep.toBridge serves serves' restored.cursor count unpacking.blocks
    unpacking'.blocks held
  refine (scattered.leadsBoth.mono_failed fun _ _ _ => Sides.ended).bind ?_
  rintro cursor after _ after' ⟨rfl, held⟩
  refine ⟨⟨?_, rfl⟩, held⟩
  rw [level.group]

theorem step_leadsBoth (owner : Owner) {capacity count : Nat} {rest : List Nat} {restored : Restored}
    (underway : Underway head capacity (count :: rest) restored) {run : Run (σ × τ)} {run' : Run (σ' × τ')}
    (held : run.Alike (Sides head kept kept' view view' serving serving' origin origin' restored.done) run') :
    LeadsBoth ((restorePlan stream.ofFirst target.ofSecond head bitmap config).step owner restored count run)
      ((restorePlan other.ofFirst target'.ofSecond head bitmap config).step owner restored count run')
      (fun next after next' after' => next' = next ∧
        after.Alike (Sides head kept kept' view view' serving serving' origin origin' next.done) after')
      fun _ => Run.Alike (Ended kept kept' serving serving') := by
  have looks := (Run.alike_lockstep
    (Sides head kept kept' view view' serving serving' origin origin' restored.done)).checkRunning_agrees owner
  refine ((looks held).leadsBoth.mono_failed fun _ _ _ => Sides.ended).bind ?_
  rintro _ there _ there' ⟨_, held⟩
  refine (move_leadsBoth reads reads' serves serves' legacy firsts underway held).bind ?_
  rintro ⟨next, position⟩ moved _ moved' ⟨⟨rfl, done⟩, held⟩
  rw [← done] at held
  have lockstep := Run.alike_lockstep (Sides head kept kept' view view' serving serving' origin origin' next.done)
  refine ((lockstep.onCount count head.width held).leadsBoth.mono_failed fun _ _ _ => Sides.ended).bind ?_
  rintro _ counted _ counted' ⟨_, held⟩
  refine ((lockstep.report_agrees owner head.total position held).leadsBoth.mono_failed fun _ _ _ => Sides.ended).bind ?_
  rintro _ after _ after' ⟨_, held⟩
  exact ⟨rfl, held⟩

/-- From alike sessions at the beginning of both streams, the plan of a restore is carried out alike. -/
theorem carryOut_agree (owner : Owner) {run : Run (σ × τ)} {run' : Run (σ' × τ')}
    (held : run.Alike (Sides head kept kept' view view' serving serving' origin origin' 0) run') :
    Agree (Run.Alike (Ended kept kept' serving serving'))
      ((restorePlan stream.ofFirst target.ofSecond head bitmap config).carryOut owner run)
      ((restorePlan other.ofFirst target'.ofSecond head bitmap config).carryOut owner run') := by
  let capacity := config.chunkCapacity head.width
  let begins : Restored := {
    group := .first head.options
    offset := Layout.dataOffset head.descriptor.totalBlocks.toNat head.options.encoding }
  have bridge := Run.alike_bridge (Sides head kept kept' view view' serving serving' origin origin' 0)
  have prepares := Agrees.bind (bridge.allocate_agrees (restoringBuffers config head.width head.options)) fun _ =>
    (bridge.enter_agrees .transferring).bind fun _ => .pure begins
  have prepared : Leads ((restorePlan stream.ofFirst target.ofSecond head bitmap config).prepare run)
      (fun restored _ => restored = begins) fun _ _ => True :=
    leads_bind_of_next fun _ _ => leads_bind_of_next fun _ _ => rfl
  refine LeadsBoth.agree ?_
  refine (((prepares held).leadsBoth.and_left prepared).mono_failed fun _ _ _ => Sides.ended).bind ?_
  rintro _ there _ there' ⟨⟨rfl, held⟩, rfl⟩
  -- Between two chunks both sides stand where the chunks that are left begin.
  refine (LeadsBoth.foldlM (fun rest restored after restored' after' => (restored' = restored ∧
    after.Alike (Sides head kept kept' view view' serving serving' origin origin' restored.done) after') ∧
      Underway head capacity rest restored) ?_ ⟨⟨rfl, held⟩, .at_start head capacity⟩).bind ?_
  · rintro count rest restored run _ run' ⟨⟨rfl, held⟩, underway⟩
    exact (step_leadsBoth reads reads' serves serves' legacy firsts owner underway held).and_left
      (restorePlan_step_leads owner stream.ofFirst target.ofSecond head bitmap config underway run)
  · rintro restored after _ after' ⟨⟨rfl, held⟩, _⟩
    exact ⟨rfl, Sides.ended held⟩

omit firsts in
/-- Under the legacy checksum two streams that are as long as each other and agree on every tag and on the first byte of
every block come to the same: restored to any targets that serve they give the same summary by the same events, or
fail for the same reason, and a tag that does not fit is told of as a legacy one. -/
theorem legacy_tags_see_first_bytes (owner : Owner) (session : Session) (running : Bool) (grants : Nat → Bool)
    {source : σ} {source' : σ'} {disk : τ} {disk' : τ'} (held : kept source) (held' : kept' source')
    (fits : serving disk) (fits' : serving' disk')
    (firsts : head.SameFirsts (view source).left (view' source').left) :
    Agree (Run.Alike (Ended kept kept' serving serving'))
      (restoreBlocks owner stream.ofFirst target.ofSecond head bitmap {
        session, running, grants, world := (source, disk) })
      (restoreBlocks owner other.ofFirst target'.ofSecond head bitmap {
        session, running, grants, world := (source', disk') }) ∧
    ∀ block algorithm stored computed after,
      restoreBlocks owner stream.ofFirst target.ofSecond head bitmap {
          session, running, grants, world := (source, disk) } =
        .error (.checksumMismatch block algorithm stored computed) after → algorithm.isLegacy = true := by
  constructor
  · have begins : Run.Alike
        (Sides head kept kept' view view' serving serving' (view source) (view' source') 0)
        { session, running, grants, world := (source, disk) }
        { session, running, grants, world := (source', disk') } := by
      refine ⟨rfl, rfl, rfl, rfl, rfl, ⟨⟨held, ?_⟩, held', ?_⟩, fits, fits'⟩
      · rw [Head.startOf_zero, View.skip_zero]
      · rw [Head.startOf_zero, View.skip_zero]
    have bridge := Run.alike_bridge (Ended kept kept' serving serving')
    have syncs : Agrees (Ended kept kept' serving serving') (target.ofSecond : Target (σ × τ)).sync
        (target'.ofSecond : Target (σ' × τ')).sync := (agrees_of_kept serves.sync serves'.sync).onSecond
    have carried : Agree (Run.Alike (Ended kept kept' serving serving'))
        ((bySettings fun config => (restorePlan stream.ofFirst target.ofSecond head bitmap config).carryOut owner)
          { session, running, grants, world := (source, disk) })
        ((bySettings fun config => (restorePlan other.ofFirst target'.ofSecond head bitmap config).carryOut owner)
          { session, running, grants, world := (source', disk') }) :=
      carryOut_agree reads reads' serves serves' legacy firsts owner begins
    rw [restoreBlocks_eq, restoreBlocks_eq]
    refine ((bridge.conclude_leadsBoth syncs carried).mono ?_ fun _ _ _ ended => ended).agree
    rintro _ after _ after' ⟨rfl, rfl, alike⟩
    exact ⟨by rw [alike.session], alike⟩
  · intro block algorithm stored computed after failed
    have names := (restoreBlocks_names owner stream.ofFirst target.ofSecond head bitmap _).of_error failed
    rw [names block algorithm stored computed rfl, legacy]
    rfl

end Restores

/-- A head over two blocks of two bytes, each with a legacy tag behind it. -/
def sampleLegacy : Head := .written { checksum := .crc32Legacy, blocksPerChecksum := 1 } (.ofGeometry "sample" 2 3 2)

/-- Blocks under that head, of which the second bytes are given. -/
def sampleLegacyBlocks (second second' : UInt8) : List ByteArray := [⟨#[7, second]⟩, ⟨#[9, second']⟩]

/-- A session that restores such blocks from a medium that gives so many bytes at a time. -/
def sampleLegacyRestoring (second second' : UInt8) (atMost : Nat) : Run (Device × Device) where
  session := { direction := .fromImage, config := {} }
  world := ({
      bytes := Layout.data sampleLegacy.options (sampleLegacyBlocks second second'), faults := .short atMost },
    { bytes := .empty, faults := .short 1 })

/-- With other second bytes, and on a medium that gives them in other pieces, the sample comes to the same summary. -/
theorem legacy_tags_see_first_bytes_sample : ∃ summary restored restored',
    restoreBlocks {} Device.source.ofFirst.toStream Device.target.ofSecond sampleLegacy .sample
      (sampleLegacyRestoring 8 10 3) = .ok summary restored ∧
    restoreBlocks {} Device.source.ofFirst.toStream Device.target.ofSecond sampleLegacy .sample
      (sampleLegacyRestoring 0 99 1) = .ok summary restored' ∧
    restored.events = restored'.events := by
  have sizes (second second' : UInt8) :
      ∀ block ∈ sampleLegacyBlocks second second', block.size = sampleLegacy.width :=
    List.forall_mem_cons.mpr ⟨rfl, List.forall_mem_singleton.mpr rfl⟩
  have left (second second' : UInt8) (atMost : Nat) : (sampleLegacyRestoring second second' atMost).world.1.view.left =
      Layout.data sampleLegacy.options (sampleLegacyBlocks second second') := Bytes.extract_eq_self (Nat.le_refl _)
  have readable (second second' : UInt8) {atMost : Nat} (some : 0 < atMost) :
      (sampleLegacyRestoring second second' atMost).world.1.faults.Steady := Faults.short_steady some
  have writable (second second' : UInt8) (atMost : Nat) :
      (sampleLegacyRestoring second second' atMost).world.2.faults.Steady := Faults.short_steady (by decide)
  -- The second image is a written one, so that it is restored.
  have measured : Measured sampleLegacy.descriptor .sample := ⟨by decide, by decide, rfl, rfl⟩
  have undisturbed : Undisturbed {} sampleLegacy (sampleLegacyRestoring 0 99 1) :=
    ⟨Owner.quiet_default, rfl, by decide, readable 0 99 (by decide), writable 0 99 1⟩
  have formed : sampleLegacy.WellFormed false (sampleLegacyRestoring 0 99 1).world.1.view.left := by
    rw [left]
    constructor
    · apply Nat.le_of_eq
      rw [← Head.startOf_total, Head.size_data rfl (sizes 0 99)]
    · exact .inr (.inr fun number inside closes => Head.fits_data rfl (sizes 0 99) inside closes)
  obtain ⟨summary, restored', came'⟩ := (restores_exactly_wellFormed measured undisturbed).1.mpr formed
  have alike : List.Forall₂ Bytes.BeginAlike (sampleLegacyBlocks 8 10) (sampleLegacyBlocks 0 99) :=
    .cons ⟨rfl, rfl⟩ (.cons ⟨rfl, rfl⟩ .nil)
  have firsts := Head.sameFirsts_data rfl (by decide) rfl (sizes 8 10) alike
  rw [← left 8 10 3, ← left 0 99 1] at firsts
  have reads := Device.source_reads_steady.toReads
  have serves := Device.serves (Bitmap.sample.total * sampleLegacy.width)
  obtain ⟨agree, _⟩ := legacy_tags_see_first_bytes reads reads serves serves rfl {}
    (sampleLegacyRestoring 8 10 3).session true addressable (readable 8 10 (by decide)) (readable 0 99 (by decide))
    (writable 8 10 3) (writable 0 99 1) firsts
  obtain ⟨restored, came, alike⟩ := agree.exists_ok came'
  exact ⟨summary, restored, restored', came, came', alike.events⟩

end Transfer

end BlockImage
