import BlockImage.Proofs.Transfer.Plan
import BlockImage.Proofs.Transfer.Rescue
import Mathlib.Data.List.Forall2

/-!
# Chunks that are read in turn

What comes of a side that is read chunk by chunk is told as if nothing else went on meanwhile: chunks of what the side
holds, with zeros in place of the sectors that were refused.
-/
namespace BlockImage

variable {ε σ τ ω α β : Type}

/-- A pass over a list gives a value for each item, of which is known what its step tells. -/
theorem leads_mapM {step : α → EStateM ε σ β} {failed : ε → σ → Prop} (holds : σ → Prop) (told : α → β → Prop)
    {items : List α} (steps : ∀ item ∈ items, ∀ state, holds state →
      Leads (step item state) (fun value after => told item value ∧ holds after) failed)
    {state : σ} (held : holds state) :
    Leads (items.mapM step state) (fun values after => List.Forall₂ told items values ∧ holds after) failed := by
  induction items generalizing state with
  | nil => exact ⟨.nil, held⟩
  | cons item rest ih =>
    rw [List.mapM_cons, leads_bind]
    refine (steps item List.mem_cons_self state held).weaken ?_
    rintro value between ⟨first, held⟩
    rw [leads_bind]
    refine (ih (fun other member => steps other (List.mem_cons_of_mem _ member)) held).weaken ?_
    rintro values after ⟨others, held⟩
    exact ⟨.cons first others, held⟩

theorem eq_map_of_forall₂ {value : α → β} {items : List α} {values : List β}
    (each : List.Forall₂ (fun item given => value item = given) items values) : values = items.map value := by
  rw [← List.forall₂_map_left_iff, List.forall₂_eq_eq_eq] at each
  exact each.symm

theorem mapM_cons_eq_ok {step : α → EStateM ε σ β} {item : α} {items : List α} {value : β} {values : List β}
    {state after : σ} : (item :: items).mapM step state = .ok (value :: values) after ↔
      ∃ between, step item state = .ok value between ∧ items.mapM step between = .ok values after := by
  rw [List.mapM_cons, bind_eq_ok]
  constructor
  · rintro ⟨_, between, first, later⟩
    obtain ⟨_, _, others, same⟩ := bind_eq_ok.mp later
    cases same
    exact ⟨between, first, others⟩
  · rintro ⟨between, first, others⟩
    exact ⟨value, between, first, bind_eq_ok.mpr ⟨values, after, others, rfl⟩⟩

namespace Bytes

variable {width : Nat} {content copy : ByteArray} {chunk : Chunk}

/-- What a byte string holds of a chunk. -/
def chunkAt (width : Nat) (content : ByteArray) (chunk : Chunk) : ByteArray :=
  content.extract (chunk.first * width) (chunk.first * width + chunk.count * width)

theorem byteAt_chunkAt (wide : 0 < width) {place : Nat} (before : place < chunk.count * width) :
    byteAt (chunkAt width content chunk) place =
      byteAt (blockAt width content (chunk.first + place / width)) (place % width) := by
  have within := Nat.mod_lt place wide
  have split : (chunk.first + place / width) * width + place % width = chunk.first * width + place := by
    rw [Nat.add_mul, Nat.add_assoc, Nat.div_add_mod']
  rw [chunkAt, blockAt, byteAt_extract, byteAt_extract, if_pos (by omega), Nat.add_mul _ 1, Nat.one_mul,
    if_pos (by omega), split]

/-- Two byte strings hold the same of a chunk if and only if they hold the same of each of its blocks. -/
theorem chunkAt_eq_iff (wide : 0 < width) (inside : chunk.stop * width ≤ content.size)
    (inside' : chunk.stop * width ≤ copy.size) : chunkAt width content chunk = chunkAt width copy chunk ↔
      ∀ block ∈ chunk.blocks, blockAt width content block = blockAt width copy block := by
  constructor
  · intro same
    have blocks := congrArg (Bytes.blocks width) same
    rw [chunkAt, chunkAt, blocks_extract wide inside, blocks_extract wide inside'] at blocks
    exact List.map_inj_left.mp blocks
  · intro same
    rw [Chunk.stop, Nat.add_mul] at inside inside'
    have size : (chunkAt width content chunk).size = chunk.count * width := by
      rw [chunkAt, ByteArray.size_extract]
      omega
    have size' : (chunkAt width copy chunk).size = chunk.count * width := by
      rw [chunkAt, ByteArray.size_extract]
      omega
    refine ext_byteAt (size.trans size'.symm) fun place => ?_
    -- A place within the chunk is one in a block; behind the chunk there is nothing on either side.
    rcases Nat.lt_or_ge place (chunk.count * width) with before | behind
    · have block : chunk.first + place / width ∈ chunk.blocks := by
        have below := (Nat.div_lt_iff_lt_mul wide).mpr before
        exact Chunk.mem_blocks.mpr ⟨Nat.le_add_right .., Nat.add_lt_add_left below _⟩
      rw [byteAt_chunkAt wide before, byteAt_chunkAt wide before, same _ block]
    · rw [byteAt_of_size_le (size ▸ behind), byteAt_of_size_le (size' ▸ behind)]

end Bytes

/-- Reads some chunks in turn. -/
def Source.readChunks (source : Source ω) (width : Nat) (chunks : List Chunk) : Call ω (List ByteArray) :=
  chunks.mapM fun chunk => source.readAt (chunk.first * width) (chunk.count * width)

/-- What is read of a side in turn are chunks of its bytes, and all of them are there. -/
theorem Source.Reads.readChunks {source : Source ω} {kept : ω → Prop} {view : ω → View} {rest : ω → β}
    {fails : IoError → Prop} (reads : source.Reads kept view rest fails) {bytes : ByteArray}
    (holds : ∀ world, kept world → (view world).bytes = bytes) {width : Nat} (wide : 0 < width) {chunks : List Chunk}
    (filled : ∀ chunk ∈ chunks, 0 < chunk.count) {world : ω} (held : kept world) :
    Leads (source.readChunks width chunks world)
      (fun given _ => given = chunks.map (Bytes.chunkAt width bytes) ∧ ∀ chunk ∈ chunks, chunk.stop * width ≤ bytes.size)
      fun _ _ => True := by
  have leads : Leads (source.readChunks width chunks world)
      (fun given after => List.Forall₂ (fun chunk data => chunk.stop * width ≤ bytes.size ∧
        Bytes.chunkAt width bytes chunk = data) chunks given ∧ kept after)
      fun _ _ => True := by
    refine leads_mapM kept _ (fun chunk member world held => ?_) held
    refine (reads.readAt _ _ world held).mono ?_ fun _ _ _ => trivial
    rintro data after ⟨frame, given, size, _⟩
    rw [holds _ held] at given
    refine ⟨⟨?_, given.symm⟩, frame.kept⟩
    -- A chunk that is not empty and comes in whole lies within the bytes.
    have some := Nat.mul_pos (filled chunk member) wide
    rw [given, ByteArray.size_extract] at size
    rw [Chunk.stop, Nat.add_mul]
    omega
  refine leads.weaken fun given _ told => ?_
  obtain ⟨inside, each⟩ := (List.forall₂_and_left _ _).mp told.1
  exact ⟨eq_map_of_forall₂ each, inside⟩

/-- Chunks that can be read are read in turn. -/
theorem Source.ReadsOutside.readChunks {source : Source σ} {kept : σ → Prop} {bytes : ByteArray} {bad : Nat → Bool}
    (outside : source.ReadsOutside kept bytes bad) {width : Nat} {chunks : List Chunk}
    (whole : ∀ chunk ∈ chunks, readable bytes.size bad (chunk.first * width) (chunk.count * width) = true) {world : σ}
    (held : kept world) : ∃ given after, source.readChunks width chunks world = .ok given after := by
  have leads : Leads (source.readChunks width chunks world)
      (fun given after => List.Forall₂ (fun _ _ => True) chunks given ∧ kept after) fun _ _ => False := by
    refine leads_mapM kept _ (fun chunk member world held => ?_) held
    refine (outside.readAt _ _ world held).mono ?_ ?_
    · exact fun _ _ given => ⟨trivial, given.1⟩
    · rintro cause after ⟨_, not⟩
      rw [whole chunk member] at not
      cases not
  obtain ⟨given, after, came, _⟩ := leads.exists_ok
  exact ⟨given, after, came⟩

namespace Transfer

/-- Reads some chunks in turn, with rescue if the session is to do so. -/
def readChunks (source : Source ω) (width : Nat) (chunks : List Chunk) : Transfer ω (List ByteArray) :=
  chunks.mapM fun chunk => readRange source (chunk.first * width) (chunk.count * width)

section

variable {source : Source ω} {kept : ω → Prop} {view : ω → View} {rest : ω → β} {fails : IoError → Prop}
  {config : Config} {bytes content : ByteArray} {width size : Nat} {chunks : List Chunk}

/-- A chunk is what a byte string holds, but for sectors that the source refused when the chunk was rescued. -/
def SalvagedChunk (source : Source ω) (kept : ω → Prop) (config : Config) (width : Nat) (content : ByteArray)
    (chunk : Chunk) (data : ByteArray) : Prop :=
  ∃ lost, (∀ piece ∈ lost, config.rescue = true ∧ source.Lacks kept (chunk.first * width) (chunk.count * width) piece) ∧
    data = Bytes.chunkAt width (Bytes.blank content lost) chunk

/-- Chunks that are salvaged one by one are all salvaged from one byte string. -/
theorem exists_salvaged (ascending : chunks.Pairwise fun chunk later => chunk.stop ≤ later.first)
    (inside : ∀ chunk ∈ chunks, chunk.stop * width ≤ content.size) {given : List ByteArray}
    (salvaged : List.Forall₂ (SalvagedChunk source kept config width content) chunks given) :
    ∃ lost, (∀ piece ∈ lost, config.rescue = true ∧ ∃ chunk ∈ chunks,
        source.Lacks kept (chunk.first * width) (chunk.count * width) piece) ∧
      given = chunks.map (Bytes.chunkAt width (Bytes.blank content lost)) := by
  induction salvaged with
  | nil => exact ⟨[], nofun, rfl⟩
  | @cons chunk _ chunks _ first _ ih =>
    obtain ⟨before, ascending⟩ := List.pairwise_cons.mp ascending
    obtain ⟨lost, lacked, rfl⟩ := first
    obtain ⟨more, lacked', rfl⟩ := ih ascending fun other member => inside other (List.mem_cons_of_mem _ member)
    refine ⟨lost ++ more, ?_, ?_⟩
    · intro piece member
      rcases List.mem_append.mp member with here | later
      · exact ⟨(lacked piece here).1, chunk, List.mem_cons_self, (lacked piece here).2⟩
      · obtain ⟨rescues, other, among, lacks⟩ := lacked' piece later
        exact ⟨rescues, other, List.mem_cons_of_mem _ among, lacks⟩
    · rw [List.map_cons]
      refine congrArg₂ List.cons ?_ ?_
      · -- What is lost of later chunks lies behind this one.
        have within := inside chunk List.mem_cons_self
        rw [Chunk.stop, Nat.add_mul] at within
        refine (Bytes.extract_blank_append lost within fun piece later => .inr ?_).symm
        obtain ⟨_, other, among, lacks⟩ := lacked' piece later
        have follows : chunk.stop * width ≤ other.first * width := Nat.mul_le_mul_right _ (before other among)
        rw [Chunk.stop, Nat.add_mul] at follows
        exact Nat.le_trans follows lacks.within.1
      · -- And what is lost of this one lies in front of the later ones.
        refine List.map_congr_left fun other among => ?_
        have within := inside other (List.mem_cons_of_mem _ among)
        rw [Chunk.stop, Nat.add_mul] at within
        refine (Bytes.extract_blank_append_right more within fun piece here => .inl ?_).symm
        have follows : chunk.stop * width ≤ other.first * width := Nat.mul_le_mul_right _ (before other among)
        rw [Chunk.stop, Nat.add_mul] at follows
        exact Nat.le_trans (lacked piece here).2.within.2 follows

/-- Whatever the faults of a source are, what is read of it in turn is salvaged from its bytes. -/
theorem readChunks_salvages (reads : source.Reads kept view rest fails)
    (holds : ∀ world, kept world → (view world).bytes = bytes)
    (inside : ∀ chunk ∈ chunks, chunk.stop * width ≤ (Bytes.padded bytes size).size) {run : Run ω}
    (held : kept run.world) :
    Leads (readChunks source width chunks run)
      (fun given _ => List.Forall₂
        (SalvagedChunk source kept run.session.config width (Bytes.padded bytes size)) chunks given)
      fun _ _ => True := by
  let stays (after : Run ω) : Prop := kept after.world ∧ after.session.config = run.session.config
  refine (leads_mapM stays _ (fun chunk member before stays => ?_) ⟨held, rfl⟩).weaken fun _ _ given => given.1
  have within := inside chunk member
  rw [Chunk.stop, Nat.add_mul] at within
  refine (readRange_salvages reads holds within stays.1).mono ?_ fun _ _ _ => trivial
  rintro data _ ⟨⟨badSectors, world, rfl, frame⟩, lost, lacked, given⟩
  rw [stays.2] at lacked
  exact ⟨⟨lost, fun piece member => (lacked piece member).symm, given⟩, frame.kept, stays.2⟩

end

/-! ### One side of two -/

/-- A run on two sides stands where one on the first side alone does, as far as reads of that side can tell. -/
structure ReadsLike (second : τ) (run : Run (σ × τ)) (alone : Run σ) : Prop where
  config : run.session.config = alone.session.config
  grants : run.grants = alone.grants
  running : run.running = true
  world : run.world = (alone.world, second)

theorem readsLike_bridge (second : τ) :
    Bridge (fun (world : σ × τ) alone => world = (alone, second)) (ReadsLike second) where
  config := ReadsLike.config
  grants := ReadsLike.grants
  world := ReadsLike.world
  reach like world := { like with world }
  onEnter _ like := { like with }
  onTally _ like := { like with }

theorem ofFirst_agree (source : Source σ) (second : τ) :
    (source.ofFirst : Source (σ × τ)).Agree (fun world alone => world = (alone, second)) source := by
  have lone {α : Type} (body : Call σ α) :
      Agrees (fun (world : σ × τ) alone => world = (alone, second)) (onFirst body) body := by
    rintro _ alone rfl
    unfold onFirst
    cases body alone <;> exact ⟨rfl, rfl⟩
  exact ⟨fun wanted => lone _, fun position => lone _⟩

theorem ofSecond_agree (copy : Source τ) (first : σ) :
    (copy.ofSecond : Source (σ × τ)).Agree (fun world alone => world = (first, alone)) copy := by
  have lone {α : Type} (body : Call τ α) :
      Agrees (fun (world : σ × τ) alone => world = (first, alone)) (onSecond body) body := by
    rintro _ alone rfl
    unfold onSecond
    cases body alone <;> exact ⟨rfl, rfl⟩
  exact ⟨fun wanted => lone _, fun position => lone _⟩

/-- The first side is read as if it were alone. -/
theorem readRange_ofFirst_agrees (source : Source σ) (second : τ) (offset wanted : Nat) :
    Agrees (ReadsLike second) (readRange (source.ofFirst : Source (σ × τ)) offset wanted)
      (readRange source offset wanted) :=
  (readsLike_bridge second).readRange_agrees (ofFirst_agree source second) offset wanted

/-- Of a source whose bad places stay, chunks that can be read or are rescued come in as what is rescued of them. -/
theorem readChunks_rescued {source : Source σ} {kept : σ → Prop} {bytes : ByteArray} {bad : Nat → Bool}
    (outside : source.ReadsOutside kept bytes bad) {width size : Nat} {chunks : List Chunk}
    (ascending : chunks.Pairwise fun chunk later => chunk.stop ≤ later.first)
    (inside : ∀ chunk ∈ chunks, chunk.stop * width ≤ (Bytes.padded bytes size).size) (run : Run σ)
    (held : kept run.world)
    (comes : ∀ chunk ∈ chunks, readable bytes.size bad (chunk.first * width) (chunk.count * width) = true ∨
      run.session.config.rescue = true) :
    ∃ after, readChunks source width chunks run =
      .ok (chunks.map (Bytes.chunkAt width (rescued bytes size bad width chunks))) after := by
  let stays (after : Run σ) : Prop := kept after.world ∧ after.session.config = run.session.config
  let content := rescued bytes size bad width chunks
  have gives := @givesContent_rescued size width bad chunks σ Unit source kept bytes outside run.session.config ascending
    inside comes
  have leads : Leads (readChunks source width chunks run)
      (fun given after => List.Forall₂ (fun chunk data => Bytes.chunkAt width content chunk = data) chunks given ∧
        stays after)
      fun _ _ => False := by
    refine leads_mapM stays _ (fun chunk member before held => ?_) ⟨held, rfl⟩
    -- Nothing is beside the source.
    let beside : Run (σ × Unit) := {
      session := before.session, looks := before.looks, events := before.events, world := (before.world, ())
      grants := before.grants }
    have like : ReadsLike () beside before := ⟨rfl, rfl, rfl, rfl⟩
    obtain ⟨data, _, came, rfl, world, rfl, frame⟩ := (gives chunk beside member held.1 held.2).exists_ok
    obtain ⟨_, _, _, broke, _⟩ | ⟨_, _, _, after, came', alone, rfl, like⟩ :=
      (readRange_ofFirst_agrees source () (chunk.first * width) (chunk.count * width) like).leadsBoth.cases
    · cases came.symm.trans broke
    · obtain ⟨rfl, rfl⟩ := EStateM.Result.ok.inj (came.symm.trans came')
      rw [alone]
      obtain rfl : world = (after.world, ()) := like.world
      exact ⟨rfl, frame.kept, like.config.symm.trans held.2⟩
  obtain ⟨given, after, came, each, _⟩ := leads.exists_ok
  exact ⟨after, eq_map_of_forall₂ each ▸ came⟩

end Transfer

end BlockImage
