import BlockImage.Proofs.Transfer.Acceptance

/-!
# What a restore leaves that does not get to its end

The target then holds the first blocks of the stream and nothing else that is new. The last event told how many they
are, and they make up whole chunks. Only a failed write leaves a part of the chunk that it was to write.
-/
namespace BlockImage

/-- Nothing has been moved yet and nobody told of it. -/
structure Run.Fresh {ω : Type} (run : Run ω) : Prop where
  events : run.events = #[]
  blocks : run.session.summary.blocks = 0

namespace Transfer

/-- Of the blocks of a stream, those before `done` are at their places, and of those from there on and before `stop`
there are some bytes. All else is as it was. -/
structure PartlyRestored (head : Head) (bitmap : Bitmap) (stream : ByteArray) (done stop : Nat)
    (before after : ByteArray) : Prop where
  restored : ∀ (index : Nat) (inside : index < bitmap.marked.length), index < done →
    Bytes.blockAt head.width after bitmap.marked[index] = head.blockIn stream index
  elsewhere : ∀ place, (∀ number ∈ bitmap.marked.take done,
      ¬ (number * head.width ≤ place ∧ place < (number + 1) * head.width)) →
    Bytes.byteAt after place = Bytes.byteAt before place ∨
      ∃ (index : Nat) (_ : index < bitmap.marked.length), done ≤ index ∧ index < stop ∧
        bitmap.marked[index] * head.width ≤ place ∧ place < (bitmap.marked[index] + 1) * head.width ∧
        Bytes.byteAt after place =
          Bytes.byteAt (head.blockIn stream index) (place - bitmap.marked[index] * head.width)
  grown : before.size ≤ after.size

/-- What is on the target when a restore with chunks of `capacity` blocks fails behind `done` of them. -/
def LeftBy (head : Head) (bitmap : Bitmap) (capacity : Nat) (stream : ByteArray) (done : Nat)
    (before after : ByteArray) : Error → Prop
  | .cancelled | .read .. | .insufficientMemory .. =>
    capacity ∣ done ∧ head.startOf done ≤ stream.size ∧
      after = Bytes.place head.width before (bitmap.marked.take done) ((head.blocksIn stream).take done)
  | .checksumMismatch block .. =>
    capacity ∣ done ∧ done ≤ block ∧ block < done + capacity ∧ head.startOf done ≤ stream.size ∧
      after = Bytes.place head.width before (bitmap.marked.take done) ((head.blocksIn stream).take done)
  | .write .. =>
    (capacity ∣ done ∨ done = head.total) ∧
      ∃ stop ≤ done + capacity, PartlyRestored head bitmap stream done stop before after
  | _ => False

/-- The failures that devices, their owner and the memory can make a restore end with. -/
def Intrudes : Error → Prop
  | .cancelled | .read .. | .write .. | .insufficientMemory .. => True
  | _ => False

variable {head : Head} {bitmap : Bitmap} {origin : View} {bytes left : ByteArray} {done stop : Nat} {failure : Error}

theorem Stopped.le (stopped : Stopped head bitmap origin bytes done stop failure left)
    (measured : Measured head.descriptor bitmap) : done ≤ stop := by
  obtain ⟨amount, behind, before, _⟩ := stopped.laid
  exact Nat.le_of_mul_le_mul_right (Nat.le_trans behind before) measured.blockSize_pos

/-- Unless a write failed, there are exactly the blocks before `done`. -/
theorem Stopped.eq_place (stopped : Stopped head bitmap origin bytes done stop failure left)
    (measured : Measured head.descriptor bitmap) (unlike : ∀ offset cause, failure ≠ .write offset cause) :
    head.startOf done ≤ origin.left.size ∧
      left = Bytes.place head.width bytes (bitmap.marked.take done) ((head.blocksIn origin.left).take done) := by
  have whole : head.startOf done ≤ origin.left.size :=
    Nat.le_trans (Head.startOf_mono (stopped.le measured) stopped.within) stopped.whole
  refine ⟨whole, ?_⟩
  obtain ⟨amount, _, _, exactly | ⟨offset, cause, written⟩, laid⟩ := stopped.laid
  · rw [laid, exactly,
      place_cut_blocksIn measured.verifiedBlocks _ (stopped.le measured) stopped.within whole]
  · exact absurd written (unlike offset cause)

/-- Also where a write failed, the blocks before `done` are whole, and what is new behind them is of the stream. -/
theorem Stopped.partlyRestored (stopped : Stopped head bitmap origin bytes done stop failure left)
    (measured : Measured head.descriptor bitmap) :
    PartlyRestored head bitmap origin.left done stop bytes left := by
  have total : head.total = bitmap.marked.length := measured.verifiedBlocks
  have within := stopped.within
  have sizes := Head.sizes_take_blocksIn within stopped.whole
  have ascending : (bitmap.marked.take stop).Pairwise (· < ·) := (bitmap.markedFrom_ascending 0).take
  have numbered : (bitmap.marked.take stop).length = stop := by
    rw [List.length_take, Nat.min_eq_left (by omega)]
  have counted : ((head.blocksIn origin.left).take stop).length = stop := by
    rw [List.length_take, Head.length_blocksIn, Nat.min_eq_left within]
  obtain ⟨amount, behind, before, _, rfl⟩ := stopped.laid
  refine ⟨?_, ?_, Bytes.size_place_ge _ _ _⟩
  · intro index inside early
    have under : index < stop := Nat.lt_of_lt_of_le early (stopped.le measured)
    -- At least the blocks before `done` have come, so this one is whole.
    have come : (index + 1) * head.width ≤ amount := Nat.le_trans (Nat.mul_le_mul_right _ early) behind
    have there := Bytes.blockAt_place_cut bytes ascending sizes (numbered.symm ▸ under) (counted.symm ▸ under) come
    rwa [List.getElem_take, List.getElem_take, Head.getElem_blocksIn] at there
  · intro place outside
    rcases Bytes.byteAt_place_cut_cases bytes (bitmap.marked.take stop) sizes amount place with
      same | ⟨item, inside, given, begins, ends, new⟩
    · exact .inl same
    · rw [numbered] at inside
      rw [List.getElem_take] at begins ends
      rw [List.getElem_take, List.getElem_take, Head.getElem_blocksIn] at new
      refine .inr ⟨item, by omega, ?_, inside, begins, ends, new⟩
      -- The blocks before `done` are not the ones that this byte is in.
      refine Nat.le_of_not_lt fun early => outside bitmap.marked[item] ?_ ⟨begins, ends⟩
      refine List.mem_iff_getElem.mpr ⟨item, ?_, List.getElem_take ..⟩
      rw [List.length_take]
      omega

/-- A restore that fails leaves the first blocks of the stream on the target, as many as its last event told of. -/
theorem failed_restore_leaves_first_blocks {owner : Owner} {run after : Run (Device × Device)}
    (measured : Measured head.descriptor bitmap) (fresh : run.Fresh)
    (broke : restoreBlocks owner Device.source.ofFirst.toStream Device.target.ofSecond head bitmap run =
      .error failure after) :
    LeftBy head bitmap (run.session.config.chunkCapacity head.width) run.world.1.view.left (unitsTold after.events)
      run.world.2.bytes after.world.2.bytes failure := by
  have spared : owner.Spares Intrudes run.running := .inl trivial
  have leads := restoreBlocks_leads (Device.source_ofFirst_reads_all run.world.1.bytes).toReads
    (Device.target_ofSecond_writes_beside _) (fun _ _ _ => trivial) (fun _ _ _ => trivial) measured run rfl spared
    fun _ _ _ => trivial
  obtain ⟨reason, done, stop, halted⟩ := leads.of_error broke
  have stopped := halted.stopped
  -- In a fresh session the last event told of all blocks done.
  have told : unitsTold after.events = done := by
    rw [halted.told, fresh.events, fresh.blocks]
    split
    next none => exact none.symm
    next => exact Nat.zero_add done
  rw [told]
  -- Only a failed write can come behind the last chunk.
  have chunked (unlike : ∀ offset cause, failure ≠ .write offset cause) :
      run.session.config.chunkCapacity head.width ∣ done := by
    rcases halted.chunked with whole | ⟨_, offset, cause, written⟩
    · exact whole
    · exact absurd written (unlike offset cause)
  cases failure with
  | cancelled => exact ⟨chunked nofun, stopped.eq_place measured nofun⟩
  | read offset cause => exact ⟨chunked nofun, stopped.eq_place measured nofun⟩
  | insufficientMemory needed available => exact ⟨chunked nofun, stopped.eq_place measured nofun⟩
  | checksumMismatch block algorithm stored computed =>
    obtain ⟨behind, before⟩ := stopped.mismatch _ _ _ _ rfl
    exact ⟨chunked nofun, behind, Nat.lt_of_lt_of_le before halted.near, stopped.eq_place measured nofun⟩
  | write offset cause =>
    exact ⟨halted.chunked.imp_right And.left, stop, halted.near, stopped.partlyRestored measured⟩
  | _ =>
    -- Neither the bytes nor the devices nor the owner make a restore fail in another way.
    rcases reason with intrudes | ⟨_, ended, _⟩ | ⟨_, _, _, _, _, _, _, mismatch⟩
    · exact intrudes.elim
    · cases ended
    · cases mismatch

/-- A session that restores two blocks without tags from a stream of only one, block by block. -/
def sampleShort : Run (Device × Device) :=
  { sampleRestoring ⟨#[7]⟩ with
    session := { (sampleRestoring ⟨#[7]⟩).session with config := { bufferSize := 1 } } }

theorem failed_restore_sample : ∃ offset after,
    restoreBlocks {} Device.source.ofFirst.toStream Device.target.ofSecond (.written { checksum := .none } .sample)
      .sample sampleShort = .error (.read offset .endOfDevice) after ∧
    after.world.2.bytes = Bytes.place 1 ⟨#[1, 2, 3, 4]⟩ (Bitmap.sample.marked.take (unitsTold after.events))
      (((Head.written { checksum := .none } .sample).blocksIn ⟨#[7]⟩).take (unitsTold after.events)) := by
  let head : Head := .written { checksum := .none } .sample
  have untagged : head.options.tagged = false := rfl
  have undisturbed : Undisturbed {} head sampleShort :=
    ⟨Owner.quiet_default, rfl, by decide, (sampleRestoring_restorable _).readable,
      (sampleRestoring_restorable _).writable⟩
  have stream : sampleShort.world.1.view.left = ⟨#[7]⟩ := Bytes.extract_eq_self (Nat.le_refl _)
  -- The second block is missing, so the restore fails, and without tags it can only fail for that.
  have short : ¬ head.startOf head.total ≤ sampleShort.world.1.view.left.size := by
    rw [Head.startOf_total, stream]
    decide
  obtain ⟨failure, after, broke, reason⟩ := ((undisturbed.restoreBlocks_leads Probed.sample.measured).mono
    (fun _ _ done => short done.whole) fun _ _ reason => reason).exists_error
  rcases reason with fault | ⟨offset, rfl, _⟩ | ⟨_, _, _, _, closes, _⟩
  · exact fault.elim
  · obtain ⟨_, _, left⟩ := failed_restore_leaves_first_blocks Probed.sample.measured ⟨rfl, rfl⟩ broke
    rw [stream] at left
    exact ⟨offset, after, broke, left⟩
  · rw [closes.1] at untagged
    cases untagged

end Transfer

end BlockImage
