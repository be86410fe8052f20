import BlockImage.Proofs.Transfer.RoundTrip

/-!
# Which streams are restored

Where nothing disturbs a restore, it succeeds exactly if the stream holds all blocks and tags and the tags fit. The size
of the buffer has no say in this, nor in which tag is told not to fit.
-/
namespace BlockImage

namespace Head

variable (head : Head)

/-- A stream holds the whole data, and the tags in it are those of the blocks, unless nobody looks at them. -/
structure WellFormed (ignores : Bool) (stream : ByteArray) : Prop where
  whole : head.dataSize ≤ stream.size
  tags : ignores = true ∨ head.options.tagged = false ∨
    ∀ number < head.total, head.Closes number → head.Fits stream number

end Head

namespace Transfer

/-- Nothing disturbs a restore: its owner lets it run, its working areas are granted, and no call on a device fails. -/
structure Undisturbed (owner : Owner) (head : Head) (run : Run (Device × Device)) : Prop where
  quiet : owner.Quiet
  running : run.running = true
  granted : ∀ size ∈ restoringBuffers run.session.config head.width head.options, run.grants size
  readable : run.world.1.faults.Steady
  writable : run.world.2.faults.Steady

variable {owner : Owner} {head : Head} {bitmap : Bitmap} {run : Run (Device × Device)}

/-- Only the bytes decide what an undisturbed restore comes to. -/
theorem Undisturbed.restoreBlocks_leads (undisturbed : Undisturbed owner head run)
    (measured : Measured head.descriptor bitmap) :
    Leads (restoreBlocks owner Device.source.ofFirst.toStream Device.target.ofSecond head bitmap run)
      (fun summary after => Completed head bitmap run.session.config.ignoreChecksum run.world.1.view
        run.world.2.bytes run.session.summary.tags summary after.world.2.view after.world.1.view)
      fun failure _ =>
        Fails (fun _ => False) head run.session.config.ignoreChecksum run.world.1.view failure := by
  have spared : owner.Spares (fun _ => False) run.running := .inr ⟨undisturbed.quiet, undisturbed.running⟩
  refine (Transfer.restoreBlocks_leads Device.SteadyPair.reads.toReads Device.SteadyPair.writes
    (fun _ _ fault => fault.elim) (fun _ _ fault => fault.elim) measured run
    ⟨undisturbed.readable, undisturbed.writable, rfl⟩ spared ?_).mono ?_ ?_
  · intro size member refused
    exact absurd (undisturbed.granted size member) refused
  · exact fun _ _ done => done.2
  · exact fun _ _ broke => broke.1

theorem Accepted.wellFormed {ignores : Bool} {stream : ByteArray} (accepted : Accepted head stream ignores 0 head.total)
    (whole : head.startOf head.total ≤ stream.size) : head.WellFormed ignores stream where
  whole := by rwa [Head.startOf_total] at whole
  tags := by
    cases ignores with
    | true => exact .inl rfl
    | false =>
      apply Or.inr
      apply Or.inr
      intro number inside closes
      exact (accepted number (Nat.zero_le _) inside closes).resolve_left nofun

theorem Rejected.exists_misfit {ignores : Bool} {stream : ByteArray} {failure : Error}
    (rejected : Rejected head stream ignores 0 head.total failure) :
    ∃ number, head.Misfit stream number ∧ failure = mismatchAt head stream number := by
  obtain ⟨compares, number, _, inside, closes, unfit, accepted, rfl⟩ := rejected
  refine ⟨number, ⟨inside, closes, unfit, ?_⟩, rfl⟩
  intro other before closed
  -- Tags are compared, so those in front were accepted because they fit.
  rcases accepted other (Nat.zero_le _) before closed with ignored | fits
  · rw [compares] at ignored
    cases ignored
  · exact fits

theorem not_fails_of_wellFormed {ignores : Bool} {origin : View} (formed : head.WellFormed ignores origin.left)
    {failure : Error} : ¬ Fails (fun _ => False) head ignores origin failure := by
  rintro (fault | ⟨_, _, short⟩ | ⟨compares, number, _, inside, closes, unfit, _⟩)
  · exact fault
  · -- All that is wanted of the stream is there.
    rw [Head.startOf_total] at short
    exact absurd formed.whole (Nat.not_le.mpr short)
  · rcases formed.tags with ignored | untagged | fits
    · rw [compares] at ignored
      cases ignored
    · rw [closes.1] at untagged
      cases untagged
    · exact unfit (fits number inside closes)

/-- A restore succeeds exactly on well-formed streams, of which it takes the data and no byte more. Of a stream that is
long enough it tells the first tag that does not fit. -/
theorem restores_exactly_wellFormed (measured : Measured head.descriptor bitmap)
    (undisturbed : Undisturbed owner head run) :
    ((∃ summary after, restoreBlocks owner Device.source.ofFirst.toStream Device.target.ofSecond head bitmap run =
        .ok summary after) ↔
      head.WellFormed run.session.config.ignoreChecksum run.world.1.view.left) ∧
    (∀ summary after, restoreBlocks owner Device.source.ofFirst.toStream Device.target.ofSecond head bitmap run =
        .ok summary after →
      after.world.1.view = run.world.1.view.skip head.dataSize ∧
      (∀ (index : Nat) (inside : index < bitmap.marked.length),
        Bytes.blockAt head.width after.world.2.bytes bitmap.marked[index] =
          head.blockIn run.world.1.view.left index) ∧
      summary.tags = run.session.summary.tags + head.tagTotal) ∧
    (head.dataSize ≤ run.world.1.view.left.size →
      ¬ head.WellFormed run.session.config.ignoreChecksum run.world.1.view.left →
      ∃ number after, head.Misfit run.world.1.view.left number ∧
        restoreBlocks owner Device.source.ofFirst.toStream Device.target.ofSecond head bitmap run =
          .error (mismatchAt head run.world.1.view.left number) after) := by
  have leads := undisturbed.restoreBlocks_leads measured
  refine ⟨⟨?_, ?_⟩, ?_, ?_⟩
  · rintro ⟨summary, after, returned⟩
    have done := leads.of_ok returned
    exact done.accepted.wellFormed done.whole
  · intro formed
    obtain ⟨summary, after, returned, _⟩ :=
      (leads.mono (fun _ _ done => done) fun _ _ broke => not_fails_of_wellFormed formed broke).exists_ok
    exact ⟨summary, after, returned⟩
  · intro summary after returned
    obtain ⟨moved, whole, placed, tags, _⟩ := leads.of_ok returned
    rw [Head.startOf_total] at moved
    rw [Head.tagsBefore_all] at tags
    refine ⟨moved, ?_, tags⟩
    intro index inside
    have ascending : bitmap.marked.Pairwise (· < ·) := bitmap.markedFrom_ascending 0
    have given : index < (head.blocksIn run.world.1.view.left).length := by
      rw [Head.length_blocksIn]
      exact Nat.lt_of_lt_of_eq inside measured.verifiedBlocks.symm
    have sizes : ∀ block ∈ head.blocksIn run.world.1.view.left, block.size = head.width := by
      have all := Head.sizes_take_blocksIn (Nat.le_refl _) whole
      rwa [List.take_of_length_le (Nat.le_of_eq Head.length_blocksIn)] at all
    change Bytes.blockAt head.width after.world.2.view.bytes _ = _
    rw [placed, Bytes.blockAt_place _ ascending
      (fun block member => Nat.le_of_eq (sizes block member)) inside given (sizes _ (List.getElem_mem given)),
      Head.getElem_blocksIn]
  · intro whole malformed
    obtain ⟨failure, after, broke, reason⟩ := (leads.mono
      (fun _ _ done => malformed (done.accepted.wellFormed done.whole)) fun _ _ reason => reason).exists_error
    rcases reason with fault | ⟨_, _, short⟩ | rejected
    · exact fault.elim
    · rw [Head.startOf_total] at short
      exact absurd whole (Nat.not_le.mpr short)
    · obtain ⟨number, misfit, rfl⟩ := rejected.exists_misfit
      exact ⟨number, after, misfit, broke⟩

theorem restores_wellFormed_sample : ∃ summary after,
    restoreBlocks {} Device.source.ofFirst.toStream Device.target.ofSecond
      (.written sampleImaging.session.config .sample) .sample
      (sampleRestoring (Layout.data (imageOptions sampleImaging.session.config) [⟨#[7]⟩, ⟨#[9]⟩])) =
      .ok summary after ∧
    after.world.1.view.position = 10 ∧ summary.tags = 2 := by
  let head : Head := .written sampleImaging.session.config .sample
  let blocks : List ByteArray := [⟨#[7]⟩, ⟨#[9]⟩]
  have sizes : ∀ block ∈ blocks, block.size = head.width := by decide
  have ready := sampleRestoring_restorable (Layout.data head.options blocks)
  have undisturbed : Undisturbed {} head (sampleRestoring (Layout.data head.options blocks)) :=
    ⟨ready.quiet, rfl, ready.granted, ready.readable, ready.writable⟩
  have formed : head.WellFormed false (Layout.data head.options blocks) := by
    constructor
    · apply Nat.le_of_eq
      rw [← Head.startOf_total, Head.size_data rfl sizes]
    · exact .inr (.inr fun number inside closes => Head.fits_data rfl sizes inside closes)
  have stream : (sampleRestoring (Layout.data head.options blocks)).world.1.view.left =
      Layout.data head.options blocks := Bytes.extract_eq_self (Nat.le_refl _)
  obtain ⟨accepts, delivers, _⟩ := restores_exactly_wellFormed Probed.sample.measured undisturbed
  rw [stream] at accepts
  obtain ⟨summary, after, returned⟩ := accepts.mpr formed
  obtain ⟨moved, _, tags⟩ := delivers summary after returned
  have total : head.tagTotal = 2 := by decide
  refine ⟨summary, after, returned, ?_, ?_⟩
  · rw [moved, View.position_skip, Head.dataSize, total]
    rfl
  · rw [tags, total]
    rfl

end Transfer

end BlockImage
