import BlockImage.Proofs.Image.Opening
import BlockImage.Proofs.Transfer.Failures
import BlockImage.Proofs.Transfer.RoundTrip
import BlockImage.Proofs.Trapping.Restoring

/-!
# What enters a transfer fits

A probe and an image may say anything of a device. What a session takes from them is a descriptor that adds up and a
bitmap over its blocks, padded with clear bits, whose set bits it counts. With these no trap catches a transfer that
follows, and a restore never comes to more blocks than are marked.
-/
namespace BlockImage

variable {ω α : Type}

/-- A descriptor and a bitmap that agree down to the last bit. -/
structure Consistent (descriptor : Descriptor) (bitmap : Bitmap) : Prop where
  blockSize : 1 ≤ descriptor.blockSize.toNat
  deviceSize : descriptor.deviceSize.toNat = descriptor.totalBlocks.toNat * descriptor.blockSize.toNat
  small : descriptor.totalBlocks.toNat * descriptor.blockSize.toNat < UInt64.size
  total : bitmap.total = descriptor.totalBlocks.toNat
  size : bitmap.bytes.size = (descriptor.totalBlocks.toNat + 7) / 8
  padding : ∀ index, descriptor.totalBlocks.toNat ≤ index → bitAt bitmap.bytes index = false
  verified : descriptor.verifiedBlocks.toNat = (List.range (8 * bitmap.bytes.size)).countP (bitAt bitmap.bytes)
  most : descriptor.verifiedBlocks.toNat ≤ descriptor.totalBlocks.toNat

theorem Probed.consistent {descriptor : Descriptor} {bitmap : Bitmap} (probed : Probed descriptor bitmap) :
    Consistent descriptor bitmap where
  blockSize := probed.blockSize_pos
  deviceSize := by rw [← probed.deviceSize, probed.total]
  small := probed.measured.small
  total := probed.total
  size := by rw [bitmap.size_bytes, probed.total, bitmapSize]
  padding index outside := bitmap.padding_clear index (probed.total ▸ outside)
  verified := by
    -- All bits of the bytes are those of the blocks and the padding, which marks nothing.
    have bits := bitmap.countP_range_get (8 * bitmap.bytes.size)
    have size := bitmap.size_bytes
    rw [bitmapSize] at size
    rw [Bitmap.markedFrom_of_total_le (by omega), List.length_nil, Nat.add_zero] at bits
    rw [probed.verifiedBlocks, ← bits]
    rfl
  most := (Descriptor.validate_eq_ok_iff.mp probed.valid).2.2.2

/-- No trap catches the one computation, and it comes to the same end as the other. -/
def Untrapped (trapping : Trapping ω α) (body : Transfer ω α) : Prop :=
  ∀ run, (∀ trap after, trapping run ≠ .error (.trap trap) after) ∧ trapping run = Trapping.plain body run

theorem Untrapped.of_follows {trapping : Trapping ω α} {body : Transfer ω α}
    (follows : ∀ run, Trapping.Follows trapping body run fun _ _ => True) : Untrapped trapping body := by
  intro run
  have same := (follows run).same
  exact ⟨fun trap after caught => Trapping.plain_ne_trap (same.symm.trans caught), same⟩

/-- No trap catches a transfer from a source. -/
structure Movable (descriptor : Descriptor) (bitmap : Bitmap) : Prop where
  imaging : ∀ {ω : Type} (owner : Owner) (source : Source ω) (target : Sink ω),
    Untrapped (Trapping.writeImage owner source target descriptor bitmap)
      (Transfer.writeImage owner source target descriptor bitmap)
  copying : ∀ {ω : Type} (owner : Owner) (source : Source ω) (target : Target ω),
    Untrapped (Trapping.copyPartition owner source target descriptor bitmap)
      (Transfer.copyPartition owner source target descriptor bitmap)
  comparing : ∀ {ω : Type} (owner : Owner) (source copy : Source ω),
    Untrapped (Trapping.verifyPartition owner source copy descriptor bitmap)
      (Transfer.verifyPartition owner source copy descriptor bitmap)

theorem Measured.movable {descriptor : Descriptor} {bitmap : Bitmap} (measured : Measured descriptor bitmap) :
    Movable descriptor bitmap where
  imaging owner source target := .of_follows (Trapping.writeImage_follows measured owner source target)
  copying owner source target := .of_follows (Trapping.copyPartition_follows measured owner source target)
  comparing owner source copy := .of_follows (Trapping.verifyPartition_follows measured owner source copy)

/-- No trap catches a restore, and it does not run out of marked blocks. -/
def Reversible (head : Head) (bitmap : Bitmap) : Prop :=
  ∀ {ω : Type} (owner : Owner) (image : Stream ω) (target : Target ω),
    Untrapped (Trapping.restoreBlocks owner image target head bitmap)
        (Transfer.restoreBlocks owner image target head bitmap) ∧
      ∀ run, failureOf (Transfer.restoreBlocks owner image target head bitmap run) ≠ some (.format .surplusBlocks)

theorem Measured.reversible {head : Head} {bitmap : Bitmap} (measured : Measured head.descriptor bitmap) :
    Reversible head bitmap := by
  intro ω owner image target
  refine ⟨.of_follows (Trapping.restoreBlocks_follows measured owner image target), fun run surplus => ?_⟩
  obtain ⟨after, broke⟩ := failureOf_eq_some.mp surplus
  exact (Transfer.restoreBlocks_failsLate owner image target measured run).of_error broke
    (List.mem_cons_of_mem _ List.mem_cons_self)

namespace Transfer

/-- What a probe or an image is believed to say is consistent, and no transfer with it is caught in a trap, whatever the
settings of its session and whatever its ends give. -/
theorem entering_pairs_consistent_untrapped :
    (∀ {ω : Type} (prober : Probe ω) (run after : Run ω) (descriptor : Descriptor) (bitmap : Bitmap),
      probe prober run = .ok (descriptor, bitmap) after →
        Consistent descriptor bitmap ∧ Movable descriptor bitmap) ∧
    ∀ {ω : Type} (image : Stream ω) (run after : Run ω) (head : Head) (bitmap : Bitmap),
      readImage image run = .ok (head, bitmap) after →
        Consistent head.descriptor bitmap ∧ Movable head.descriptor bitmap ∧ Reversible head bitmap := by
  constructor
  · intro ω prober run after descriptor bitmap answered
    have probed := probed_of_probe answered
    exact ⟨probed.consistent, probed.measured.movable⟩
  · intro ω image run after head bitmap opened
    have probed := probed_of_readImage opened
    exact ⟨probed.consistent, probed.measured.movable, probed.measured.reversible⟩

/-- Answers with the sample, whatever it is asked of. -/
def sampleProbe : Probe (Device × Device) where
  name := "sample"
  describe := pure .sample
  allocation _ := pure .sample

theorem entering_pairs_sample : (∃ after, probe sampleProbe sampleImaging = .ok (.sample, .sample) after) ∧
    (∃ opened, readImage Device.source.ofFirst.toStream (sampleRestoring (Layout.image
        (imageOptions sampleImaging.session.config) .sample .sample [⟨#[7]⟩, ⟨#[9]⟩])) =
      .ok (.written sampleImaging.session.config .sample, .sample) opened) ∧
    Consistent .sample .sample ∧ Movable .sample .sample ∧
      Reversible (.written sampleImaging.session.config .sample) .sample := by
  obtain ⟨opened, answered, _⟩ := readImage_of_restorable Probed.sample (sampleRestoring_restorable _)
    (Bytes.extract_eq_self (Nat.le_refl _))
  obtain ⟨after, told⟩ : ∃ after, probe sampleProbe sampleImaging = .ok (.sample, .sample) after := ⟨_, rfl⟩
  have asked := entering_pairs_consistent_untrapped.1 sampleProbe sampleImaging after _ _ told
  have read := entering_pairs_consistent_untrapped.2 _ _ opened _ _ answered
  exact ⟨⟨after, told⟩, ⟨opened, answered⟩, asked.1, asked.2, read.2.2⟩

end Transfer

end BlockImage
