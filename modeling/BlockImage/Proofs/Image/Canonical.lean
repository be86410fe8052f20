import BlockImage.Proofs.Image.Rules

/-!
# Heads stored again

What was encoded decodes to what it was encoded from, whatever follows it. What was decoded encodes to the bytes it came
from, but for the version of the writer, which is always the current one, and for the byte of reseeding, which becomes
one if it was not zero. Where these two are as a writer leaves them the checksum is the same as well.
-/
namespace BlockImage

theorem BitmapEncoding.code_of_ofCode? {code : UInt8} {encoding : BitmapEncoding}
    (coded : ofCode? code = some encoding) : encoding.code = code := by
  unfold ofCode? at coded
  split at coded
  next one =>
    cases coded
    exact one.symm
  next =>
    split at coded
    next eight =>
      cases coded
      exact eight.symm
    next => cases coded

namespace Head

open Bytes (AgreeOn byteAt)

variable {bytes : ByteArray} {head : Head}

/-- The fields of an accepted head, stored again. -/
theorem Stored.Accepted.fields_eq {stored : Stored} {computed : UInt32} (rules : stored.Accepted computed head)
    (crc : UInt32) :
    fields head.descriptor head.options crc = {
      stored with
      header := { stored.header with writerVersion := Header.current.writerVersion }
      reseed := if stored.reseed = 0 then 0 else 1
      crc } := by
  have code := Checksum.Algorithm.ofCode?_eq_some_iff.mp rules.checksum
  have encoding := BitmapEncoding.code_of_ofCode? rules.encoding
  have built := rules.built
  generalize head.options.checksum = checksum, head.options.encoding = coded at code encoding built
  rw [built]
  simp only [fields, Stored.head, code, encoding, rules.magic, rules.endianness, rules.version]
  -- Two ways to say whether the register starts anew.
  by_cases same : stored.reseed = 0 <;> simp [same]

/-- A head stored again: in front of the checksum its bytes are the same as before where nothing is normalised. -/
structure Reencoded (again bytes : ByteArray) : Prop where
  front : AgreeOn again bytes 0 15
  writer : window again 15 4 = Header.current.writerVersion
  fields : AgreeOn again bytes 19 92
  reseed : byteAt again 92 = if byteAt bytes 92 = 0 then 0 else 1
  encoding : AgreeOn again bytes 93 94

theorem reencoded_of_decode (decoded : decode bytes = .ok head) :
    Reencoded (encode head.descriptor head.options) bytes := by
  rw [decode] at decoded
  split at decoded
  · cases decoded
  have same := (Stored.check_eq_ok_iff.mp decoded).fields_eq
    (Checksum.ofBytes (encodeBody head.descriptor head.options).toByteArray)
  rw [← ofBytes_encode, Stored.ofBytes_eq, Stored.ofBytes_eq bytes] at same
  -- Words are the same where their bytes are, so that the fields tell of all bytes in front of the checksum.
  simp only [Stored.mk.injEq, Header.mk.injEq, Descriptor.mk.injEq, window_eq_iff, ← UInt8.toNat_inj,
    ← UInt16.toNat_inj, ← UInt32.toNat_inj, ← UInt64.toNat_inj, toNat_number_one, toNat_number_two, toNat_number_four,
    toNat_number_eight, number_eq_iff] at same
  obtain ⟨⟨magic, writer, version, endianness⟩, ⟨tag, deviceSize, totalBlocks, usedBlocks, verifiedBlocks, blockSize⟩,
    structSize, formatVersion, cpuWidth, checksumCode, checksumSize, perTag, reseed, encoding, _⟩ := same
  exact {
    front := magic
    writer
    fields := version.append <| endianness.append <| tag.append <| deviceSize.append <| totalBlocks.append <|
      usedBlocks.append <| verifiedBlocks.append <| blockSize.append <| structSize.append <| formatVersion.append <|
      cpuWidth.append <| checksumCode.append <| checksumSize.append perTag
    reseed := by
      simpa only [number_succ, number_zero, Nat.mul_zero, Nat.add_zero, UInt8.toNat_inj] using reseed
    encoding }

/-- A decoded head passes the rules again. -/
theorem kept_encode_of_decode (decoded : decode bytes = .ok head) (rule : Rule) :
    rule.Kept (encode head.descriptor head.options) := by
  have valid := validate_of_decode decoded
  rw [decode] at decoded
  split at decoded
  · cases decoded
  have rules := Stored.check_eq_ok_iff.mp decoded
  apply kept_encode valid
  · rw [rules.built]
    exact rules.structSize
  · have size := rules.checksumSize
    rw [rules.built]
    exact size

/-- Nothing but the version of the writer and the byte of reseeding is normalised. -/
theorem encode_eq_of_decode (decoded : decode bytes = .ok head)
    (writer : window bytes 15 4 = Header.current.writerVersion) (reseed : byteAt bytes 92 = 0 ∨ byteAt bytes 92 = 1) :
    encode head.descriptor head.options = bytes.extract 0 storedSize := by
  have same := reencoded_of_decode decoded
  have kept := (decode_judged bytes).exists_ok_iff.mp ⟨head, decoded⟩
  have long : storedSize ≤ bytes.size := kept .length (Rule.mem_order _)
  have whole : (encode head.descriptor head.options).size = storedSize := size_encode ..
  have switch : AgreeOn (encode head.descriptor head.options) bytes 92 93 := by
    intro index behind before
    obtain rfl : index = 92 := by omega
    rw [same.reseed]
    rcases reseed with zero | one
    · rw [zero]
      rfl
    · rw [one]
      rfl
  have body : AgreeOn (encode head.descriptor head.options) bytes 0 bodySize :=
    same.front.append <| (window_eq_iff.mp (same.writer.trans writer.symm)).append <|
      same.fields.append <| switch.append same.encoding
  have sealed : AgreeOn (encode head.descriptor head.options) bytes bodySize storedSize := by
    have crc := kept_encode_of_decode decoded .crc
    have extract := body.extract_eq (by rw [whole]; decide) (Nat.le_trans (by decide) long)
    apply number_eq_iff.mp
    calc
      number (encode head.descriptor head.options) bodySize 4
        = (Checksum.ofBytes ((encode head.descriptor head.options).extract 0 bodySize)).toNat := crc
      _ = (Checksum.ofBytes (bytes.extract 0 bodySize)).toNat := by rw [extract]
      _ = number bytes bodySize 4 := (kept .crc (Rule.mem_order _)).symm
  rw [← (body.append sealed).extract_eq (Nat.le_of_eq whole.symm) long, Bytes.extract_eq_self (Nat.le_of_eq whole)]

theorem window_writer_iff (long : storedSize ≤ bytes.size) :
    window bytes 15 4 = Header.current.writerVersion ↔ bytes.extract 15 19 = "0100".toUTF8 := by
  have text : "0100".toUTF8 = ⟨Header.current.writerVersion.toArray⟩ := by decide +kernel
  rw [window_eq_given_iff (Nat.le_trans (by decide) long), text]

/-- Encoding and decoding undo each other: what was encoded is decoded, and what was decoded is encoded to the same
bytes, but for the version of the writer, the byte of reseeding, and the checksum, which covers these two. -/
theorem codec_round_trips :
    (∀ descriptor options rest, descriptor.validate = .ok () → options.structSize.toNat = 18 →
      options.checksumSize.toNat = options.checksum.tagSize →
      (encode descriptor options).size = 98 ∧
        decode (encode descriptor options ++ rest) = .ok { header := .current, descriptor, options }) ∧
    ∀ bytes head, decode bytes = .ok head →
      (∀ index < 94, ¬ (15 ≤ index ∧ index < 19) → index ≠ 92 →
        byteAt (encode head.descriptor head.options) index = byteAt bytes index) ∧
      byteAt (encode head.descriptor head.options) 92 = (if byteAt bytes 92 = 0 then 0 else 1) ∧
      (bytes.extract 15 19 = "0100".toUTF8 → byteAt bytes 92 = 0 ∨ byteAt bytes 92 = 1 →
        encode head.descriptor head.options = bytes.extract 0 98) := by
  constructor
  · intro descriptor options rest valid structSize checksumSize
    have whole : (encode descriptor options).size = storedSize := size_encode ..
    constructor
    · exact whole
    · rw [decode_append (Nat.le_of_eq whole.symm), decode_encode valid structSize checksumSize]
  · intro bytes head decoded
    have same := reencoded_of_decode decoded
    have long : storedSize ≤ bytes.size :=
      (decode_judged bytes).exists_ok_iff.mp ⟨head, decoded⟩ .length (Rule.mem_order _)
    refine ⟨?_, same.reseed, ?_⟩
    · intro index inside writer switch
      -- The places that are not normalised lie in three ranges.
      by_cases first : index < 15
      · exact same.front index (Nat.zero_le _) first
      by_cases second : index < 92
      · exact same.fields index (by omega) second
      · exact same.encoding index (by omega) inside
    · intro writer reseed
      exact encode_eq_of_decode decoded ((window_writer_iff long).mpr writer) reseed

/-- Options as another writer may have left them. -/
def foreignOptions : Options where
  structSize := 18
  formatVersion := 7
  cpuWidth := 32
  checksum := .crc32Legacy
  checksumSize := 4
  blocksPerChecksum := 5
  reseed := true
  encoding := .byte

theorem codec_round_trips_sample :
    decode (encode .sample foreignOptions ++ ⟨#[1, 2, 3]⟩) =
      .ok { header := .current, descriptor := .sample, options := foreignOptions } ∧
    encode .sample foreignOptions = (encode .sample foreignOptions ++ ⟨#[1, 2, 3]⟩).extract 0 98 := by
  have decoded := (codec_round_trips.1 .sample foreignOptions ⟨#[1, 2, 3]⟩ rfl rfl rfl).2
  constructor
  · exact decoded
  · apply (codec_round_trips.2 _ _ decoded).2.2
    · decide +kernel
    · decide +kernel

end Head

end BlockImage
