import BlockImage.Proofs.Checksum.Residue

/-!
# The register and streaming checksums

A byte enters the register at its low end, and eight shift steps take it in. A hasher for streams keeps such a register
too, but complemented, and takes in bytes piece by piece. Behind a complement at either end it folds as the table does,
however the bytes are cut into pieces.
-/
namespace BlockImage.Checksum

/-- The register after the bytes, one shift step for each of their bits. -/
def serial (register : UInt32) (bytes : ByteArray) : UInt32 :=
  bytes.data.foldl (fun register byte => Nat.repeat shiftBit 8 (register ^^^ byte.toUInt32)) register

/-- The look-up takes in as much as the shift steps do. -/
theorem serial_eq_fold (register : UInt32) (bytes : ByteArray) :
    serial register bytes = Algorithm.crc32.fold register bytes := by
  have alike : (fun register (byte : UInt8) => Nat.repeat shiftBit 8 (register ^^^ byte.toUInt32)) = step := by
    funext register byte
    exact (step_eq register byte).symm
  rw [serial, alike, Algorithm.fold]

theorem fold_empty (algorithm : Algorithm) (register : UInt32) : algorithm.fold register .empty = register := by
  cases algorithm <;> rfl

/-! ### Runs of one byte -/

theorem crc32_fold_filled (register : UInt32) (count : Nat) (byte : UInt8) :
    Algorithm.crc32.fold register (Bytes.filled count byte) = Nat.repeat (step · byte) count register := by
  induction count with
  | zero => rfl
  | succ count ih =>
    -- One more copy is taken in behind the others.
    have longer : Bytes.filled (count + 1) byte = ⟨(Bytes.filled count byte).data.push byte⟩ :=
      congrArg ByteArray.mk Array.replicate_succ
    rw [longer, Algorithm.fold, Array.foldl_push]
    exact congrArg (step · byte) ih

/-- The legacy algorithm takes in a run of the first byte. -/
theorem crc32Legacy_fold (register : UInt32) {bytes : ByteArray} (some : 0 < bytes.size) :
    Algorithm.crc32Legacy.fold register bytes =
      Algorithm.crc32.fold register (Bytes.filled bytes.size bytes[0]) := by
  rw [crc32_fold_filled, Algorithm.fold, dif_pos some]

/-! ### Hashers -/

/-- What takes in a stream piece by piece, from a checksum that is known to that of all. -/
structure Hasher where
  State : Type
  start : UInt32 → State
  update : State → ByteArray → State
  finish : State → UInt32

namespace Hasher

/-- The checksum that a hasher tells is the complement of a register that takes in the bytes bit by bit. -/
structure Complemented (hasher : Hasher) : Prop where
  start : ∀ checksum, hasher.finish (hasher.start checksum) = checksum
  update : ∀ state piece, hasher.finish (hasher.update state piece) = ~~~ serial (~~~ hasher.finish state) piece

/-- The register after the bytes, where a hasher folds them for the one algorithm. -/
def fold (hasher : Hasher) (algorithm : Algorithm) (register : UInt32) (bytes : ByteArray) : UInt32 :=
  match algorithm with
  | .crc32 => ~~~ hasher.finish (hasher.update (hasher.start (~~~ register)) bytes)
  | other => other.fold register bytes

namespace Complemented

variable {hasher : Hasher}

/-- How the bytes are cut into pieces makes no difference. -/
theorem finish_foldl (complemented : hasher.Complemented) (pieces : List ByteArray) (state : hasher.State) :
    hasher.finish (pieces.foldl hasher.update state) =
      ~~~ Algorithm.crc32.fold (~~~ hasher.finish state) (Bytes.join pieces) := by
  induction pieces generalizing state with
  | nil => rw [List.foldl_nil, Bytes.join_nil, fold_empty, UInt32.not_not]
  | cons piece pieces ih =>
    rw [List.foldl_cons, ih, complemented.update, serial_eq_fold, UInt32.not_not, Bytes.join_cons, crc32_fold_append]

theorem fold_eq (complemented : hasher.Complemented) : hasher.fold = Algorithm.fold := by
  funext algorithm register bytes
  cases algorithm with
  | none => rfl
  | crc32 => rw [fold, complemented.update, complemented.start, serial_eq_fold, UInt32.not_not, UInt32.not_not]
  | crc32Legacy => rfl

end Complemented

end Hasher

/-- The look-up in the table is eight shift steps. A hasher that keeps the complement of a register between them folds as
the look-up does, in as many pieces as it is given the bytes, so that bytes may be folded one part after the other; the
legacy algorithm folds the first byte as often as there are bytes; and no algorithm folds anything where there is none. -/
theorem streaming_agrees_with_table (hasher : Hasher) (complemented : hasher.Complemented) :
    (∀ register byte, step register byte = Nat.repeat shiftBit 8 (register ^^^ byte.toUInt32)) ∧
    hasher.fold = Algorithm.fold ∧
    (∀ register (pieces : List ByteArray), ~~~ hasher.finish (pieces.foldl hasher.update (hasher.start (~~~ register))) =
      hasher.fold .crc32 register (Bytes.join pieces)) ∧
    (∀ register first second, hasher.fold .crc32 register (first ++ second) =
      hasher.fold .crc32 (hasher.fold .crc32 register first) second) ∧
    (∀ register (bytes : ByteArray) (some : 0 < bytes.size), hasher.fold .crc32Legacy register bytes =
      hasher.fold .crc32 register (Bytes.filled bytes.size bytes[0])) ∧
    ∀ algorithm register, hasher.fold algorithm register .empty = register := by
  rw [complemented.fold_eq]
  refine ⟨step_eq, rfl, fun register pieces => ?_, crc32_fold_append, fun register bytes => crc32Legacy_fold register,
    fold_empty⟩
  rw [complemented.finish_foldl, complemented.start, UInt32.not_not, UInt32.not_not]

/-- Keeps the checksum itself between the pieces. -/
def Hasher.plain : Hasher where
  State := UInt32
  start checksum := checksum
  update checksum piece := ~~~ serial (~~~ checksum) piece
  finish checksum := checksum

def pangram : ByteArray := "The quick brown fox jumps over the lazy dog".toUTF8

/-- The checksum of the sentence is the one that is found everywhere, and cutting it in two leaves the register as it is. -/
theorem streaming_agrees_sample : Hasher.plain.Complemented ∧
    Hasher.plain.finish (Hasher.plain.update (Hasher.plain.start 0) pangram) = 0x414FA339 ∧
    Algorithm.crc32.fold seed pangram = ~~~ 0x414FA339 ∧
    ~~~ Hasher.plain.finish ([pangram.extract 0 10, pangram.extract 10 43].foldl Hasher.plain.update
      (Hasher.plain.start (~~~ seed))) = ~~~ 0x414FA339 ∧
    Algorithm.crc32Legacy.fold seed ⟨#[0x11, 0x22, 0x33, 0x44]⟩ =
      Algorithm.crc32.fold seed (Bytes.filled 4 0x11) := by
  have complemented : Hasher.plain.Complemented := ⟨fun _ => rfl, fun _ _ => rfl⟩
  obtain ⟨_, same, pieces, _, legacy, _⟩ := streaming_agrees_with_table Hasher.plain complemented
  have known : Hasher.plain.finish (Hasher.plain.update (Hasher.plain.start 0) pangram) = 0x414FA339 := by
    decide +kernel
  have whole : Bytes.join [pangram.extract 0 10, pangram.extract 10 43] = pangram := by decide +kernel
  have folded : Hasher.plain.fold .crc32 seed pangram = ~~~ 0x414FA339 := congrArg (~~~ ·) known
  refine ⟨complemented, known, same ▸ folded, ?_, ?_⟩
  · rw [pieces, whole, folded]
  · have first := legacy seed ⟨#[0x11, 0x22, 0x33, 0x44]⟩ (by decide)
    rwa [same] at first

end BlockImage.Checksum
