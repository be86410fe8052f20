import BlockImage.Bytes

/-!
# Laws of byte strings

Two byte strings of one size are equal when `byteAt` does not tell them apart, so the laws of `overwrite` are read off
its view. `join` is the concatenation, and `blocks` cuts what it concatenates.
-/
namespace BlockImage.Bytes

theorem byteAt_of_lt {bytes : ByteArray} {index : Nat} (inside : index < bytes.size) :
    byteAt bytes index = bytes[index] := dif_pos inside

theorem testBit_of_le (byte : UInt8) {place : Nat} (beyond : 8 ≤ place) : byte.toNat.testBit place = false :=
  Nat.testBit_lt_two_pow (Nat.lt_of_lt_of_le byte.toNat_lt (Nat.pow_le_pow_right (by omega) beyond))

theorem ext_byteAt {left right : ByteArray} (size : left.size = right.size)
    (same : ∀ index, byteAt left index = byteAt right index) : left = right := by
  refine ByteArray.ext_getElem size fun index first second => ?_
  rw [← byteAt_of_lt first, ← byteAt_of_lt second, same]

theorem byteAt_append (left right : ByteArray) (index : Nat) :
    byteAt (left ++ right) index =
      if index < left.size then byteAt left index else byteAt right (index - left.size) := by
  have size : (left ++ right).size = left.size + right.size := ByteArray.size_append
  split
  next inside =>
    rw [byteAt_of_lt inside, byteAt_of_lt (by omega), ByteArray.getElem_append_left inside]
  next outside =>
    by_cases within : index - left.size < right.size
    · rw [byteAt_of_lt within, byteAt_of_lt (by omega), ByteArray.getElem_append_right (by omega)]
    · rw [byteAt_of_size_le (by omega), byteAt_of_size_le (by omega)]

theorem byteAt_extract (bytes : ByteArray) (start stop index : Nat) :
    byteAt (bytes.extract start stop) index =
      if start + index < stop then byteAt bytes (start + index) else 0 := by
  by_cases inside : index < (bytes.extract start stop).size
  · -- Within the range the byte is the one it was cut from; behind it both sides read past an end.
    have bounds := inside
    rw [ByteArray.size_extract] at bounds
    rw [byteAt_of_lt inside, ByteArray.getElem_extract, if_pos (by omega), byteAt_of_lt]
  · rw [byteAt_of_size_le (by omega)]
    rw [ByteArray.size_extract] at inside
    split
    · rw [byteAt_of_size_le (by omega)]
    · rfl

theorem extract_eq_self {bytes : ByteArray} {stop : Nat} (whole : bytes.size ≤ stop) :
    bytes.extract 0 stop = bytes := by
  refine ext_byteAt (by simp; omega) fun index => ?_
  rw [byteAt_extract]
  split
  · rw [Nat.zero_add]
  · rw [byteAt_of_size_le (by omega)]

/-- A range is the one that begins where it does and has its size. -/
theorem extract_extent (bytes : ByteArray) (start stop : Nat) :
    bytes.extract start (start + (bytes.extract start stop).size) = bytes.extract start stop := by
  refine ext_byteAt ?_ fun index => ?_
  · simp only [ByteArray.size_extract]
    omega
  · simp only [byteAt_extract, ByteArray.size_extract]
    by_cases inside : start + index < bytes.size
    · grind
    · have outside : byteAt bytes (start + index) = 0 := byteAt_of_size_le (by omega)
      simp [outside]

/-! ### Bytes that agree -/

/-- Two byte strings read the same from one place up to another. -/
def AgreeOn (left right : ByteArray) (start stop : Nat) : Prop :=
  ∀ index, start ≤ index → index < stop → byteAt left index = byteAt right index

namespace AgreeOn

variable {left right : ByteArray} {start middle stop : Nat}

theorem mono {first last : Nat} (same : AgreeOn left right start stop) (begins : start ≤ first) (ends : last ≤ stop) :
    AgreeOn left right first last := by
  intro index behind before
  exact same index (Nat.le_trans begins behind) (Nat.lt_of_lt_of_le before ends)

theorem append (front : AgreeOn left right start middle) (back : AgreeOn left right middle stop) :
    AgreeOn left right start stop := by
  intro index behind before
  rcases Nat.lt_or_ge index middle with first | second
  · exact front index behind first
  · exact back index second before

theorem extract_eq (same : AgreeOn left right start stop) (first : stop ≤ left.size) (second : stop ≤ right.size) :
    left.extract start stop = right.extract start stop := by
  apply ext_byteAt
  · rw [ByteArray.size_extract, ByteArray.size_extract, Nat.min_eq_left first, Nat.min_eq_left second]
  · intro index
    rw [byteAt_extract, byteAt_extract]
    split
    next inside => exact same _ (Nat.le_add_right ..) inside
    next => rfl

/-- What follows bytes does not change them. -/
theorem append_left (bytes rest : ByteArray) : AgreeOn (bytes ++ rest) bytes 0 bytes.size := by
  intro index _ inside
  rw [byteAt_append, if_pos inside]

end AgreeOn

/-! ### Bytes laid over others -/

theorem size_overwrite (bytes : ByteArray) (start : Nat) (patch : ByteArray) :
    (overwrite bytes start patch).size =
      if patch.size = 0 then bytes.size else max bytes.size (start + patch.size) := by
  unfold overwrite
  split
  · rfl
  · rw [ByteArray.copySlice_eq_append]
    simp only [ByteArray.size_append, ByteArray.size_extract, size_zeros, ByteArray.size_data]
    omega

theorem byteAt_overwrite (bytes : ByteArray) (start : Nat) (patch : ByteArray) (index : Nat) :
    byteAt (overwrite bytes start patch) index =
      if start ≤ index ∧ index < start + patch.size then byteAt patch (index - start) else byteAt bytes index := by
  unfold overwrite
  split
  next empty => rw [if_neg (by omega)]
  next filled =>
    rw [ByteArray.copySlice_eq_append]
    have before : ((bytes ++ zeros (start - bytes.size)).extract 0 start).size = start := by
      simp only [ByteArray.size_extract, ByteArray.size_append, size_zeros]
      omega
    have whole : patch.extract 0 (0 + patch.size) = patch := extract_eq_self (by omega)
    -- The zeros that fill a gap before the patch read as what lies past the end anyway.
    have padded : ∀ place, byteAt (bytes ++ zeros (start - bytes.size)) place = byteAt bytes place := by
      intro place
      rw [byteAt_append]
      split
      · rfl
      · rw [byteAt_zeros, byteAt_of_size_le (by omega)]
    rw [byteAt_append, ByteArray.size_append, before, whole, byteAt_append, before]
    by_cases low : index < start
    · -- Before the patch.
      rw [if_pos (by omega), if_pos low, if_neg (by omega), byteAt_extract, if_pos (by omega), padded, Nat.zero_add]
    · by_cases inside : index < start + patch.size
      · -- Within the patch.
        rw [if_pos inside, if_neg low, if_pos ⟨by omega, inside⟩]
      · -- Behind the patch.
        have place : start + min patch.size (patch.data.size - 0) + (index - (start + patch.size)) = index := by
          rw [ByteArray.size_data]
          omega
        rw [if_neg inside, if_neg (by omega), byteAt_extract, place, padded]
        split
        · rfl
        · next outside =>
          rw [ByteArray.size_data, ByteArray.size_append, size_zeros] at outside
          rw [byteAt_of_size_le (by omega)]

@[simp] theorem overwrite_empty (bytes : ByteArray) (start : Nat) :
    overwrite bytes start ByteArray.empty = bytes := by
  simp [overwrite]

theorem overwrite_append (bytes : ByteArray) (start : Nat) (first second : ByteArray) :
    overwrite (overwrite bytes start first) (start + first.size) second = overwrite bytes start (first ++ second) := by
  refine ext_byteAt ?_ fun index => ?_
  · simp only [size_overwrite, ByteArray.size_append]
    grind
  · simp only [byteAt_overwrite, byteAt_append, ByteArray.size_append]
    by_cases late : start + first.size ≤ index
    · have place : index - start - first.size = index - (start + first.size) := by omega
      rw [if_neg (by omega : ¬ index - start < first.size), place]
      grind
    · grind

theorem extract_overwrite (bytes : ByteArray) (start : Nat) (patch : ByteArray) :
    (overwrite bytes start patch).extract start (start + patch.size) = patch := by
  refine ext_byteAt ?_ fun index => ?_
  · rw [ByteArray.size_extract, size_overwrite]
    split <;> omega
  · rw [byteAt_extract, byteAt_overwrite]
    by_cases inside : index < patch.size
    · rw [if_pos (by omega), if_pos ⟨by omega, by omega⟩, Nat.add_sub_cancel_left]
    · rw [if_neg (by omega), byteAt_of_size_le (by omega)]

theorem size_le_size_overwrite (bytes : ByteArray) (start : Nat) (patch : ByteArray) :
    bytes.size ≤ (overwrite bytes start patch).size := by
  rw [size_overwrite]
  split <;> omega

/-- Bytes laid behind a range leave it as it is. -/
theorem extract_overwrite_of_le {bytes : ByteArray} {stop start : Nat} (within : stop ≤ bytes.size) (behind : stop ≤ start)
    (patch : ByteArray) (first : Nat) : (overwrite bytes start patch).extract first stop = bytes.extract first stop := by
  have grown := size_le_size_overwrite bytes start patch
  refine ext_byteAt ?_ fun index => ?_
  · rw [ByteArray.size_extract, ByteArray.size_extract]
    omega
  · rw [byteAt_extract, byteAt_extract]
    split
    next inside => rw [byteAt_overwrite, if_neg (by omega)]
    next => rfl

theorem byteAt_overwrite_extract (bytes : ByteArray) {content : ByteArray} {start count : Nat}
    (inside : start + count ≤ content.size) (index : Nat) :
    byteAt (overwrite bytes start (content.extract start (start + count))) index =
      if start ≤ index ∧ index < start + count then byteAt content index else byteAt bytes index := by
  have size : (content.extract start (start + count)).size = count := by
    rw [ByteArray.size_extract]
    omega
  rw [byteAt_overwrite, size]
  split
  next within => rw [byteAt_extract, if_pos (by omega), Nat.add_sub_cancel' within.1]
  next => rfl

theorem le_size_overwrite_extract (bytes : ByteArray) {content : ByteArray} {start count : Nat}
    (inside : start + count ≤ content.size) (some : 0 < count) :
    start + count ≤ (overwrite bytes start (content.extract start (start + count))).size := by
  rw [size_overwrite, ByteArray.size_extract]
  split <;> omega

/-- What was laid at its own place is found there. -/
theorem extract_overwrite_extract (bytes : ByteArray) {content : ByteArray} {start count first stop : Nat}
    (inside : start + count ≤ content.size) (begins : start ≤ first) (ends : stop ≤ start + count) :
    (overwrite bytes start (content.extract start (start + count))).extract first stop = content.extract first stop := by
  refine ext_byteAt ?_ fun index => ?_
  · rw [ByteArray.size_extract, ByteArray.size_extract]
    rcases Nat.eq_zero_or_pos count with rfl | some
    · omega
    · have reaches := le_size_overwrite_extract bytes inside some
      omega
  · rw [byteAt_extract, byteAt_extract]
    split
    next within => rw [byteAt_overwrite_extract bytes inside, if_pos (by omega)]
    next => rfl

/-- Laying a range's own bytes over it changes nothing. -/
theorem overwrite_extract_self {bytes : ByteArray} {start count : Nat} (inside : start + count ≤ bytes.size) :
    overwrite bytes start (bytes.extract start (start + count)) = bytes := by
  refine ext_byteAt ?_ fun index => ?_
  · rw [size_overwrite, ByteArray.size_extract]
    split <;> omega
  · rw [byteAt_overwrite_extract bytes inside, ite_self]

/-- Laying bytes over the end appends them. -/
theorem overwrite_size (bytes patch : ByteArray) : overwrite bytes bytes.size patch = bytes ++ patch := by
  refine ext_byteAt ?_ fun index => ?_
  · rw [size_overwrite, ByteArray.size_append]
    split <;> omega
  · rw [byteAt_overwrite, byteAt_append]
    by_cases low : index < bytes.size
    · rw [if_neg (by omega), if_pos low]
    · rw [if_neg low]
      split
      · rfl
      · rw [byteAt_of_size_le (by omega), byteAt_of_size_le (by omega)]

/-! ### Zeros behind the end -/

/-- Bytes with zeros behind them up to a size. -/
def padded (bytes : ByteArray) (size : Nat) : ByteArray := bytes ++ zeros (size - bytes.size)

theorem size_padded (bytes : ByteArray) (size : Nat) : (padded bytes size).size = max bytes.size size := by
  rw [padded, ByteArray.size_append, size_zeros]
  omega

@[simp] theorem byteAt_padded (bytes : ByteArray) (size index : Nat) :
    byteAt (padded bytes size) index = byteAt bytes index := by
  rw [padded, byteAt_append, byteAt_zeros]
  split
  next => rfl
  next beyond => exact (byteAt_of_size_le (Nat.le_of_not_lt beyond)).symm

theorem padded_eq_self {bytes : ByteArray} {size : Nat} (long : size ≤ bytes.size) : padded bytes size = bytes := by
  have none : zeros (size - bytes.size) = ByteArray.empty := by
    rw [← ByteArray.size_eq_zero_iff, size_zeros]
    omega
  rw [padded, none, ByteArray.append_empty]

theorem resize_eq_padded {bytes : ByteArray} {size : Nat} (short : bytes.size ≤ size) :
    resize bytes size = padded bytes size := by
  rw [resize, extract_eq_self short, padded]

/-! ### Fronts -/

/-- A byte string is another one with more behind it. -/
def StartsWith (whole front : ByteArray) : Prop := ∃ more, whole = front ++ more

theorem StartsWith.refl (bytes : ByteArray) : StartsWith bytes bytes := ⟨ByteArray.empty, by simp⟩

theorem startsWith_append (front more : ByteArray) : StartsWith (front ++ more) front := ⟨more, rfl⟩

theorem startsWith_extract (bytes : ByteArray) (stop : Nat) : StartsWith bytes (bytes.extract 0 stop) := by
  refine ⟨bytes.extract stop bytes.size, ?_⟩
  rcases Nat.lt_or_ge stop bytes.size with inside | beyond
  · rw [← ByteArray.extract_eq_extract_append_extract stop (Nat.zero_le _) (Nat.le_of_lt inside),
      extract_eq_self (Nat.le_refl _)]
  · have none : bytes.extract stop bytes.size = ByteArray.empty := ByteArray.extract_eq_empty_iff.mpr (by omega)
    rw [none, extract_eq_self beyond, ByteArray.append_empty]

theorem StartsWith.trans {whole middle front : ByteArray} (first : StartsWith whole middle)
    (second : StartsWith middle front) : StartsWith whole front := by
  obtain ⟨last, rfl⟩ := first
  obtain ⟨more, rfl⟩ := second
  exact ⟨more ++ last, ByteArray.append_assoc ..⟩

theorem StartsWith.append_left {whole front : ByteArray} (starts : StartsWith whole front) (before : ByteArray) :
    StartsWith (before ++ whole) (before ++ front) := by
  obtain ⟨more, rfl⟩ := starts
  exact ⟨more, (ByteArray.append_assoc ..).symm⟩

theorem StartsWith.size_le {whole front : ByteArray} (starts : StartsWith whole front) : front.size ≤ whole.size := by
  obtain ⟨more, rfl⟩ := starts
  rw [ByteArray.size_append]
  exact Nat.le_add_right _ _

theorem StartsWith.eq_extract {whole front : ByteArray} (starts : StartsWith whole front) :
    front = whole.extract 0 front.size := by
  obtain ⟨more, rfl⟩ := starts
  exact (ByteArray.extract_append_eq_left rfl).symm

/-! ### Pieces and blocks -/

def join (pieces : List ByteArray) : ByteArray := pieces.foldr (· ++ ·) ByteArray.empty

@[simp] theorem join_nil : join [] = ByteArray.empty := rfl

@[simp] theorem join_cons (piece : ByteArray) (pieces : List ByteArray) :
    join (piece :: pieces) = piece ++ join pieces := rfl

theorem join_append (left right : List ByteArray) : join (left ++ right) = join left ++ join right := by
  induction left with
  | nil => simp
  | cons piece left ih => rw [List.cons_append, join_cons, ih, join_cons, ByteArray.append_assoc]

def blockAt (width : Nat) (bytes : ByteArray) (number : Nat) : ByteArray :=
  bytes.extract (number * width) ((number + 1) * width)

theorem size_blockAt {width : Nat} {bytes : ByteArray} {number : Nat} (inside : (number + 1) * width ≤ bytes.size) :
    (blockAt width bytes number).size = width := by
  rw [blockAt, ByteArray.size_extract, Nat.add_mul]
  rw [Nat.add_mul] at inside
  omega

theorem blocks_extract {width : Nat} (wide : 0 < width) {bytes : ByteArray} {first count : Nat}
    (inside : (first + count) * width ≤ bytes.size) :
    blocks width (bytes.extract (first * width) (first * width + count * width)) =
      (List.range' first count).map (blockAt width bytes) := by
  have stop : first * width + count * width = (first + count) * width := (Nat.add_mul ..).symm
  have size : (bytes.extract (first * width) (first * width + count * width)).size = count * width := by
    rw [ByteArray.size_extract]
    omega
  -- As many whole blocks fit as were cut out, and the one with an index is that much further on.
  rw [blocks, size, Nat.mul_div_cancel _ wide, List.range'_eq_map_range, List.map_map]
  refine List.map_congr_left fun index member => ?_
  have below : (index + 1) * width ≤ count * width := Nat.mul_le_mul_right _ (List.mem_range.mp member)
  have start : first * width + index * width = (first + index) * width := (Nat.add_mul ..).symm
  have next : first * width + (index + 1) * width = (first + index + 1) * width := by
    rw [← Nat.add_mul, Nat.add_assoc]
  rw [Function.comp_apply, blockAt, ByteArray.extract_extract, start, next, Nat.min_eq_left (by omega)]

theorem size_of_mem_blocks {width : Nat} {bytes block : ByteArray} (member : block ∈ blocks width bytes) :
    block.size = width := by
  obtain ⟨index, listed, rfl⟩ := List.mem_map.mp member
  refine size_blockAt ?_
  have below : index + 1 ≤ bytes.size / width := List.mem_range.mp listed
  exact Nat.le_trans (Nat.mul_le_mul_right _ below) (Nat.div_mul_le_self _ _)

theorem length_blocks (width : Nat) (bytes : ByteArray) : (blocks width bytes).length = bytes.size / width := by
  simp [blocks]

end BlockImage.Bytes
