import BlockImage.Proofs.Device

/-!
# Devices with bad places

A range of a device with bad places can be read if and only if all its bytes are there and none of them is a bad one. It
does not matter how many bytes single calls move, and every attempt comes to the same.
-/
namespace BlockImage

/-- Whether all bytes of a range are among the first `size` ones and none of them is bad. -/
def readable (size : Nat) (bad : Nat → Bool) (offset wanted : Nat) : Bool :=
  (List.range' offset wanted).all fun index => index < size && !bad index

section

variable {size offset wanted : Nat} {bad : Nat → Bool}

theorem readable_iff : readable size bad offset wanted = true ↔
    ∀ index, offset ≤ index → index < offset + wanted → index < size ∧ bad index = false := by
  simp [readable, List.mem_range'_1]

theorem readable_eq_false_iff : readable size bad offset wanted = false ↔
    ∃ index, offset ≤ index ∧ index < offset + wanted ∧ (size ≤ index ∨ bad index = true) := by
  simp only [readable, List.all_eq_false, List.mem_range'_1, and_assoc]
  refine exists_congr fun index => and_congr_right fun _ => and_congr_right fun _ => ?_
  rw [Bool.and_eq_true, decide_eq_true_eq, Bool.not_eq_true', Decidable.not_and_iff_not_or_not, Nat.not_lt,
    Bool.not_eq_false]

theorem readable_of_within {start count : Nat} (whole : readable size bad offset wanted = true) (behind : offset ≤ start)
    (inside : start + count ≤ offset + wanted) : readable size bad start count = true := by
  rw [readable_iff] at whole ⊢
  intro index begins before
  exact whole index (by omega) (by omega)

theorem le_of_readable (whole : readable size bad offset wanted = true) (some : 0 < wanted) : offset + wanted ≤ size := by
  have last := (readable_iff.mp whole (offset + wanted - 1) (by omega) (by omega)).1
  omega

/-- Without bad places a range can be read if all of it is there. -/
theorem readable_of_le (inside : offset + wanted ≤ size) : readable size (fun _ => false) offset wanted = true := by
  rw [readable_iff]
  intro index _ before
  exact ⟨by omega, rfl⟩

end

/-- A positioned read of a range succeeds if and only if the range can be read, and gives the bytes that are there. -/
structure Source.ReadsOutside {σ : Type} (source : Source σ) (kept : σ → Prop) (bytes : ByteArray) (bad : Nat → Bool) :
    Prop where
  readAt : ∀ offset wanted world, kept world → Leads (source.readAt offset wanted world)
    (fun data after => kept after ∧ readable bytes.size bad offset wanted = true ∧
      data = bytes.extract offset (offset + wanted))
    fun _ after => kept after ∧ readable bytes.size bad offset wanted = false

/-- A call fails where something bad lies within what it is asked for, and what it moves instead is sound. -/
structure Faults.SpoiltAt (faults : Faults) (bad : Nat → Bool) : Prop where
  onRead : ∀ call position wanted, 0 < wanted → match faults.onRead call position wanted with
    | .moves atMost => 0 < atMost ∧
        ∀ index, position ≤ index → index < position + min wanted atMost → bad index = false
    | .fails _ => ∃ index, position ≤ index ∧ index < position + wanted ∧ bad index = true

theorem Faults.none_spoiltAt : none.SpoiltAt fun _ => false where
  onRead _ _ _ positive := ⟨positive, fun _ _ _ => rfl⟩

namespace Device

/-- A read of a range of a device with bad places is under way: what has come of it so far is sound. -/
structure Sound (bytes : ByteArray) (faults : Faults) (bad : Nat → Bool) (offset wanted : Nat) (got : ByteArray)
    (left : Nat) (device : Device) : Prop where
  holds : device.bytes = bytes
  faults : device.faults = faults
  total : got.size + left = wanted
  given : got = bytes.extract offset (offset + got.size)
  position : device.position = offset + got.size
  sound : readable bytes.size bad offset got.size = true

variable {bytes got : ByteArray} {faults : Faults} {bad : Nat → Bool} {offset wanted left : Nat} {device : Device}

theorem Sound.read (spoilt : faults.SpoiltAt bad) (some : 0 < left)
    (sound : Sound bytes faults bad offset wanted got left device) :
    Leads (Device.read left device)
      (fun more after => more.size ≤ left →
        if more.size = 0 then (after.bytes = bytes ∧ after.faults = faults) ∧ readable bytes.size bad offset wanted = false
        else Sound bytes faults bad offset wanted (got ++ more) (left - more.size) after)
      fun _ after => (after.bytes = bytes ∧ after.faults = faults) ∧ readable bytes.size bad offset wanted = false := by
  have total := sound.total
  have stands := sound.position
  have answered := spoilt.onRead device.calls device.position left some
  rw [← sound.faults] at answered
  unfold Device.read
  cases answer : device.faults.onRead device.calls device.position left with
  | fails cause =>
    rw [answer] at answered
    obtain ⟨index, behind, before, isBad⟩ := answered
    refine ⟨⟨sound.holds, sound.faults⟩, readable_eq_false_iff.mpr ⟨index, ?_, ?_, .inr isBad⟩⟩
    · omega
    · omega
  | moves atMost =>
    rw [answer] at answered
    obtain ⟨moves, clean⟩ := answered
    intro bound
    have size : (device.bytes.extract device.position (device.position + min left atMost)).size =
        min (min left atMost) (bytes.size - device.position) := by
      rw [ByteArray.size_extract, sound.holds]
      omega
    split
    next empty =>
      -- Nothing came though the call moves something, so the range reaches past the end.
      refine ⟨⟨sound.holds, sound.faults⟩, readable_eq_false_iff.mpr ⟨device.position, ?_, ?_, .inl ?_⟩⟩
      · omega
      · omega
      · omega
    next filled =>
      have extent := Bytes.extract_extent device.bytes device.position (device.position + min left atMost)
      generalize device.bytes.extract device.position (device.position + min left atMost) = more at size extent bound filled ⊢
      rw [sound.holds, stands] at extent
      refine ⟨sound.holds, sound.faults, ?_, ?_, ?_, ?_⟩
      · rw [ByteArray.size_append]
        omega
      · rw [ByteArray.size_append, ← Nat.add_assoc, ByteArray.extract_eq_extract_append_extract (offset + got.size)
          (Nat.le_add_right _ _) (Nat.le_add_right _ _), ← sound.given, extent]
      · rw [ByteArray.size_append]
        change device.position + more.size = _
        omega
      · rw [readable_iff, ByteArray.size_append]
        intro index behind before
        by_cases earlier : index < offset + got.size
        · exact readable_iff.mp sound.sound index behind earlier
        · refine ⟨by omega, clean index (by omega) (by omega)⟩

/-- Where single calls fail in bad places, just those ranges can be read that meet none. -/
theorem readsOutside (spoilt : faults.SpoiltAt bad) (bytes : ByteArray) :
    source.ReadsOutside (fun device => device.bytes = bytes ∧ device.faults = faults) bytes bad where
  readAt offset wanted device held := by
    have start : Sound bytes faults bad offset wanted ByteArray.empty wanted { device with position := offset } := by
      refine ⟨held.1, held.2, Nat.zero_add _, ?_, rfl, rfl⟩
      exact (ByteArray.extract_eq_empty_iff.mpr (Nat.min_le_left _ _)).symm
    change Leads (source.readExactly wanted { device with position := offset }) _ _
    refine (Stream.leads_readMore (Sound bytes faults bad offset wanted) ?_ start).weaken ?_
    · exact fun got left device some sound => sound.read spoilt some
    · intro data after sound
      have all := sound.total
      rw [Nat.add_zero] at all
      have given := sound.given
      have readable := sound.sound
      rw [all] at given readable
      exact ⟨⟨sound.holds, sound.faults⟩, readable, given⟩

end Device

/-! ### Bad media -/

/-- Whether an offset lies in the span. -/
def Span.holds (span : Span) (index : Nat) : Bool := span.start ≤ index && index < span.stop

/-- Whether an offset cannot be read. -/
def BadMedium.spoils (medium : BadMedium) (index : Nat) : Bool := medium.unreadable.any (·.holds index)

/-- A span meets a range if and only if some offset lies in both. -/
theorem Span.meets_iff {span : Span} (filled : span.start < span.stop) {position count : Nat} (some : 0 < count) :
    span.meets position count = true ↔ ∃ index, position ≤ index ∧ index < position + count ∧ span.holds index = true := by
  simp only [meets, holds, Bool.and_eq_true, decide_eq_true_eq]
  constructor
  · rintro ⟨before, behind⟩
    exact ⟨max position span.start, by omega, by omega, by omega, by omega⟩
  · rintro ⟨index, _, _, _, _⟩
    omega

/-- Calls on a bad medium fail in its unreadable spans, if none of these is empty and calls move something at all. -/
theorem BadMedium.faults_spoiltAt {medium : BadMedium} (filled : ∀ span ∈ medium.unreadable, span.start < span.stop)
    (moves : medium.callLimit ≠ some 0) : medium.faults.SpoiltAt medium.spoils where
  onRead call position wanted positive := by
    have some : 0 < medium.callLimit.elim wanted (min wanted) := by
      cases limit : medium.callLimit with
      | none => exact positive
      | some most =>
        have most_pos : most ≠ 0 := fun none => moves (none ▸ limit)
        simp only [Option.elim_some]
        omega
    have atMost : medium.callLimit.elim wanted (min wanted) ≤ wanted := by
      cases medium.callLimit with
      | none => exact Nat.le_refl _
      | some most => exact Nat.min_le_left _ _
    dsimp only [faults]
    generalize medium.callLimit.elim wanted (min wanted) = count at some atMost ⊢
    split
    next atMost' answer =>
      split at answer
      · cases answer
      next clear =>
        cases answer
        refine ⟨some, fun index behind before => ?_⟩
        rw [spoils, ← Bool.not_eq_true, List.any_eq_true]
        rintro ⟨span, member, holds⟩
        exact clear (List.any_eq_true.mpr ⟨span, member,
          (Span.meets_iff (filled span member) some).mpr ⟨index, behind, by omega, holds⟩⟩)
    next cause answer =>
      split at answer
      next met =>
        obtain ⟨span, member, meets⟩ := List.any_eq_true.mp met
        obtain ⟨index, behind, before, holds⟩ := (Span.meets_iff (filled span member) some).mp meets
        exact ⟨index, behind, by omega, List.any_eq_true.mpr ⟨span, member, holds⟩⟩
      · cases answer

end BlockImage
