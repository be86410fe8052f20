import BlockImage.Proofs.Image.Probed

/-!
# The rules of a stored head

A head is accepted if its bytes keep thirteen rules, each of which reads a few places of them. The rules are applied in
a fixed order, and bytes that break some are refused for the first one.
-/
namespace BlockImage.Head

/-- The rules of the format, in the order in which they are applied. -/
inductive Rule
  | length
  | magic
  | endianness
  | version
  | crc
  | optionsSize
  | checksumCode
  | checksumSize
  | encoding
  | blockSize
  | overflow
  | deviceSize
  | usedBlocks
  deriving DecidableEq, Repr

namespace Rule

def order : List Rule :=
  [.length, .magic, .endianness, .version, .crc, .optionsSize, .checksumCode, .checksumSize, .encoding, .blockSize,
    .overflow, .deviceSize, .usedBlocks]

theorem mem_order (rule : Rule) : rule ∈ order := by
  cases rule <;> decide

/-- What a rule asks of bytes. Only the rule about their number is asked of less than a head. -/
def Kept (bytes : ByteArray) : Rule → Prop
  | .length => 98 ≤ bytes.size
  | .magic => bytes.extract 0 15 = "partclone-image".toUTF8
  | .endianness => Bytes.byteAt bytes 23 = 0xDE ∧ Bytes.byteAt bytes 24 = 0xC0
  | .version => bytes.extract 19 23 = "0002".toUTF8
  | .crc => number bytes 94 4 = (Checksum.ofBytes (bytes.extract 0 94)).toNat
  | .optionsSize => number bytes 76 4 = 18
  | .checksumCode => number bytes 84 2 ∈ [0, 0x20, 0xFF]
  | .checksumSize => number bytes 86 2 = if number bytes 84 2 = 0 then 0 else 4
  | .encoding => number bytes 93 1 ∈ [1, 8]
  | .blockSize => number bytes 72 4 ≠ 0
  | .overflow => number bytes 48 8 * number bytes 72 4 ≤ 0xFFFFFFFFFFFFFFFF
  | .deviceSize => number bytes 40 8 = number bytes 48 8 * number bytes 72 4
  | .usedBlocks => number bytes 64 8 ≤ number bytes 48 8

/-- The error of bytes for which a rule is the first one they break. -/
def error (bytes : ByteArray) : Rule → Error
  | .length => .format (.headLength bytes.size 98)
  | .magic => .format .magic
  | .endianness => .endianness (UInt16.ofNat (number bytes 23 2))
  | .version => .format (.version (bytes.extract 19 23).data.toList)
  | .crc => .corrupt .head (UInt32.ofNat (number bytes 94 4)) (Checksum.ofBytes (bytes.extract 0 94))
  | .optionsSize => .format (.optionsSize (number bytes 76 4) 18)
  | .checksumCode => .format (.checksumCode (UInt16.ofNat (number bytes 84 2)))
  | .checksumSize => .format (.checksumSize (number bytes 86 2) (
      if number bytes 84 2 = 0 then .none else if number bytes 84 2 = 0x20 then .crc32 else .crc32Legacy))
  | .encoding => .format (.encodingCode (UInt8.ofNat (number bytes 93 1)))
  | .blockSize => .format .zeroBlockSize
  | .overflow => .format .deviceSizeOverflow
  | .deviceSize => .format (.deviceSize (number bytes 40 8) (number bytes 48 8) (number bytes 72 4))
  | .usedBlocks => .format (.usedBlocks (number bytes 64 8) (number bytes 48 8))

end Rule

/-! ### Rules applied one after the other -/

/-- Bytes are judged by rules in turn: the first broken one decides, and if there is none they are accepted. -/
inductive Judged {α : Type} (bytes : ByteArray) : List Rule → Except Error α → Prop
  | accepted (value : α) : Judged bytes [] (.ok value)
  | refused {rule : Rule} {rules : List Rule} (broken : ¬ rule.Kept bytes) :
    Judged bytes (rule :: rules) (.error (rule.error bytes))
  | kept {rule : Rule} {rules : List Rule} {verdict : Except Error α} (keeps : rule.Kept bytes)
    (rest : Judged bytes rules verdict) : Judged bytes (rule :: rules) verdict

namespace Judged

variable {α β : Type} {bytes other : ByteArray} {rule : Rule} {rules : List Rule} {verdict : Except Error α}

/-- A check stands for a rule if it refuses exactly the bytes that break it. -/
theorem check {refuses : Prop} [Decidable refuses] {failure : Error} (stands : ¬ refuses ↔ rule.Kept bytes)
    (told : failure = rule.error bytes) (rest : Judged bytes rules verdict) :
    Judged bytes (rule :: rules) (if refuses then .error failure else verdict) := by
  by_cases breaks : refuses
  · rw [if_pos breaks, told]
    exact .refused fun kept => stands.mpr kept breaks
  · rw [if_neg breaks]
    exact .kept (stands.mp breaks) rest

/-- Most checks compare what is stored with what it has to be. -/
theorem compare {γ : Type} [DecidableEq γ] {stored expected : γ} {failure : Error}
    (stands : stored = expected ↔ rule.Kept bytes) (told : failure = rule.error bytes)
    (rest : Judged bytes rules verdict) :
    Judged bytes (rule :: rules) (if stored ≠ expected then .error failure else verdict) :=
  check (Decidable.not_not.trans stands) told rest

/-- What is done with accepted bytes does not change the verdict on others. -/
theorem andThen (judged : Judged bytes rules verdict) (value : β) :
    Judged bytes rules (verdict >>= fun _ => .ok value) := by
  induction judged with
  | accepted => exact .accepted value
  | refused broken => exact .refused broken
  | kept keeps _ ih => exact .kept keeps ih

theorem exists_ok_iff (judged : Judged bytes rules verdict) :
    (∃ value, verdict = .ok value) ↔ ∀ rule ∈ rules, rule.Kept bytes := by
  induction judged with
  | accepted value => simp
  | refused broken =>
    constructor
    · intro ⟨value, told⟩
      cases told
    · intro all
      exact absurd (all _ List.mem_cons_self) broken
  | kept keeps _ ih => simp [ih, keeps]

theorem eq_error_iff (judged : Judged bytes rules verdict) {failure : Error} :
    verdict = .error failure ↔ ∃ before rule after, rules = before ++ rule :: after ∧
      (∀ earlier ∈ before, earlier.Kept bytes) ∧ ¬ rule.Kept bytes ∧ failure = rule.error bytes := by
  induction judged with
  | accepted value =>
    constructor
    · intro told
      cases told
    · intro ⟨before, rule, after, split, _⟩
      simp at split
  | @refused first others broken =>
    constructor
    · intro told
      cases told
      exact ⟨[], first, others, rfl, by simp, broken, rfl⟩
    · intro ⟨before, rule, after, split, front, _, told⟩
      cases before with
      | nil =>
        cases split
        rw [told]
      | cons earlier before =>
        -- The broken rule does not stand among those that are kept.
        cases split
        exact absurd (front first List.mem_cons_self) broken
  | @kept first others verdict keeps rest ih =>
    rw [ih]
    constructor
    · intro ⟨before, rule, after, split, front, broken, told⟩
      refine ⟨first :: before, rule, after, by rw [split, List.cons_append], ?_, broken, told⟩
      simp only [List.mem_cons, forall_eq_or_imp]
      exact ⟨keeps, front⟩
    · intro ⟨before, rule, after, split, front, broken, told⟩
      cases before with
      | nil =>
        cases split
        exact absurd keeps broken
      | cons earlier before =>
        cases split
        exact ⟨before, rule, after, rfl, fun other member => front other (List.mem_cons_of_mem _ member), broken, told⟩

/-- Bytes that rules cannot tell apart are both accepted, or both refused with the same error. -/
theorem same_of_alike {judgement : Except Error α} (judged : Judged bytes rules verdict)
    (others : Judged other rules judgement) (alike : ∀ rule ∈ rules, rule.Kept bytes ↔ rule.Kept other)
    (told : ∀ rule ∈ rules, ¬ rule.Kept bytes → rule.error bytes = rule.error other) :
    verdict.map (fun _ => ()) = judgement.map fun _ => () := by
  induction judged with
  | accepted value =>
    cases others
    rfl
  | @refused first rest broken =>
    cases others with
    | refused =>
      rw [told first List.mem_cons_self broken]
    | kept keeps => exact absurd ((alike first List.mem_cons_self).mpr keeps) broken
  | @kept first rest verdict keeps judged ih =>
    cases others with
    | refused breaks => exact absurd ((alike first List.mem_cons_self).mp keeps) breaks
    | kept _ others =>
      apply ih others
      · exact fun rule member => alike rule (List.mem_cons_of_mem _ member)
      · exact fun rule member => told rule (List.mem_cons_of_mem _ member)

end Judged

/-! ### The checks of a stored head

For each check, that it lets through exactly the bytes that keep its rule. -/

section Checks

variable {bytes : ByteArray}

private theorem magic_iff (long : Rule.length.Kept bytes) :
    window bytes 0 15 = Header.current.magic ↔ Rule.magic.Kept bytes := by
  have text : "partclone-image".toUTF8 = ⟨Header.current.magic.toArray⟩ := by decide +kernel
  rw [window_eq_given_iff (Nat.le_trans (by decide) long), Rule.Kept, text]

private theorem endianness_iff :
    UInt16.ofNat (number bytes 23 2) = Header.current.endianness ↔ Rule.endianness.Kept bytes := by
  have low := (Bytes.byteAt bytes 23).toNat_lt
  have value : Header.current.endianness.toNat = 0xDE + 256 * 0xC0 := rfl
  -- The low byte is stored first.
  rw [← UInt16.toNat_inj, toNat_number_two, number_succ, number_succ, number_zero, value, Rule.Kept,
    ← UInt8.toNat_inj, ← UInt8.toNat_inj]
  change _ ↔ (Bytes.byteAt bytes 23).toNat = 0xDE ∧ (Bytes.byteAt bytes (23 + 1)).toNat = 0xC0
  omega

private theorem version_iff (long : Rule.length.Kept bytes) :
    window bytes 19 4 = Header.current.formatVersion ↔ Rule.version.Kept bytes := by
  have text : "0002".toUTF8 = ⟨Header.current.formatVersion.toArray⟩ := by decide +kernel
  rw [window_eq_given_iff (Nat.le_trans (by decide) long), Rule.Kept, text]

private theorem error_version (long : Rule.length.Kept bytes) :
    .format (.version (window bytes 19 4).toList) = Rule.version.error bytes := by
  rw [Vector.toList, toArray_window (Nat.le_trans (by decide) long)]
  rfl

private theorem crc_iff :
    UInt32.ofNat (number bytes 94 4) = Checksum.ofBytes (bytes.extract 0 94) ↔ Rule.crc.Kept bytes := by
  rw [← UInt32.toNat_inj, toNat_number_four, Rule.Kept]

private theorem checksumCode_iff :
    (Checksum.Algorithm.ofCode? (UInt16.ofNat (number bytes 84 2))).isSome ↔ Rule.checksumCode.Kept bytes := by
  simp only [Rule.Kept, Checksum.Algorithm.ofCode?, ← UInt16.toNat_inj, toNat_number_two, List.mem_cons,
    List.not_mem_nil]
  grind

private theorem number_checksumCode {checksum : Checksum.Algorithm}
    (named : Checksum.Algorithm.ofCode? (UInt16.ofNat (number bytes 84 2)) = some checksum) :
    number bytes 84 2 = checksum.code.toNat := by
  rw [Checksum.Algorithm.ofCode?_eq_some_iff.mp named, toNat_number_two]

private theorem checksumSize_iff {checksum : Checksum.Algorithm} (code : number bytes 84 2 = checksum.code.toNat) :
    number bytes 86 2 = checksum.tagSize ↔ Rule.checksumSize.Kept bytes := by
  rw [Rule.Kept, code]
  cases checksum <;> exact Iff.rfl

private theorem error_checksumSize {checksum : Checksum.Algorithm} (code : number bytes 84 2 = checksum.code.toNat) :
    .format (.checksumSize (number bytes 86 2) checksum) = Rule.checksumSize.error bytes := by
  rw [Rule.error, code]
  cases checksum <;> rfl

private theorem encoding_iff :
    (BitmapEncoding.ofCode? (UInt8.ofNat (number bytes 93 1))).isSome ↔ Rule.encoding.Kept bytes := by
  simp only [Rule.Kept, BitmapEncoding.ofCode?, ← UInt8.toNat_inj, toNat_number_one, List.mem_cons, List.not_mem_nil]
  grind

/-- The last rules are those of the descriptor. -/
private theorem validate_judged (bytes : ByteArray) :
    Judged bytes [.blockSize, .overflow, .deviceSize, .usedBlocks] (Stored.ofBytes bytes).descriptor.validate := by
  rw [Stored.ofBytes_eq]
  simp only [Descriptor.validate, toNat_number_eight, toNat_number_four, bind, Except.bind, throw, throwThe,
    MonadExceptOf.throw, pure, Except.pure]
  apply Judged.check Iff.rfl rfl
  apply Judged.check
  · simp only [Rule.Kept, UInt64.size]
    omega
  · rfl
  apply Judged.check
  · simp only [Rule.Kept]
    omega
  · rfl
  exact Judged.check Nat.not_lt rfl (.accepted ())

theorem decode_judged (bytes : ByteArray) : Judged bytes Rule.order (decode bytes) := by
  by_cases short : bytes.size < storedSize
  · have broken : ¬ Rule.length.Kept bytes := Nat.not_le.mpr short
    rw [decode, if_pos short]
    exact .refused broken
  have long : Rule.length.Kept bytes := Nat.not_lt.mp short
  rw [decode, if_neg short, Stored.ofBytes_eq]
  simp only [Stored.check, bind, Except.bind, throw, throwThe, MonadExceptOf.throw, pure, Except.pure,
    toNat_number_four, toNat_number_two]
  apply Judged.kept long
  apply Judged.compare (magic_iff long) rfl
  apply Judged.compare endianness_iff rfl
  apply Judged.compare (version_iff long) (error_version long)
  apply Judged.compare crc_iff rfl
  apply Judged.compare Iff.rfl rfl
  -- What follows depends on the algorithm that the code names, and on the encoding.
  cases named : Checksum.Algorithm.ofCode? (UInt16.ofNat (number bytes 84 2)) with
  | none =>
    apply Judged.refused
    rw [← checksumCode_iff, named]
    simp
  | some checksum =>
    have code := number_checksumCode named
    apply Judged.kept
    · rw [← checksumCode_iff, named]
      rfl
    apply Judged.compare (checksumSize_iff code) (error_checksumSize code)
    cases coded : BitmapEncoding.ofCode? (UInt8.ofNat (number bytes 93 1)) with
    | none =>
      apply Judged.refused
      rw [← encoding_iff, coded]
      simp
    | some encoding =>
      apply Judged.kept
      · rw [← encoding_iff, coded]
        rfl
      have valid := validate_judged bytes
      rw [Stored.ofBytes_eq] at valid
      generalize Descriptor.validate _ = verdict at valid ⊢
      exact valid.andThen _

end Checks

/-! ### What no rule reads -/

/-- The places that only the rule about the checksum reads: version of the writer, tag, reported blocks, version and
word width of the options, blocks to a tag, reseeding, and all that lies behind the fields. -/
def Free (index : Nat) : Prop :=
  15 ≤ index ∧ index < 19 ∨ 25 ≤ index ∧ index < 40 ∨ 56 ≤ index ∧ index < 64 ∨ 80 ≤ index ∧ index < 84 ∨
    88 ≤ index ∧ index < 93 ∨ 94 ≤ index

instance (index : Nat) : Decidable (Free index) := inferInstanceAs (Decidable (_ ∨ _))

namespace Rule

variable {bytes other : ByteArray} (long : length.Kept bytes) (longer : length.Kept other)
  (same : ∀ index, ¬ Free index → Bytes.byteAt bytes index = Bytes.byteAt other index)

include long longer same

/-- A rule but that of the checksum cannot tell bytes apart that differ in free places only. -/
theorem alike {rule : Rule} (uncovered : rule ≠ .crc) :
    (rule.Kept bytes ↔ rule.Kept other) ∧ (¬ rule.Kept bytes → rule.error bytes = rule.error other) := by
  have agree (start width : Nat) (fixed : ∀ index, start ≤ index → index < start + width → ¬ Free index) :
      Bytes.AgreeOn bytes other start (start + width) := by
    intro index behind before
    exact same index (fixed index behind before)
  have numbers (start width : Nat) (fixed : ∀ index, start ≤ index → index < start + width → ¬ Free index) :
      number bytes start width = number other start width := number_eq_iff.mpr (agree start width fixed)
  have magic : bytes.extract 0 15 = other.extract 0 15 := by
    apply (agree 0 15 ?_).extract_eq
    · exact Nat.le_trans (by decide) long
    · exact Nat.le_trans (by decide) longer
    · simp only [Free]
      omega
  have version : bytes.extract 19 23 = other.extract 19 23 := by
    apply (agree 19 4 ?_).extract_eq
    · exact Nat.le_trans (by decide) long
    · exact Nat.le_trans (by decide) longer
    · simp only [Free]
      omega
  have first : Bytes.byteAt bytes 23 = Bytes.byteAt other 23 := same 23 (by decide)
  have second : Bytes.byteAt bytes 24 = Bytes.byteAt other 24 := same 24 (by decide)
  cases rule with
  | length => exact ⟨iff_of_true long longer, fun broken => absurd long broken⟩
  | crc => exact absurd rfl uncovered
  | _ => simp (disch := (simp only [Free]; omega)) [Kept, error, magic, version, first, second, numbers]

end Rule

/-- Bytes that keep all rules and no others are accepted, and others are refused for the first rule that they break.
It does not matter what follows a head, nor what is sealed in places that no other rule reads. -/
theorem decode_applies_rules (bytes : ByteArray) :
    ((∃ head, decode bytes = .ok head) ↔ ∀ rule : Rule, rule.Kept bytes) ∧
    (∀ failure, decode bytes = .error failure ↔ ∃ before rule after, Rule.order = before ++ rule :: after ∧
      (∀ earlier ∈ before, earlier.Kept bytes) ∧ ¬ rule.Kept bytes ∧ failure = rule.error bytes) ∧
    (∀ rest, Rule.length.Kept bytes → decode (bytes ++ rest) = decode bytes) ∧
    ∀ other, Rule.length.Kept bytes → Rule.crc.Kept bytes → Rule.length.Kept other → Rule.crc.Kept other →
      (∀ index, ¬ Free index → Bytes.byteAt bytes index = Bytes.byteAt other index) →
      (decode bytes).map (fun _ => ()) = (decode other).map fun _ => () := by
  have judged := decode_judged bytes
  refine ⟨?_, fun failure => judged.eq_error_iff, fun rest long => decode_append long rest, ?_⟩
  · rw [judged.exists_ok_iff]
    exact ⟨fun kept rule => kept rule rule.mem_order, fun kept rule _ => kept rule⟩
  · intro other long sealed longer resealed same
    apply judged.same_of_alike (decode_judged other)
    · intro rule _
      by_cases covering : rule = .crc
      · rw [covering]
        exact iff_of_true sealed resealed
      · exact (Rule.alike long longer same covering).1
    · intro rule _ broken
      by_cases covering : rule = .crc
      · rw [covering] at broken
        exact absurd sealed broken
      · exact (Rule.alike long longer same covering).2 broken

/-! ### A head and another with other values in the free places -/

theorem kept_encode {descriptor : Descriptor} {options : Options} (valid : descriptor.validate = .ok ())
    (structSize : options.structSize.toNat = Options.storedSize)
    (checksumSize : options.checksumSize.toNat = options.checksum.tagSize) (rule : Rule) :
    rule.Kept (encode descriptor options) :=
  (decode_judged _).exists_ok_iff.mp ⟨_, decode_encode valid structSize checksumSize⟩ rule rule.mem_order

theorem byteAt_encode (descriptor : Descriptor) (options : Options) {index : Nat} (inside : index < bodySize) :
    Bytes.byteAt (encode descriptor options) index = (encodeBody descriptor options).getD index 0 := by
  have listed : index < (encodeBody descriptor options).length := by
    rw [length_encodeBody]
    exact inside
  have stored : index < (encodeBody descriptor options).toByteArray.size := by
    rw [List.size_toByteArray]
    exact listed
  rw [encode, Bytes.byteAt_append, if_pos stored, Bytes.byteAt_of_lt stored]
  simp [ByteArray.getElem_eq_getElem_data, List.data_toByteArray, listed]

/-- A descriptor that differs from the sample only where no rule looks. -/
def relabelled : Descriptor := { Descriptor.sample with tag := .replicate 15 0x78, usedBlocks := 7 }

def sampleOptions : Options := .current .crc32 2 true

def relabelledOptions : Options := { Options.current .crc32 9 false with formatVersion := 5, cpuWidth := 32 }

theorem decode_applies_rules_sample :
    decode (encode .sample sampleOptions ++ ⟨#[1, 2, 3]⟩) = decode (encode .sample sampleOptions) ∧
    (decode (encode .sample sampleOptions)).map (fun _ => ()) =
      (decode (encode relabelled relabelledOptions)).map fun _ => () := by
  have kept (rule : Rule) : rule.Kept (encode .sample sampleOptions) := kept_encode rfl rfl rfl rule
  have others (rule : Rule) : rule.Kept (encode relabelled relabelledOptions) := kept_encode rfl rfl rfl rule
  have fixed : ∀ index < bodySize, ¬ Free index → (encodeBody .sample sampleOptions).getD index 0 =
      (encodeBody relabelled relabelledOptions).getD index 0 := by decide
  have same (index : Nat) (read : ¬ Free index) : Bytes.byteAt (encode .sample sampleOptions) index =
      Bytes.byteAt (encode relabelled relabelledOptions) index := by
    have inside : index < bodySize := by
      simp only [Free] at read
      simp only [bodySize]
      omega
    rw [byteAt_encode _ _ inside, byteAt_encode _ _ inside]
    exact fixed index inside read
  have rules := decode_applies_rules (encode .sample sampleOptions)
  constructor
  · exact rules.2.2.1 _ (kept .length)
  · exact rules.2.2.2 _ (kept .length) (kept .crc) (others .length) (others .crc) same

end BlockImage.Head
