import BlockImage.Proofs.Image.Info
import BlockImage.Proofs.Image.Rules
import BlockImage.Proofs.Image.StoredBitmap
import BlockImage.Proofs.LeadsBoth

/-!
# The query of an image

What is told of an image and what a session takes from it come from one front, which both read in the same way. They
part only over a bitmap whose checksum fails: a session refuses it, and so does a query, unless it tolerates the
corruption and tells of it.
-/
namespace BlockImage

variable {ω : Type} {stream : Stream ω} {grants : Nat → Bool}

/-- A session took from an image what is told of it, but for the number of allocated blocks, which it counted anew. -/
structure ImageInfo.Agrees (info : ImageInfo) (opened : Head × Bitmap) (summary : Summary) : Prop where
  sound : info.corruption = none
  header : opened.1.header = info.head.header
  options : opened.1.options = info.head.options
  bitmap : opened.2 = info.bitmap
  descriptor : opened.1.descriptor =
    { info.head.descriptor with verifiedBlocks := opened.1.descriptor.verifiedBlocks }
  recounted : opened.1.descriptor.verifiedBlocks.toNat = info.countedBlocks
  mismatch : info.mismatch = summary.mismatch

/-- The failure is not that of a bitmap with a wrong checksum. -/
def Error.Unrelated (failure : Error) : Prop := ∀ stored computed, failure ≠ .corrupt .bitmap stored computed

/-! ### The front as it is found -/

theorem Head.unrelated_of_decode {bytes : ByteArray} {failure : Error} (refused : decode bytes = .error failure) :
    failure.Unrelated := by
  obtain ⟨_, rule, _, _, _, _, told⟩ := (decode_judged bytes).eq_error_iff.mp refused
  intro stored computed
  rw [told]
  cases rule <;> simp [Rule.error]

theorem unrelated_of_checkAllocation {size : Nat} {failure : Error}
    (refused : checkAllocation grants size = .error failure) : failure.Unrelated := by
  rw [checkAllocation] at refused
  split at refused
  · cases refused
  · cases refused
    intro stored computed
    simp

theorem BitmapEncoding.unrelated_of_decode {encoding : BitmapEncoding} {total : Nat} {bytes : ByteArray}
    {failure : Error} (refused : encoding.decode grants total bytes = .error failure) : failure.Unrelated := by
  cases encoding with
  | bit =>
    rw [decode, Bitmap.ofBytes] at refused
    split at refused
    · cases refused
    · cases refused
      intro stored computed
      simp
  | byte =>
    cases granted : checkAllocation grants (bitmapSize total) with
    | error other =>
      rw [decode, granted] at refused
      cases refused
      exact unrelated_of_checkAllocation granted
    | ok _ =>
      rw [decode, granted] at refused
      cases refused

namespace Stream

theorem readHead_leads (stream : Stream ω) (world : ω) :
    Leads (stream.readHead world) (fun _ _ => True) fun failure _ => failure.Unrelated := by
  rw [readHead, leads_bind, leads_adaptExcept]
  refine Leads.of_all (fun bytes _ => ?_) fun cause _ stored computed => ?_
  · rw [leads_ofExcept]
    cases decoded : Head.decode bytes with
    | error failure => exact Head.unrelated_of_decode decoded
    | ok head => trivial
  · split <;> simp

theorem findBitmap_leads (stream : Stream ω) (total : Nat) (encoding : BitmapEncoding) (grants : Nat → Bool)
    (world : ω) : Leads (stream.findBitmap total encoding grants world)
      (fun found _ => found.bitmap.total = total ∧
        ∀ failure, found.corruption = some failure → ∃ stored computed, failure = .corrupt .bitmap stored computed)
      fun failure _ => failure.Unrelated := by
  have unread (offset : Nat) (cause : IoError) (after : ω) : (Error.read offset cause).Unrelated := by
    intro stored computed
    simp
  rw [findBitmap, leads_bind, leads_ofExcept]
  cases granted : checkAllocation grants (encoding.storedSize total) with
  | error failure => exact unrelated_of_checkAllocation granted
  | ok _ =>
    -- Whatever the stream gives, only what is made of it counts.
    simp only [leads_bind, leads_adaptExcept]
    refine Leads.of_all (fun body _ => Leads.of_all (fun crc _ => ?_) (unread _)) (unread _)
    rw [leads_ofExcept, FoundBitmap.ofStored]
    cases decoded : encoding.decode grants total body with
    | error failure => exact BitmapEncoding.unrelated_of_decode decoded
    | ok bitmap =>
      refine ⟨BitmapEncoding.total_of_decode decoded, fun failure corrupt => ?_⟩
      change (if _ then _ else _) = _ at corrupt
      split at corrupt
      · cases corrupt
      · cases corrupt
        exact ⟨_, _, rfl⟩

/-- Whatever a stream gives, a front that is taken has a bitmap over the blocks of its head, and what may be wrong with
it is its checksum. No other failure looks like that. -/
theorem takeFront_leads (stream : Stream ω) (grants : Nat → Bool) (world : ω) :
    Leads (stream.takeFront grants world)
      (fun front _ => front.2.bitmap.total = front.1.descriptor.totalBlocks.toNat ∧
        ∀ failure, front.2.corruption = some failure → ∃ stored computed, failure = .corrupt .bitmap stored computed)
      fun failure _ => failure.Unrelated := by
  rw [takeFront, leads_bind]
  refine (stream.readHead_leads world).mono (fun head between _ => ?_) fun _ _ unrelated => unrelated
  rw [leads_bind]
  exact stream.findBitmap_leads _ _ _ between

theorem readHead_of_takeFront {world after : ω} {front : Head × FoundBitmap}
    (taken : stream.takeFront grants world = .ok front after) :
    ∃ between, stream.readHead world = .ok front.1 between := by
  obtain ⟨head, between, headed, judged⟩ := bind_eq_ok.mp taken
  obtain ⟨found, last, _, built⟩ := bind_eq_ok.mp judged
  cases built
  exact ⟨between, headed⟩

end Stream

namespace Transfer

/-! ### Two readers of one front -/

theorem inWorld_bind {ε α β : Type} (body : EStateM ε ω α) (next : α → EStateM ε ω β) :
    inWorld (body >>= next) = inWorld body >>= fun value => inWorld (next value) := by
  funext run
  cases came : body run.world with
  | ok value after => simp only [inWorld, bind, EStateM.bind, came]
  | error failure after => simp only [inWorld, bind, EStateM.bind, came]

/-- A session judges the front that it takes, and counts the blocks of an intact bitmap. -/
theorem readImage_eq (stream : Stream ω) : readImage stream = settling (do
    enter .probing
    let grants := (← get).grants
    let front ← inWorld (stream.takeFront grants)
    let bitmap ← inWorld (ofExcept front.2.intact : Operation ω Bitmap)
    let descriptor := front.1.descriptor.verifiedBy bitmap
    recordBlocks descriptor
    return ({ front.1 with descriptor }, bitmap)) := by
  simp only [readImage, Stream.takeFront, Stream.readBitmap, inWorld_bind, bind_assoc]
  rfl

end Transfer

open Transfer in
/-- A query that tolerates nothing and a session come to the same end of an image. -/
theorem readInfo_leadsBoth_readImage (stream : Stream ω) (run : Run ω) :
    LeadsBoth (stream.readInfo false run.grants run.world) (readImage stream run)
      (fun info there opened after => (∃ between, stream.readHead run.world = .ok info.head between) ∧
        info.Agrees opened after.session.summary ∧ there = after.world)
      fun _ there after => there = after.world := by
  have law := stream.takeFront_leads run.grants run.world
  rw [readImage_eq]
  cases taken : stream.takeFront run.grants run.world with
  | error failure after =>
    rw [Stream.readInfo_of_error taken]
    refine LeadsBoth.of_error_left ?_
    rw [leads_settling, leads_bind, leads_enter, leads_bind, leads_get, leads_bind, leads_inWorld, taken]
    exact ⟨rfl, rfl⟩
  | ok front after =>
    obtain ⟨head, bitmap, corruption⟩ := front
    rw [Stream.readInfo_strict taken]
    cases corruption with
    | some failure =>
      refine LeadsBoth.of_error_left ?_
      rw [leads_settling, leads_bind, leads_enter, leads_bind, leads_get, leads_bind, leads_inWorld, taken]
      exact ⟨rfl, rfl⟩
    | none =>
      refine LeadsBoth.of_ok_left ?_
      rw [leads_settling, leads_bind, leads_enter, leads_bind, leads_get, leads_bind, leads_inWorld, taken]
      have count := Descriptor.verifiedBlocks_verifiedBy (law.of_ok taken).1
      refine ⟨Stream.readHead_of_takeFront taken, ?_, rfl⟩
      constructor
      case sound => rfl
      case header => rfl
      case options => rfl
      case bitmap => rfl
      case descriptor => rfl
      case recounted => exact count
      case mismatch =>
        change _ = (head.descriptor.usedBlocks.toNat != (head.descriptor.verifiedBy bitmap).verifiedBlocks.toNat)
        rw [count]
        rfl

/-- A tolerant query tells of a corruption where a strict one fails with it, and with any other answer it is the strict
one. -/
theorem readInfo_tolerates (stream : Stream ω) (grants : Nat → Bool) (world : ω) :
    (∀ failure after, (∃ info, stream.readInfo true grants world = .ok info after ∧ info.corruption = some failure) ↔
      stream.readInfo false grants world = .error failure after ∧
        ∃ stored computed, failure = .corrupt .bitmap stored computed) ∧
    ((∀ info after, stream.readInfo true grants world = .ok info after → info.corruption = none) →
      stream.readInfo true grants world = stream.readInfo false grants world) := by
  have law := stream.takeFront_leads grants world
  cases taken : stream.takeFront grants world with
  | error failure after =>
    rw [Stream.readInfo_of_error taken, Stream.readInfo_of_error taken]
    refine ⟨fun other stop => ⟨?_, ?_⟩, fun _ => rfl⟩
    · rintro ⟨info, same, _⟩
      cases same
    · rintro ⟨same, stored, computed, corrupt⟩
      cases same
      exact absurd corrupt (law.of_error taken stored computed)
  | ok front after =>
    rw [Stream.readInfo_tolerant taken, Stream.readInfo_strict taken]
    cases corrupt : front.2.corruption with
    | none =>
      refine ⟨fun failure stop => ⟨?_, ?_⟩, fun _ => rfl⟩
      · rintro ⟨info, same, told⟩
        cases same
        cases corrupt.symm.trans told
      · rintro ⟨same, _⟩
        cases same
    | some failure =>
      constructor
      · intro other stop
        constructor
        · rintro ⟨info, same, told⟩
          cases same
          cases corrupt.symm.trans told
          exact ⟨rfl, (law.of_ok taken).2 failure corrupt⟩
        · rintro ⟨same, _⟩
          cases same
          exact ⟨_, rfl, corrupt⟩
      · intro silent
        cases corrupt.symm.trans (silent _ _ rfl)

/-! ### What a tolerant query asks of an image -/

namespace Image

variable {bytes : ByteArray}

/-- The head at the front of some bytes, which are long enough if a bitmap follows it. -/
theorem head_eq_of_size (long : Head.storedSize ≤ bytes.size) :
    head bytes = Head.decode (bytes.extract 0 Head.storedSize) := by
  rw [head, piece_ok (by omega), Nat.zero_add]
  rfl

/-- A bitmap is found where it is whole and there is memory for it, whatever its checksum says. -/
theorem exists_found_iff {total : Nat} {encoding : BitmapEncoding} :
    (∃ judged, found grants total encoding bytes = .ok judged) ↔
      Layout.dataOffset total encoding ≤ bytes.size ∧ encoding.Fits grants total := by
  constructor
  · rintro ⟨judged, total⟩
    simp only [found, Except.bind_eq_ok] at total
    obtain ⟨_, granted, _, _, _, sealed, stored⟩ := total
    rw [FoundBitmap.ofStored, Except.bind_eq_ok] at stored
    obtain ⟨_, decoded, _⟩ := stored
    exact ⟨(piece_eq_ok_iff.mp sealed).1, BitmapEncoding.fits_of_decode (granted_of_checkAllocation granted) decoded⟩
  · rintro ⟨whole, fits⟩
    rw [Layout.dataOffset] at whole
    have size : (bytes.extract Layout.bitmapOffset (Layout.bitmapOffset + encoding.storedSize total)).size =
        encoding.storedSize total := by
      rw [ByteArray.size_extract]
      omega
    have stored (crc : ByteArray) : ∃ judged, FoundBitmap.ofStored grants encoding total
        (bytes.extract Layout.bitmapOffset (Layout.bitmapOffset + encoding.storedSize total)) crc = .ok judged := by
      rw [FoundBitmap.ofStored, BitmapEncoding.decode_eq fits size]
      exact ⟨_, rfl⟩
    rw [found, checkAllocation_of_granted fits.stored, piece_ok (by omega), piece_ok (by omega)]
    exact stored _

end Image

/-- A tolerant query succeeds just where the head decodes and the bitmap with its checksum is whole and finds memory. -/
theorem Stream.Reads.exists_readInfo_iff {β : Type} {kept : ω → Prop} {view : ω → View} {rest : ω → β}
    (reads : stream.Reads kept view rest fun _ => False) {world : ω} (held : kept world) :
    (∃ info after, stream.readInfo true grants world = .ok info after) ↔
      ∃ head, Head.decode ((view world).left.extract 0 Head.storedSize) = .ok head ∧
        Layout.dataOffset head.descriptor.totalBlocks.toNat head.options.encoding ≤ (view world).left.size ∧
        head.options.encoding.Fits grants head.descriptor.totalBlocks.toNat := by
  constructor
  · rintro ⟨info, after, told⟩
    obtain ⟨headed, judged⟩ := reads.of_readInfo held told
    obtain ⟨whole, fits⟩ := Image.exists_found_iff.mp ⟨_, judged⟩
    have long : Head.storedSize ≤ (view world).left.size := by
      rw [Layout.dataOffset, Layout.bitmapOffset] at whole
      omega
    rw [Image.head_eq_of_size long] at headed
    exact ⟨info.head, headed, whole, fits⟩
  · rintro ⟨head, decoded, whole, fits⟩
    have long : Head.storedSize ≤ (view world).left.size := by
      rw [Layout.dataOffset, Layout.bitmapOffset] at whole
      omega
    rw [← Image.head_eq_of_size long] at decoded
    obtain ⟨found, judged⟩ := Image.exists_found_iff.mpr ⟨whole, fits⟩
    cases taken : stream.takeFront grants world with
    | ok front after => exact ⟨_, after, Stream.readInfo_tolerant taken⟩
    | error failure after =>
      -- Neither the head nor the bitmap can be what a reading fails with.
      rcases (reads.takeFront world held).of_error taken with refused | ⟨other, headed, refused⟩
      · rw [decoded] at refused
        cases refused
      · rw [decoded] at headed
        cases headed
        rw [judged] at refused
        cases refused

/-- A strict query of a stream and a session that opens it agree, on success as on failure. A tolerant query differs
from the strict one only where that fails for the checksum of the bitmap, which it tells of instead. Where no read fails,
it succeeds just if the head decodes and the bitmap with its checksum is whole and finds memory. -/
theorem query_agrees_with_opening (stream : Stream ω) :
    (∀ run : Run ω, LeadsBoth (stream.readInfo false run.grants run.world) (Transfer.readImage stream run)
      (fun info there opened after => (∃ between, stream.readHead run.world = .ok info.head between) ∧
        info.Agrees opened after.session.summary ∧ there = after.world)
      fun _ there after => there = after.world) ∧
    (∀ (grants : Nat → Bool) world,
      (∀ failure after, (∃ info, stream.readInfo true grants world = .ok info after ∧ info.corruption = some failure) ↔
        stream.readInfo false grants world = .error failure after ∧
          ∃ stored computed, failure = .corrupt .bitmap stored computed) ∧
      ((∀ info after, stream.readInfo true grants world = .ok info after → info.corruption = none) →
        stream.readInfo true grants world = stream.readInfo false grants world)) ∧
    ∀ (β : Type) (grants : Nat → Bool) (kept : ω → Prop) (view : ω → View) (rest : ω → β),
      stream.Reads kept view rest (fun _ => False) →
      ∀ world, kept world → ((∃ info after, stream.readInfo true grants world = .ok info after) ↔
        ∃ head, Head.decode ((view world).left.extract 0 Head.storedSize) = .ok head ∧
          Layout.dataOffset head.descriptor.totalBlocks.toNat head.options.encoding ≤ (view world).left.size ∧
          head.options.encoding.Fits grants head.descriptor.totalBlocks.toNat) :=
  ⟨readInfo_leadsBoth_readImage stream, readInfo_tolerates stream,
    fun _ _ _ _ _ reads _ held => reads.exists_readInfo_iff held⟩

/-- A device that gives two bytes at a time, with an image whose bitmap has another checksum than it should. -/
def Device.missealed : Device where
  bytes := Head.encode .sample (Transfer.imageOptions {}) ++ ⟨#[0xFD]⟩ ++
    Head.storedCrc (Checksum.ofBytes ⟨#[0xFD]⟩ + 1) ++ .empty
  faults := .short 2

open Device in
theorem query_agrees_with_opening_sample :
    ∃ (info : ImageInfo) (after : Device) (stopped : Run Device) (failure : Error),
    failure = .corrupt .bitmap (Checksum.ofBytes ⟨#[0xFD]⟩ + 1) (Checksum.ofBytes ⟨#[0xFD]⟩) ∧
      source.toStream.readInfo true addressable missealed = .ok info after ∧ info.corruption = some failure ∧
      source.toStream.readInfo false addressable missealed = .error failure after ∧
      Transfer.readImage source.toStream
        { session := { direction := .fromImage, config := {} }, world := missealed } = .error failure stopped ∧
      stopped.world = after := by
  obtain ⟨agrees, tolerates, succeeds⟩ := query_agrees_with_opening source.toStream
  have steady : missealed.faults.Steady := Faults.short_steady (by decide)
  have reads := source_reads_steady.toReads
  have left : missealed.view.left = missealed.bytes := Bytes.extract_eq_self (Nat.le_refl _)
  have headed : Image.head missealed.view.left = .ok (.written {} .sample) := by
    rw [left, missealed, ByteArray.append_assoc, ByteArray.append_assoc]
    exact Image.head_encode Probed.sample _
  have judged : Image.found addressable 3 .bit missealed.view.left =
      .ok (.of .bit 3 ⟨#[0xFD]⟩ (Checksum.ofBytes ⟨#[0xFD]⟩ + 1)) := by
    rw [left]
    exact Image.foundBehind_stored ⟨by decide, by decide⟩ (by decide) _ (Head.size_encode ..) _
  obtain ⟨whole, fits⟩ := Image.exists_found_iff.mp ⟨_, judged⟩
  have decoded : Head.decode (missealed.view.left.extract 0 Head.storedSize) = .ok (.written {} .sample) := by
    rw [← Image.head_eq_of_size (Nat.le_trans (by decide) whole), headed]
  obtain ⟨info, after, told⟩ := (succeeds Unit _ _ view _ reads missealed steady).mpr ⟨_, decoded, whole, fits⟩
  -- The corruption that is told of is the one that the bytes show.
  obtain ⟨given, given'⟩ := reads.of_readInfo steady told
  have corrupt : info.corruption =
      some (.corrupt .bitmap (Checksum.ofBytes ⟨#[0xFD]⟩ + 1) (Checksum.ofBytes ⟨#[0xFD]⟩)) := by
    rw [← Except.ok.inj (headed.symm.trans given)] at given'
    have shown := congrArg FoundBitmap.corruption (Except.ok.inj (judged.symm.trans given'))
    have differs : Checksum.ofBytes ⟨#[0xFD]⟩ + 1 ≠ Checksum.ofBytes ⟨#[0xFD]⟩ := by simp
    exact shown.symm.trans (FoundBitmap.corruption_of differs)
  obtain ⟨strict, _⟩ := ((tolerates addressable missealed).1 _ after).mp ⟨info, told, corrupt⟩
  obtain ⟨_, _, stopped, broke, broke', same⟩ | ⟨_, _, _, _, came, _⟩ :=
    (agrees { session := { direction := .fromImage, config := {} }, world := missealed }).cases
  · cases strict.symm.trans broke
    exact ⟨info, after, stopped, _, rfl, told, corrupt, strict, broke', same.symm⟩
  · cases strict.symm.trans came

end BlockImage
