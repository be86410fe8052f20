import BlockImage.Image.Info
import BlockImage.Proofs.Image.Opening

/-!
# What is told of an image

A query takes the front of an image and then judges it, and what it tells is a function of the front. The size that an
image should have is computed from its head and its bitmap, and of an image that opens it is told from the same head and
bitmap that a session takes.
-/
namespace BlockImage

variable {ω β : Type} {stream : Stream ω} {grants : Nat → Bool} {kept : ω → Prop} {view : ω → View} {rest : ω → β}

/-- Reads head and bitmap of an image, and leaves it open whether the bitmap is intact. -/
def Stream.takeFront (stream : Stream ω) (grants : Nat → Bool) : Operation ω (Head × FoundBitmap) := do
  let head ← stream.readHead
  let found ← stream.findBitmap head.descriptor.totalBlocks.toNat head.options.encoding grants
  return (head, found)

/-- What is told of a front. -/
def ImageInfo.ofFront (front : Head × FoundBitmap) : ImageInfo where
  head := front.1
  bitmap := front.2.bitmap
  corruption := front.2.corruption

namespace Stream

variable {world after : ω} {front : Head × FoundBitmap} {failure : Error}

/-! ### The query of a front that was taken -/

theorem readInfo_eq (stream : Stream ω) (tolerate : Bool) (grants : Nat → Bool) :
    stream.readInfo tolerate grants = do
    let front ← stream.takeFront grants
    unless tolerate do
      discard (ofExcept front.2.intact)
    return ImageInfo.ofFront front := by
  simp only [readInfo, takeFront, bind_assoc, pure_bind]
  rfl

theorem readInfo_of_error (broke : stream.takeFront grants world = .error failure after) (tolerate : Bool) :
    stream.readInfo tolerate grants world = .error failure after := by
  rw [readInfo_eq, bind_of_error broke]

theorem readInfo_tolerant (taken : stream.takeFront grants world = .ok front after) :
    stream.readInfo true grants world = .ok (.ofFront front) after := by
  rw [readInfo_eq, bind_of_ok taken]
  rfl

theorem readInfo_strict (taken : stream.takeFront grants world = .ok front after) : stream.readInfo false grants world =
    match front.2.corruption with
    | none => .ok (.ofFront front) after
    | some failure => .error failure after := by
  rw [readInfo_eq, bind_of_ok taken, FoundBitmap.intact]
  cases front.2.corruption <;> rfl

/-- What is taken from a stream is what its bytes say. -/
theorem Reads.takeFront (reads : stream.Reads kept view rest fun _ => False) (world : ω) (held : kept world) :
    Leads (stream.takeFront grants world)
      (fun front _ => Image.head (view world).left = .ok front.1 ∧
        Image.found grants front.1.descriptor.totalBlocks.toNat front.1.options.encoding (view world).left =
          .ok front.2)
      fun failure _ => Image.head (view world).left = .error failure ∨
        ∃ head, Image.head (view world).left = .ok head ∧
          Image.found grants head.descriptor.totalBlocks.toNat head.options.encoding (view world).left =
            .error failure := by
  let excused : Error → Prop := fun _ => False
  have unread : ∀ offset cause, False → excused (.read offset cause) := fun _ _ none => none
  rw [Stream.takeFront, leads_bind]
  refine (reads.readHead unread (fun none => none) world held).mono ?_ ?_
  · rintro head between ⟨frame, headed, within, moved⟩
    rw [leads_bind]
    refine (reads.findBitmap unread _ _ _ frame.kept moved within).mono ?_ ?_
    · rintro found after ⟨_, judged, _⟩
      exact ⟨headed, judged⟩
    · rintro failure after ⟨_, _, none | refused⟩
      · exact none.elim
      · exact .inr ⟨head, headed, refused⟩
  · rintro failure after ⟨_, _, none | refused⟩
    · exact none.elim
    · exact .inl refused

/-- What a tolerant query tells is what the bytes say. -/
theorem Reads.of_readInfo (reads : stream.Reads kept view rest fun _ => False) {world after : ω} (held : kept world)
    {info : ImageInfo} (told : stream.readInfo true grants world = .ok info after) :
    Image.head (view world).left = .ok info.head ∧
      Image.found grants info.head.descriptor.totalBlocks.toNat info.head.options.encoding (view world).left =
        .ok { bitmap := info.bitmap, corruption := info.corruption } := by
  cases taken : stream.takeFront grants world with
  | error failure stop =>
    rw [readInfo_of_error taken] at told
    cases told
  | ok front stop =>
    rw [readInfo_tolerant taken] at told
    cases told
    exact (reads.takeFront world held).of_ok taken

end Stream

/-! ### The query of an image that opens -/

/-- The expected size is that of an image with the head and the bitmap that are opened. -/
theorem ImageInfo.expectedSize_of_opened {info : ImageInfo} {opened : Head × Bitmap} (same : opened =
    ({ info.head with descriptor := info.head.descriptor.verifiedBy info.bitmap }, info.bitmap)) :
    info.expectedSize = Layout.imageSize opened.1.descriptor opened.1.options := by
  rw [same, expectedSize]

/-- Of an image that opens, the same can be told whether or not a damaged bitmap is tolerated. -/
theorem Stream.Reads.readInfo (reads : stream.Reads kept view rest fun _ => False) {opened : Head × Bitmap} {world : ω}
    (front : Image.front grants (view world).left = .ok opened) (held : kept world) (tolerate : Bool) :
    Leads (stream.readInfo tolerate grants world)
      (fun info _ => opened =
        ({ info.head with descriptor := info.head.descriptor.verifiedBy info.bitmap }, info.bitmap) ∧
          info.corruption = none)
      fun _ _ => False := by
  obtain ⟨headed, found, read, judged, sound, built⟩ := Image.front_eq_ok_iff.mp front
  obtain rfl := FoundBitmap.eq_of_intact sound
  rw [Stream.readInfo_eq, leads_bind]
  refine (reads.takeFront world held).mono ?_ ?_
  · rintro ⟨head, found'⟩ after ⟨given, given'⟩
    rw [read] at given
    cases given
    obtain rfl : _ = found' := Except.ok.inj (judged.symm.trans given')
    -- The bitmap is sound, so it does not matter what is tolerated.
    cases tolerate <;> exact ⟨built, rfl⟩
  · rintro failure after (refused | ⟨head, given, refused⟩)
    · rw [read] at refused
      cases refused
    · rw [read] at given
      cases given
      rw [judged] at refused
      cases refused

end BlockImage
