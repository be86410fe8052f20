import BlockImage.Proofs.Image.Recounted
import BlockImage.Proofs.Transfer.Plan
import BlockImage.Proofs.Transfer.RoundTrip

/-!
# The counts in an image do not matter

Whoever opens an image counts the marked blocks of its bitmap and goes by that number. Two runs are followed side by
side: one with an image and one with the image recounted, on media with the same faults. Until the heads are read the
two devices differ in what is read next, so that only the sizes of their reads are the same; behind the heads they give
the same bytes. What is left of the other numbers is that each session reports its own.
-/
namespace BlockImage

variable {τ ω ω' : Type} {related : ω → ω' → Prop}

/-! ### Devices that hold the same behind a front -/

/-- Devices that stand alike and hold the same from `front` on. -/
structure Device.Twins (front : Nat) (device other : Device) : Prop where
  faults : other.faults = device.faults
  position : other.position = device.position
  calls : other.calls = device.calls
  size : other.bytes.size = device.bytes.size
  same : ∀ index, front ≤ index → Bytes.byteAt other.bytes index = Bytes.byteAt device.bytes index

namespace Device.Twins

variable {front : Nat} {device other : Device}

theorem extract_size (twins : Twins front device other) (start stop : Nat) :
    (other.bytes.extract start stop).size = (device.bytes.extract start stop).size := by
  rw [ByteArray.size_extract, ByteArray.size_extract, twins.size]

theorem extract_eq (twins : Twins front device other) {start : Nat} (behind : front ≤ start) (stop : Nat) :
    other.bytes.extract start stop = device.bytes.extract start stop := by
  refine Bytes.ext_byteAt (twins.extract_size start stop) fun index => ?_
  rw [Bytes.byteAt_extract, Bytes.byteAt_extract, twins.same _ (Nat.le_trans behind (Nat.le_add_right ..))]

/-- Twins give as many bytes, and behind the front the same bytes. -/
theorem read (twins : Twins front device other) (wanted : Nat) :
    LeadsBoth (Device.read wanted device) (Device.read wanted other)
      (fun bytes after bytes' after' => bytes'.size = bytes.size ∧ (front ≤ device.position → bytes' = bytes) ∧
        device.position ≤ after.position ∧ Twins front after after')
      fun _ after after' => after.position = device.position ∧ Twins front after after' := by
  unfold Device.read
  rw [twins.faults, twins.calls, twins.position]
  cases device.faults.onRead device.calls device.position wanted with
  | fails cause => exact ⟨rfl, rfl, rfl, rfl, rfl, twins.size, twins.same⟩
  | moves atMost =>
    have size := twins.extract_size device.position (device.position + min wanted atMost)
    exact ⟨size, fun behind => twins.extract_eq behind _, Nat.le_add_right .., rfl, congrArg (device.position + ·) size,
      rfl, twins.size, twins.same⟩

/-- Twins of which the front is read. -/
structure Ahead (front : Nat) (device other : Device) : Prop extends Twins front device other where
  behind : front ≤ device.position

/-- Behind the front twins are read alike. -/
theorem read_agrees (front : Nat) : Device.source.toStream.Agree (Ahead front) Device.source.toStream := by
  rintro wanted device other ⟨twins, behind⟩
  refine ((twins.read wanted).mono ?_ ?_).agree
  · rintro bytes after bytes' after' ⟨_, same, onward, twins⟩
    exact ⟨same behind, twins, Nat.le_trans behind onward⟩
  · rintro failure after after' ⟨stays, twins⟩
    exact ⟨twins, stays ▸ behind⟩

end Device.Twins

/-! ### Sessions that recorded different numbers -/

/-- The head with another reported number of allocated blocks. -/
def Head.reporting (head : Head) (used : UInt64) : Head :=
  { head with descriptor := { head.descriptor with usedBlocks := used } }

/-- One session recorded `reported` and the other `reported'` as the reported number of allocated blocks; both recorded
the same counted number. But for that and for their worlds, which are related, they are alike. -/
structure Run.Recounted (reported reported' verified : Nat) (related : ω → ω' → Prop) (run : Run ω) (other : Run ω') :
    Prop where
  session : other.session = {
    run.session with summary := { run.session.summary with reportedBlocks := reported' } }
  reported : run.session.summary.reportedBlocks = reported
  verified : run.session.summary.verifiedBlocks = verified
  running : run.running = other.running
  looks : run.looks = other.looks
  events : run.events = other.events
  grants : run.grants = other.grants
  world : related run.world other.world

variable {reported reported' verified : Nat}

theorem Run.recounted_lockstep : Lockstep related (Run.Recounted reported reported' verified related) where
  config held := by rw [held.session]
  grants held := held.grants
  world held := held.world
  reach held world := { held with world }
  onEnter phase held := { held with session := by rw [held.session] }
  onTally {run other count} aside held := by
    obtain ⟨_, _, verified, reporting⟩ := aside run.session.summary
    have same : count run.session.summary =
        { count run.session.summary with reportedBlocks := run.session.summary.reportedBlocks } :=
      reporting run.session.summary.reportedBlocks
    refine ⟨?_, ?_, verified.trans held.verified, held.running, held.looks, held.events, held.grants,
      held.world⟩
    · rw [held.session, reporting]
    · exact (congrArg Summary.reportedBlocks same).trans held.reported
  running held := held.running
  looks held := held.looks
  events held := held.events
  blocks held := by rw [held.session]
  onLook running looks held := { held with running := rfl, looks := rfl }
  onEvent running events held := { held with running := rfl, events := rfl }
  onCount blocks blockSize := by
    refine .modify fun run other held => ?_
    exact ⟨by rw [held.session], held.reported, held.verified, held.running, held.looks, held.events, held.grants,
      held.world⟩

/-! ### Opening -/

/-- A front that a device gives is the front of its bytes, whatever the faults of the device. -/
theorem Device.readExactly_front_leads (bytes : ByteArray) (faults : Faults) (disk : τ) (wanted : Nat) :
    Leads ((Device.source.ofFirst : Source (Device × τ)).readExactly wanted ({ bytes, faults }, disk))
      (fun front after => front = bytes.extract 0 wanted ∧ after.1.position = wanted) fun _ _ => True := by
  have reads := (Device.source_reads bytes).toReads.ofFirst (fun _ : τ => True) fun _ => ()
  refine (reads.readExactly wanted ({ bytes, faults }, disk) ⟨rfl, trivial⟩).mono ?_ fun _ _ _ => trivial
  rintro front after ⟨_, taken, _, moved⟩
  have place := congrArg View.position moved
  rw [View.take] at taken
  rw [View.position_skip] at place
  simp only [view, Nat.zero_add] at taken place
  exact ⟨taken, place⟩

namespace Transfer

variable {image : ByteArray} {head : Head} {bitmap : Bitmap} {used verified : UInt64}

/-- Either head is read as it is stored, or both reads fail alike. -/
theorem readHead_recount (stored : Image.head image = .ok head)
    (within : verified.toNat ≤ head.descriptor.totalBlocks.toNat) (faults : Faults) (disk : τ) :
    LeadsBoth ((Device.source.ofFirst : Source (Device × τ)).readHead ({ bytes := image, faults }, disk))
      ((Device.source.ofFirst : Source (Device × τ)).readHead
        ({ bytes := Image.recount image used verified, faults }, disk))
      (fun opened world opened' world' => opened = head ∧
        opened' = { head with descriptor := { head.descriptor with usedBlocks := used, verifiedBlocks := verified } } ∧
        Beside (Device.Twins.Ahead Head.storedSize) Eq world world')
      fun _ world world' => Beside (Device.Twins Head.storedSize) Eq world world' := by
  obtain ⟨front, taken, decoded⟩ := Except.bind_eq_ok.mp stored
  obtain ⟨long, rfl⟩ := Image.piece_eq_ok_iff.mp taken
  rw [Nat.zero_add] at long decoded
  have recounted := @Head.decode_recount _ used _ (Image.size_stored long) _ decoded within
  have twins : Device.Twins Head.storedSize { bytes := image, faults }
      { bytes := Image.recount image used verified, faults } :=
    ⟨rfl, rfl, rfl, Image.size_recount long, fun _ behind => Image.byteAt_recount long behind⟩
  have calls : ∀ wanted world world', Beside (Device.Twins Head.storedSize) Eq world world' → LeadsBoth
      ((Device.source.ofFirst : Source (Device × τ)).read wanted world)
      ((Device.source.ofFirst : Source (Device × τ)).read wanted world')
      (fun bytes after bytes' after' => bytes'.size = bytes.size ∧ Beside (Device.Twins Head.storedSize) Eq after after')
      fun _ => Beside (Device.Twins Head.storedSize) Eq := by
    intro wanted world world' held
    refine .onFirst ((held.1.read wanted).mono ?_ ?_)
    · exact fun bytes after bytes' after' given => ⟨given.1, given.2.2.2, held.2⟩
    · exact fun _ after after' broke => ⟨broke.2, held.2⟩
  have begins : Beside (Device.Twins Head.storedSize) Eq ({ bytes := image, faults }, disk)
      ({ bytes := Image.recount image used verified, faults }, disk) := ⟨twins, rfl⟩
  -- What is read of the fronts differs in its bytes but not in its size, so that both reads end at the same place.
  have both := Stream.readExactly_leadsBoth calls Head.storedSize begins
  rw [Stream.readHead]
  refine .bind (.adaptExcept ((both.and_left (Device.readExactly_front_leads image faults disk _)).and_right
    (Device.readExactly_front_leads _ faults disk _))) ?_
  rintro bytes after bytes' after' ⟨⟨⟨_, held⟩, rfl, moved⟩, rfl, _⟩
  rw [decoded, Image.extract_recount long, recounted]
  exact ⟨rfl, rfl, ⟨held.1, Nat.le_of_eq moved.symm⟩, held.2⟩

/-- An image and the recounted one open alike; the sessions record what either head reports, and the same count. -/
theorem readImage_recount_leadsBoth (stored : Image.head image = .ok head)
    (within : verified.toNat ≤ head.descriptor.totalBlocks.toNat) (session : Session) (running : Bool)
    (grants : Nat → Bool) (faults : Faults) (disk : τ) :
    LeadsBoth
      (readImage Device.source.ofFirst.toStream {
        session, running, grants, world := ({ bytes := image, faults }, disk) })
      (readImage Device.source.ofFirst.toStream {
        session, running, grants, world := ({ bytes := Image.recount image used verified, faults }, disk) })
      (fun opened run opened' run' => opened' = (opened.1.reporting used, opened.2) ∧
        run.Recounted opened.1.descriptor.usedBlocks.toNat used.toNat opened.1.descriptor.verifiedBlocks.toNat
          (Beside (Device.Twins.Ahead Head.storedSize) Eq) run')
      fun _ => Run.Alike (Beside (Device.Twins Head.storedSize) Eq) := by
  have bridge := Run.alike_bridge (ω := Device × τ) (Beside (Device.Twins Head.storedSize) Eq)
  -- A failure settles in the same phase on both sides.
  refine .settling (@LeadsBoth.mono _ _ _ _ _ _ _ (fun _ => Run.Alike (Beside (Device.Twins Head.storedSize) Eq)) _ _ _
    ?_ (fun _ _ _ _ held => held) fun _ _ _ alike => bridge.onEnter .failed alike)
  let probing (bytes : ByteArray) : Run (Device × τ) :=
    { session := { session with phase := .probing }, running, grants, world := ({ bytes, faults }, disk) }
  have entered : LeadsBoth (enter .probing { session, running, grants, world := ({ bytes := image, faults }, disk) })
      (enter .probing {
        session, running, grants, world := ({ bytes := Image.recount image used verified, faults }, disk) })
      (fun _ run _ run' => run = probing image ∧ run' = probing (Image.recount image used verified))
      fun _ => Run.Alike (Beside (Device.Twins Head.storedSize) Eq) := ⟨rfl, rfl⟩
  have heads : LeadsBoth (inWorld Device.source.ofFirst.readHead (probing image))
      (inWorld Device.source.ofFirst.readHead (probing (Image.recount image used verified)))
      (fun opened run opened' run' => opened = head ∧
        opened' = { head with descriptor := { head.descriptor with usedBlocks := used, verifiedBlocks := verified } } ∧
        run.Alike (Beside (Device.Twins.Ahead Head.storedSize) Eq) run')
      fun _ => Run.Alike (Beside (Device.Twins Head.storedSize) Eq) := by
    refine .inWorld ((readHead_recount stored within faults disk).mono ?_ ?_)
    · exact fun _ _ _ _ held => ⟨held.1, held.2.1, rfl, rfl, rfl, rfl, rfl, held.2.2⟩
    · exact fun _ _ _ held => ⟨rfl, rfl, rfl, rfl, rfl, held⟩
  refine entered.bind ?_
  rintro _ _ _ _ ⟨rfl, rfl⟩
  refine .get_bind ?_
  refine heads.bind ?_
  rintro head run _ run' ⟨rfl, rfl, alike⟩
  -- Behind the heads both devices give the same, and so they give the same bitmap.
  have ahead : (Device.source.ofFirst : Source (Device × τ)).toStream.Agree
      (Beside (Device.Twins.Ahead Head.storedSize) Eq) Device.source.ofFirst.toStream :=
    (Device.Twins.read_agrees Head.storedSize).ofFirst
  have bitmaps := (Run.alike_bridge _).inWorld_agrees
    (ahead.readBitmap head.descriptor.totalBlocks.toNat head.options.encoding grants) alike
  refine (bitmaps.leadsBoth.mono (fun _ _ _ _ held => held) ?_).bind ?_
  · exact fun _ _ _ alike => { alike with world := ⟨alike.world.1.toTwins, alike.world.2⟩ }
  · rintro bitmap run _ run' ⟨rfl, alike⟩
    refine ⟨rfl, ?_, rfl, rfl, alike.running, alike.looks, alike.events, alike.grants, alike.world⟩
    simp only [alike.session]
    rfl

/-! ### Restoring -/

/-- Media stand at the same place, and what is written to is the same. -/
def Alongside (world other : Device × τ) : Prop := other.1.position = world.1.position ∧ other.2 = world.2

/-- What an image reports is not looked at any more. -/
theorem restoreBlocks_reporting (owner : Owner) (image : Stream ω) (target : Target ω) (head : Head) (used : UInt64)
    (bitmap : Bitmap) : restoreBlocks owner image target (head.reporting used) bitmap =
      restoreBlocks owner image target head bitmap := by
  rw [restoreBlocks_eq, restoreBlocks_eq]
  rfl

theorem restoreBlocks_recounted_leadsBoth (target : Target τ) (owner : Owner) (head : Head) (bitmap : Bitmap)
    {reported reported' verified front : Nat} {run run' : Run (Device × τ)}
    (held : run.Recounted reported reported' verified (Beside (Device.Twins.Ahead front) Eq) run') :
    LeadsBoth (restoreBlocks owner Device.source.ofFirst.toStream target.ofSecond head bitmap run)
      (restoreBlocks owner Device.source.ofFirst.toStream target.ofSecond head bitmap run')
      (fun summary after summary' after' => summary' = { summary with reportedBlocks := reported' } ∧
        summary.reportedBlocks = reported ∧ summary.verifiedBlocks = verified ∧
        after.Recounted reported reported' verified (Beside (Device.Twins.Ahead front) Eq) after')
      fun _ => Run.Recounted reported reported' verified (Beside (Device.Twins.Ahead front) Eq) := by
  have lockstep : Lockstep (Beside (Device.Twins.Ahead front) (Eq (α := τ)))
      (Run.Recounted reported reported' verified (Beside (Device.Twins.Ahead front) Eq)) := Run.recounted_lockstep
  have reads : (Device.source.ofFirst : Source (Device × τ)).toStream.Agree
      (Beside (Device.Twins.Ahead front) Eq) Device.source.ofFirst.toStream :=
    (Device.Twins.read_agrees front).ofFirst
  have writes (offset : Nat) (bytes : ByteArray)
      (_ : offset + bytes.size ≤ bitmap.total * head.descriptor.blockSize.toNat) :
      Agrees (Beside (Device.Twins.Ahead front) Eq) ((target.ofSecond : Target (Device × τ)).writeAt offset bytes)
        (target.ofSecond.writeAt offset bytes) := by
    rw [Target.writeAt_ofSecond]
    exact (Agrees.refl _).onSecond
  rw [restoreBlocks_eq]
  have body := lockstep.toBridge.bySettings_agrees fun config =>
    (lockstep.toBridge.restorePlan_agree reads.readExactly writes config).carryOut lockstep owner
  refine (lockstep.toBridge.conclude_leadsBoth ((Agrees.refl target.sync).onSecond) (body held)).mono ?_
    fun _ _ _ held => held
  rintro _ after _ after' ⟨rfl, rfl, held⟩
  exact ⟨by rw [held.session], held.reported, held.verified, held⟩

/-- The numbers of allocated blocks in the head of an image that opens do not matter: with any other reported number, and
any other count of no more blocks than there are, the image opens to the same bitmap and is restored to the same, by the
same events and with the same failure, whatever the faults of its medium. Only the reported number is passed on. -/
theorem stored_counts_never_matter {image : ByteArray} {opener : Session} {medium : Faults} {head : Head}
    {bitmap : Bitmap} {memory : Nat → Bool} {opened : Run Device}
    (accepted : readImage Device.source.toStream {
      session := opener, grants := memory, world := { bytes := image, faults := medium } } = .ok (head, bitmap) opened)
    (used : UInt64) {verified : UInt64} (within : verified.toNat ≤ head.descriptor.totalBlocks.toNat)
    (target : Target τ) (owner : Owner) (session : Session) (running : Bool) (grants : Nat → Bool) (faults : Faults)
    (disk : τ) :
    LeadsBoth
      (readImage Device.source.ofFirst.toStream {
        session, running, grants, world := ({ bytes := image, faults }, disk) })
      (readImage Device.source.ofFirst.toStream {
        session, running, grants, world := ({ bytes := Image.recount image used verified, faults }, disk) })
      (fun found run found' run' => found = (head, bitmap) ∧ found' = (head.reporting used, bitmap) ∧
        LeadsBoth
          (restoreBlocks owner Device.source.ofFirst.toStream target.ofSecond head bitmap run)
          (restoreBlocks owner Device.source.ofFirst.toStream target.ofSecond (head.reporting used) bitmap run')
          (fun summary after summary' after' => summary' = { summary with reportedBlocks := used.toNat } ∧
            summary.reportedBlocks = head.descriptor.usedBlocks.toNat ∧ summary.verifiedBlocks = bitmap.count ∧
            after.Recounted head.descriptor.usedBlocks.toNat used.toNat bitmap.count Alongside after')
          fun _ => Run.Recounted head.descriptor.usedBlocks.toNat used.toNat bitmap.count Alongside)
      fun _ => Run.Alike Alongside := by
  have whole : View.left { bytes := image, position := 0 } = image := Bytes.extract_eq_self (Nat.le_refl _)
  have held : Device.bytes { bytes := image, faults := medium } = image := rfl
  have front := (readImage_leads_front (Device.source_reads image).toReads held).of_ok accepted
  simp only [Device.view, whole] at front
  obtain ⟨headed, _, read, _, _, built⟩ := Image.front_eq_ok_iff.mp front
  have total : head.descriptor.totalBlocks = headed.descriptor.totalBlocks :=
    congrArg (fun opened : Head × Bitmap => opened.1.descriptor.totalBlocks) built
  rw [total] at within
  have both := @readImage_recount_leadsBoth τ image headed used verified read within session running grants faults disk
  -- Whatever faults a medium has, what is opened of the image is its front.
  let begins : Run (Device × τ) := { session, running, grants, world := ({ bytes := image, faults }, disk) }
  have beside : begins.world.1.bytes = image ∧ True := ⟨rfl, trivial⟩
  have opens := readImage_leads_front
    ((Device.source_reads image).toReads.ofFirst (fun _ : τ => True) fun _ => ()) beside
  refine (both.and_left opens).mono ?_ ?_
  · rintro found run found' run' ⟨⟨rfl, held⟩, fronted⟩
    have fronted : Image.front grants (View.left { bytes := image, position := 0 }) = .ok found := fronted
    rw [whole] at fronted
    obtain rfl : (head, bitmap) = found := Image.front_unique front fronted
    have count : head.descriptor.verifiedBlocks.toNat = bitmap.count := (probed_of_readImage accepted).measured.count
    rw [count] at held
    refine ⟨rfl, rfl, ?_⟩
    rw [restoreBlocks_reporting]
    refine (restoreBlocks_recounted_leadsBoth target owner head bitmap held).mono ?_ ?_
    · rintro summary after summary' after' ⟨same, reports, counts, held⟩
      exact ⟨same, reports, counts, { held with world := ⟨held.world.1.position, held.world.2.symm⟩ }⟩
    · exact fun _ _ _ held => { held with world := ⟨held.world.1.position, held.world.2.symm⟩ }
  · exact fun _ _ _ alike => { alike with world := ⟨alike.world.1.position, alike.world.2.symm⟩ }

/-- The image of the sample is restored to the same when its head tells of other numbers of allocated blocks. -/
theorem stored_counts_sample : ∃ opened opened' summary restored restored',
    readImage Device.source.ofFirst.toStream (sampleRestoring (Image.recount sampleImage 77 3)) =
      .ok ((Head.written sampleImaging.session.config .sample).reporting 77, .sample) opened' ∧
    restoreBlocks {} Device.source.ofFirst.toStream Device.target.ofSecond
      (.written sampleImaging.session.config .sample) .sample opened = .ok summary restored ∧
    restoreBlocks {} Device.source.ofFirst.toStream Device.target.ofSecond
      ((Head.written sampleImaging.session.config .sample).reporting 77) .sample opened' =
        .ok { summary with reportedBlocks := 77 } restored' ∧
    restored'.world.2 = restored.world.2 ∧ summary.verifiedBlocks = 2 := by
  obtain ⟨opened, summary, restored, answered, finished⟩ := sampleImage_restores
  have apart : Run.Alike (fun source (world : Device × Device) => source = world.1)
      { session := (sampleRestoring sampleImage).session, world := (sampleRestoring sampleImage).world.1 }
      (sampleRestoring sampleImage) := ⟨rfl, rfl, rfl, rfl, rfl, rfl⟩
  obtain ⟨alone, accepted, _⟩ := (readImage_ofFirst_agrees Device.source.toStream apart).exists_ok answered
  have within : (3 : UInt64).toNat ≤
      (Head.written sampleImaging.session.config .sample).descriptor.totalBlocks.toNat := by
    decide
  have both := stored_counts_never_matter accepted 77 within Device.target {} (sampleRestoring sampleImage).session true
    addressable (.short 3) (sampleRestoring sampleImage).world.2
  obtain ⟨_, _, _, broke, _⟩ | ⟨_, _, _, opened', came, came', rfl, rfl, restores⟩ := both.cases
  · cases answered.symm.trans broke
  · obtain ⟨_, rfl⟩ := EStateM.Result.ok.inj (answered.symm.trans came)
    obtain ⟨_, _, _, broke, _⟩ | ⟨_, _, _, restored', done, done', rfl, _, counts, held⟩ := restores.cases
    · cases finished.symm.trans broke
    · obtain ⟨rfl, rfl⟩ := EStateM.Result.ok.inj (finished.symm.trans done)
      exact ⟨opened, opened', summary, restored, restored', came', finished, done', held.world.2, counts⟩

end Transfer

end BlockImage
