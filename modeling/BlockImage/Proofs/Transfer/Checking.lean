import BlockImage.Ends.Discard
import BlockImage.Proofs.Device
import BlockImage.Proofs.Transfer.Plan
import BlockImage.Proofs.Transfer.RoundTrip

/-!
# Checking an image

What restoring does with an image does not depend on what is written, so that it comes to the same on two targets that
never fail. In particular an image is checked as it is restored, though what is restored is discarded.
-/
namespace BlockImage

variable {σ τ τ' ω ω' β : Type} {related : ω → ω' → Prop}

/-! ### Targets that serve -/

/-- A target whose calls never fail, each of which takes something, and which leaves alone the rest of the world. -/
structure Target.Obliging (target : Target ω) (kept : ω → Prop) (rest : ω → β) : Prop where
  write : ∀ bytes world, 0 < bytes.size → kept world → Leads (target.write bytes world)
    (fun taken after => 0 < taken ∧ Frame kept rest world after) fun _ _ => False
  sync : ∀ world, kept world → Leads (target.sync world) (fun _ after => Frame kept rest world after) fun _ _ => False
  seek : ∀ position world, kept world → Leads (target.seek position world)
    (fun _ after => Frame kept rest world after) fun _ _ => False

namespace Target.Obliging

variable {target : Target ω} {kept : ω → Prop} {rest : ω → β}

theorem writeAll (obliging : target.Obliging kept rest) (bytes : ByteArray) {world : ω} (held : kept world) :
    Leads (target.writeAll bytes world) (fun _ after => Frame kept rest world after) fun _ _ => False := by
  -- Every write takes something, so less is left for the next one.
  induction size : bytes.size using Nat.strongRecOn generalizing bytes world with
  | ind total ih =>
    subst size
    rw [Sink.writeAll]
    split
    next none => exact .refl held
    next some =>
      rw [leads_bind]
      refine (obliging.write bytes world (by omega) held).weaken ?_
      rintro taken after ⟨positive, frame⟩
      rw [if_neg (Nat.ne_of_gt positive)]
      have fewer : (bytes.extract taken bytes.size).size < bytes.size := by
        rw [ByteArray.size_extract]
        omega
      exact (ih _ fewer _ frame.kept rfl).weaken fun _ _ later => frame.trans later

theorem writeAt (obliging : target.Obliging kept rest) (offset : Nat) (bytes : ByteArray) {world : ω}
    (held : kept world) :
    Leads (target.writeAt offset bytes world) (fun _ after => Frame kept rest world after) fun _ _ => False := by
  rw [Target.writeAt, leads_bind]
  refine (obliging.seek offset world held).weaken fun _ there frame => ?_
  exact (obliging.writeAll bytes frame.kept).weaken fun _ _ later => frame.trans later

end Target.Obliging

/-- Within its first `room` bytes a target can always be written to, and requests to sync do not fail. -/
structure Target.Serves (target : Target ω) (kept : ω → Prop) (room : Nat) : Prop where
  writeAt : ∀ {offset : Nat} {bytes : ByteArray} {world : ω}, offset + bytes.size ≤ room → kept world →
    Leads (target.writeAt offset bytes world) (fun _ => kept) fun _ _ => False
  sync : ∀ {world : ω}, kept world → Leads (target.sync world) (fun _ => kept) fun _ _ => False

/-- A target serves wherever no single call on it fails. -/
theorem Target.Obliging.serves {target : Target ω} {kept : ω → Prop} {rest : ω → β}
    (obliging : target.Obliging kept rest) (room : Nat) : target.Serves kept room where
  writeAt _ held := (obliging.writeAt _ _ held).weaken fun _ _ frame => frame.kept
  sync held := (obliging.sync _ held).weaken fun _ _ frame => frame.kept

theorem Device.serves (room : Nat) : Device.target.Serves (fun device => device.faults.Steady) room := by
  suffices obliging : Device.target.Obliging (fun device => device.faults.Steady) fun _ => () from
    obliging.serves room
  constructor
  · intro bytes device positive steady
    refine (write_leads (steady.within fun _ => False) positive).mono ?_ fun _ _ fault => fault.2.2
    rintro taken after ⟨same, _, idle⟩
    exact ⟨Nat.pos_of_ne_zero idle, same ▸ steady, rfl⟩
  · intro device steady
    exact (sync_leads (steady.within fun _ => False)).mono (fun _ _ synced => ⟨synced.1 ▸ steady, rfl⟩)
      fun _ _ fault => fault.2.2
  · exact fun position device steady => ⟨steady, rfl⟩

/-- Neither the position nor the furthest one that was written up to lies behind `limit`. -/
structure Discard.Within (limit : Nat) (discard : Discard) : Prop where
  position : discard.position ≤ limit
  length : discard.length ≤ limit

/-- What discards everything serves, and counts no further than it is written to. -/
theorem Discard.serves {room limit : Nat} (near : room ≤ limit) :
    Discard.target.Serves (Discard.Within limit) room where
  writeAt {offset bytes discard} fits held := by
    rw [Target.writeAt, leads_bind]
    change Leads (Discard.target.writeAll bytes { discard with position := offset }) _ _
    rw [Sink.writeAll]
    split
    next none => exact ⟨Nat.le_trans (Nat.le_trans (Nat.le_add_right ..) fits) near, held.length⟩
    next some =>
      -- One write takes everything, and of nothing that is left nothing is written.
      have all : Discard.target.write bytes { discard with position := offset } =
          .ok bytes.size { position := offset + bytes.size, length := max discard.length (offset + bytes.size) } := rfl
      have rest : (bytes.extract bytes.size bytes.size).size = 0 := by
        rw [ByteArray.size_extract, Nat.min_self, Nat.sub_self]
      rw [bind_of_ok all, if_neg some, Sink.writeAll, if_pos rest]
      have ends := Nat.le_trans fits near
      exact ⟨ends, Nat.max_le.mpr ⟨held.length, ends⟩⟩
  sync held := held

/-- Calls that cannot fail in what is kept on either side agree. -/
theorem agrees_of_kept {left : Call τ Unit} {right : Call τ' Unit} {kept : τ → Prop} {kept' : τ' → Prop}
    (goes : ∀ {world}, kept world → Leads (left world) (fun _ => kept) fun _ _ => False)
    (goes' : ∀ {world}, kept' world → Leads (right world) (fun _ => kept') fun _ _ => False) :
    Agrees (fun world world' => kept world ∧ kept' world') left right := by
  rintro world world' ⟨held, held'⟩
  obtain ⟨_, after, returned, still⟩ := (goes held).exists_ok
  obtain ⟨_, after', returned', still'⟩ := (goes' held').exists_ok
  rw [returned, returned']
  exact ⟨rfl, still, still'⟩

namespace Transfer

/-! ### Restoring to different targets -/

/-- Restoring an image comes to the same on two targets whose requests to sync agree, and whose writes among the blocks
of its bitmap do. -/
theorem restoreBlocks_agrees {image : Stream ω} {image' : Stream ω'} {target : Target ω} {target' : Target ω'}
    {head : Head} {bitmap : Bitmap}
    (reads : ∀ wanted, Agrees related (image.readExactly wanted) (image'.readExactly wanted))
    (writes : ∀ offset bytes, offset + bytes.size ≤ bitmap.total * head.descriptor.blockSize.toNat →
      Agrees related (target.writeAt offset bytes) (target'.writeAt offset bytes))
    (syncs : Agrees related target.sync target'.sync) (owner : Owner) :
    Agrees (Run.Alike related) (restoreBlocks owner image target head bitmap)
      (restoreBlocks owner image' target' head bitmap) := by
  have lockstep := Run.alike_lockstep related
  rw [restoreBlocks_eq, restoreBlocks_eq]
  refine conclude_agrees syncs (lockstep.toBridge.bySettings_agrees fun config => ?_)
  exact (lockstep.toBridge.restorePlan_agree reads writes config).carryOut lockstep owner

/-- An image is restored alike to two targets that serve all the blocks of its bitmap. -/
theorem restoreBlocks_agrees_of_serves {target : Target τ} {target' : Target τ'} {kept : τ → Prop} {kept' : τ' → Prop}
    {head : Head} {bitmap : Bitmap}
    (serves : target.Serves kept (bitmap.total * head.descriptor.blockSize.toNat))
    (serves' : target'.Serves kept' (bitmap.total * head.descriptor.blockSize.toNat)) (stream : Stream σ)
    (owner : Owner) :
    Agrees (Run.Alike (Beside Eq fun world world' => kept world ∧ kept' world'))
      (restoreBlocks owner stream.ofFirst target.ofSecond head bitmap)
      (restoreBlocks owner stream.ofFirst target'.ofSecond head bitmap) := by
  have reads : stream.Agree Eq stream := fun _ => .refl _
  refine restoreBlocks_agrees reads.ofFirst.readExactly (fun offset bytes fits => ?_) ?_ owner
  · rw [Target.writeAt_ofSecond, Target.writeAt_ofSecond]
    exact (agrees_of_kept (serves.writeAt fits) (serves'.writeAt fits)).onSecond
  · exact (agrees_of_kept serves.sync serves'.sync).onSecond

/-- Where no read fails, an image that was written passes its check. -/
theorem restoreBlocks_discard_leads {stream : Stream σ} {kept : σ → Prop} {view : σ → View}
    (reads : stream.Reads kept view (fun _ => ()) fun _ => False) {owner : Owner} (quiet : owner.Quiet) {head : Head}
    {bitmap : Bitmap} (probed : Probed head.descriptor bitmap) {run : Run (σ × Discard)} (held : kept run.world.1)
    (running : run.running = true)
    (granted : ∀ size ∈ restoringBuffers run.session.config head.width head.options, run.grants size)
    {blocks : List ByteArray} (length : blocks.length = bitmap.marked.length)
    (sizes : ∀ block ∈ blocks, block.size = head.width)
    (data : (view run.world.1).left = Layout.data head.options blocks) :
    Leads (restoreBlocks owner stream.ofFirst Discard.target.ofSecond head bitmap run)
      (fun _ after => kept after.world.1) fun _ _ => False := by
  -- The same image is restored to a device that takes everything.
  let other : Run (σ × Device) := {
    session := run.session
    running := run.running
    looks := run.looks
    events := run.events
    world := (run.world.1, { bytes := ByteArray.empty, faults := .short 1 })
    grants := run.grants }
  let room := bitmap.total * head.descriptor.blockSize.toNat
  let limit := max room (max run.world.2.position run.world.2.length)
  have alike : run.Alike (Beside Eq fun discard device => discard.Within limit ∧ device.faults.Steady) other :=
    ⟨rfl, rfl, rfl, rfl, rfl, rfl, ⟨by omega, by omega⟩, Faults.short_steady (by decide)⟩
  have writes : (Device.target.ofSecond : Target (σ × Device)).Writes
      (fun world => kept world.1 ∧ world.2.faults.Steady) (fun world => world.2.view) (fun world => view world.1)
      fun _ => False :=
    Device.target_ofSecond_writes (fun _ both => both.2.within _) (fun _ _ both same => ⟨both.1, same ▸ both.2⟩)
      fun _ _ => rfl
  have beside := reads.ofFirst (fun device : Device => device.faults.Steady) Device.view
  have restores : Leads (restoreBlocks owner stream.ofFirst Device.target.ofSecond head bitmap other) _ _ :=
    restoreBlocks_leads_of_steady beside writes quiet probed ⟨held, Faults.short_steady (by decide)⟩ running granted
      length sizes data
  obtain ⟨summary, restored, came, ⟨still, _⟩, _⟩ := restores.exists_ok
  have discards : Discard.target.Serves (Discard.Within limit) room := Discard.serves (Nat.le_max_left ..)
  have agrees := restoreBlocks_agrees_of_serves discards (Device.serves room) stream owner
  obtain ⟨after, checked, alike⟩ := (agrees alike).exists_ok came
  rw [checked, leads_ok, alike.world.1]
  exact still

end Transfer

end BlockImage
