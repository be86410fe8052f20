import BlockImage.Ends.ReadAhead
import BlockImage.Proofs.Ends

/-!
# Streams that are read ahead

What is held of a stream is still to come from it. Seen so, reading ahead gives the same bytes as the stream itself, and
what is written beside it does not disturb it.
-/
namespace BlockImage

namespace View

theorem extract_take (view : View) {count fewer : Nat} (within : fewer ≤ count) :
    (view.take count).extract 0 fewer = view.take fewer := by
  rw [take, ByteArray.extract_extract, take, Nat.min_eq_left (by omega)]
  rfl

theorem extract_take_behind (view : View) {count fewer : Nat} (within : fewer ≤ count) :
    (view.take count).extract fewer count = (view.skip fewer).take (count - fewer) := by
  have stop : view.position + fewer + (count - fewer) = view.position + count := by omega
  rw [take, ByteArray.extract_extract, Nat.min_self, take, position_skip, stop]
  rfl

end View

namespace ReadAhead

variable {ω α ε : Type} {kept : ω → Prop} {view : ω → View}

/-- What is seen of a stream by one who is handed the held bytes first. -/
def ahead (view : ω → View) (buffered : ReadAhead ω) : View :=
  (view buffered.world).seek ((view buffered.world).position - buffered.held.size)

/-- The held bytes are the last ones before the position of the stream. -/
structure Follows (kept : ω → Prop) (view : ω → View) (buffered : ReadAhead ω) : Prop where
  kept : kept buffered.world
  within : buffered.held.size ≤ (view buffered.world).position
  held : buffered.held = (ahead view buffered).take buffered.held.size

theorem ahead_of_none {buffered : ReadAhead ω} (none : buffered.held.size = 0) :
    ahead view buffered = view buffered.world := by
  rw [ahead, none]
  rfl

theorem follows_of_none {buffered : ReadAhead ω} (held : kept buffered.world) (none : buffered.held.size = 0) :
    Follows kept view buffered where
  kept := held
  within := by
    rw [none]
    exact Nat.zero_le _
  held := by
    rw [none, ByteArray.size_eq_zero_iff.mp none]
    exact (ByteArray.extract_eq_empty_iff.mpr (by omega)).symm

@[simp] theorem leads_below {body : EStateM ε ω α} {buffered : ReadAhead ω} {returned : α → ReadAhead ω → Prop}
    {failed : ε → ReadAhead ω → Prop} :
    Leads (below body buffered) returned failed ↔
      Leads (body buffered.world) (fun value world => returned value { buffered with world })
        fun failure world => failed failure { buffered with world } := by
  unfold below
  cases body buffered.world <;> rfl

/-- Held bytes are handed out in order. -/
theorem handOut_leads {buffered : ReadAhead ω} (follows : Follows kept view buffered) (wanted : Nat) :
    Leads (handOut wanted buffered)
      (fun bytes after => Follows kept view after ∧ after.world = buffered.world ∧
        bytes = (ahead view buffered).take bytes.size ∧ ahead view after = (ahead view buffered).skip bytes.size ∧
        bytes.size = min wanted buffered.held.size)
      fun _ _ => False := by
  have within := follows.within
  have size : (buffered.held.extract 0 wanted).size = min wanted buffered.held.size := by
    rw [ByteArray.size_extract, Nat.sub_zero]
  have left : (buffered.held.extract wanted buffered.held.size).size =
      buffered.held.size - min wanted buffered.held.size := by
    rw [ByteArray.size_extract]
    omega
  -- What is left over is what comes behind the bytes that are handed out.
  have moved : ahead view { buffered with held := buffered.held.extract wanted buffered.held.size } =
      (ahead view buffered).skip (min wanted buffered.held.size) := by
    have place : (view buffered.world).position - (buffered.held.size - min wanted buffered.held.size) =
        (view buffered.world).position - buffered.held.size + min wanted buffered.held.size := by omega
    rw [ahead, left, place]
    rfl
  refine ⟨⟨follows.kept, ?_, ?_⟩, rfl, ?_, ?_, size⟩
  · rw [left]
    exact Nat.le_trans (Nat.sub_le _ _) within
  · rw [moved, left]
    rcases Nat.le_total wanted buffered.held.size with fewer | more
    · rw [Nat.min_eq_left fewer, ← View.extract_take_behind _ fewer, ← follows.held]
    · rw [Nat.min_eq_right more, Nat.sub_self]
      have none : buffered.held.extract wanted buffered.held.size = ByteArray.empty :=
        ByteArray.extract_eq_empty_iff.mpr (by omega)
      rw [none]
      exact (ByteArray.extract_eq_empty_iff.mpr (by omega)).symm
  · rw [size, ← View.extract_take _ (Nat.min_le_right wanted buffered.held.size), ← follows.held]
    rcases Nat.le_total wanted buffered.held.size with fewer | more
    · rw [Nat.min_eq_left fewer]
    · rw [Nat.min_eq_right more, Bytes.extract_eq_self more, Bytes.extract_eq_self (Nat.le_refl _)]
  · rw [moved, size]

end ReadAhead

open ReadAhead

variable {ω σ τ β : Type} {kept : ω → Prop} {view : ω → View} {rest : ω → β} {fails : IoError → Prop}

/-- A stream that is read ahead gives the bytes of the stream. -/
theorem Stream.Reads.readAhead {stream : Stream ω} (reads : stream.Reads kept view rest fails) :
    stream.readAhead.Reads (Follows kept view) (ahead view) (fun buffered => rest buffered.world) fails where
  read wanted buffered positive follows := by
    change Leads (ReadAhead.read stream wanted buffered) _ _
    rw [ReadAhead.read, leads_bind, leads_get]
    split
    next some =>
      refine (handOut_leads follows wanted).mono ?_ fun _ _ none => none.elim
      rintro bytes after ⟨follows, same, given, moved, size⟩
      exact ⟨⟨follows, congrArg rest same⟩, given, moved, by omega⟩
    next none =>
      have none : buffered.held.size = 0 := by omega
      have same : ahead view buffered = view buffered.world := ahead_of_none none
      split
      next large =>
        -- Nothing is held, so the request is one for the stream itself.
        rw [leads_below]
        refine (reads.read wanted buffered.world positive follows.kept).mono ?_ ?_
        · rintro bytes after ⟨frame, given, moved, ended⟩
          have behind : ahead view { world := after, held := buffered.held } = view after := ahead_of_none none
          rw [same, behind]
          exact ⟨⟨follows_of_none frame.kept none, frame.rest⟩, given, moved, ended⟩
        · rintro cause after ⟨frame, bytes, fault⟩
          rw [same]
          exact ⟨⟨follows_of_none frame.kept none, frame.rest⟩, bytes, fault⟩
      next small =>
        rw [leads_bind, fetch, leads_bind, leads_below]
        refine (reads.read pieceSize buffered.world (by decide) follows.kept).mono ?_ ?_
        · rintro piece after ⟨frame, given, moved, ended⟩
          rw [leads_modify]
          have behind : ahead view { world := after, held := piece } = view buffered.world := by
            rw [ahead, moved, View.position_skip, Nat.add_sub_cancel]
            rfl
          have follows : Follows kept view { world := after, held := piece } := by
            refine ⟨frame.kept, ?_, ?_⟩
            · rw [moved, View.position_skip]
              exact Nat.le_add_left _ _
            · rw [behind]
              exact given
          refine (handOut_leads follows wanted).mono ?_ fun _ _ none => none.elim
          rintro bytes last ⟨follows, world, given, moved, size⟩
          rw [behind] at given moved
          rw [same]
          refine ⟨⟨follows, (congrArg rest world).trans frame.rest⟩, given, moved, fun empty => ended ?_⟩
          rw [empty] at size
          change 0 = min wanted piece.size at size
          omega
        · rintro cause after ⟨frame, bytes, fault⟩
          rw [same]
          exact ⟨⟨follows_of_none frame.kept none, frame.rest⟩, bytes, fault⟩

/-- What is read ahead leaves alone what the stream leaves alone. -/
theorem Stream.Apart.readAhead {stream : Stream ω} (apart : stream.Apart kept rest) :
    stream.readAhead.Apart (fun buffered => kept buffered.world) fun buffered => rest buffered.world where
  read wanted buffered held := by
    have hands (buffered' : ReadAhead ω) (frame : Frame kept rest buffered.world buffered'.world) :
        Leads (handOut wanted buffered')
          (fun _ after => Frame (fun buffered => kept buffered.world) (fun buffered => rest buffered.world) buffered after)
          fun _ after => Frame (fun buffered => kept buffered.world) (fun buffered => rest buffered.world) buffered after :=
      ⟨frame.kept, frame.rest⟩
    change Leads (ReadAhead.read stream wanted buffered) _ _
    rw [ReadAhead.read, leads_bind, leads_get]
    split
    next some => exact hands buffered (.refl held)
    next none =>
      split
      next large =>
        rw [leads_below]
        exact (apart.read wanted buffered.world held).mono (fun _ _ frame => ⟨frame.kept, frame.rest⟩)
          fun _ _ frame => ⟨frame.kept, frame.rest⟩
      next small =>
        rw [leads_bind, fetch, leads_bind, leads_below]
        exact (apart.read pieceSize buffered.world held).mono (fun piece _ frame => hands _ frame)
          fun _ _ frame => ⟨frame.kept, frame.rest⟩

/-- Whatever is held of a stream, writing beside it is writing to the target. -/
theorem Target.Writes.beside {target : Target ω} (writes : target.Writes kept view rest fails) :
    target.besideReadAhead.Writes (fun buffered => kept buffered.world) (fun buffered => view buffered.world)
      (fun buffered => rest buffered.world) fails where
  write bytes buffered positive held := by
    refine leads_below.mpr ((writes.write bytes buffered.world positive held).mono ?_ ?_)
    · rintro taken after ⟨frame, placed, idle⟩
      exact ⟨⟨frame.kept, frame.rest⟩, placed, idle⟩
    · rintro cause after ⟨frame, same, fault⟩
      exact ⟨⟨frame.kept, frame.rest⟩, same, fault⟩
  sync buffered held := by
    refine leads_below.mpr ((writes.sync buffered.world held).mono ?_ ?_)
    · rintro _ after ⟨frame, same⟩
      exact ⟨⟨frame.kept, frame.rest⟩, same⟩
    · rintro cause after ⟨frame, same, fault⟩
      exact ⟨⟨frame.kept, frame.rest⟩, same, fault⟩
  seek position buffered held := by
    refine leads_below.mpr ((writes.seek position buffered.world held).mono ?_ ?_)
    · rintro _ after ⟨frame, moved⟩
      exact ⟨⟨frame.kept, frame.rest⟩, moved⟩
    · rintro cause after ⟨frame, same, fault⟩
      exact ⟨⟨frame.kept, frame.rest⟩, same, fault⟩

theorem ReadAhead.ahead_of_same {buffered : ReadAhead ω} {after : ω} (same : view after = view buffered.world) :
    ahead view { buffered with world := after } = ahead view buffered := by
  rw [ahead, same]
  rfl

/-- What is held is still ahead in another world in which the stream is seen as before. -/
theorem ReadAhead.Follows.of_same {still : ω → Prop} {buffered : ReadAhead ω} (follows : Follows kept view buffered)
    {after : ω} (held : still after) (same : view after = view buffered.world) :
    Follows still view { buffered with world := after } where
  kept := held
  within := by
    rw [same]
    exact follows.within
  held := by
    rw [ahead_of_same same]
    exact follows.held

/-- What leaves a stream alone also leaves alone what is held of it. -/
theorem ReadAhead.Follows.beside {buffered : ReadAhead ω} (follows : Follows kept view buffered) {after : ω}
    (frame : Frame kept view buffered.world after) :
    Frame (Follows kept view) (ahead view) buffered { buffered with world := after } :=
  ⟨follows.of_same frame.kept frame.rest, ahead_of_same frame.rest⟩

/-- Writing beside a stream that is read ahead is writing to the target. -/
theorem Target.Writes.besideReadAhead {target : Target ω} {output : ω → View}
    (writes : target.Writes kept output view fails) :
    target.besideReadAhead.Writes (Follows kept view) (fun buffered => output buffered.world) (ahead view) fails where
  write bytes buffered positive follows := by
    refine leads_below.mpr ((writes.write bytes buffered.world positive follows.kept).mono ?_ ?_)
    · rintro taken after ⟨frame, placed, idle⟩
      exact ⟨follows.beside frame, placed, idle⟩
    · rintro cause after ⟨frame, same, fault⟩
      exact ⟨follows.beside frame, same, fault⟩
  sync buffered follows := by
    refine leads_below.mpr ((writes.sync buffered.world follows.kept).mono ?_ ?_)
    · rintro _ after ⟨frame, same⟩
      exact ⟨follows.beside frame, same⟩
    · rintro cause after ⟨frame, same, fault⟩
      exact ⟨follows.beside frame, same, fault⟩
  seek position buffered follows := by
    refine leads_below.mpr ((writes.seek position buffered.world follows.kept).mono ?_ ?_)
    · rintro _ after ⟨frame, moved⟩
      exact ⟨follows.beside frame, moved⟩
    · rintro cause after ⟨frame, same, fault⟩
      exact ⟨follows.beside frame, same, fault⟩

end BlockImage
