import BlockImage.Ends
import BlockImage.Proofs.Bytes
import BlockImage.Proofs.Leads

/-!
# What the ends of a transfer keep to

An end is seen as the bytes it holds and a position. `Reads` and `Writes` say what single calls do to that view: they
move bytes at the position or fail as `fails` allows, and leave alone `kept` and `rest`, what else is known of the
world. From single calls the laws of whole reads and writes follow, and a write that fails has put a prefix.
-/
namespace BlockImage

/-- What is seen of an end: its bytes, and where the next call begins. -/
@[ext] structure View where
  bytes : ByteArray
  position : Nat

namespace View

def seek (view : View) (position : Nat) : View := { view with position }

/-- The next bytes, fewer where the end is near. -/
def take (view : View) (count : Nat) : ByteArray := view.bytes.extract view.position (view.position + count)

def skip (view : View) (count : Nat) : View := view.seek (view.position + count)

/-- The view once bytes are written. -/
def put (view : View) (bytes : ByteArray) : View where
  bytes := Bytes.overwrite view.bytes view.position bytes
  position := view.position + bytes.size

@[simp] theorem skip_zero (view : View) : view.skip 0 = view := rfl

@[simp] theorem skip_skip (view : View) (first second : Nat) :
    (view.skip first).skip second = view.skip (first + second) := by
  simp [skip, seek, Nat.add_assoc]

@[simp] theorem bytes_skip (view : View) (count : Nat) : (view.skip count).bytes = view.bytes := rfl

@[simp] theorem position_skip (view : View) (count : Nat) : (view.skip count).position = view.position + count := rfl

theorem size_take (view : View) (count : Nat) :
    (view.take count).size = min count (view.bytes.size - view.position) := by
  rw [take, ByteArray.size_extract]
  omega

theorem take_add (view : View) (first second : Nat) :
    view.take (first + second) = view.take first ++ (view.skip first).take second := by
  simp only [take, bytes_skip, position_skip, Nat.add_assoc]
  exact ByteArray.extract_eq_extract_append_extract _ (by omega) (by omega)

@[simp] theorem put_empty (view : View) : view.put ByteArray.empty = view := by simp [put]

@[simp] theorem put_put (view : View) (first second : ByteArray) :
    (view.put first).put second = view.put (first ++ second) := by
  simp [put, Bytes.overwrite_append, Nat.add_assoc]

@[simp] theorem position_put (view : View) (bytes : ByteArray) :
    (view.put bytes).position = view.position + bytes.size := rfl

theorem bytes_put (view : View) (bytes : ByteArray) :
    (view.put bytes).bytes = Bytes.overwrite view.bytes view.position bytes := rfl

end View

variable {ω β : Type}

/-- A call leaves alone what is known of the world beside the end itself. -/
structure Frame (kept : ω → Prop) (rest : ω → β) (world after : ω) : Prop where
  kept : kept after
  rest : rest after = rest world

theorem Frame.refl {kept : ω → Prop} {rest : ω → β} {world : ω} (held : kept world) : Frame kept rest world world :=
  ⟨held, rfl⟩

theorem Frame.trans {kept : ω → Prop} {rest : ω → β} {first second third : ω} (left : Frame kept rest first second)
    (right : Frame kept rest second third) : Frame kept rest first third :=
  ⟨right.kept, right.rest.trans left.rest⟩

/-- Reads give the bytes at the position and move it behind them. -/
structure Stream.Reads (stream : Stream ω) (kept : ω → Prop) (view : ω → View) (rest : ω → β)
    (fails : IoError → Prop) : Prop where
  read : ∀ wanted world, 0 < wanted → kept world → Leads (stream.read wanted world)
    (fun bytes after => Frame kept rest world after ∧ bytes = (view world).take bytes.size ∧
      view after = (view world).skip bytes.size ∧
      (bytes.size = 0 → (view world).bytes.size ≤ (view world).position ∨ fails .endOfDevice))
    fun cause after => Frame kept rest world after ∧ (view after).bytes = (view world).bytes ∧ fails cause

structure Source.Reads (source : Source ω) (kept : ω → Prop) (view : ω → View) (rest : ω → β)
    (fails : IoError → Prop) : Prop extends source.toStream.Reads kept view rest fails where
  seek : ∀ position world, kept world → Leads (source.seek position world)
    (fun _ after => Frame kept rest world after ∧ view after = (view world).seek position)
    fun cause after => Frame kept rest world after ∧ (view after).bytes = (view world).bytes ∧ fails cause

/-- Writes put the bytes they take at the position. -/
structure Sink.Writes (sink : Sink ω) (kept : ω → Prop) (view : ω → View) (rest : ω → β)
    (fails : IoError → Prop) : Prop where
  write : ∀ bytes world, 0 < bytes.size → kept world → Leads (sink.write bytes world)
    (fun taken after => Frame kept rest world after ∧ view after = (view world).put (bytes.extract 0 taken) ∧
      (taken = 0 → fails .nothingWritten))
    fun cause after => Frame kept rest world after ∧ view after = view world ∧ fails cause
  sync : ∀ world, kept world → Leads (sink.sync world)
    (fun _ after => Frame kept rest world after ∧ view after = view world)
    fun cause after => Frame kept rest world after ∧ view after = view world ∧ fails cause

structure Target.Writes (target : Target ω) (kept : ω → Prop) (view : ω → View) (rest : ω → β)
    (fails : IoError → Prop) : Prop extends target.toSink.Writes kept view rest fails where
  seek : ∀ position world, kept world → Leads (target.seek position world)
    (fun _ after => Frame kept rest world after ∧ view after = (view world).seek position)
    fun cause after => Frame kept rest world after ∧ view after = view world ∧ fails cause

/-- Nothing is asked of what a stream gives, only that it leaves the rest of the world alone. -/
structure Stream.Apart (stream : Stream ω) (kept : ω → Prop) (rest : ω → β) : Prop where
  read : ∀ wanted world, kept world → Leads (stream.read wanted world)
    (fun _ after => Frame kept rest world after) fun _ after => Frame kept rest world after

structure Source.Apart (source : Source ω) (kept : ω → Prop) (rest : ω → β) : Prop
    extends source.toStream.Apart kept rest where
  seek : ∀ position world, kept world → Leads (source.seek position world)
    (fun _ after => Frame kept rest world after) fun _ after => Frame kept rest world after

variable {kept : ω → Prop} {view : ω → View} {rest : ω → β} {fails : IoError → Prop}

/-! ### Reads -/

/-- Reading on leads to where single reads lead: `holds` is true of the bytes so far, of how many are still wanted and of
the world. -/
theorem Stream.leads_readMore {stream : Stream ω} (holds : ByteArray → Nat → ω → Prop) {failed : IoError → ω → Prop}
    (steps : ∀ got wanted world, 0 < wanted → holds got wanted world → Leads (stream.read wanted world)
      (fun bytes after => bytes.size ≤ wanted →
        if bytes.size = 0 then failed .endOfDevice after else holds (got ++ bytes) (wanted - bytes.size) after)
      failed)
    {got : ByteArray} {wanted : Nat} {world : ω} (start : holds got wanted world) :
    Leads (stream.readMore got wanted world) (fun bytes after => holds bytes 0 after) failed := by
  -- Every read that goes on gives something, so that less is wanted of the next one.
  induction wanted using Nat.strongRecOn generalizing got world with
  | ind wanted ih =>
    rw [Stream.readMore]
    split
    next none =>
      subst none
      exact start
    next some =>
      rw [leads_bind]
      have step := steps got wanted world (by omega) start
      cases result : stream.read wanted world with
      | error cause after => exact step.of_error result
      | ok bytes after =>
        have goes := step.of_ok result (stream.read_le result)
        change Leads ((if bytes.size = 0 then throw .endOfDevice
          else stream.readMore (got ++ bytes) (wanted - bytes.size) : Call ω ByteArray) after) _ _
        split
        next empty =>
          rw [if_pos empty] at goes
          exact goes
        next filled =>
          rw [if_neg filled] at goes
          exact ih (wanted - bytes.size) (by omega) goes

/-- Of the bytes wanted where `world` stands, those so far are the first ones, and the position is behind them. -/
structure Collected (kept : ω → Prop) (view : ω → View) (rest : ω → β) (wanted : Nat) (world : ω) (bytes : ByteArray)
    (left : Nat) (after : ω) : Prop where
  frame : Frame kept rest world after
  total : bytes.size + left = wanted
  taken : bytes = (view world).take bytes.size
  stands : view after = (view world).skip bytes.size

theorem Stream.Reads.readExactly {stream : Stream ω} (reads : stream.Reads kept view rest fails) (wanted : Nat)
    (world : ω) (held : kept world) :
    Leads (stream.readExactly wanted world)
      (fun bytes after => Frame kept rest world after ∧ bytes = (view world).take wanted ∧ bytes.size = wanted ∧
        view after = (view world).skip wanted)
      fun cause after => Frame kept rest world after ∧ (view after).bytes = (view world).bytes ∧
        (fails cause ∨ cause = .endOfDevice ∧ (view world).bytes.size < (view world).position + wanted) := by
  have start : Collected kept view rest wanted world ByteArray.empty wanted world := by
    have nothing : (view world).take 0 = ByteArray.empty := by simp [View.take]
    exact ⟨.refl held, Nat.zero_add _, nothing.symm, rfl⟩
  refine (Stream.leads_readMore (Collected kept view rest wanted world) ?_ start).weaken ?_
  · rintro got left between positive ⟨frame, total, taken, stands⟩
    refine (reads.read left between positive frame.kept).mono ?_ ?_
    · rintro bytes after ⟨later, given, moved, ended⟩ bound
      rw [stands] at given moved ended
      split
      next empty =>
        -- Nothing comes only at the end, which then lies within the bytes that are still wanted.
        refine ⟨frame.trans later, by rw [moved]; rfl, ?_⟩
        rcases ended empty with past | fault
        · rw [View.bytes_skip, View.position_skip] at past
          exact .inr ⟨rfl, by omega⟩
        · exact .inl fault
      next filled =>
        refine ⟨frame.trans later, ?_, ?_, ?_⟩
        · rw [ByteArray.size_append]
          omega
        · rw [ByteArray.size_append, View.take_add, ← taken, ← given]
        · rw [moved, View.skip_skip, ByteArray.size_append]
    · rintro cause after ⟨later, same, fault⟩
      rw [stands] at same
      exact ⟨frame.trans later, same, .inl fault⟩
  · rintro bytes after ⟨frame, total, taken, stands⟩
    rw [Nat.add_zero] at total
    rw [total] at taken stands
    exact ⟨frame, taken, total, stands⟩

theorem Source.Reads.readAt {source : Source ω} (reads : source.Reads kept view rest fails) (offset wanted : Nat)
    (world : ω) (held : kept world) :
    Leads (source.readAt offset wanted world)
      (fun bytes after => Frame kept rest world after ∧ bytes = (view world).bytes.extract offset (offset + wanted) ∧
        bytes.size = wanted ∧ (view after).bytes = (view world).bytes)
      fun cause after => Frame kept rest world after ∧ (view after).bytes = (view world).bytes ∧
        (fails cause ∨ cause = .endOfDevice ∧ (view world).bytes.size < offset + wanted) := by
  rw [Source.readAt, leads_bind]
  refine (reads.seek offset world held).mono ?_ ?_
  · rintro _ there ⟨frame, moved⟩
    refine (reads.readExactly wanted there frame.kept).mono ?_ ?_
    · rintro bytes after ⟨later, given, size, skipped⟩
      rw [moved] at given skipped
      exact ⟨frame.trans later, given, size, by rw [skipped]; rfl⟩
    · rintro cause after ⟨later, same, reason⟩
      rw [moved] at same reason
      exact ⟨frame.trans later, same, reason⟩
  · rintro cause after ⟨frame, same, fault⟩
    exact ⟨frame, same, .inl fault⟩

/-! ### Writes -/

theorem Sink.Writes.writeAll {sink : Sink ω} (writes : sink.Writes kept view rest fails) (bytes : ByteArray)
    (world : ω) (held : kept world) :
    Leads (sink.writeAll bytes world)
      (fun _ after => Frame kept rest world after ∧ view after = (view world).put bytes)
      fun cause after => Frame kept rest world after ∧ fails cause ∧
        ∃ done ≤ bytes.size, view after = (view world).put (bytes.extract 0 done) := by
  induction size : bytes.size using Nat.strongRecOn generalizing bytes world with
  | ind total ih =>
    subst size
    rw [Sink.writeAll]
    split
    next none =>
      rw [leads_pure, ByteArray.size_eq_zero_iff.mp none, View.put_empty]
      exact ⟨.refl held, rfl⟩
    next some =>
      rw [leads_bind]
      have called := writes.write bytes world (by omega) held
      cases result : sink.write bytes world with
      | error cause after =>
        rw [result] at called
        obtain ⟨frame, same, fault⟩ := called
        exact ⟨frame, fault, 0, by omega, by simp [same]⟩
      | ok taken after =>
        rw [result] at called
        obtain ⟨frame, placed, stuck⟩ := called
        have bound : taken ≤ bytes.size := sink.write_le result
        change Leads ((if taken = 0 then throw .nothingWritten
          else sink.writeAll (bytes.extract taken bytes.size) : Call ω Unit) after) _ _
        split
        next idle => exact ⟨frame, stuck idle, taken, bound, placed⟩
        next moved =>
          -- What is taken and a prefix of what is left make up a prefix of the whole.
          have pieces (stop : Nat) (within : taken ≤ stop) :
              bytes.extract 0 taken ++ bytes.extract taken stop = bytes.extract 0 stop :=
            (ByteArray.extract_eq_extract_append_extract taken (by omega) within).symm
          have left : (bytes.extract taken bytes.size).size = bytes.size - taken := by
            rw [ByteArray.size_extract, Nat.min_self]
          refine (ih _ (by omega) (bytes.extract taken bytes.size) after frame.kept rfl).mono ?_ ?_
          · rintro _ final ⟨later, rest⟩
            refine ⟨frame.trans later, ?_⟩
            rw [rest, placed, View.put_put, pieces _ bound, Bytes.extract_eq_self (Nat.le_refl _)]
          · rintro cause final ⟨later, fault, done, within, rest⟩
            refine ⟨frame.trans later, fault, taken + done, by omega, ?_⟩
            have piece : (bytes.extract taken bytes.size).extract 0 done = bytes.extract taken (taken + done) := by
              rw [ByteArray.extract_extract, Nat.add_zero, Nat.min_eq_left (by omega)]
            rw [rest, placed, View.put_put, piece, pieces _ (by omega)]

theorem Target.Writes.writeAt {target : Target ω} (writes : target.Writes kept view rest fails) (offset : Nat)
    (bytes : ByteArray) (world : ω) (held : kept world) :
    Leads (target.writeAt offset bytes world)
      (fun _ after => Frame kept rest world after ∧ view after = ((view world).seek offset).put bytes)
      fun cause after => Frame kept rest world after ∧ fails cause ∧ (view after = view world ∨
        ∃ done ≤ bytes.size, view after = ((view world).seek offset).put (bytes.extract 0 done)) := by
  rw [Target.writeAt, leads_bind]
  refine (writes.seek offset world held).mono ?_ ?_
  · rintro _ there ⟨frame, moved⟩
    refine (writes.writeAll bytes there frame.kept).mono ?_ ?_
    · rintro _ after ⟨later, placed⟩
      exact ⟨frame.trans later, by rw [placed, moved]⟩
    · rintro cause after ⟨later, fault, done, within, placed⟩
      exact ⟨frame.trans later, fault, .inr ⟨done, within, by rw [placed, moved]⟩⟩
  · rintro cause after ⟨frame, same, fault⟩
    exact ⟨frame, fault, .inl same⟩

/-! ### Reads that leave the rest of the world alone -/

theorem Stream.Apart.readExactly {stream : Stream ω} (apart : stream.Apart kept rest) (wanted : Nat) (world : ω)
    (held : kept world) :
    Leads (stream.readExactly wanted world)
      (fun bytes after => Frame kept rest world after ∧ bytes.size = wanted)
      fun _ after => Frame kept rest world after := by
  refine Stream.leads_readMore
    (fun bytes left after => Frame kept rest world after ∧ bytes.size + left = wanted) ?_ ⟨.refl held, Nat.zero_add _⟩
  rintro got left between - ⟨frame, total⟩
  refine (apart.read left between frame.kept).mono ?_ fun _ _ later => frame.trans later
  intro bytes after later bound
  split
  next empty => exact frame.trans later
  next filled =>
    refine ⟨frame.trans later, ?_⟩
    rw [ByteArray.size_append]
    omega

/-- A whole read gives as many bytes as are wanted, whatever the stream. -/
theorem Stream.leads_size_readExactly (stream : Stream ω) (wanted : Nat) (world : ω) :
    Leads (stream.readExactly wanted world) (fun bytes _ => bytes.size = wanted) fun _ _ => True := by
  have apart : stream.Apart (fun _ => True) fun _ => () :=
    ⟨fun _ _ _ => .of_all (fun _ _ => ⟨trivial, rfl⟩) fun _ _ => ⟨trivial, rfl⟩⟩
  exact (apart.readExactly wanted world trivial).mono (fun _ _ given => given.2) fun _ _ _ => trivial

theorem Source.Apart.readAt {source : Source ω} (apart : source.Apart kept rest) (offset wanted : Nat) (world : ω)
    (held : kept world) :
    Leads (source.readAt offset wanted world)
      (fun bytes after => Frame kept rest world after ∧ bytes.size = wanted)
      fun _ after => Frame kept rest world after := by
  rw [Source.readAt, leads_bind]
  refine (apart.seek offset world held).mono ?_ fun _ _ frame => frame
  intro _ there frame
  refine (apart.readExactly wanted there frame.kept).mono ?_ fun _ _ later => frame.trans later
  rintro bytes after ⟨later, size⟩
  exact ⟨frame.trans later, size⟩

end BlockImage
