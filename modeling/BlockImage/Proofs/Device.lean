import BlockImage.Device
import BlockImage.Ends.Pair
import BlockImage.Proofs.Ends

/-!
# Devices keep to what ends keep to

Faults within `fails` are those by which calls fail only as `fails` allows; calls may move fewer bytes than they are
asked to. All faults are within `fun _ => True`, and steady ones, by which no call fails, within `fun _ => False`.
-/
namespace BlockImage

/-- Calls fail as `fails` allows only. A call that moves nothing where it could makes its caller fail. -/
structure Faults.Within (faults : Faults) (fails : IoError → Prop) : Prop where
  onRead : ∀ call position wanted, 0 < wanted → match faults.onRead call position wanted with
    | .moves atMost => atMost = 0 → fails .endOfDevice
    | .fails cause => fails cause
  onWrite : ∀ call size position offered, 0 < offered → match faults.onWrite call size position offered with
    | .moves atMost => atMost = 0 → fails .nothingWritten
    | .fails cause => fails cause
  onSync : ∀ call cause, faults.onSync call = some cause → fails cause

/-- No call fails, though calls may move fewer bytes than they are asked to. -/
structure Faults.Steady (faults : Faults) : Prop where
  onRead : ∀ call position wanted, 0 < wanted →
    ∃ atMost, 0 < atMost ∧ faults.onRead call position wanted = .moves atMost
  onWrite : ∀ call size position offered, 0 < offered →
    ∃ atMost, 0 < atMost ∧ faults.onWrite call size position offered = .moves atMost
  onSync : ∀ call, faults.onSync call = .none

/-- Every call moves at most so many bytes. -/
def Faults.short (atMost : Nat) : Faults where
  onRead _ _ _ := .moves atMost
  onWrite _ _ _ _ := .moves atMost
  onSync _ := .none

theorem Faults.short_steady {atMost : Nat} (positive : 0 < atMost) : (short atMost).Steady where
  onRead _ _ _ _ := ⟨atMost, positive, rfl⟩
  onWrite _ _ _ _ _ := ⟨atMost, positive, rfl⟩
  onSync _ := rfl

theorem Faults.Steady.within {faults : Faults} (steady : faults.Steady) (fails : IoError → Prop) :
    faults.Within fails where
  onRead call position wanted positive := by
    obtain ⟨atMost, moves, answer⟩ := steady.onRead call position wanted positive
    rw [answer]
    exact fun idle => absurd idle (by omega)
  onWrite call size position offered positive := by
    obtain ⟨atMost, moves, answer⟩ := steady.onWrite call size position offered positive
    rw [answer]
    exact fun idle => absurd idle (by omega)
  onSync call cause answer := by
    rw [steady.onSync] at answer
    cases answer

theorem Faults.within_all (faults : Faults) : faults.Within fun _ => True where
  onRead call position wanted _ := by split <;> simp
  onWrite call size position offered _ := by split <;> simp
  onSync _ _ _ := trivial

section Pairs

variable {ε σ τ α : Type} {returned : α → σ × τ → Prop} {failed : ε → σ × τ → Prop} {world : σ × τ}

@[simp] theorem leads_onFirst {body : EStateM ε σ α} :
    Leads (onFirst body world) returned failed ↔
      Leads (body world.1) (fun value first => returned value (first, world.2))
        fun failure first => failed failure (first, world.2) := by
  unfold onFirst
  -- On either exit only the first side has changed.
  cases body world.1 <;> rfl

@[simp] theorem leads_onSecond {body : EStateM ε τ α} :
    Leads (onSecond body world) returned failed ↔
      Leads (body world.2) (fun value second => returned value (world.1, second))
        fun failure second => failed failure (world.1, second) := by
  unfold onSecond
  cases body world.2 <;> rfl

end Pairs

/-! ### Whole reads and writes on one side -/

section Sides

variable {ε σ τ α β : Type}

theorem onFirst_bind (body : EStateM ε σ α) (next : α → EStateM ε σ β) :
    (onFirst (body >>= next) : EStateM ε (σ × τ) β) = (onFirst body >>= fun value => onFirst (next value)) := by
  funext world
  change onFirst (EStateM.bind body next) world = EStateM.bind (onFirst body) _ world
  simp only [onFirst, EStateM.bind]
  cases body world.1 <;> rfl

theorem onSecond_bind (body : EStateM ε τ α) (next : α → EStateM ε τ β) :
    (onSecond (body >>= next) : EStateM ε (σ × τ) β) = (onSecond body >>= fun value => onSecond (next value)) := by
  funext world
  change onSecond (EStateM.bind body next) world = EStateM.bind (onSecond body) _ world
  simp only [onSecond, EStateM.bind]
  cases body world.2 <;> rfl

theorem Stream.readMore_ofFirst (stream : Stream σ) (got : ByteArray) (wanted : Nat) :
    (stream.ofFirst : Stream (σ × τ)).readMore got wanted = onFirst (stream.readMore got wanted) := by
  -- Every read that goes on gives something, so that less is wanted of the next one.
  induction wanted using Nat.strongRecOn generalizing got with
  | ind wanted ih =>
    rw [readMore, readMore]
    split
    next none => rfl
    next some =>
      rw [onFirst_bind]
      congr 1
      funext bytes
      split
      next empty => rfl
      next filled => exact ih (wanted - bytes.size) (by omega) _

theorem Source.readAt_ofFirst (source : Source σ) (offset wanted : Nat) :
    (source.ofFirst : Source (σ × τ)).readAt offset wanted = onFirst (source.readAt offset wanted) := by
  rw [readAt, readAt, onFirst_bind]
  congr 1
  funext _
  exact source.toStream.readMore_ofFirst _ _

theorem Sink.writeAll_ofSecond (sink : Sink τ) (bytes : ByteArray) :
    (sink.ofSecond : Sink (σ × τ)).writeAll bytes = onSecond (sink.writeAll bytes) := by
  induction size : bytes.size using Nat.strongRecOn generalizing bytes with
  | ind total ih =>
    subst size
    rw [writeAll, writeAll]
    split
    next none => rfl
    next some =>
      rw [onSecond_bind]
      congr 1
      funext taken
      split
      next idle => rfl
      next moved =>
        refine ih _ ?_ _ rfl
        rw [ByteArray.size_extract]
        omega

theorem Target.writeAt_ofSecond (target : Target τ) (offset : Nat) (bytes : ByteArray) :
    (target.ofSecond : Target (σ × τ)).writeAt offset bytes = onSecond (target.writeAt offset bytes) := by
  rw [writeAt, writeAt, onSecond_bind]
  congr 1
  funext _
  exact target.toSink.writeAll_ofSecond bytes

end Sides

namespace Device

/-- A device as it is seen from outside. -/
def view (device : Device) : View := { bytes := device.bytes, position := device.position }

variable {τ σ β : Type} {fails : IoError → Prop}

/-! ### Single calls -/

theorem read_leads {device : Device} (within : device.faults.Within fails) {wanted : Nat} (positive : 0 < wanted) :
    Leads (read wanted device)
      (fun bytes after => after.faults = device.faults ∧ bytes = device.view.take bytes.size ∧
        after.view = device.view.skip bytes.size ∧
        (bytes.size = 0 → device.view.bytes.size ≤ device.view.position ∨ fails .endOfDevice))
      fun cause after => after.faults = device.faults ∧ after.view = device.view ∧ fails cause := by
  have allowed := within.onRead device.calls device.position wanted positive
  unfold read
  cases answer : device.faults.onRead device.calls device.position wanted with
  | fails cause =>
    rw [answer] at allowed
    exact ⟨rfl, rfl, allowed⟩
  | moves atMost =>
    rw [answer] at allowed
    refine ⟨rfl, (Bytes.extract_extent ..).symm, rfl, fun empty => ?_⟩
    rw [ByteArray.size_extract] at empty
    -- Nothing came: the device moved nothing, or there was nothing behind the position.
    by_cases idle : atMost = 0
    · exact .inr (allowed idle)
    · exact .inl (by simp only [view]; omega)

theorem write_leads {device : Device} (within : device.faults.Within fails) {offered : ByteArray}
    (positive : 0 < offered.size) :
    Leads (write offered device)
      (fun taken after => after.faults = device.faults ∧ after.view = device.view.put (offered.extract 0 taken) ∧
        (taken = 0 → fails .nothingWritten))
      fun cause after => after.faults = device.faults ∧ after.view = device.view ∧ fails cause := by
  have allowed := within.onWrite device.calls device.bytes.size device.position offered.size positive
  unfold write
  cases answer : device.faults.onWrite device.calls device.bytes.size device.position offered.size with
  | fails cause =>
    rw [answer] at allowed
    exact ⟨rfl, rfl, allowed⟩
  | moves atMost =>
    rw [answer] at allowed
    have extent := Bytes.extract_extent offered 0 atMost
    rw [Nat.zero_add] at extent
    refine ⟨rfl, ?_, fun idle => ?_⟩
    · rw [extent]
      rfl
    · -- Something is offered, so nothing is taken only where the device moves nothing.
      rw [ByteArray.size_extract] at idle
      exact allowed (by omega)

theorem sync_leads {device : Device} (within : device.faults.Within fails) :
    Leads (sync device) (fun _ after => after.faults = device.faults ∧ after.view = device.view)
      fun cause after => after.faults = device.faults ∧ after.view = device.view ∧ fails cause := by
  unfold sync
  cases answer : device.faults.onSync device.syncs with
  | none => exact ⟨rfl, rfl⟩
  | some cause => exact ⟨rfl, rfl, within.onSync _ _ answer⟩

/-! ### A device on its own -/

/-- A device is a source as long as its faults stay within what is allowed. -/
theorem source_reads_of {kept : Device → Prop} (within : ∀ device, kept device → device.faults.Within fails)
    (stays : ∀ device after, kept device → after.faults = device.faults → after.bytes = device.bytes → kept after) :
    source.Reads kept view (fun _ => ()) fails where
  read wanted device positive held := by
    refine (read_leads (within device held) positive).mono ?_ ?_
    · intro given after ⟨same, taken, moved, ended⟩
      exact ⟨⟨stays _ _ held same (congrArg View.bytes moved), rfl⟩, taken, moved, ended⟩
    · intro cause after ⟨same, stood, fault⟩
      exact ⟨⟨stays _ _ held same (congrArg View.bytes stood), rfl⟩, by rw [stood], fault⟩
  seek position device held := ⟨⟨stays _ _ held rfl rfl, rfl⟩, rfl⟩

/-- Whatever the faults of a device are, they stay, and it gives what it holds. -/
theorem source_reads_same (bytes : ByteArray) (faults : Faults) :
    source.Reads (fun device => device.bytes = bytes ∧ device.faults = faults) view (fun _ => ()) fun _ => True :=
  source_reads_of (fun device _ => device.faults.within_all)
    fun _ _ held same stood => ⟨stood.trans held.1, same.trans held.2⟩

theorem source_reads (bytes : ByteArray) :
    source.Reads (fun device => device.bytes = bytes) view (fun _ => ()) fun _ => True :=
  source_reads_of (fun device _ => device.faults.within_all) fun _ _ held _ stood => stood.trans held

/-- No read fails, and the device stays steady. -/
theorem source_reads_steady : source.Reads (fun device => device.faults.Steady) view (fun _ => ()) fun _ => False :=
  source_reads_of (fun _ steady => steady.within _) fun _ _ steady same _ => same ▸ steady

/-- A device is a target as long as its faults stay within what is allowed. -/
theorem target_writes_of {kept : Device → Prop} (within : ∀ device, kept device → device.faults.Within fails)
    (stays : ∀ device after, kept device → after.faults = device.faults → kept after) :
    target.Writes kept view (fun _ => ()) fails where
  write bytes device positive held := by
    refine (write_leads (within device held) positive).mono ?_ ?_
    · intro taken after ⟨same, placed, idle⟩
      exact ⟨⟨stays _ _ held same, rfl⟩, placed, idle⟩
    · intro cause after ⟨same, stood, fault⟩
      exact ⟨⟨stays _ _ held same, rfl⟩, stood, fault⟩
  sync device held := by
    refine (sync_leads (within device held)).mono ?_ ?_
    · intro _ after ⟨same, stood⟩
      exact ⟨⟨stays _ _ held same, rfl⟩, stood⟩
    · intro cause after ⟨same, stood, fault⟩
      exact ⟨⟨stays _ _ held same, rfl⟩, stood, fault⟩
  seek position device held := ⟨⟨stays _ _ held rfl, rfl⟩, rfl⟩

/-- Whatever the faults of a device are, they stay, and it is written to as it is asked. -/
theorem target_writes (faults : Faults) :
    target.Writes (fun device => device.faults = faults) view (fun _ => ()) fun _ => True :=
  target_writes_of (fun device _ => device.faults.within_all) fun _ _ held same => same.trans held

/-- No write fails, and the device stays steady. -/
theorem target_writes_steady : target.Writes (fun device => device.faults.Steady) view (fun _ => ()) fun _ => False :=
  target_writes_of (fun _ steady => steady.within _) fun _ _ steady same => same ▸ steady

/-! ### Devices in a world of two sides -/

/-- A device on the first side of a world is a source as long as its faults stay within what is allowed. -/
theorem source_ofFirst_reads {kept : Device × τ → Prop} {rest : Device × τ → β}
    (within : ∀ world, kept world → world.1.faults.Within fails)
    (stays : ∀ world first, kept world → first.faults = world.1.faults → first.bytes = world.1.bytes →
      kept (first, world.2))
    (apart : ∀ world first, rest (first, world.2) = rest world) :
    (source.ofFirst : Source (Device × τ)).Reads kept (fun world => world.1.view) rest fails where
  read wanted world positive held := by
    refine leads_onFirst.mpr ((read_leads (within world held) positive).mono ?_ ?_)
    · rintro bytes first ⟨same, given, moved, ended⟩
      exact ⟨⟨stays _ _ held same (congrArg View.bytes moved), apart _ _⟩, given, moved, ended⟩
    · rintro cause first ⟨same, stood, fault⟩
      exact ⟨⟨stays _ _ held same (congrArg View.bytes stood), apart _ _⟩, by rw [stood], fault⟩
  seek position world held := ⟨⟨stays _ _ held rfl rfl, apart _ _⟩, rfl⟩

/-- A device on the second side of a world is a target as long as its faults stay within what is allowed. -/
theorem target_ofSecond_writes {kept : σ × Device → Prop} {rest : σ × Device → β}
    (within : ∀ world, kept world → world.2.faults.Within fails)
    (stays : ∀ world second, kept world → second.faults = world.2.faults → kept (world.1, second))
    (apart : ∀ world second, rest (world.1, second) = rest world) :
    (target.ofSecond : Target (σ × Device)).Writes kept (fun world => world.2.view) rest fails where
  write bytes world positive held := by
    refine leads_onSecond.mpr ((write_leads (within world held) positive).mono ?_ ?_)
    · rintro taken second ⟨same, placed, idle⟩
      exact ⟨⟨stays _ _ held same, apart _ _⟩, placed, idle⟩
    · rintro cause second ⟨same, stood, fault⟩
      exact ⟨⟨stays _ _ held same, apart _ _⟩, stood, fault⟩
  sync world held := by
    refine leads_onSecond.mpr ((sync_leads (within world held)).mono ?_ ?_)
    · rintro _ second ⟨same, stood⟩
      exact ⟨⟨stays _ _ held same, apart _ _⟩, stood⟩
    · rintro cause second ⟨same, stood, fault⟩
      exact ⟨⟨stays _ _ held same, apart _ _⟩, stood, fault⟩
  seek position world held := ⟨⟨stays _ _ held rfl, apart _ _⟩, rfl⟩

/-- Requests to sync fail as the faults of the device say, and change nothing that is seen of it. -/
theorem target_ofSecond_syncs (kept : σ → Prop) (faults : Faults) (world : σ × Device)
    (held : kept world.1 ∧ world.2.faults = faults) :
    Leads ((target.ofSecond : Target (σ × Device)).sync world)
      (fun _ after => Frame (fun world => kept world.1 ∧ world.2.faults = faults) (fun _ => ()) world after ∧
        after.2.view = world.2.view)
      fun cause after => Frame (fun world => kept world.1 ∧ world.2.faults = faults) (fun _ => ()) world after ∧
        after.2.view = world.2.view ∧ ∃ call, faults.onSync call = some cause := by
  refine leads_onSecond.mpr ?_
  change Leads (sync world.2) _ _
  unfold sync
  cases answer : world.2.faults.onSync world.2.syncs with
  | none => exact ⟨⟨held, rfl⟩, rfl⟩
  | some cause => exact ⟨⟨held, rfl⟩, rfl, world.2.syncs, held.2 ▸ answer⟩

/-- Whatever the faults of a device are, it is written to as it is asked. -/
theorem target_ofSecond_writes_all :
    (target.ofSecond : Target (σ × Device)).Writes (fun _ => True) (fun world => world.2.view) (fun _ => ())
      fun _ => True :=
  target_ofSecond_writes (fun world _ => world.2.faults.within_all) (fun _ _ held _ => held) fun _ _ => rfl

/-- Two devices no call of which fails, the first of which holds given bytes. -/
structure SteadyPair (bytes : ByteArray) (world : Device × Device) : Prop where
  first : world.1.faults.Steady
  second : world.2.faults.Steady
  holds : world.1.bytes = bytes

variable {bytes : ByteArray}

theorem SteadyPair.reads :
    (source.ofFirst : Source (Device × Device)).Reads (SteadyPair bytes) (fun world => world.1.view)
      (fun world => world.2.view) fun _ => False := by
  refine source_ofFirst_reads (fun _ pair => pair.first.within _) ?_ fun _ _ => rfl
  -- A call leaves the faults of a device as they are, so its devices stay steady.
  exact fun _ _ pair faults same => ⟨faults ▸ pair.first, pair.second, same.trans pair.holds⟩

theorem SteadyPair.writes :
    (target.ofSecond : Target (Device × Device)).Writes (SteadyPair bytes) (fun world => world.2.view)
      (fun world => world.1.view) fun _ => False := by
  refine target_ofSecond_writes (fun _ pair => pair.second.within _) ?_ fun _ _ => rfl
  exact fun _ _ pair faults => ⟨pair.first, faults ▸ pair.second, pair.holds⟩

/-- Whatever the faults of two devices are, what the first one holds stays the same. -/
theorem source_ofFirst_reads_all (bytes : ByteArray) :
    (source.ofFirst : Source (Device × Device)).Reads (fun world => world.1.bytes = bytes) (fun world => world.1.view)
      (fun world => world.2.view) fun _ => True :=
  source_ofFirst_reads (fun world _ => world.1.faults.within_all) (fun _ _ held _ same => same.trans held) fun _ _ => rfl

theorem target_ofSecond_writes_beside (bytes : ByteArray) :
    (target.ofSecond : Target (Device × Device)).Writes (fun world => world.1.bytes = bytes) (fun world => world.2.view)
      (fun world => world.1.view) fun _ => True :=
  target_ofSecond_writes (fun world _ => world.2.faults.within_all) (fun _ _ held _ => held) fun _ _ => rfl

end Device

section Apart

variable {σ τ β : Type} {kept : σ × τ → Prop} {rest : τ → β}

private theorem onFirst_apart {ε α : Type} {body : EStateM ε σ α} {world : σ × τ} (held : kept world)
    (stays : ∀ world first, kept world → kept (first, world.2)) :
    Leads (onFirst body world) (fun _ after => Frame kept (fun world => rest world.2) world after)
      fun _ after => Frame kept (fun world => rest world.2) world after := by
  unfold onFirst
  cases body world.1 <;> exact ⟨stays _ _ held, rfl⟩

/-- Any stream on the first side of a world leaves the second side alone. -/
theorem Stream.ofFirst_apart (stream : Stream σ) (stays : ∀ world first, kept world → kept (first, world.2)) :
    (stream.ofFirst : Stream (σ × τ)).Apart kept fun world => rest world.2 where
  read _ _ held := onFirst_apart held stays

/-- A stream is read on the first side of a world as it is on its own. -/
theorem Stream.Reads.ofFirst {stream : Stream σ} {kept : σ → Prop} {view : σ → View} {fails : IoError → Prop}
    (reads : stream.Reads kept view (fun _ => ()) fails) (others : τ → Prop) (rest : τ → β) :
    (stream.ofFirst : Stream (σ × τ)).Reads (fun world => kept world.1 ∧ others world.2) (fun world => view world.1)
      (fun world => rest world.2) fails where
  read wanted world positive held := by
    refine leads_onFirst.mpr ((reads.read wanted world.1 positive held.1).mono ?_ ?_)
    · rintro bytes first ⟨frame, seen⟩
      exact ⟨⟨⟨frame.kept, held.2⟩, rfl⟩, seen⟩
    · rintro cause first ⟨frame, seen⟩
      exact ⟨⟨⟨frame.kept, held.2⟩, rfl⟩, seen⟩

theorem Source.ofFirst_apart (source : Source σ) (stays : ∀ world first, kept world → kept (first, world.2)) :
    (source.ofFirst : Source (σ × τ)).Apart kept fun world => rest world.2 where
  read _ _ held := onFirst_apart held stays
  seek _ _ held := onFirst_apart held stays

end Apart

end BlockImage
