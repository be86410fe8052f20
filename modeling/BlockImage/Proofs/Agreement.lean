import BlockImage.Proofs.LeadsBoth
import BlockImage.Proofs.Session
import BlockImage.Session.Probe

/-!
# Computations that agree

Two computations on different worlds agree if from related states they come to the same value, or to the same failure,
and to states that are related again. What a session does to itself agrees with itself, so that two sessions agree
as soon as their calls on the ends do. Most of a transfer only asks that the relation of the sessions follows the
relation of their worlds, so it is told once for every such `Bridge`.
-/
namespace BlockImage

variable {ε ε' σ σ' τ τ' ω ω' α β : Type}

/-- The same outcome, with states that are related. -/
def Agree (related : σ → τ → Prop) (left : EStateM.Result ε σ α) (right : EStateM.Result ε τ α) : Prop :=
  match left, right with
  | .ok value after, .ok other after' => value = other ∧ related after after'
  | .error failure after, .error other after' => failure = other ∧ related after after'
  | _, _ => False

theorem Agree.exists_ok {related : σ → τ → Prop} {left : EStateM.Result ε σ α} {right : EStateM.Result ε τ α}
    (agree : Agree related left right) {value : α} {after' : τ} (is : right = .ok value after') :
    ∃ after, left = .ok value after ∧ related after after' := by
  subst is
  cases left with
  | ok other after =>
    obtain ⟨rfl, held⟩ := agree
    exact ⟨after, rfl, held⟩
  | error failure after => exact agree.elim

/-- Where two computations agree, they come to the same value. -/
theorem Agree.leadsBoth {related : σ → τ → Prop} {left : EStateM.Result ε σ α} {right : EStateM.Result ε τ α}
    (agree : Agree related left right) :
    LeadsBoth left right (fun value after value' after' => value' = value ∧ related after after') fun _ => related := by
  cases left <;> cases right
  · exact ⟨agree.1.symm, agree.2⟩
  · exact agree.elim
  · exact agree.elim
  · exact agree

theorem LeadsBoth.agree {related : σ → τ → Prop} {left : EStateM.Result ε σ α} {right : EStateM.Result ε τ α}
    (both : LeadsBoth left right (fun value after value' after' => value' = value ∧ related after after')
      fun _ => related) : Agree related left right := by
  obtain ⟨failure, after, after', rfl, rfl, held⟩ | ⟨value, after, _, after', rfl, rfl, rfl, held⟩ := both.cases
  · exact ⟨rfl, held⟩
  · exact ⟨rfl, held⟩

theorem Agree.stateAfter {related : σ → τ → Prop} {left : EStateM.Result ε σ α} {right : EStateM.Result ε τ α}
    (agree : Agree related left right) : related (BlockImage.stateAfter left) (BlockImage.stateAfter right) := by
  obtain ⟨failure, after, after', rfl, rfl, held⟩ | ⟨value, after, _, after', rfl, rfl, _, held⟩ := agree.leadsBoth.cases
  · exact held
  · exact held

theorem Agree.mono {related related' : σ → τ → Prop} {left : EStateM.Result ε σ α} {right : EStateM.Result ε τ α}
    (agree : Agree related left right) (weaker : ∀ state other, related state other → related' state other) :
    Agree related' left right :=
  (agree.leadsBoth.mono (fun _ _ _ _ held => ⟨held.1, weaker _ _ held.2⟩) fun _ _ _ => weaker _ _).agree

/-- Computations that agree go on alike, also where other states are related from there on. -/
theorem Agree.bind {between : σ → τ → Prop} {related : σ → τ → Prop} {left : EStateM ε σ α} {right : EStateM ε τ α}
    {next : α → EStateM ε σ β} {next' : α → EStateM ε τ β} {state : σ} {other : τ}
    (first : Agree between (left state) (right other)) (failed : ∀ after after', between after after' → related after after')
    (then' : ∀ value after after', left state = .ok value after → between after after' →
      Agree related (next value after) (next' value after')) :
    Agree related ((left >>= next) state) ((right >>= next') other) := by
  obtain ⟨failure, after, after', broke, broke', held⟩ | ⟨value, after, _, after', came, came', rfl, held⟩ :=
    first.leadsBoth.cases
  · rw [bind_of_error broke, bind_of_error broke']
    exact ⟨rfl, failed _ _ held⟩
  · rw [bind_of_ok came, bind_of_ok came']
    exact then' _ _ _ came held

/-- Wherever two computations begin in related states, they agree. -/
def Agrees (related : σ → τ → Prop) (left : EStateM ε σ α) (right : EStateM ε τ α) : Prop :=
  ∀ ⦃state other⦄, related state other → Agree related (left state) (right other)

namespace Agrees

variable {related : σ → τ → Prop}

/-- What does not look beyond its state agrees with itself. -/
theorem refl (body : EStateM ε σ α) : Agrees Eq body body := by
  rintro state _ rfl
  cases body state <;> exact ⟨rfl, rfl⟩

theorem pure (value : α) : Agrees related (Pure.pure value : EStateM ε σ α) (Pure.pure value) :=
  fun _ _ held => ⟨rfl, held⟩

theorem throw (failure : ε) :
    Agrees related (MonadExcept.throw failure : EStateM ε σ α) (MonadExcept.throw failure) :=
  fun _ _ held => ⟨rfl, held⟩

theorem bind {left : EStateM ε σ α} {right : EStateM ε τ α} {next : α → EStateM ε σ β} {next' : α → EStateM ε τ β}
    (first : Agrees related left right) (then' : ∀ value, Agrees related (next value) (next' value)) :
    Agrees related (left >>= next) (right >>= next') := fun _ _ held =>
  (first held).bind (fun _ _ held => held) fun value _ _ _ held => then' value held

theorem get_bind {next : σ → EStateM ε σ α} {next' : τ → EStateM ε τ α}
    (goes : ∀ state other, related state other → Agrees related (next state) (next' other)) :
    Agrees related (get >>= next) (get >>= next') :=
  fun state other held => goes state other held held

theorem modify {change : σ → σ} {change' : τ → τ}
    (keeps : ∀ state other, related state other → related (change state) (change' other)) :
    Agrees related (modify change : EStateM ε σ PUnit) (modify change') :=
  fun state other held => ⟨rfl, keeps state other held⟩

theorem ofExcept (given : Except ε α) :
    Agrees related (MonadExcept.ofExcept given : EStateM ε σ α) (MonadExcept.ofExcept given) := by
  intro state other held
  cases given <;> exact ⟨rfl, held⟩

theorem adaptExcept {left : EStateM ε σ α} {right : EStateM ε τ α} (agrees : Agrees related left right)
    (adapt : ε → ε') : Agrees related (left.adaptExcept adapt) (right.adaptExcept adapt) := by
  intro state other held
  have agree := agrees held
  unfold EStateM.adaptExcept
  cases came : left state <;> cases came' : right other <;> rw [came, came'] at agree
  · exact agree
  · exact agree.elim
  · exact agree.elim
  · exact ⟨congrArg adapt agree.1, agree.2⟩

theorem discard {left : EStateM ε σ α} {right : EStateM ε τ α} (agrees : Agrees related left right) :
    Agrees related (Functor.discard left : EStateM ε σ PUnit) (Functor.discard right) := by
  intro state other held
  have agree := agrees held
  change Agree related (EStateM.map _ left state) (EStateM.map _ right other)
  unfold EStateM.map
  cases came : left state <;> cases came' : right other <;> rw [came, came'] at agree
  · exact ⟨rfl, agree.2⟩
  · exact agree.elim
  · exact agree.elim
  · exact agree

theorem attempt {left : EStateM ε σ α} {right : EStateM ε τ α} (agrees : Agrees related left right) :
    Agrees related (Transfer.attempt left : EStateM ε' σ _) (Transfer.attempt right) := by
  intro state other held
  have agree := agrees held
  unfold Transfer.attempt
  cases came : left state <;> cases came' : right other <;> rw [came, came'] at agree
  · exact ⟨congrArg Except.ok agree.1, agree.2⟩
  · exact agree.elim
  · exact agree.elim
  · exact ⟨congrArg Except.error agree.1, agree.2⟩

/-- The steps of a fold are only asked to agree on the items of its list. -/
theorem foldlM_of_mem {step : β → α → EStateM ε σ β} {step' : β → α → EStateM ε τ β} {items : List α}
    (steps : ∀ value, ∀ item ∈ items, Agrees related (step value item) (step' value item)) (value : β) :
    Agrees related (items.foldlM step value) (items.foldlM step' value) := by
  induction items generalizing value with
  | nil => exact pure value
  | cons item rest ih =>
    rw [List.foldlM_cons, List.foldlM_cons]
    exact bind (steps value item List.mem_cons_self)
      (ih fun value other member => steps value other (List.mem_cons_of_mem _ member))

theorem foldlM {step : β → α → EStateM ε σ β} {step' : β → α → EStateM ε τ β} {items : List α}
    (steps : ∀ value item, Agrees related (step value item) (step' value item)) (value : β) :
    Agrees related (items.foldlM step value) (items.foldlM step' value) :=
  foldlM_of_mem (fun value item _ => steps value item) value

end Agrees

/-! ### Calls on the ends -/

/-- Two streams whose reads agree. -/
def Stream.Agree (related : ω → ω' → Prop) (stream : Stream ω) (other : Stream ω') : Prop :=
  ∀ wanted, Agrees related (stream.read wanted) (other.read wanted)

structure Source.Agree (related : ω → ω' → Prop) (source : Source ω) (other : Source ω') : Prop where
  read : source.toStream.Agree related other.toStream
  seek : ∀ position, Agrees related (source.seek position) (other.seek position)

/-- Two sinks whose writes agree; of their requests to sync nothing is said. -/
def Sink.Agree (related : ω → ω' → Prop) (sink : Sink ω) (other : Sink ω') : Prop :=
  ∀ bytes, Agrees related (sink.write bytes) (other.write bytes)

structure Target.Agree (related : ω → ω' → Prop) (target : Target ω) (other : Target ω') : Prop where
  write : target.toSink.Agree related other.toSink
  seek : ∀ position, Agrees related (target.seek position) (other.seek position)

variable {related : ω → ω' → Prop}

theorem Stream.Agree.readExactly {stream : Stream ω} {other : Stream ω'} (agree : stream.Agree related other)
    (wanted : Nat) : Agrees related (stream.readExactly wanted) (other.readExactly wanted) := by
  suffices more : ∀ got, Agrees related (stream.readMore got wanted) (other.readMore got wanted) from
    more ByteArray.empty
  induction wanted using Nat.strongRecOn with
  | ind wanted ih =>
    intro got
    rw [Stream.readMore, Stream.readMore]
    split
    next none => exact .pure _
    next some =>
      refine .bind (agree wanted) fun bytes => ?_
      split
      next empty => exact .throw _
      next filled => exact ih _ (by omega) _

theorem Source.Agree.readAt {source : Source ω} {other : Source ω'} (agree : source.Agree related other)
    (offset wanted : Nat) : Agrees related (source.readAt offset wanted) (other.readAt offset wanted) :=
  .bind (agree.seek offset) fun _ => agree.read.readExactly wanted

theorem Sink.Agree.writeAll {sink : Sink ω} {other : Sink ω'} (agree : sink.Agree related other) (bytes : ByteArray) :
    Agrees related (sink.writeAll bytes) (other.writeAll bytes) := by
  -- Every write takes something, so less is left for the next one.
  induction size : bytes.size using Nat.strongRecOn generalizing bytes with
  | ind total ih =>
    subst size
    rw [Sink.writeAll, Sink.writeAll]
    split
    next none => exact .pure _
    next some =>
      refine .bind (agree bytes) fun taken => ?_
      split
      next idle => exact .throw _
      next positive =>
        refine ih _ ?_ _ rfl
        rw [ByteArray.size_extract]
        omega

theorem Target.Agree.writeAt {target : Target ω} {other : Target ω'} (agree : target.Agree related other)
    (offset : Nat) (bytes : ByteArray) :
    Agrees related (target.writeAt offset bytes) (other.writeAt offset bytes) :=
  .bind (agree.seek offset) fun _ => agree.write.writeAll bytes

section Front

variable {stream : Stream ω} {other : Stream ω'} {sink : Sink ω} {sink' : Sink ω'}

theorem Stream.Agree.readHead (agree : stream.Agree related other) :
    Agrees related stream.readHead other.readHead :=
  .bind ((agree.readExactly _).adaptExcept _) fun _ => .ofExcept _

theorem Stream.Agree.readBitmap (agree : stream.Agree related other) (total : Nat) (encoding : BitmapEncoding)
    (grants : Nat → Bool) :
    Agrees related (stream.readBitmap total encoding grants) (other.readBitmap total encoding grants) := by
  refine .bind (.bind (.ofExcept _) fun _ => ?_) fun _ => .ofExcept _
  exact .bind ((agree.readExactly _).adaptExcept _) fun _ => .bind ((agree.readExactly _).adaptExcept _) fun _ =>
    .ofExcept _

theorem Sink.Agree.writeHead (agree : sink.Agree related sink') (descriptor : Descriptor) (options : Options) :
    Agrees related (sink.writeHead descriptor options) (sink'.writeHead descriptor options) :=
  (agree.writeAll _).adaptExcept _

theorem Sink.Agree.writeBitmap (agree : sink.Agree related sink') (bitmap : Bitmap) :
    Agrees related (sink.writeBitmap bitmap) (sink'.writeBitmap bitmap) :=
  .bind ((agree.writeAll _).adaptExcept _) fun _ => (agree.writeAll _).adaptExcept _

end Front

/-! ### Worlds of two sides -/

/-- Worlds of two sides that are related side by side. -/
def Beside (first : σ → σ' → Prop) (second : τ → τ' → Prop) (world : σ × τ) (other : σ' × τ') : Prop :=
  first world.1 other.1 ∧ second world.2 other.2

section Beside

variable {first : σ → σ' → Prop} {second : τ → τ' → Prop}

theorem Agrees.onFirst {left : EStateM ε σ α} {right : EStateM ε σ' α} (agrees : Agrees first left right) :
    Agrees (Beside first second) (onFirst left) (onFirst right) := by
  rintro world other ⟨held, beside⟩
  have agree := agrees held
  unfold BlockImage.onFirst
  cases came : left world.1 <;> cases came' : right other.1 <;> rw [came, came'] at agree
  · exact ⟨agree.1, agree.2, beside⟩
  · exact agree.elim
  · exact agree.elim
  · exact ⟨agree.1, agree.2, beside⟩

theorem Agrees.onSecond {left : EStateM ε τ α} {right : EStateM ε τ' α} (agrees : Agrees second left right) :
    Agrees (Beside first second) (onSecond left) (onSecond right) := by
  rintro world other ⟨beside, held⟩
  have agree := agrees held
  unfold BlockImage.onSecond
  cases came : left world.2 <;> cases came' : right other.2 <;> rw [came, came'] at agree
  · exact ⟨agree.1, beside, agree.2⟩
  · exact agree.elim
  · exact agree.elim
  · exact ⟨agree.1, beside, agree.2⟩

theorem Stream.Agree.ofFirst {stream : Stream σ} {other : Stream σ'} (agree : stream.Agree first other) :
    stream.ofFirst.Agree (Beside first second) other.ofFirst := fun wanted => (agree wanted).onFirst

end Beside

/-! ### Sessions -/

/-- A count of something else than blocks and bytes moved, which leaves alone how many blocks are allocated. -/
def Summary.Aside (count : Summary → Summary) : Prop :=
  ∀ summary, (count summary).blocks = summary.blocks ∧ (count summary).bytes = summary.bytes ∧
    (count summary).verifiedBlocks = summary.verifiedBlocks ∧
    ∀ reportedBlocks, count { summary with reportedBlocks } = { count summary with reportedBlocks }

/-- A relation of sessions that goes with a relation of their worlds, whatever else they do but to move blocks. -/
structure Bridge (related : ω → ω' → Prop) (alike : Run ω → Run ω' → Prop) : Prop where
  config : ∀ {run other}, alike run other → run.session.config = other.session.config
  grants : ∀ {run other}, alike run other → run.grants = other.grants
  world : ∀ {run other}, alike run other → related run.world other.world
  reach : ∀ {run other world world'}, alike run other → related world world' →
    alike { run with world } { other with world := world' }
  onEnter : ∀ {run other} (phase : Phase), alike run other →
    alike { run with session := { run.session with phase } } { other with session := { other.session with phase } }
  onTally : ∀ {run other} {count : Summary → Summary}, Summary.Aside count → alike run other →
    alike { run with session := { run.session with summary := count run.session.summary } }
      { other with session := { other.session with summary := count other.session.summary } }

/-- A bridge between sessions whose owners are asked the same and told the same. -/
structure Lockstep (related : ω → ω' → Prop) (alike : Run ω → Run ω' → Prop) : Prop extends Bridge related alike where
  running : ∀ {run other}, alike run other → run.running = other.running
  looks : ∀ {run other}, alike run other → run.looks = other.looks
  events : ∀ {run other}, alike run other → run.events = other.events
  blocks : ∀ {run other}, alike run other → run.session.summary.blocks = other.session.summary.blocks
  onLook : ∀ {run other} (running : Bool) (looks : Nat), alike run other →
    alike { run with running, looks } { other with running, looks }
  onEvent : ∀ {run other} (running : Bool) (events : Array Event), alike run other →
    alike { run with running, events } { other with running, events }
  onCount : ∀ blocks blockSize : Nat,
    Agrees alike (Transfer.countBlocks blocks blockSize) (Transfer.countBlocks blocks blockSize)

/-- Two sessions are alike in all but their worlds, which are related. -/
structure Run.Alike (related : ω → ω' → Prop) (run : Run ω) (other : Run ω') : Prop where
  session : run.session = other.session
  running : run.running = other.running
  looks : run.looks = other.looks
  events : run.events = other.events
  grants : run.grants = other.grants
  world : related run.world other.world

theorem Run.alike_bridge (related : ω → ω' → Prop) : Bridge related (Run.Alike related) where
  config alike := by rw [alike.session]
  grants := Run.Alike.grants
  world := Run.Alike.world
  reach alike world := { alike with world }
  onEnter phase alike := { alike with session := by rw [alike.session] }
  onTally aside alike := { alike with session := by rw [alike.session] }

theorem Transfer.tally_agrees (count : Summary → Summary) :
    Agrees (Run.Alike related) (tally count) (tally count) :=
  .modify fun run other alike => { alike with session := by rw [alike.session] }

theorem Run.alike_lockstep (related : ω → ω' → Prop) : Lockstep related (Run.Alike related) where
  toBridge := Run.alike_bridge related
  running := Run.Alike.running
  looks := Run.Alike.looks
  events := Run.Alike.events
  blocks alike := by rw [alike.session]
  onLook running looks alike := { alike with running := rfl, looks := rfl }
  onEvent running events alike := { alike with running := rfl, events := rfl }
  onCount _ _ := Transfer.tally_agrees _

namespace Bridge

open Transfer

variable {alike : Run ω → Run ω' → Prop} (bridge : Bridge related alike)

include bridge

theorem inWorld_agrees {left : EStateM ε ω α} {right : EStateM ε ω' α} (agrees : Agrees related left right) :
    Agrees alike (inWorld left) (inWorld right) := by
  intro run other held
  have agree := agrees (bridge.world held)
  unfold inWorld
  cases came : left run.world <;> cases came' : right other.world <;> rw [came, came'] at agree
  · exact ⟨agree.1, bridge.reach held agree.2⟩
  · exact agree.elim
  · exact agree.elim
  · exact ⟨agree.1, bridge.reach held agree.2⟩

theorem call_agrees {left : Call ω α} {right : Call ω' α} (agrees : Agrees related left right)
    (failure : IoError → Error) : Agrees alike (call left failure) (call right failure) :=
  (bridge.inWorld_agrees agrees).adaptExcept failure

theorem enter_agrees (phase : Phase) : Agrees alike (enter phase) (enter phase) :=
  .modify fun _ _ held => bridge.onEnter phase held

theorem tally_agrees {count : Summary → Summary} (aside : Summary.Aside count) :
    Agrees alike (tally count) (tally count) :=
  .modify fun _ _ held => bridge.onTally aside held

theorem allocate_agrees (sizes : List Nat) : Agrees alike (allocate sizes) (allocate sizes) := by
  refine .get_bind fun run other held => ?_
  rw [bridge.grants held]
  exact .ofExcept _

/-- A transfer is concluded alike where it was carried out alike; its summary is what its session counted. -/
theorem conclude_leadsBoth {left : Sink ω} {right : Sink ω'} (syncs : Agrees related left.sync right.sync)
    {body : Transfer ω Unit} {body' : Transfer ω' Unit} {run : Run ω} {other : Run ω'}
    (agree : Agree alike (body run) (body' other)) :
    LeadsBoth (conclude left body run) (conclude right body' other)
      (fun summary after summary' after' => summary = after.session.summary ∧ summary' = after'.session.summary ∧
        alike after after')
      fun _ => alike := by
  obtain ⟨failure, after, after', broke, broke', held⟩ | ⟨_, after, _, after', came, came', _, held⟩ :=
    agree.leadsBoth.cases
  · rw [conclude_of_error broke, conclude_of_error broke']
    exact ⟨rfl, bridge.reach (bridge.onEnter .failed held) (syncs (bridge.world held)).stateAfter⟩
  · obtain ⟨cause, world, world', broke, broke', reached⟩ | ⟨_, world, _, world', synced, synced', _, reached⟩ :=
      (syncs (bridge.world held)).leadsBoth.cases
    · rw [conclude_of_unsynced came broke, conclude_of_unsynced came' broke']
      exact ⟨rfl, bridge.reach (bridge.onEnter .failed held) reached⟩
    · rw [conclude_of_synced came synced, conclude_of_synced came' synced']
      exact ⟨rfl, rfl, bridge.reach (bridge.onEnter .done held) reached⟩

theorem settling_agrees {left : Transfer ω α} {right : Transfer ω' α} (agrees : Agrees alike left right) :
    Agrees alike (settling left) (settling right) := by
  refine .bind agrees.attempt fun outcome => ?_
  cases outcome with
  | ok value => exact .pure value
  | error failure => exact .bind (bridge.enter_agrees .failed) fun _ => .throw failure

end Bridge

namespace Lockstep

open Transfer

variable {alike : Run ω → Run ω' → Prop} (lockstep : Lockstep related alike)

include lockstep

/-- Both owners are asked the same, so they answer the same. -/
theorem checkRunning_agrees (owner : Owner) : Agrees alike (checkRunning owner) (checkRunning owner) := by
  refine .get_bind fun run other held => .bind ?_ fun _ => ?_
  · intro _ _ _
    rw [lockstep.running held, lockstep.looks held]
    exact ⟨rfl, lockstep.onLook _ _ held⟩
  · rw [lockstep.running held, lockstep.looks held]
    split
    · exact .pure _
    · exact .throw _

theorem report_agrees (owner : Owner) (totalUnits position : Nat) :
    Agrees alike (report owner totalUnits position) (report owner totalUnits position) := by
  refine .get_bind fun run other held => ?_
  intro _ _ _
  rw [lockstep.running held, lockstep.events held, lockstep.blocks held]
  exact ⟨rfl, lockstep.onEvent _ _ held⟩

end Lockstep

namespace Transfer

/-- Images open alike on streams whose reads agree. -/
theorem readImage_agrees {stream : Stream ω} {other : Stream ω'} (agree : stream.Agree related other) :
    Agrees (Run.Alike related) (readImage stream) (readImage other) := by
  have bridge := Run.alike_bridge related
  refine bridge.settling_agrees (.bind (bridge.enter_agrees _) fun _ => ?_)
  refine .get_bind fun run beside held => ?_
  rw [held.grants]
  refine .bind (bridge.inWorld_agrees agree.readHead) fun head => ?_
  refine .bind (bridge.inWorld_agrees (agree.readBitmap _ _ _)) fun bitmap => ?_
  exact .bind (tally_agrees _) fun _ => .pure _

/-- An image that opens from one side of a world opens from that side alone. -/
theorem readImage_ofFirst_agrees (stream : Stream σ) :
    Agrees (Run.Alike fun source (world : σ × τ) => source = world.1) (readImage stream) (readImage stream.ofFirst) := by
  refine readImage_agrees fun wanted => ?_
  rintro source ⟨_, beside⟩ rfl
  change Agree _ (stream.read wanted source) (onFirst (stream.read wanted) (source, beside))
  unfold onFirst
  cases stream.read wanted source <;> exact ⟨rfl, rfl⟩

theorem conclude_agrees {left : Sink ω} {right : Sink ω'} (syncs : Agrees related left.sync right.sync)
    {body : Transfer ω Unit} {body' : Transfer ω' Unit} (agrees : Agrees (Run.Alike related) body body') :
    Agrees (Run.Alike related) (conclude left body) (conclude right body') := by
  intro run other held
  refine (((Run.alike_bridge related).conclude_leadsBoth syncs (agrees held)).mono ?_ fun _ _ _ held => held).agree
  rintro _ after _ after' ⟨rfl, rfl, alike⟩
  exact ⟨by rw [alike.session], alike⟩

end Transfer

end BlockImage
