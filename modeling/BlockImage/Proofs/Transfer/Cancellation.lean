import BlockImage.Proofs.Transfer.ImageBytes
import BlockImage.Proofs.Transfer.Pacing

/-!
# Cancelling a transfer

A transfer is compared with what it does when nobody disturbs it. It stops before the first chunk at which it finds the
running flag down, and up to there it is the undisturbed transfer; if it finds the flag up before every chunk it is the
undisturbed transfer to its end, whatever becomes of the flag after that.
-/
namespace BlockImage

variable {ω σ ι : Type}

/-! ### The flag at each look -/

/-- The flag was `running` when a transfer began, and is still up at a look that comes behind as many events of
`told`. The transfer's own looks come behind `looks` earlier ones. -/
structure Owner.UpAt (owner : Owner) (running : Bool) (looks : Nat) (told : List Event) (look : Nat) : Prop where
  begun : running = true
  spared : ∀ earlier ≤ look, owner.clearsBefore (looks + earlier) = false
  kept : ∀ event ∈ told.take look, owner.clearsOn event = false

/-- The first look at which the flag is down. -/
structure Owner.FirstDown (owner : Owner) (running : Bool) (looks : Nat) (told : List Event) (look : Nat) : Prop where
  up : ∀ earlier < look, owner.UpAt running looks told earlier
  down : ¬ owner.UpAt running looks told look

namespace Owner

variable {owner : Owner} {running : Bool} {looks : Nat} {told : List Event} {event : Event} {look : Nat}

theorem upAt_zero : owner.UpAt running looks told 0 ↔ (running && !owner.clearsBefore looks) = true := by
  rw [Bool.and_eq_true, Bool.not_eq_true']
  constructor
  · exact fun up => ⟨up.begun, up.spared 0 (Nat.le_refl 0)⟩
  · rintro ⟨begun, spared⟩
    refine ⟨begun, fun earlier none => ?_, nofun⟩
    rw [Nat.le_zero.mp none]
    exact spared

/-- A later look finds the flag as the first step left it, unless somebody cleared it since. -/
theorem upAt_succ : owner.UpAt running looks (event :: told) (look + 1) ↔
    owner.UpAt running looks (event :: told) 0 ∧ owner.UpAt (!owner.clearsOn event) (looks + 1) told look := by
  constructor
  · intro up
    refine ⟨⟨up.begun, fun earlier none => up.spared earlier (Nat.le_trans none (Nat.zero_le _)), nofun⟩, ?_⟩
    refine ⟨?_, fun earlier below => ?_, fun other member => up.kept other (List.mem_cons_of_mem _ member)⟩
    · rw [up.kept event List.mem_cons_self]
      rfl
    · rw [Nat.add_assoc, Nat.add_comm 1]
      exact up.spared _ (Nat.succ_le_succ below)
  · rintro ⟨now, later⟩
    refine ⟨now.begun, fun earlier below => ?_, fun other member => ?_⟩
    · cases earlier with
      | zero => exact now.spared 0 (Nat.le_refl 0)
      | succ earlier =>
        rw [Nat.add_comm earlier, ← Nat.add_assoc]
        exact later.spared earlier (Nat.le_of_succ_le_succ below)
    · rw [List.take_succ_cons, List.mem_cons] at member
      rcases member with rfl | member
      · rw [← Bool.not_eq_true']
        exact later.begun
      · exact later.kept other member

theorem FirstDown.succ (first : owner.FirstDown running looks (event :: told) (look + 1)) :
    owner.FirstDown (!owner.clearsOn event) (looks + 1) told look where
  up earlier before := (upAt_succ.mp (first.up (earlier + 1) (Nat.succ_lt_succ before))).2
  down up := first.down (upAt_succ.mpr ⟨first.up 0 (Nat.succ_pos look), up⟩)

/-- If the flag is up until an event and its callback clears it, the next look is the first to find it down. -/
theorem firstDown_of_clearsOn (up : ∀ earlier ≤ look, owner.UpAt running looks told earlier)
    (event_at : told[look]? = some event) (clears : owner.clearsOn event = true) :
    owner.FirstDown running looks told (look + 1) where
  up earlier before := up earlier (Nat.le_of_lt_succ before)
  down later := by
    have member : event ∈ told.take (look + 1) := by
      rw [List.take_add_one, event_at]
      exact List.mem_append_right _ List.mem_cons_self
    rw [later.kept event member] at clears
    cases clears

end Owner

namespace Transfer

variable {owner : Owner} {run : Run ω}

/-- A look at the flag is kept, whatever it finds. -/
theorem checkRunning_eq : checkRunning owner run =
    (if run.running && !owner.clearsBefore run.looks then pure () else throw .cancelled : Transfer ω Unit)
      { run with running := run.running && !owner.clearsBefore run.looks, looks := run.looks + 1 } := rfl

theorem checkRunning_of_up (up : (run.running && !owner.clearsBefore run.looks) = true) :
    checkRunning owner run = .ok () { run with running := true, looks := run.looks + 1 } := by
  rw [checkRunning_eq, up]
  rfl

theorem checkRunning_of_down (down : ¬ (run.running && !owner.clearsBefore run.looks) = true) :
    checkRunning owner run = .error .cancelled { run with running := false, looks := run.looks + 1 } := by
  rw [checkRunning_eq, Bool.eq_false_iff.mpr down]
  rfl

end Transfer

/-! ### One chunk -/

namespace Plan

open Transfer

variable {plan : Plan ω σ ι} {owner : Owner} {state next last : σ} {chunk : ι} {run there after done : Run ω}
  {event : Event} {position : Nat}

/-- The event behind a chunk that came to a position. -/
def eventBehind (plan : Plan ω σ ι) (there : Run ω) (chunk : ι) (position : Nat) : Event where
  unitsDone := there.session.summary.blocks + plan.size chunk
  totalUnits := plan.descriptor.verifiedBlocks.toNat
  position

/-- A session that has moved a chunk, once it has counted and told it. -/
def behind (plan : Plan ω σ ι) (there : Run ω) (chunk : ι) (position : Nat) : Run ω :=
  let summary := there.session.summary
  { there with
    session := { there.session with summary := {
      summary with
      blocks := summary.blocks + plan.size chunk
      bytes := summary.bytes + plan.size chunk * plan.descriptor.blockSize.toNat } }
    events := there.events.push (plan.eventBehind there chunk position) }

/-- A step that finds the flag up comes to what moving its chunk comes to, and counts and tells it if it went well. -/
theorem step_of_up (up : (run.running && !owner.clearsBefore run.looks) = true) :
    plan.step owner state chunk run =
      match plan.move state chunk { run with running := true, looks := run.looks + 1 } with
      | .ok (next, position) there => .ok next {
          plan.behind there chunk position with
          running := there.running && !owner.clearsOn (plan.eventBehind there chunk position) }
      | .error failure there => .error failure there := by
  rw [step, bind_of_ok (checkRunning_of_up up)]
  cases moved : plan.move state chunk { run with running := true, looks := run.looks + 1 } with
  | ok reached there => exact bind_of_ok moved
  | error failure there => exact bind_of_error moved

theorem step_of_down (down : ¬ (run.running && !owner.clearsBefore run.looks) = true) :
    plan.step owner state chunk run = .error .cancelled { run with running := false, looks := run.looks + 1 } := by
  rw [step, bind_of_error (checkRunning_of_down down)]

/-- What an undisturbed step says of every other one: that stops right away if it finds the flag down, and otherwise
it comes to the same, but that the callback of its event may clear the flag. -/
structure Stepped (plan : Plan ω σ ι) (state : σ) (chunk : ι) (run : Run ω) (event : Event) (next : σ)
    (after : Run ω) : Prop where
  running : after.running = true
  looks : after.looks = run.looks + 1
  events : after.events = run.events.push event
  goes : ∀ (owner : Owner) (flag : Bool), (flag && !owner.clearsBefore run.looks) = true →
    plan.step owner state chunk { run with running := flag } =
      .ok next { after with running := !owner.clearsOn event }

theorem Blind.stepped (blind : plan.Blind) (lit : run.running = true)
    (through : plan.step {} state chunk run = .ok next after) :
    ∃ event, plan.Stepped state chunk run event next after := by
  have undisturbed : (run.running && !({} : Owner).clearsBefore run.looks) = true := by rw [lit]; rfl
  rw [step_of_up undisturbed] at through
  cases moved : plan.move state chunk { run with running := true, looks := run.looks + 1 } with
  | error failure there =>
    rw [moved] at through
    cases through
  | ok reached there =>
    obtain ⟨reached, position⟩ := reached
    have still := ((blind.move state chunk).still _).of_ok moved
    have running : there.running = true := still.running
    rw [moved] at through
    cases through
    refine ⟨plan.eventBehind there chunk position, ?_, still.looks, ?_, fun owner flag up => ?_⟩
    · rw [running]
      rfl
    · exact congrArg (Array.push · _) still.events
    · -- The flag is up for both, so both move the chunk from the same state.
      rw [step_of_up up, moved]
      dsimp only
      rw [running, Bool.true_and]

/-! ### Chunk after chunk -/

/-- An undisturbed run over chunks, with the events that it tells. -/
inductive Tells (plan : Plan ω σ ι) : List ι → σ → Run ω → List Event → σ → Run ω → Prop
  | nil {state : σ} {run : Run ω} : Tells plan [] state run [] state run
  | cons {chunk : ι} {rest : List ι} {told : List Event} {state next last : σ} {run after done : Run ω} {event : Event}
      (through : plan.step {} state chunk run = .ok next after)
      (stepped : plan.Stepped state chunk run event next after) (later : Tells plan rest next after told last done) :
      Tells plan (chunk :: rest) state run (event :: told) last done

theorem Blind.tells (blind : plan.Blind) {chunks : List ι} (lit : run.running = true)
    (through : chunks.foldlM (plan.step {}) state run = .ok last done) :
    ∃ told, plan.Tells chunks state run told last done := by
  induction chunks generalizing state run with
  | nil =>
    cases through
    exact ⟨[], .nil⟩
  | cons chunk rest ih =>
    rw [List.foldlM_cons, bind_eq_ok] at through
    obtain ⟨next, after, first, through⟩ := through
    obtain ⟨event, stepped⟩ := blind.stepped lit first
    obtain ⟨told, later⟩ := ih stepped.running through
    exact ⟨event :: told, .cons first stepped later⟩

namespace Tells

variable {chunks : List ι} {told : List Event}

theorem length_eq (tells : plan.Tells chunks state run told last done) : told.length = chunks.length := by
  induction tells with
  | nil => rfl
  | cons _ _ _ ih => rw [List.length_cons, List.length_cons, ih]

theorem events (tells : plan.Tells chunks state run told last done) :
    done.events.toList = run.events.toList ++ told := by
  induction tells with
  | nil => rw [List.append_nil]
  | cons _ stepped _ ih => rw [ih, stepped.events, Array.toList_push, List.append_assoc, List.singleton_append]

theorem running (tells : plan.Tells chunks state run told last done) (lit : run.running = true) :
    done.running = true := by
  induction tells with
  | nil => exact lit
  | cons _ stepped _ ih => exact ih stepped.running

/-- If the flag is up at every look, the chunks are moved as if nobody disturbed it. -/
theorem completes (tells : plan.Tells chunks state run told last done) {flag : Bool}
    (up : ∀ look < told.length, owner.UpAt flag run.looks told look) :
    ∃ running, chunks.foldlM (plan.step owner) state { run with running := flag } =
      .ok last { done with running } := by
  induction tells generalizing flag with
  | nil => exact ⟨flag, rfl⟩
  | cons _ stepped _ ih =>
    -- One chunk is moved, and what is left finds the flag as its callback leaves it.
    have begins := up 0 (Nat.succ_pos _)
    obtain ⟨running, later⟩ := ih fun look inside => by
      rw [stepped.looks]
      exact (Owner.upAt_succ.mp (up (look + 1) (Nat.succ_lt_succ inside))).2
    refine ⟨running, ?_⟩
    rw [List.foldlM_cons, bind_of_ok (stepped.goes owner flag (Owner.upAt_zero.mp begins))]
    exact later

/-- The first look that finds the flag down ends the run, which until then was the undisturbed one. -/
theorem stops (tells : plan.Tells chunks state run told last done) {flag : Bool} {look : Nat}
    (inside : look < told.length) (first : owner.FirstDown flag run.looks told look) :
    ∃ reached there, (chunks.take look).foldlM (plan.step {}) state run = .ok reached there ∧
      there.events.toList = run.events.toList ++ told.take look ∧
      chunks.foldlM (plan.step owner) state { run with running := flag } =
        .error .cancelled { there with running := false, looks := there.looks + 1 } := by
  induction tells generalizing flag look with
  | nil => exact absurd inside (Nat.not_lt_zero _)
  | @cons chunk rest told state next last run after done event through stepped later ih =>
    cases look with
    | zero =>
      refine ⟨state, run, rfl, by rw [List.take_zero, List.append_nil], ?_⟩
      have down : ¬ (flag && !owner.clearsBefore run.looks) = true := fun up => first.down (Owner.upAt_zero.mpr up)
      rw [List.foldlM_cons, bind_of_error (step_of_down down)]
    | succ look =>
      -- The look is one of those behind the chunk that is moved now.
      have begins := first.up 0 (Nat.succ_pos look)
      obtain ⟨reached, there, came, listed, stopped⟩ :=
        ih (Nat.lt_of_succ_lt_succ inside) (stepped.looks ▸ first.succ)
      refine ⟨reached, there, ?_, ?_, ?_⟩
      · rw [List.take_succ_cons, List.foldlM_cons, bind_of_ok through]
        exact came
      · rw [listed, stepped.events, Array.toList_push, List.append_assoc, List.singleton_append, List.take_succ_cons]
      · rw [List.foldlM_cons, bind_of_ok (stepped.goes owner flag (Owner.upAt_zero.mp begins))]
        exact stopped

end Tells

end Plan

/-! ### The whole transfer -/

namespace Movement

open Transfer

variable {movement : Movement ω} {owner : Owner} {start done : Run ω} {told : List Event} {summary : Summary}

/-- A transfer stops behind the first `count` chunks of the undisturbed one and leaves everything as that had it then,
but that its target is synced. -/
def StopsBehind (movement : Movement ω) (owner : Owner) (start : Run ω) (told : List Event) (count : Nat) : Prop :=
  ∃ there, movement.upTo {} count { start with running := true } = .ok () there ∧
    there.events.toList = start.events.toList ++ told.take count ∧
    movement.perform owner start = .error .cancelled {
      there with
      session := { there.session with phase := .failed }
      running := false
      looks := there.looks + 1
      world := stateAfter (movement.sink.sync there.world) }

/-- A transfer comes to the same as the undisturbed one, whatever becomes of its flag. -/
def CompletesAs (movement : Movement ω) (owner : Owner) (start : Run ω) (summary : Summary) (done : Run ω) : Prop :=
  ∃ running, movement.perform owner start = .ok summary { done with running }

/-- A transfer that goes through undisturbed tells of its chunks; with these events, it stops where it first finds the
flag down, and if it never does, it is through. -/
theorem exists_tells (through : movement.perform {} { start with running := true } = .ok summary done) :
    ∃ told : List Event, told.length = (movement.plan start.session.config).chunks.length ∧
      done.events.toList = start.events.toList ++ told ∧
      ∀ owner : Owner,
        (∀ look < told.length, owner.FirstDown start.running start.looks told look →
          movement.StopsBehind owner start told look) ∧
        ((∀ look < told.length, owner.UpAt start.running start.looks told look) →
          movement.CompletesAs owner start summary done) := by
  have blind := movement.plan_blind start.session.config
  rw [perform_eq] at through
  obtain ⟨ended, world, ran, synced, rfl, rfl⟩ := exists_of_conclude through
  -- The undisturbed transfer prepares, moves its chunks and finishes.
  have carried : (movement.plan start.session.config).carryOut {} { start with running := true } = .ok () ended := ran
  rw [Plan.carryOut, bind_eq_ok] at carried
  obtain ⟨state, there, prepared, carried⟩ := carried
  rw [bind_eq_ok] at carried
  obtain ⟨last, after, moved, finished⟩ := carried
  have before := (blind.prepare.still _).of_ok prepared
  have behind := ((blind.finish last).still _).of_ok finished
  have lit : there.running = true := before.running
  obtain ⟨told, tells⟩ := blind.tells lit moved
  have looks : start.looks = there.looks := before.looks.symm
  refine ⟨told, tells.length_eq, ?_, fun owner => ⟨fun look inside first => ?_, fun up => ?_⟩⟩
  · have begun : there.events = start.events := before.events
    have ends : ended.events = after.events := behind.events
    change ended.events.toList = _
    rw [ends, tells.events, begun]
  · rw [looks] at first
    obtain ⟨reached, mid, came, listed, stopped⟩ := tells.stops inside first
    refine ⟨mid, ?_, by rw [listed, before.events], ?_⟩
    · have until_then : (movement.plan start.session.config).upTo {} look { start with running := true } =
          .ok reached mid := by
        rw [Plan.upTo, bind_of_ok prepared]
        exact came
      exact discard_of_ok until_then
    · have broke : movement.body owner start =
          .error .cancelled { mid with running := false, looks := mid.looks + 1 } := by
        change (movement.plan start.session.config).carryOut owner start = _
        rw [Plan.carryOut, bind_of_ok (blind.prepare.of_lit prepared), bind_of_error stopped]
      rw [perform_eq, conclude_of_error broke]
  · rw [looks] at up
    obtain ⟨running, came⟩ := tells.completes up
    refine ⟨running, ?_⟩
    -- What is left to do does not look at the flag either.
    have kept : { after with running := true } = after := by rw [← tells.running lit]
    rw [← kept] at finished
    have finishes : (movement.plan start.session.config).finish last { after with running } =
      .ok () { ended with running } := (blind.finish last).of_lit finished
    have body : movement.body owner start = .ok () { ended with running } := by
      change (movement.plan start.session.config).carryOut owner start = _
      rw [Plan.carryOut, bind_of_ok (blind.prepare.of_lit prepared), bind_of_ok came]
      exact finishes
    rw [perform_eq, conclude_of_synced body synced]

/-- A transfer whose bitmap marks nothing has nothing to move. -/
theorem chunks_eq_nil (none : movement.bitmap.count = 0)
    (through : movement.perform {} { start with running := true } = .ok summary done) :
    (movement.plan start.session.config).chunks = [] := by
  rw [perform_eq] at through
  obtain ⟨ended, _, ran, _⟩ := exists_of_conclude through
  obtain ⟨holds, paces⟩ := movement.exists_paces start.session.config
  exact (paces.carryOut_leads_nil none {} { start with running := true }).of_ok ran

/-- A transfer that goes through undisturbed, and whose flag is cleared at any time: it stops at the first chunk that
finds the flag down, behind the events told until then, and otherwise is through as if nobody had cleared it. A callback
stops it behind its own event, unless that is the last one. -/
theorem cancelled_only_between_chunks (movement : Movement ω) {start done : Run ω} {summary : Summary}
    (through : movement.perform {} { start with running := true } = .ok summary done) :
    ∃ told : List Event, done.events.toList = start.events.toList ++ told ∧
      (movement.bitmap.count = 0 → told = [] ∧ ∀ owner, movement.CompletesAs owner start summary done) ∧
      ∀ owner : Owner,
        (∀ look < told.length, owner.FirstDown start.running start.looks told look →
          movement.StopsBehind owner start told look) ∧
        ((∀ look < told.length, owner.UpAt start.running start.looks told look) →
          movement.CompletesAs owner start summary done) ∧
        ∀ index event, told[index]? = some event → owner.clearsOn event = true →
          (∀ look ≤ index, owner.UpAt start.running start.looks told look) →
          if index + 1 < told.length then movement.StopsBehind owner start told (index + 1)
          else movement.CompletesAs owner start summary done := by
  obtain ⟨told, length, events, ends⟩ := exists_tells through
  refine ⟨told, events, fun none => ?_, fun owner => ⟨(ends owner).1, (ends owner).2, ?_⟩⟩
  · have nothing : told = [] := by
      rw [← List.length_eq_zero_iff, length, chunks_eq_nil none through, List.length_nil]
    refine ⟨nothing, fun owner => (ends owner).2 fun look inside => ?_⟩
    rw [nothing] at inside
    exact absurd inside (Nat.not_lt_zero _)
  · intro index event found clears up
    split
    next more => exact (ends owner).1 _ more (Owner.firstDown_of_clearsOn up found clears)
    next last => exact (ends owner).2 fun look inside => up look (by omega)

/-- An owner who clears the flag while the first chunk is moved. -/
def sampleOwner : Owner where
  clearsBefore look := look = 1

theorem sampleOwner_firstDown (told : List Event) : sampleOwner.FirstDown true 0 told 1 where
  up earlier before := by
    rw [Nat.lt_one_iff.mp before]
    exact Owner.upAt_zero.mpr rfl
  down up := by
    have spared := up.spared 1 (Nat.le_refl 1)
    cases spared

/-- Of an image of two chunks only the first is written. -/
theorem cancelled_only_between_chunks_sample : ∃ summary done,
    writeImage {} Device.source.ofFirst Device.target.ofSecond.toSink .sample .sample sampleImaging =
      .ok summary done ∧
    done.events.toList.length = 2 ∧
    (Movement.image Device.source.ofFirst Device.target.ofSecond.toSink .sample .sample).StopsBehind sampleOwner
      sampleImaging done.events.toList 1 := by
  let movement : Movement (Device × Device) :=
    .image Device.source.ofFirst Device.target.ofSecond.toSink .sample .sample
  obtain ⟨summary, done, through, -⟩ := writeImage_of_imageable sampleImaging sampleImaging_imageable rfl
  have performed : movement.perform {} { sampleImaging with running := true } = .ok summary done := through
  -- Each of the two marked blocks is a chunk of its own.
  have two : done.events.toList.length = 2 := by
    obtain ⟨told, length, events, -⟩ := exists_tells performed
    have chunks : (movement.plan sampleImaging.session.config).chunks.length = 2 := by decide +kernel
    rw [events, List.length_append, length, chunks]
    rfl
  obtain ⟨told, events, -, ends⟩ := cancelled_only_between_chunks movement performed
  have all : done.events.toList = told := events
  rw [← all] at ends
  exact ⟨summary, done, through, two, (ends sampleOwner).1 1 (by omega) (sampleOwner_firstDown _)⟩

end Movement

end BlockImage
