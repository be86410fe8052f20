import BlockImage.Proofs.Ends
import BlockImage.Session

/-!
# What the steps of a session lead to

A session goes on as long as its owner spares it. Where being cancelled is excused nothing is asked of the owner, so
that one law of a transfer serves both those that cannot fail and those of which only successes are told.
-/
namespace BlockImage

/-- An owner who never clears the running flag. -/
structure Owner.Quiet (owner : Owner) : Prop where
  clearsBefore : ∀ look, owner.clearsBefore look = false
  clearsOn : ∀ event, owner.clearsOn event = false

theorem Owner.quiet_default : ({} : Owner).Quiet := ⟨fun _ => rfl, fun _ => rfl⟩

/-- The session goes on, unless to be cancelled is excused. -/
def Owner.Spares (owner : Owner) (excused : Error → Prop) (running : Bool) : Prop :=
  excused .cancelled ∨ owner.Quiet ∧ running = true

/-- How many blocks the last event told to be done; none before the first event. -/
def unitsTold (events : Array Event) : Nat := (events.back?.map Event.unitsDone).getD 0

@[simp] theorem unitsTold_push (events : Array Event) (event : Event) :
    unitsTold (events.push event) = event.unitsDone := by
  simp [unitsTold]

variable {ω β : Type} {owner : Owner} {excused : Error → Prop} {run : Run ω}

theorem Owner.Spares.look (spares : owner.Spares excused run.running) :
    owner.Spares excused (run.running && !owner.clearsBefore run.looks) := by
  rcases spares with allowed | ⟨quiet, running⟩
  · exact .inl allowed
  · exact .inr ⟨quiet, by rw [running, quiet.clearsBefore]; rfl⟩

theorem Owner.Spares.tell (spares : owner.Spares excused run.running) (event : Event) :
    owner.Spares excused (run.running && !owner.clearsOn event) := by
  rcases spares with allowed | ⟨quiet, running⟩
  · exact .inl allowed
  · exact .inr ⟨quiet, by rw [running, quiet.clearsOn]; rfl⟩

section Allocation

variable {grants : Nat → Bool} {size : Nat}

theorem checkAllocation_of_granted (granted : grants size) : checkAllocation grants size = .ok () := if_pos granted

theorem checkAllocation_of_refused (refused : ¬ grants size) :
    checkAllocation grants size = .error (.insufficientMemory size 0) := if_neg refused

theorem granted_of_checkAllocation (passed : checkAllocation grants size = .ok ()) : grants size := by
  by_cases granted : grants size
  · exact granted
  · rw [checkAllocation_of_refused granted] at passed
    cases passed

/-- What is granted is granted also where there is more memory. -/
theorem checkAllocation_mono {grants' : Nat → Bool} (more : ∀ size, grants size → grants' size)
    (passed : checkAllocation grants size = .ok ()) : checkAllocation grants' size = .ok () :=
  checkAllocation_of_granted (more size (granted_of_checkAllocation passed))

end Allocation

theorem Session.start_of_accepted {direction : Direction} {config : Config}
    (accepted : config.validate direction = .ok ()) : Session.start direction config = .ok { direction, config } := by
  rw [Session.start, accepted]
  rfl

namespace Transfer

variable {returned : Unit → Run ω → Prop} {failed : Error → Run ω → Prop}

@[simp] theorem leads_enter {phase : Phase} :
    Leads (enter phase run) returned failed ↔ returned () { run with session := { run.session with phase } } :=
  leads_modify

@[simp] theorem leads_tally {count : Summary → Summary} :
    Leads (tally count run) returned failed ↔
      returned () { run with session := { run.session with summary := count run.session.summary } } :=
  leads_modify

@[simp] theorem leads_settling {α : Type} {body : Transfer ω α} {returned : α → Run ω → Prop} :
    Leads (settling body run) returned failed ↔ Leads (body run) returned fun failure after =>
      failed failure { after with session := { after.session with phase := .failed } } := by
  rw [settling, leads_bind, leads_attempt]
  cases body run <;> rfl

/-- A look at the running flag either goes on or is excused. -/
theorem leads_checkRunning (spares : owner.Spares excused run.running)
    (goes : ∀ running, owner.Spares excused running → returned () { run with running, looks := run.looks + 1 })
    (ends : ∀ running, excused .cancelled → failed .cancelled { run with running, looks := run.looks + 1 }) :
    Leads (checkRunning owner run) returned failed := by
  rw [checkRunning, leads_bind, leads_get, leads_bind, leads_set]
  cases running : run.running && !owner.clearsBefore run.looks with
  | true =>
    have spared := spares.look
    rw [running] at spared
    exact goes true spared
  | false =>
    -- The flag is down: this is excused, or the owner would have had to clear it.
    rcases spares with allowed | ⟨quiet, still⟩
    · exact ends false allowed
    · rw [still, quiet.clearsBefore] at running
      cases running

theorem leads_report {totalUnits position : Nat} (spares : owner.Spares excused run.running)
    (goes : ∀ running, owner.Spares excused running → returned () {
      run with
      events := run.events.push { unitsDone := run.session.summary.blocks, totalUnits, position }
      running }) :
    Leads (report owner totalUnits position run) returned failed := by
  rw [report, leads_bind, leads_get, leads_set]
  exact goes _ (spares.tell _)

theorem leads_allocate {sizes : List Nat} (granted : (∀ size ∈ sizes, run.grants size) → returned () run)
    (refused : ∀ size ∈ sizes, ¬ run.grants size → failed (.insufficientMemory size 0) run) :
    Leads (allocate sizes run) returned failed := by
  rw [allocate, leads_bind, leads_get, leads_ofExcept]
  induction sizes with
  | nil => exact granted nofun
  | cons size sizes ih =>
    -- Areas are asked for in order, so the first one that is not granted decides.
    have first : (size :: sizes).forM (checkAllocation run.grants) =
        checkAllocation run.grants size >>= fun _ => sizes.forM (checkAllocation run.grants) := rfl
    by_cases there : run.grants size
    · rw [first, checkAllocation_of_granted there]
      exact ih (fun rest => granted (List.forall_mem_cons.mpr ⟨there, rest⟩)) fun other member =>
        refused other (List.mem_cons_of_mem _ member)
    · rw [first, checkAllocation_of_refused there]
      exact refused size List.mem_cons_self there

section Conclude

variable {target : Sink ω} {body : Transfer ω Unit} {after : Run ω}

theorem call_of_ok {called : Call ω Unit} {failure : IoError → Error} {world : ω}
    (answered : called run.world = .ok () world) : call called failure run = .ok () { run with world } := by
  rw [call, EStateM.adaptExcept, inWorld, answered]

theorem call_of_error {called : Call ω Unit} {failure : IoError → Error} {cause : IoError} {world : ω}
    (broke : called run.world = .error cause world) :
    call called failure run = .error (failure cause) { run with world } := by
  rw [call, EStateM.adaptExcept, inWorld, broke]

theorem settling_of_ok {α : Type} {body : Transfer ω α} {value : α} (returned : body run = .ok value after) :
    settling body run = .ok value after :=
  bind_of_ok (attempt_of_ok returned)

theorem settling_of_error {α : Type} {body : Transfer ω α} {failure : Error} (broke : body run = .error failure after) :
    settling body run = .error failure { after with session := { after.session with phase := .failed } } :=
  bind_of_ok (attempt_of_error broke)

theorem conclude_of_synced {world : ω} (through : body run = .ok () after)
    (synced : target.sync after.world = .ok () world) : conclude target body run =
      .ok after.session.summary { after with session := { after.session with phase := .done }, world } := by
  have called : call target.sync (.write 0) { after with session := { after.session with phase := .finalizing } } =
      .ok () { after with session := { after.session with phase := .finalizing }, world } := call_of_ok synced
  refine settling_of_ok ((bind_of_ok (attempt_of_ok through)).trans ?_)
  exact (bind_of_ok called).trans rfl

theorem conclude_of_unsynced {world : ω} {cause : IoError} (through : body run = .ok () after)
    (unsynced : target.sync after.world = .error cause world) : conclude target body run =
      .error (.write 0 cause) { after with session := { after.session with phase := .failed }, world } := by
  have called : call target.sync (.write 0) { after with session := { after.session with phase := .finalizing } } =
      .error (.write 0 cause) { after with session := { after.session with phase := .finalizing }, world } :=
    call_of_error unsynced
  exact (settling_of_error ((bind_of_ok (attempt_of_ok through)).trans (bind_of_error called))).trans rfl

/-- A transfer that failed keeps its failure, whatever becomes of the request to sync. -/
theorem conclude_of_error {failure : Error} (broke : body run = .error failure after) : conclude target body run =
      .error failure {
        after with
        session := { after.session with phase := .failed }
        world := stateAfter (target.sync after.world) } := by
  have asked : ∃ outcome, (attempt (inWorld target.sync) : Transfer ω (Except IoError Unit)) after =
      .ok outcome { after with world := stateAfter (target.sync after.world) } := by
    rw [attempt, inWorld]
    cases target.sync after.world with
    | ok _ world => exact ⟨_, rfl⟩
    | error cause world => exact ⟨_, rfl⟩
  obtain ⟨outcome, asked⟩ := asked
  exact (settling_of_error ((bind_of_ok (attempt_of_error broke)).trans (bind_of_ok asked))).trans rfl

/-- Only a transfer that is through and then synced has succeeded. -/
theorem exists_of_conclude {summary : Summary} {done : Run ω} (concluded : conclude target body run = .ok summary done) :
    ∃ after world, body run = .ok () after ∧ target.sync after.world = .ok () world ∧
      summary = after.session.summary ∧
      done = { after with session := { after.session with phase := .done }, world } := by
  cases through : body run with
  | error failure after =>
    rw [conclude_of_error through] at concluded
    cases concluded
  | ok _ after =>
    cases synced : target.sync after.world with
    | error cause world =>
      rw [conclude_of_unsynced through synced] at concluded
      cases concluded
    | ok _ world =>
      rw [conclude_of_synced through synced] at concluded
      cases concluded
      exact ⟨after, world, rfl, synced, rfl, rfl⟩

/-- The request to sync comes last, and after a failure as well. -/
theorem world_conclude (target : Sink ω) (body : Transfer ω Unit) (run : Run ω) :
    (stateAfter (conclude target body run)).world = stateAfter (target.sync (stateAfter (body run)).world) := by
  cases came : body run with
  | error failure after =>
    rw [conclude_of_error came]
    rfl
  | ok _ after =>
    cases synced : target.sync after.world with
    | ok _ world =>
      rw [conclude_of_synced came synced, stateAfter, stateAfter, synced]
      rfl
    | error cause world =>
      rw [conclude_of_unsynced came synced, stateAfter, stateAfter, synced]
      rfl

/-- A failure of the transfer itself is the one to be told, and a failure of the request to sync only without it. -/
theorem failureOf_conclude (target : Sink ω) (body : Transfer ω Unit) (run : Run ω) :
    failureOf (conclude target body run) = (failureOf (body run)).or
      ((failureOf (target.sync (stateAfter (body run)).world)).map (Error.write 0)) := by
  cases came : body run with
  | error failure after =>
    rw [conclude_of_error came]
    rfl
  | ok _ after =>
    cases synced : target.sync after.world with
    | ok _ world =>
      rw [conclude_of_synced came synced, stateAfter, synced]
      rfl
    | error cause world =>
      rw [conclude_of_unsynced came synced, stateAfter, synced]
      rfl

theorem leads_conclude_phase (target : Sink ω) (body : Transfer ω Unit) (run : Run ω) :
    Leads (conclude target body run) (fun _ after => after.session.phase = .done)
      fun _ after => after.session.phase = .failed := by
  cases came : body run with
  | error failure after =>
    rw [conclude_of_error came]
    rfl
  | ok _ after =>
    cases synced : target.sync after.world with
    | ok _ world =>
      rw [conclude_of_synced came synced]
      rfl
    | error cause world =>
      rw [conclude_of_unsynced came synced]
      rfl

/-- A request to sync tells nobody and counts nothing. -/
theorem leads_conclude_of_told (returned : Summary → Array Event → Prop) {failed : Array Event → Prop}
    (leads : Leads (body run) (fun _ after => returned after.session.summary after.events)
      fun _ after => failed after.events)
    (unsynced : ∀ summary events, returned summary events → failed events) :
    Leads (conclude target body run) (fun summary after => returned summary after.events)
      fun _ after => failed after.events := by
  cases came : body run with
  | error failure after =>
    have broke := leads.of_error came
    rw [conclude_of_error came]
    exact broke
  | ok _ after =>
    have finished := leads.of_ok came
    cases synced : target.sync after.world with
    | ok _ world =>
      rw [conclude_of_synced came synced]
      exact finished
    | error cause world =>
      rw [conclude_of_unsynced came synced]
      exact unsynced _ _ finished

end Conclude

/-- A transfer ends with a request to sync, which changes nothing that is seen of the ends and tells nobody. -/
theorem leads_conclude_of_sync {target : Sink ω} {kept : ω → Prop} {view : ω → View} {rest : ω → β}
    {fails : IoError → Prop}
    (syncs : ∀ world, kept world → Leads (target.sync world)
      (fun _ after => Frame kept rest world after ∧ view after = view world)
      fun cause after => Frame kept rest world after ∧ view after = view world ∧ fails cause)
    (done : Summary → Array Event → View → β → Prop) (broken : Error → Array Event → View → β → Prop)
    {body : Transfer ω Unit}
    (leads : Leads (body run)
      (fun _ after => kept after.world ∧
        done after.session.summary after.events (view after.world) (rest after.world))
      fun failure after => kept after.world ∧ broken failure after.events (view after.world) (rest after.world))
    (unsynced : ∀ cause summary events seen other, fails cause → done summary events seen other →
      broken (.write 0 cause) events seen other) :
    Leads (conclude target body run)
      (fun summary after => kept after.world ∧ after.session.summary = summary ∧
        done summary after.events (view after.world) (rest after.world))
      fun failure after => kept after.world ∧
        broken failure after.events (view after.world) (rest after.world) := by
  rw [conclude, leads_settling, leads_bind, leads_attempt]
  refine leads.mono ?_ ?_
  · -- The body is through, and only the request to sync can still break the transfer.
    rintro _ after ⟨held, finished⟩
    simp only [leads_bind, leads_enter, leads_call]
    refine (syncs after.world held).mono ?_ ?_
    · rintro _ world ⟨frame, same⟩
      rw [← same, ← frame.rest] at finished
      exact ⟨frame.kept, rfl, finished⟩
    · rintro cause world ⟨frame, same, fault⟩
      have unfinished := unsynced cause _ _ _ _ fault finished
      rw [← same, ← frame.rest] at unfinished
      exact ⟨frame.kept, unfinished⟩
  · -- The body broke. The request to sync is made all the same, and what comes of it is dropped.
    rintro failure after ⟨held, broke⟩
    simp only [leads_bind, leads_attempt, leads_inWorld, leads_throw]
    refine (syncs after.world held).mono ?_ ?_
    · rintro _ world ⟨frame, same⟩
      rw [← same, ← frame.rest] at broke
      exact ⟨frame.kept, broke⟩
    · rintro cause world ⟨frame, same, _⟩
      rw [← same, ← frame.rest] at broke
      exact ⟨frame.kept, broke⟩

/-- The same of a target whose writes fail as its requests to sync may. -/
theorem leads_conclude {target : Sink ω} {kept : ω → Prop} {view : ω → View} {rest : ω → β} {fails : IoError → Prop}
    (writes : target.Writes kept view rest fails) (done : Summary → Array Event → View → β → Prop)
    (broken : Error → Array Event → View → β → Prop) {body : Transfer ω Unit}
    (leads : Leads (body run)
      (fun _ after => kept after.world ∧
        done after.session.summary after.events (view after.world) (rest after.world))
      fun failure after => kept after.world ∧ broken failure after.events (view after.world) (rest after.world))
    (unsynced : ∀ cause summary events seen other, fails cause → done summary events seen other →
      broken (.write 0 cause) events seen other) :
    Leads (conclude target body run)
      (fun summary after => kept after.world ∧ after.session.summary = summary ∧
        done summary after.events (view after.world) (rest after.world))
      fun failure after => kept after.world ∧
        broken failure after.events (view after.world) (rest after.world) :=
  leads_conclude_of_sync writes.sync done broken leads unsynced

end Transfer

end BlockImage
