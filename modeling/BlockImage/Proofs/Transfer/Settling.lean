import BlockImage.Proofs.Ends.Logged
import BlockImage.Proofs.Session
import BlockImage.Proofs.Transfer.ImageBytes
import BlockImage.Proofs.Transfer.Movement
import BlockImage.Session.Probe

/-!
# How every operation of a session ends

A session serves one request after the other, and each of them settles its phase, whatever became of it. Those that
write to a target sync it once, after all that they wrote; the others make no request to sync. To tell so, the calls on
targets are logged.
-/
namespace BlockImage

variable {ω : Type}

/-- What may be asked of a session. -/
inductive Request (ω : Type)
  | probe (asked : Probe ω)
  | readImage (image : Stream ω)
  | move (movement : Movement ω)
  | verify (source copy : Source ω) (descriptor : Descriptor) (bitmap : Bitmap)

namespace Request

open Transfer

def perform (owner : Owner) : Request ω → Transfer ω Unit
  | .probe asked => discard (Transfer.probe asked)
  | .readImage image => discard (Transfer.readImage image)
  | .move movement => discard (movement.perform owner)
  | .verify source copy descriptor bitmap => verifyPartition owner source copy descriptor bitmap

/-- The phase of a session that served the request. -/
def settled : Request ω → Phase
  | .probe _ | .readImage _ => .probing
  | .move _ | .verify .. => .done

/-- The calls on the target that end the request. -/
def closing : Request ω → List TargetCall
  | .move _ => [.sync]
  | .probe _ | .readImage _ | .verify .. => []

end Request

/-! ### Requests with logged calls -/

def Probe.logged (probe : Probe ω) : Probe (Logged ω) where
  name := probe.name
  describe := Logged.beside probe.describe
  allocation descriptor := Logged.beside (probe.allocation descriptor)

def Movement.logged : Movement ω → Movement (Logged ω)
  | .image source target descriptor bitmap => .image source.logged target.logged descriptor bitmap
  | .copy source target descriptor bitmap => .copy source.logged target.logged descriptor bitmap
  | .restore stream target head bitmap => .restore stream.logged target.logged head bitmap

def Request.logged : Request ω → Request (Logged ω)
  | .probe asked => .probe asked.logged
  | .readImage image => .readImage image.logged
  | .move movement => .move movement.logged
  | .verify source copy descriptor bitmap => .verify source.logged copy.logged descriptor bitmap

theorem Movement.sink_logged (movement : Movement ω) : movement.logged.sink = movement.sink.logged := by
  cases movement <;> rfl

section Watching

open Transfer

variable {allowed : TargetCall → Prop} {before : List TargetCall}

theorem Movement.logged_body_agrees (movement : Movement ω) (owner : Owner)
    (writes : ∀ bytes, allowed (.write bytes)) (seeks : ∀ position, allowed (.seek position)) :
    Agrees (Run.Alike (Logged.Follows allowed before)) (movement.logged.body owner) (movement.body owner) := by
  have lockstep := Run.alike_lockstep (Logged.Follows (ω := ω) allowed before)
  have bridge := lockstep.toBridge
  cases movement with
  | image source target descriptor bitmap =>
    refine bridge.bySettings_agrees fun config => Plan.Agree.carryOut ?_ lockstep owner
    exact bridge.imagePlan_agree source.logged_agree (target.logged_agree writes) descriptor bitmap config
  | copy source target descriptor bitmap =>
    refine bridge.bySettings_agrees fun config => Plan.Agree.carryOut ?_ lockstep owner
    exact bridge.copyPlan_agree source.logged_agree (target.logged_agree writes seeks) descriptor bitmap config
  | restore stream target head bitmap =>
    refine bridge.bySettings_agrees fun config => Plan.Agree.carryOut ?_ lockstep owner
    exact bridge.restorePlan_agree stream.logged_agree.readExactly
      (fun offset bytes _ => (target.logged_agree writes seeks).writeAt offset bytes) config

theorem probe_logged_agrees (asked : Probe ω) :
    Agrees (Run.Alike (Logged.Follows allowed before)) (probe asked.logged) (probe asked) := by
  have bridge := Run.alike_bridge (Logged.Follows (ω := ω) allowed before)
  refine bridge.settling_agrees (.bind (bridge.enter_agrees _) fun _ => ?_)
  refine .bind (bridge.inWorld_agrees (Logged.beside_agrees _)) fun descriptor => ?_
  refine .bind (bridge.inWorld_agrees (Logged.beside_agrees _)) fun bitmap => .bind (.ofExcept _) fun _ => ?_
  have recorded : Agrees (Run.Alike (Logged.Follows (ω := ω) allowed before))
      (do recordBlocks (descriptor.verifiedBy bitmap); return (descriptor.verifiedBy bitmap, bitmap))
      (do recordBlocks (descriptor.verifiedBy bitmap); return (descriptor.verifiedBy bitmap, bitmap)) :=
    .bind (tally_agrees _) fun _ => .pure _
  dsimp only [Probe.logged]
  -- A bitmap over another number of blocks is refused, and that is not logged.
  split
  · exact .bind (.throw _) fun _ => recorded
  · exact recorded

theorem verifyPartition_logged_agrees (owner : Owner) (source copy : Source ω) (descriptor : Descriptor)
    (bitmap : Bitmap) : Agrees (Run.Alike (Logged.Follows allowed before))
      (verifyPartition owner source.logged copy.logged descriptor bitmap)
      (verifyPartition owner source copy descriptor bitmap) := by
  have lockstep := Run.alike_lockstep (Logged.Follows (ω := ω) allowed before)
  have bridge := lockstep.toBridge
  refine bridge.settling_agrees (.bind (bridge.enter_agrees _) fun _ => ?_)
  refine .get_bind fun run other held => ?_
  rw [bridge.config held]
  refine .bind (bridge.allocate_agrees _) fun _ => .bind ?_ fun _ => bridge.enter_agrees _
  rw [forM_eq_foldlM, forM_eq_foldlM]
  refine .foldlM (fun _ chunk => .bind (lockstep.checkRunning_agrees owner) fun _ => ?_) _
  refine .bind (bridge.readRange_agrees source.logged_agree _ _) fun expected => ?_
  refine .bind (bridge.call_agrees (copy.logged_agree.readAt _ _) _) fun found => ?_
  split
  · exact .throw _
  · exact .pure _

/-- Whatever is asked for does the same when its calls are logged, and logs only what is allowed. -/
theorem Request.logged_agrees (request : Request ω) (owner : Owner) (others : ∀ call, call ≠ .sync → allowed call)
    (syncs : allowed .sync ∨ request.closing = []) :
    Agrees (Run.Alike (Logged.Follows allowed before)) (request.logged.perform owner) (request.perform owner) := by
  cases request with
  | probe asked => exact (probe_logged_agrees asked).discard
  | readImage image => exact (readImage_agrees image.logged_agree).discard
  | verify source copy descriptor bitmap => exact verifyPartition_logged_agrees owner source copy descriptor bitmap
  | move movement =>
    have may : allowed .sync := syncs.resolve_right nofun
    simp only [perform, logged, Movement.perform_eq, Movement.sink_logged]
    refine (conclude_agrees (Logged.log_agrees may _) ?_).discard
    exact movement.logged_body_agrees owner (fun _ => others _ nofun) fun _ => others _ nofun

end Watching

/-! ### Phases -/

section Phases

open Transfer

variable {run : Run ω} {owner : Owner}

theorem leads_settling_phase {α : Type} {body : Transfer ω α} {phase : Phase}
    (leads : Leads (body run) (fun _ after => after.session.phase = phase) fun _ _ => True) :
    Leads (settling body run) (fun _ after => after.session.phase = phase)
      fun _ after => after.session.phase = .failed :=
  leads_settling.mpr (leads.mono (fun _ _ same => same) fun _ _ _ => rfl)

theorem probe_leads_phase (asked : Probe ω) (run : Run ω) :
    Leads (probe asked run) (fun _ after => after.session.phase = .probing)
      fun _ after => after.session.phase = .failed := by
  refine leads_settling_phase ?_
  rw [leads_bind, leads_enter, leads_bind, leads_inWorld]
  refine .of_all (fun descriptor world => ?_) fun _ _ => trivial
  rw [leads_bind, leads_inWorld]
  refine .of_all (fun bitmap world => ?_) fun _ _ => trivial
  rw [leads_bind, leads_ofExcept]
  split
  · split
    · trivial
    · rfl
  · trivial

theorem readImage_leads_phase (image : Stream ω) (run : Run ω) :
    Leads (readImage image run) (fun _ after => after.session.phase = .probing)
      fun _ after => after.session.phase = .failed := by
  refine leads_settling_phase ?_
  rw [leads_bind, leads_enter, leads_bind, leads_get, leads_bind, leads_inWorld]
  refine .of_all (fun head world => ?_) fun _ _ => trivial
  rw [leads_bind, leads_inWorld]
  exact .of_all (fun bitmap world => rfl) fun _ _ => trivial

theorem verifyPartition_leads_phase (source copy : Source ω) (descriptor : Descriptor) (bitmap : Bitmap)
    (run : Run ω) : Leads (verifyPartition owner source copy descriptor bitmap run)
      (fun _ after => after.session.phase = .done) fun _ after => after.session.phase = .failed := by
  refine leads_settling_phase ?_
  refine leads_bind_of_next fun _ _ => leads_bind_of_next fun _ _ => leads_bind_of_next fun _ _ => ?_
  exact leads_bind_of_next fun _ _ => rfl

theorem Request.perform_leads_phase (request : Request ω) (owner : Owner) (run : Run ω) :
    Leads (request.perform owner run) (fun _ after => after.session.phase = request.settled)
      fun _ after => after.session.phase = .failed := by
  cases request with
  | probe asked => exact leads_discard.mpr (probe_leads_phase asked run)
  | readImage image => exact leads_discard.mpr (readImage_leads_phase image run)
  | verify source copy descriptor bitmap => exact verifyPartition_leads_phase source copy descriptor bitmap run
  | move movement =>
    rw [perform, leads_discard, Movement.perform_eq]
    exact leads_conclude_phase movement.sink (movement.body owner) run

end Phases

/-! ### The log of a request -/

/-- A session in the world that is watched. -/
def Run.unlogged (run : Run (Logged ω)) : Run ω where
  session := run.session
  running := run.running
  looks := run.looks
  events := run.events
  grants := run.grants
  world := run.world.world

section Log

open Transfer

variable {allowed : TargetCall → Prop} {before : List TargetCall} {run : Run (Logged ω)} {owner : Owner}

theorem Run.unlogged_alike (run : Run (Logged ω)) :
    run.Alike (Logged.Follows allowed run.world.calls) run.unlogged := ⟨rfl, rfl, rfl, rfl, rfl, .refl run.world⟩

theorem Run.Alike.unlogged_eq {other : Run ω} (alike : run.Alike (Logged.Follows allowed before) other) :
    run.unlogged = other := by
  obtain ⟨session, running, looks, events, grants, world, -⟩ := alike
  rw [unlogged, session, running, looks, events, grants, world]

theorem calls_of_agree {ε α : Type} {result : EStateM.Result ε (Run (Logged ω)) α}
    {other : EStateM.Result ε (Run ω) α} (agree : Agree (Run.Alike (Logged.Follows allowed before)) result other) :
    ∃ since, (stateAfter result).world.calls = before ++ since ∧ ∀ call ∈ since, allowed call := by
  cases result <;> cases other
  · exact agree.2.world.calls
  · exact agree.elim
  · exact agree.elim
  · exact agree.2.world.calls

theorem Request.perform_move (movement : Movement ω) (owner : Owner) :
    Request.perform owner (.move movement) = discard (conclude movement.sink (movement.body owner)) := by
  rw [perform, Movement.perform_eq]

/-- Where nothing closes a request, none to sync is made. -/
theorem Request.perform_calls_of_closing (request : Request ω) (owner : Owner) (run : Run (Logged ω))
    (open_ended : request.closing = []) :
    ∃ since, (stateAfter (request.logged.perform owner run)).world.calls = run.world.calls ++ since ∧
      .sync ∉ since := by
  have agrees : Agrees (Run.Alike (Logged.Follows (· ≠ .sync) run.world.calls)) _ _ :=
    request.logged_agrees owner (fun _ other => other) (.inr open_ended)
  obtain ⟨since, calls, only⟩ := calls_of_agree (agrees run.unlogged_alike)
  exact ⟨since, calls, fun member => only _ member rfl⟩

/-- No request to sync is made but at the end of a transfer, and there it is. -/
theorem Request.perform_calls (request : Request ω) (owner : Owner) (run : Run (Logged ω)) :
    ∃ since, (stateAfter (request.logged.perform owner run)).world.calls =
      run.world.calls ++ since ++ request.closing ∧ .sync ∉ since := by
  by_cases open_ended : request.closing = []
  · -- A request that nothing closes syncs nothing.
    rw [open_ended]
    simpa only [List.append_nil] using request.perform_calls_of_closing owner run open_ended
  · cases request with
    | move movement =>
      have agrees : Agrees (Run.Alike (Logged.Follows (· ≠ .sync) run.world.calls)) _ _ :=
        movement.logged_body_agrees owner (fun _ => nofun) fun _ => nofun
      obtain ⟨since, calls, only⟩ := calls_of_agree (agrees run.unlogged_alike)
      refine ⟨since, ?_, fun member => only _ member rfl⟩
      rw [logged, perform_move, stateAfter_discard, world_conclude, movement.sink_logged, ← calls]
      exact Logged.calls_log .sync movement.sink.sync _
    | _ => exact absurd rfl open_ended

end Log

/-! ### One request after the other -/

/-- A request that a session has served, with the session as it was before and with what came of it. -/
structure Served (ω : Type) where
  request : Request ω
  before : Run (Logged ω)
  result : EStateM.Result Error (Run (Logged ω)) Unit

/-- Serves requests in order, also after some of them failed. -/
def serve (owner : Owner) : List (Request ω) → Run (Logged ω) → List (Served ω)
  | [], _ => []
  | request :: rest, run =>
    ⟨request, run, request.logged.perform owner run⟩ ::
      serve owner rest (stateAfter (request.logged.perform owner run))

/-- What a served request leaves. -/
structure Served.Settled (owner : Owner) (served : Served ω) : Prop where
  /-- Logging changed nothing. -/
  watched : Agree (fun run other => run.unlogged = other) served.result
    (served.request.perform owner served.before.unlogged)
  failed : (stateAfter served.result).session.phase = .failed ↔ ∃ failure, failureOf served.result = some failure
  settled : failureOf served.result = none → (stateAfter served.result).session.phase = served.request.settled
  calls : ∃ since, (stateAfter served.result).world.calls =
    served.before.world.calls ++ since ++ served.request.closing ∧ .sync ∉ since
  /-- The failure of the transfer itself goes before one of the request to sync. -/
  told : ∀ movement, served.request = .move movement →
    let body := movement.logged.body owner served.before
    failureOf served.result = (failureOf body).or
      ((failureOf (movement.logged.sink.sync (stateAfter body).world)).map (Error.write 0))

theorem Request.settled_ne_failed (request : Request ω) : request.settled ≠ .failed := by
  cases request <;> exact nofun

theorem Request.serves (request : Request ω) (owner : Owner) (run : Run (Logged ω)) :
    Served.Settled owner ⟨request, run, request.logged.perform owner run⟩ := by
  have phases := request.logged.perform_leads_phase owner run
  have same : request.logged.settled = request.settled := by cases request <;> rfl
  rw [same] at phases
  refine ⟨?_, ?_, ?_, request.perform_calls owner run, ?_⟩
  · have agrees : Agrees (Run.Alike (Logged.Follows (fun _ => True) run.world.calls)) _ _ :=
      request.logged_agrees owner (fun _ _ => trivial) (.inl trivial)
    exact (agrees run.unlogged_alike).mono fun _ _ alike => alike.unlogged_eq
  · dsimp only
    cases is : request.logged.perform owner run with
    | ok _ after =>
      have phase := phases.of_ok is
      refine ⟨fun failed => absurd (phase.symm.trans failed) request.settled_ne_failed, ?_⟩
      rintro ⟨failure, none⟩
      cases none
    | error failure after => exact ⟨fun _ => ⟨failure, rfl⟩, fun _ => phases.of_error is⟩
  · dsimp only
    cases is : request.logged.perform owner run with
    | ok _ after => exact fun _ => phases.of_ok is
    | error failure after => exact nofun
  · rintro movement rfl
    rw [logged, perform_move, failureOf_discard, Transfer.failureOf_conclude]

/-- Each of any requests to one session settles its phase, and each transfer among them syncs its target once, at its
end. -/
theorem every_request_settles (owner : Owner) (requests : List (Request ω)) (run : Run (Logged ω)) :
    ∀ served ∈ serve owner requests run, served.Settled owner := by
  intro served member
  induction requests generalizing run with
  | nil =>
    rw [serve] at member
    exact absurd member List.not_mem_nil
  | cons request rest ih =>
    rw [serve, List.mem_cons] at member
    rcases member with rfl | later
    · exact request.serves owner run
    · exact ih (stateAfter (request.logged.perform owner run)) later

/-- A device that is no image is opened as one, and then imaged by the same session. -/
def sampleRequests : List (Request (Device × Device)) :=
  [.readImage Device.source.ofFirst.toStream,
    .move (.image Device.source.ofFirst Device.target.ofSecond.toSink .sample .sample)]

def sampleServing : Run (Logged (Device × Device)) where
  session := Transfer.sampleImaging.session
  world := { world := Transfer.sampleImaging.world }

theorem every_request_settles_sample : ∃ opening imaging,
    serve {} sampleRequests sampleServing = [opening, imaging] ∧ opening.Settled {} ∧ imaging.Settled {} := by
  have settles := every_request_settles {} sampleRequests sampleServing
  exact ⟨_, _, rfl, settles _ List.mem_cons_self, settles _ (List.mem_cons_of_mem _ List.mem_cons_self)⟩

end BlockImage
