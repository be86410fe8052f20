import BlockImage.Proofs.Transfer.Plan

/-!
# The three transfers as one

A `Movement` is a transfer with its ends, so that one statement speaks of all three. None of them looks at the running
flag between two chunks, tells an event there, or counts a block: these are left to the step that they share.
-/
namespace BlockImage

variable {ω α σ ι : Type}

/-- A transfer with its ends. -/
inductive Movement (ω : Type)
  | image (source : Source ω) (target : Sink ω) (descriptor : Descriptor) (bitmap : Bitmap)
  | copy (source : Source ω) (target : Target ω) (descriptor : Descriptor) (bitmap : Bitmap)
  | restore (stream : Stream ω) (target : Target ω) (head : Head) (bitmap : Bitmap)

namespace Movement

open Transfer

def perform (owner : Owner) : Movement ω → Transfer ω Summary
  | .image source target descriptor bitmap => writeImage owner source target descriptor bitmap
  | .copy source target descriptor bitmap => copyPartition owner source target descriptor bitmap
  | .restore stream target head bitmap => restoreBlocks owner stream target head bitmap

/-- Where the transfer writes. -/
def sink : Movement ω → Sink ω
  | .image _ target _ _ => target
  | .copy _ target _ _ => target.toSink
  | .restore _ target _ _ => target.toSink

def descriptor : Movement ω → Descriptor
  | .image _ _ descriptor _ => descriptor
  | .copy _ _ descriptor _ => descriptor
  | .restore _ _ head _ => head.descriptor

def bitmap : Movement ω → Bitmap
  | .image _ _ _ bitmap => bitmap
  | .copy _ _ _ bitmap => bitmap
  | .restore _ _ _ bitmap => bitmap

/-- What the transfer hands from chunk to chunk. -/
def State : Movement ω → Type
  | .image .. => Written
  | .copy .. => Unit
  | .restore .. => Restored

/-- How the transfer tells one chunk from another. -/
def Item : Movement ω → Type
  | .image .. => Chunk
  | .copy .. => Chunk
  | .restore .. => Nat

def plan (config : Config) : (movement : Movement ω) → Plan ω movement.State movement.Item
  | .image source target descriptor bitmap => imagePlan source target descriptor bitmap config
  | .copy source target descriptor bitmap => copyPlan source target descriptor bitmap config
  | .restore stream target head bitmap => restorePlan stream target head bitmap config

/-- The transfer but for the request to sync at its end. -/
def body (owner : Owner) (movement : Movement ω) : Transfer ω Unit :=
  bySettings fun config => (movement.plan config).carryOut owner

/-- The transfer up to the moment at which `count` chunks are done. -/
def upTo (owner : Owner) (count : Nat) (movement : Movement ω) : Transfer ω Unit :=
  bySettings fun config => discard ((movement.plan config).upTo owner count)

theorem perform_eq (movement : Movement ω) (owner : Owner) :
    movement.perform owner = conclude movement.sink (movement.body owner) := by
  cases movement with
  | image source target descriptor bitmap =>
    exact congrArg (conclude target) (writeParts_eq owner source target descriptor bitmap)
  | copy source target descriptor bitmap => exact copyPartition_eq owner source target descriptor bitmap
  | restore stream target head bitmap => exact restoreBlocks_eq owner stream target head bitmap

theorem plan_descriptor (movement : Movement ω) (config : Config) :
    (movement.plan config).descriptor = movement.descriptor := by
  cases movement <;> rfl

/-- A transfer agrees with itself wherever its settings and its world do. -/
theorem plan_agree {alike : Run ω → Run ω → Prop} (bridge : Bridge Eq alike) (movement : Movement ω)
    (config : Config) : (movement.plan config).Agree alike (movement.plan config) := by
  have sources (source : Source ω) : source.Agree Eq source := ⟨fun _ => .refl _, fun _ => .refl _⟩
  have targets (target : Target ω) : target.Agree Eq target := ⟨fun _ => .refl _, fun _ => .refl _⟩
  cases movement with
  | image source target descriptor bitmap =>
    exact bridge.imagePlan_agree (sources source) (fun _ => .refl _) descriptor bitmap config
  | copy source target descriptor bitmap =>
    exact bridge.copyPlan_agree (sources source) (targets target) descriptor bitmap config
  | restore stream target head bitmap =>
    exact bridge.restorePlan_agree (fun _ => .refl _) (fun _ _ _ => .refl _) config

end Movement

/-! ### What goes on between a look at the flag and an event -/

/-- Nobody looked at the flag since `base`, and nothing was told or counted as moved. -/
structure Run.Still (base run : Run ω) : Prop where
  running : run.running = base.running
  looks : run.looks = base.looks
  events : run.events = base.events
  blocks : run.session.summary.blocks = base.session.summary.blocks
  bytes : run.session.summary.bytes = base.session.summary.bytes

theorem Run.Still.refl (run : Run ω) : run.Still run := ⟨rfl, rfl, rfl, rfl, rfl⟩

/-- Since `base` a session kept still, and another one came the same way with its flag up. -/
structure Run.Shadowed (base run other : Run ω) : Prop where
  still : base.Still run
  lit : other = { run with running := true }

theorem Run.shadowed_bridge (base : Run ω) : Bridge Eq (Run.Shadowed base) where
  config shadowed := by rw [shadowed.lit]
  grants shadowed := by rw [shadowed.lit]
  world shadowed := by rw [shadowed.lit]
  reach shadowed same := ⟨{ shadowed.still with }, by rw [shadowed.lit, same]⟩
  onEnter phase shadowed := ⟨{ shadowed.still with }, by rw [shadowed.lit]⟩
  onTally aside shadowed := by
    have still := shadowed.still
    refine ⟨⟨still.running, still.looks, still.events, ?_, ?_⟩, by rw [shadowed.lit]⟩
    · exact (aside _).1.trans still.blocks
    · exact (aside _).2.1.trans still.bytes

/-- A computation that does the same whether the flag is up or not, and keeps still. -/
def Transfer.Blind (body : Transfer ω α) : Prop := ∀ base : Run ω, Agrees base.Shadowed body body

namespace Transfer.Blind

variable {body : Transfer ω α} {run there : Run ω}

theorem still (blind : Blind body) (run : Run ω) :
    Leads (body run) (fun _ => run.Still) fun _ => run.Still := by
  have agree : Agree run.Shadowed (body run) (body { run with running := true }) := blind run ⟨.refl run, rfl⟩
  cases came : body run <;> cases came' : body { run with running := true } <;> rw [came, came'] at agree
  · exact agree.2.still
  · exact agree.elim
  · exact agree.elim
  · exact agree.2.still

/-- What succeeds with the flag up succeeds with any flag. -/
theorem of_lit (blind : Blind body) {value : α} (returned : body { run with running := true } = .ok value there) :
    body run = .ok value { there with running := run.running } := by
  have agree : Agree run.Shadowed (body run) (body { run with running := true }) := blind run ⟨.refl run, rfl⟩
  obtain ⟨after, came, shadowed⟩ := agree.exists_ok returned
  rw [came, shadowed.lit, ← shadowed.still.running]

end Transfer.Blind

/-- A plan of which no part looks at the flag, tells an event or counts a block. -/
structure Plan.Blind (plan : Plan ω σ ι) : Prop where
  prepare : Transfer.Blind plan.prepare
  move : ∀ state chunk, Transfer.Blind (plan.move state chunk)
  finish : ∀ state, Transfer.Blind (plan.finish state)

theorem Movement.plan_blind (movement : Movement ω) (config : Config) : (movement.plan config).Blind where
  prepare base := (movement.plan_agree base.shadowed_bridge config).prepare
  move state chunk base := (movement.plan_agree base.shadowed_bridge config).move state chunk
  finish state base := (movement.plan_agree base.shadowed_bridge config).finish state

end BlockImage
