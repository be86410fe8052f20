import BlockImage.Proofs.Transfer.ImageBytes
import BlockImage.Proofs.Transfer.Interruption
import BlockImage.Proofs.Transfer.Pacing
import Mathlib.Data.List.Chain

/-!
# What events tell of the blocks done

A transfer tells behind each chunk how many allocated blocks are done, and these are exactly the ones before the
position that it tells. Nothing is told twice, and a transfer that succeeds has told of all.
-/
namespace BlockImage

variable {ω σ ι : Type}

/-- An event tells how many blocks are allocated in all and how many before its position, and the last one before its
position is allocated. -/
structure Event.Accounts (bitmap : Bitmap) (event : Event) : Prop where
  totalUnits : event.totalUnits = bitmap.count
  unitsDone : event.unitsDone = (List.range event.position).countP bitmap.get
  position_pos : 0 < event.position
  last : bitmap.get (event.position - 1) = true

/-- Events that account for a bitmap, each for more than the one before it but for no more than another chunk. -/
structure AccountFor (bitmap : Bitmap) (capacity : Nat) (events : List Event) : Prop where
  each : ∀ event ∈ events, event.Accounts bitmap
  grows : (0 :: events.map Event.unitsDone).IsChain fun before after => before < after ∧ after ≤ before + capacity

theorem Bitmap.Passed.accounts {bitmap : Bitmap} {done position total : Nat} (passed : bitmap.Passed done position)
    (counted : total = bitmap.count) :
    Event.Accounts bitmap { unitsDone := done, totalUnits := total, position } := by
  obtain ⟨block, marks, rfl⟩ := passed.last
  exact ⟨counted, passed.countP_eq.symm, Nat.succ_pos block, marks⟩

namespace AccountFor

variable {bitmap : Bitmap} {capacity : Nat} {events : Array Event}

theorem nil : AccountFor bitmap capacity [] := ⟨nofun, .singleton 0⟩

theorem getLast?_unitsDone (events : Array Event) :
    (0 :: events.toList.map Event.unitsDone).getLast? = some (unitsTold events) := by
  rw [List.getLast?_cons, List.getLast?_map, Array.getLast?_toList, unitsTold]

theorem push (account : AccountFor bitmap capacity events.toList) {event : Event} (accounts : event.Accounts bitmap)
    (more : unitsTold events < event.unitsDone) (near : event.unitsDone ≤ unitsTold events + capacity) :
    AccountFor bitmap capacity (events.push event).toList where
  each other member := by
    rw [Array.toList_push, List.mem_append, List.mem_singleton] at member
    rcases member with earlier | rfl
    · exact account.each other earlier
    · exact accounts
  grows := by
    rw [Array.toList_push, List.map_append, ← List.cons_append]
    refine account.grows.append (.singleton _) fun before last after first => ?_
    rw [getLast?_unitsDone, Option.mem_some_iff] at last
    rw [List.map_singleton, List.head?_cons, Option.mem_some_iff] at first
    subst last first
    exact ⟨more, near⟩

end AccountFor

/-- The events account for the blocks that a session counted as moved. -/
structure Run.Counted (bitmap : Bitmap) (capacity width done : Nat) (run : Run ω) : Prop where
  account : AccountFor bitmap capacity run.events.toList
  told : unitsTold run.events = done
  blocks : run.session.summary.blocks = done
  bytes : run.session.summary.bytes = done * width

theorem Run.Counted.still {bitmap : Bitmap} {capacity width done : Nat} {run after : Run ω}
    (counted : run.Counted bitmap capacity width done) (still : run.Still after) :
    after.Counted bitmap capacity width done where
  account := still.events ▸ counted.account
  told := still.events ▸ counted.told
  blocks := still.blocks.trans counted.blocks
  bytes := still.bytes.trans counted.bytes

theorem Run.Fresh.counted {run : Run ω} (fresh : run.Fresh) (unmoved : run.session.summary.bytes = 0)
    (bitmap : Bitmap) (capacity width : Nat) : run.Counted bitmap capacity width 0 where
  account := by
    rw [fresh.events]
    exact .nil
  told := by
    rw [fresh.events]
    rfl
  blocks := fresh.blocks
  bytes := by rw [unmoved, Nat.zero_mul]

namespace Plan

open Transfer

variable {plan : Plan ω σ ι} {bitmap : Bitmap} {capacity : Nat} {holds : List ι → Nat → σ → Prop} {owner : Owner}

/-- One more chunk, and the event behind it accounts for all that is done. -/
theorem Paces.step_leads (paces : plan.Paces bitmap capacity holds) (blind : plan.Blind)
    (counted : plan.descriptor.verifiedBlocks.toNat = bitmap.count) {chunk : ι} {rest : List ι} {done : Nat}
    {state : σ} {run : Run ω} (member : chunk ∈ plan.chunks) (stands : holds (chunk :: rest) done state)
    (before : run.Counted bitmap capacity plan.descriptor.blockSize.toNat done) :
    Leads (plan.step owner state chunk run)
      (fun next after => holds rest (done + plan.size chunk) next ∧
        after.Counted bitmap capacity plan.descriptor.blockSize.toNat (done + plan.size chunk))
      fun _ after => AccountFor bitmap capacity after.events.toList := by
  obtain ⟨some, near⟩ := paces.size chunk member
  rw [step, leads_bind]
  have spared (running : Bool) : owner.Spares (fun _ => True) running := .inl trivial
  refine leads_checkRunning (spared _) (fun running _ => ?_) fun _ _ => before.account
  have looked : ({ run with running, looks := run.looks + 1 } : Run ω).Counted bitmap capacity
      plan.descriptor.blockSize.toNat done := { before with }
  rw [leads_bind]
  refine ((paces.moves member stands _).and ((blind.move state chunk).still _)).mono ?_ ?_
  · -- Until the event is told nothing is counted but the blocks of this chunk.
    rintro ⟨next, position⟩ there ⟨⟨stands, passed⟩, still⟩
    have moved := looked.still still
    simp only [leads_bind, countBlocks, leads_tally]
    refine leads_report (spared _) fun running _ => ?_
    refine ⟨stands, ?_, ?_, ?_, ?_⟩
    · refine moved.account.push ?_ ?_ ?_
      · dsimp only
        rw [moved.blocks]
        exact passed.accounts counted
      · dsimp only
        rw [moved.told, moved.blocks]
        omega
      · dsimp only
        rw [moved.told, moved.blocks]
        omega
    · rw [unitsTold_push]
      exact congrArg (· + plan.size chunk) moved.blocks
    · exact congrArg (· + plan.size chunk) moved.blocks
    · dsimp only
      rw [moved.bytes, Nat.add_mul]
  · rintro failure there ⟨-, still⟩
    exact (looked.still still).account

theorem Paces.carryOut_leads (paces : plan.Paces bitmap capacity holds) (blind : plan.Blind) (owner : Owner)
    (counted : plan.descriptor.verifiedBlocks.toNat = bitmap.count) {run : Run ω}
    (before : run.Counted bitmap capacity plan.descriptor.blockSize.toNat 0) :
    Leads (plan.carryOut owner run)
      (fun _ after => after.Counted bitmap capacity plan.descriptor.blockSize.toNat (plan.chunks.map plan.size).sum)
      fun _ after => AccountFor bitmap capacity after.events.toList := by
  rw [carryOut, leads_bind]
  refine ((paces.begins run).and (blind.prepare.still run)).mono ?_ fun _ _ broke => (before.still broke.2).account
  rintro state there ⟨stands, still⟩
  rw [leads_bind]
  -- What is done and what is left add up to all chunks.
  let stage (rest : List ι) (state : σ) (run : Run ω) : Prop := ∃ done,
    done + (rest.map plan.size).sum = (plan.chunks.map plan.size).sum ∧ holds rest done state ∧
      run.Counted bitmap capacity plan.descriptor.blockSize.toNat done
  refine (leads_foldlM stage ?_ ⟨0, Nat.zero_add _, stands, before.still still⟩).mono ?_ fun _ _ account => account
  · rintro chunk rest state run member ⟨done, sum, stands, counts⟩
    refine (paces.step_leads blind counted member stands counts).weaken fun next after reached => ?_
    refine ⟨done + plan.size chunk, ?_, reached⟩
    rw [List.map_cons, List.sum_cons] at sum
    omega
  · rintro last after ⟨done, sum, -, counts⟩
    rw [List.map_nil, List.sum_nil, Nat.add_zero] at sum
    subst sum
    exact ((blind.finish last).still after).mono (fun _ _ still => counts.still still) fun _ _ still =>
      (counts.still still).account

end Plan

namespace Movement

open Transfer

/-- The chunks of a transfer hold as many blocks as are allocated. -/
theorem sum_size (movement : Movement ω) (config : Config)
    (counted : movement.descriptor.verifiedBlocks.toNat = movement.bitmap.count) :
    ((movement.plan config).chunks.map (movement.plan config).size).sum = movement.bitmap.count := by
  have cut (bitmap : Bitmap) (capacity : Nat) :
      ((bitmap.chunks capacity).map Chunk.count).sum = bitmap.count := by
    rw [bitmap.count_eq_length_marked, ← bitmap.flatMap_chunks capacity, List.length_flatMap]
    simp only [Chunk.length_blocks]
  cases movement with
  | image source target descriptor bitmap => exact cut bitmap _
  | copy source target descriptor bitmap => exact cut bitmap _
  | restore stream target head bitmap =>
    refine Eq.trans ?_ counted
    exact (congrArg List.sum (List.map_id _)).trans (sum_chunkSizes _ _)

/-- Whatever becomes of a transfer, its events account for the blocks that were moved, and if it succeeds, for all of
them. -/
theorem events_account_for_blocks (movement : Movement ω) (owner : Owner) {run : Run ω} (fresh : run.Fresh)
    (unmoved : run.session.summary.bytes = 0)
    (counted : movement.descriptor.verifiedBlocks.toNat = movement.bitmap.count) :
    AccountFor movement.bitmap (run.session.config.chunkCapacity movement.descriptor.blockSize.toNat)
      (stateAfter (movement.perform owner run)).events.toList ∧
    ∀ summary after, movement.perform owner run = .ok summary after →
      summary.blocks = movement.bitmap.count ∧
      summary.bytes = movement.bitmap.count * movement.descriptor.blockSize.toNat ∧
      (0 < movement.bitmap.count → ∃ event, after.events.back? = some event ∧
        event.unitsDone = movement.bitmap.count) := by
  let config := run.session.config
  obtain ⟨holds, paces⟩ := movement.exists_paces config
  have descriptor := movement.plan_descriptor config
  have carried := paces.carryOut_leads (movement.plan_blind config) owner (descriptor ▸ counted)
    (fresh.counted unmoved _ _ _)
  rw [descriptor, movement.sum_size config counted] at carried
  let capacity := config.chunkCapacity movement.descriptor.blockSize.toNat
  let all (summary : Summary) (events : Array Event) : Prop :=
    AccountFor movement.bitmap capacity events.toList ∧ unitsTold events = movement.bitmap.count ∧
      summary.blocks = movement.bitmap.count ∧
      summary.bytes = movement.bitmap.count * movement.descriptor.blockSize.toNat
  have body : Leads (movement.body owner run) (fun _ after => all after.session.summary after.events)
      fun _ after => AccountFor movement.bitmap capacity after.events.toList :=
    carried.weaken fun _ after counts => ⟨counts.account, counts.told, counts.blocks, counts.bytes⟩
  have whole : Leads (movement.perform owner run) (fun summary after => all summary after.events)
      fun _ after => AccountFor movement.bitmap capacity after.events.toList := by
    rw [perform_eq]
    exact leads_conclude_of_told all body fun _ _ finished => finished.1
  refine ⟨(whole.weaken fun _ _ finished => finished.1).stateAfter, fun summary after is => ?_⟩
  obtain ⟨-, told, blocks, bytes⟩ := whole.of_ok is
  refine ⟨blocks, bytes, fun some => ?_⟩
  -- The last event told of all blocks, of which there are some, so there is a last event.
  cases last : after.events.back? with
  | none =>
    rw [unitsTold, last] at told
    exact absurd told (Nat.ne_of_lt some)
  | some event =>
    rw [unitsTold, last] at told
    exact ⟨event, rfl, told⟩

/-- Two blocks are imaged one by one. -/
theorem events_account_sample : ∃ summary after,
    writeImage {} Device.source.ofFirst Device.target.ofSecond.toSink .sample .sample sampleImaging =
      .ok summary after ∧
    AccountFor .sample 1 after.events.toList ∧ summary.blocks = 2 ∧ summary.bytes = 2 ∧
    ∃ event, after.events.back? = some event ∧ event.unitsDone = 2 := by
  let movement : Movement (Device × Device) :=
    .image Device.source.ofFirst Device.target.ofSecond.toSink .sample .sample
  have fresh : sampleImaging.Fresh := ⟨rfl, rfl⟩
  have counted : movement.descriptor.verifiedBlocks.toNat = movement.bitmap.count :=
    Probed.sample.verifiedBlocks.trans Bitmap.sample.count_eq_length_marked.symm
  obtain ⟨account, all⟩ := events_account_for_blocks movement {} fresh rfl counted
  obtain ⟨summary, after, through, -⟩ := writeImage_of_imageable sampleImaging sampleImaging_imageable rfl
  have performed : movement.perform {} sampleImaging = .ok summary after := through
  have two : movement.bitmap.count = 2 := by decide
  have width : movement.descriptor.blockSize.toNat = 1 := by decide
  have capacity : sampleImaging.session.config.chunkCapacity 1 = 1 := by decide
  obtain ⟨blocks, bytes, last⟩ := all summary after performed
  rw [performed, width, capacity] at account
  rw [two, width] at bytes
  rw [two] at blocks last
  exact ⟨summary, after, through, account, blocks, bytes, last Nat.two_pos⟩

end Movement

end BlockImage
