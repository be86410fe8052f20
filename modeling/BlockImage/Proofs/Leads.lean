import BlockImage.Session

/-!
# What a computation leads to

`Leads (body state) returned failed` tells what a computation comes to: a value and a state that `returned` allows, or
a failure and a state that `failed` allows. If `failed` allows nothing, the computation succeeds; if it allows
everything, only successes are spoken of.
-/
namespace BlockImage

variable {ε ε' σ ω α β : Type}

theorem Except.bind_eq_ok {given : Except ε α} {next : α → Except ε β} {value : β} :
    (given >>= next) = .ok value ↔ ∃ first, given = .ok first ∧ next first = .ok value := by
  cases given with
  | error failure => exact ⟨nofun, nofun⟩
  | ok first => exact ⟨fun reached => ⟨first, rfl, reached⟩, fun ⟨_, rfl, reached⟩ => reached⟩

section Bind

variable {body : EStateM ε σ α} {next : α → EStateM ε σ β} {state after : σ}

theorem bind_of_ok {first : α} {there : σ} (came : body state = .ok first there) :
    (body >>= next) state = next first there := by
  simp only [bind, EStateM.bind, came]

theorem bind_of_error {failure : ε} {there : σ} (broke : body state = .error failure there) :
    (body >>= next) state = .error failure there := by
  simp only [bind, EStateM.bind, broke]

theorem attempt_of_ok {ε' : Type} {value : α} (returned : body state = .ok value after) :
    (Transfer.attempt body : EStateM ε' σ (Except ε α)) state = .ok (.ok value) after := by
  rw [Transfer.attempt, returned]

theorem attempt_of_error {ε' : Type} {failure : ε} (broke : body state = .error failure after) :
    (Transfer.attempt body : EStateM ε' σ (Except ε α)) state = .ok (.error failure) after := by
  rw [Transfer.attempt, broke]

theorem bind_eq_ok {value : β} : (body >>= next) state = .ok value after ↔
    ∃ first there, body state = .ok first there ∧ next first there = .ok value after := by
  cases came : body state with
  | error failure there =>
    rw [bind_of_error came]
    exact ⟨nofun, nofun⟩
  | ok first there =>
    rw [bind_of_ok came]
    refine ⟨fun reached => ⟨first, there, rfl, reached⟩, ?_⟩
    rintro ⟨_, _, same, reached⟩
    cases same
    exact reached

theorem discard_of_ok {first : α} {there : σ} (came : body state = .ok first there) :
    (discard body : EStateM ε σ PUnit) state = .ok ⟨⟩ there := by
  change EStateM.map _ body state = _
  simp only [EStateM.map, came]

end Bind

/-- The outcome of a computation lies within what is allowed of successes and of failures. -/
def Leads (result : EStateM.Result ε σ α) (returned : α → σ → Prop) (failed : ε → σ → Prop) : Prop :=
  match result with
  | .ok value after => returned value after
  | .error failure after => failed failure after

/-- The state that a computation leaves, whatever became of it. -/
def stateAfter (result : EStateM.Result ε σ α) : σ :=
  match result with
  | .ok _ after => after
  | .error _ after => after

/-- The failure that a computation ends with, if it does. -/
def failureOf (result : EStateM.Result ε σ α) : Option ε :=
  match result with
  | .ok .. => none
  | .error failure _ => some failure

theorem failureOf_eq_some {result : EStateM.Result ε σ α} {failure : ε} :
    failureOf result = some failure ↔ ∃ after, result = .error failure after := by
  cases result <;> simp [failureOf]

theorem stateAfter_discard (body : EStateM ε σ α) (state : σ) :
    stateAfter ((discard body : EStateM ε σ PUnit) state) = stateAfter (body state) := by
  change stateAfter (EStateM.map _ body state) = _
  unfold EStateM.map
  cases body state <;> rfl

theorem failureOf_discard (body : EStateM ε σ α) (state : σ) :
    failureOf ((discard body : EStateM ε σ PUnit) state) = failureOf (body state) := by
  change failureOf (EStateM.map _ body state) = _
  unfold EStateM.map
  cases body state <;> rfl

namespace Leads

variable {returned returned' : α → σ → Prop} {failed failed' : ε → σ → Prop}

theorem mono {result : EStateM.Result ε σ α} (leads : Leads result returned failed)
    (onReturn : ∀ value after, returned value after → returned' value after)
    (onFailure : ∀ failure after, failed failure after → failed' failure after) :
    Leads result returned' failed' := by
  cases result with
  | ok value after => exact onReturn value after leads
  | error failure after => exact onFailure failure after leads

theorem of_all {result : EStateM.Result ε σ α} (onReturn : ∀ value after, returned value after)
    (onFailure : ∀ failure after, failed failure after) : Leads result returned failed := by
  cases result with
  | ok value after => exact onReturn value after
  | error failure after => exact onFailure failure after

theorem weaken {result : EStateM.Result ε σ α} (leads : Leads result returned failed)
    (onReturn : ∀ value after, returned value after → returned' value after) :
    Leads result returned' failed :=
  leads.mono onReturn fun _ _ allowed => allowed

/-- Two laws of one computation hold together. -/
theorem and {result : EStateM.Result ε σ α} (first : Leads result returned failed)
    (second : Leads result returned' failed') :
    Leads result (fun value after => returned value after ∧ returned' value after)
      fun failure after => failed failure after ∧ failed' failure after := by
  cases result with
  | ok value after => exact ⟨first, second⟩
  | error failure after => exact ⟨first, second⟩

theorem exists_ok {result : EStateM.Result ε σ α} (leads : Leads result returned fun _ _ => False) :
    ∃ value after, result = .ok value after ∧ returned value after := by
  cases result with
  | ok value after => exact ⟨value, after, rfl, leads⟩
  | error failure after => exact leads.elim

theorem exists_error {result : EStateM.Result ε σ α} (leads : Leads result (fun _ _ => False) failed) :
    ∃ failure after, result = .error failure after ∧ failed failure after := by
  cases result with
  | ok value after => exact leads.elim
  | error failure after => exact ⟨failure, after, rfl, leads⟩

theorem of_ok {result : EStateM.Result ε σ α} {value : α} {after : σ} (leads : Leads result returned failed)
    (is : result = .ok value after) : returned value after := by
  subst is
  exact leads

theorem of_error {result : EStateM.Result ε σ α} {failure : ε} {after : σ} (leads : Leads result returned failed)
    (is : result = .error failure after) : failed failure after := by
  subst is
  exact leads

/-- A failure is told together with the computation that met it. -/
theorem of_failure {result : EStateM.Result ε σ α} (leads : Leads result returned failed) :
    Leads result returned fun failure after => failed failure after ∧ result = .error failure after := by
  cases result with
  | ok value after => exact leads
  | error failure after => exact ⟨leads, rfl⟩

/-- A computation leads to the failure and to the state that it leaves. -/
theorem of_outcome (result : EStateM.Result ε σ α) : Leads result
    (fun _ after => failureOf result = none ∧ BlockImage.stateAfter result = after)
    fun failure after => failureOf result = some failure ∧ BlockImage.stateAfter result = after := by
  cases result with
  | ok value after => exact ⟨rfl, rfl⟩
  | error failure after => exact ⟨rfl, rfl⟩

/-- What holds after success and after failure holds of the state that is left. -/
theorem stateAfter {result : EStateM.Result ε σ α} {holds : σ → Prop}
    (leads : Leads result (fun _ => holds) fun _ => holds) : holds (stateAfter result) := by
  cases result with
  | ok value after => exact leads
  | error failure after => exact leads

theorem of_stateAfter {result : EStateM.Result ε σ α} {holds : σ → Prop} (left : holds (BlockImage.stateAfter result)) :
    Leads result (fun _ => holds) fun _ => holds := by
  cases result with
  | ok value after => exact left
  | error failure after => exact left

theorem failureOf {result : EStateM.Result ε σ α} {outcome : Option ε}
    (leads : Leads result (fun _ _ => outcome = none) fun failure _ => outcome = some failure) :
    BlockImage.failureOf result = outcome := by
  cases result with
  | ok value after => exact leads.symm
  | error failure after => exact leads.symm

end Leads

/-! ### One rule for each step of a computation -/

section Rules

variable {returned : β → σ → Prop} {failed : ε → σ → Prop} {state : σ}

@[simp] theorem leads_ok {value : β} :
    Leads (.ok value state : EStateM.Result ε σ β) returned failed ↔ returned value state := Iff.rfl

@[simp] theorem leads_pure {value : β} :
    Leads ((pure value : EStateM ε σ β) state) returned failed ↔ returned value state := Iff.rfl

@[simp] theorem leads_throw {failure : ε} :
    Leads ((throw failure : EStateM ε σ β) state) returned failed ↔ failed failure state := Iff.rfl

@[simp] theorem leads_bind {body : EStateM ε σ α} {next : α → EStateM ε σ β} :
    Leads ((body >>= next) state) returned failed ↔
      Leads (body state) (fun value after => Leads (next value after) returned failed) failed := by
  change Leads (EStateM.bind body next state) returned failed ↔ _
  unfold EStateM.bind
  cases body state <;> rfl

/-- Where failures are of no concern, it is enough to know of what comes last. -/
theorem leads_bind_of_next {body : EStateM ε σ α} {next : α → EStateM ε σ β}
    (leads : ∀ value after, Leads (next value after) returned fun _ _ => True) :
    Leads ((body >>= next) state) returned fun _ _ => True :=
  leads_bind.mpr (.of_all leads fun _ _ => trivial)

@[simp] theorem leads_get {returned : σ → σ → Prop} :
    Leads ((get : EStateM ε σ σ) state) returned failed ↔ returned state state := Iff.rfl

@[simp] theorem leads_set {returned : PUnit → σ → Prop} {given : σ} :
    Leads ((set given : EStateM ε σ PUnit) state) returned failed ↔ returned ⟨⟩ given := Iff.rfl

@[simp] theorem leads_modify {returned : PUnit → σ → Prop} {change : σ → σ} :
    Leads ((modify change : EStateM ε σ PUnit) state) returned failed ↔ returned ⟨⟩ (change state) := Iff.rfl

@[simp] theorem leads_discard {returned : PUnit → σ → Prop} {body : EStateM ε σ α} :
    Leads ((discard body : EStateM ε σ PUnit) state) returned failed ↔
      Leads (body state) (fun _ after => returned ⟨⟩ after) failed := by
  change Leads (EStateM.map _ body state) returned failed ↔ _
  unfold EStateM.map
  cases body state <;> rfl

@[simp] theorem leads_ofExcept {given : Except ε β} :
    Leads ((ofExcept given : EStateM ε σ β) state) returned failed ↔
      match given with
      | .ok value => returned value state
      | .error failure => failed failure state := by
  cases given <;> rfl

@[simp] theorem leads_adaptExcept {body : EStateM ε σ β} {adapt : ε → ε'} {failed : ε' → σ → Prop} :
    Leads (body.adaptExcept adapt state) returned failed ↔
      Leads (body state) returned fun failure after => failed (adapt failure) after := by
  unfold EStateM.adaptExcept
  cases body state <;> rfl

@[simp] theorem leads_attempt {body : EStateM ε σ α} {returned : Except ε α → σ → Prop} {failed : ε' → σ → Prop} :
    Leads (Transfer.attempt body state) returned failed ↔
      Leads (body state) (fun value after => returned (.ok value) after)
        fun failure after => returned (.error failure) after := by
  unfold Transfer.attempt
  cases body state <;> rfl

end Rules

section Runs

variable {returned : α → Run ω → Prop} {run : Run ω}

@[simp] theorem leads_inWorld {body : EStateM ε ω α} {failed : ε → Run ω → Prop} :
    Leads (Transfer.inWorld body run) returned failed ↔
      Leads (body run.world) (fun value world => returned value { run with world })
        fun failure world => failed failure { run with world } := by
  unfold Transfer.inWorld
  cases body run.world <;> rfl

@[simp] theorem leads_call {body : Call ω α} {failure : IoError → Error} {failed : Error → Run ω → Prop} :
    Leads (Transfer.call body failure run) returned failed ↔
      Leads (body run.world) (fun value world => returned value { run with world })
        fun cause world => failed (failure cause) { run with world } := by
  rw [Transfer.call, leads_adaptExcept, leads_inWorld]

end Runs

/-! ### Loops -/

section Loops

variable {failed : ε → σ → Prop}

/-- A fold leads to where its steps lead: `holds` is true of what is left of the list, of the value so far and of the
state. -/
theorem leads_foldlM {step : β → α → EStateM ε σ β} (holds : List α → β → σ → Prop) {items : List α}
    (steps : ∀ item rest value state, item ∈ items → holds (item :: rest) value state →
      Leads (step value item state) (holds rest) failed)
    {value : β} {state : σ} (start : holds items value state) :
    Leads (items.foldlM step value state) (holds []) failed := by
  induction items generalizing value state with
  | nil => exact start
  | cons item rest ih =>
    have later (other : α) (left : List α) (value : β) (state : σ) (member : other ∈ rest) :=
      steps other left value state (List.mem_cons_of_mem _ member)
    rw [List.foldlM_cons, leads_bind]
    exact (steps item rest value state List.mem_cons_self start).weaken fun _ _ held => ih later held

theorem forM_eq_foldlM (step : α → EStateM ε σ PUnit) (items : List α) :
    items.forM step = items.foldlM (fun _ => step) ⟨⟩ := by
  induction items with
  | nil => rfl
  | cons item rest ih =>
    have first : (item :: rest).forM step = step item >>= fun _ => rest.forM step := rfl
    rw [first, List.foldlM_cons, ih]

theorem leads_forM {step : α → EStateM ε σ PUnit} (holds : List α → σ → Prop) {items : List α}
    (steps : ∀ item rest state, item ∈ items → holds (item :: rest) state →
      Leads (step item state) (fun _ => holds rest) failed)
    {state : σ} (start : holds items state) :
    Leads (items.forM step state) (fun _ => holds []) failed := by
  rw [forM_eq_foldlM]
  exact leads_foldlM (fun rest _ => holds rest) (fun item rest _ => steps item rest) start

theorem leads_foldlM_range {step : β → Nat → EStateM ε σ β} (holds : Nat → β → σ → Prop) {count : Nat}
    (steps : ∀ index value state, index < count → holds index value state →
      Leads (step value index state) (holds (index + 1)) failed)
    {value : β} {state : σ} (start : holds 0 value state) :
    Leads ((List.range count).foldlM step value state) (holds count) failed := by
  -- The law of lists speaks of what is left of the list, which is the range from some index on.
  let remains : List Nat → β → σ → Prop := fun rest value state =>
    ∃ index ≤ count, rest = List.range' index (count - index) ∧ holds index value state
  have folded : Leads ((List.range count).foldlM step value state) (remains []) failed := by
    refine leads_foldlM remains ?_ ⟨0, Nat.zero_le _, by simp [List.range_eq_range'], start⟩
    rintro item rest value state - ⟨index, within, listed, held⟩
    -- Something is left, so the index is below `count` and is the item itself.
    obtain ⟨rfl, more, listed⟩ := List.range'_eq_cons_iff.mp listed.symm
    exact (steps index value state (by omega) held).weaken fun value after held =>
      ⟨index + 1, by omega, by rw [listed, Nat.sub_sub], held⟩
  refine folded.weaken ?_
  rintro value after ⟨index, within, rest, held⟩
  -- Nothing is left, so the index has come to `count`.
  have none : count - index = 0 := List.range'_eq_nil_iff.mp rest.symm
  obtain rfl : index = count := by omega
  exact held

end Loops

end BlockImage
