import BlockImage.Ends.Pair
import BlockImage.Proofs.Leads

/-!
# What two computations lead to

`LeadsBoth left right returned failed` tells of two computations together what `Leads` tells of one: both return, and
`returned` allows their values and states, or both fail for the same reason, and `failed` allows their states.
-/
namespace BlockImage

variable {ε ε' σ σ' τ τ' ω ω' α β γ δ : Type}

/-- Two computations come to the same kind of end, which lies within what is allowed of successes and of failures. -/
def LeadsBoth (left : EStateM.Result ε σ α) (right : EStateM.Result ε τ β) (returned : α → σ → β → τ → Prop)
    (failed : ε → σ → τ → Prop) : Prop :=
  match left, right with
  | .ok value after, .ok value' after' => returned value after value' after'
  | .error failure after, .error failure' after' => failure = failure' ∧ failed failure after after'
  | _, _ => False

namespace LeadsBoth

variable {returned returned' : α → σ → β → τ → Prop} {failed failed' : ε → σ → τ → Prop}
  {left : EStateM.Result ε σ α} {right : EStateM.Result ε τ β}

theorem cases (both : LeadsBoth left right returned failed) :
    (∃ failure after after', left = .error failure after ∧ right = .error failure after' ∧
      failed failure after after') ∨
    ∃ value after value' after', left = .ok value after ∧ right = .ok value' after' ∧
      returned value after value' after' := by
  cases left with
  | ok value after =>
    cases right with
    | ok value' after' => exact .inr ⟨value, after, value', after', rfl, rfl, both⟩
    | error failure' after' => exact both.elim
  | error failure after =>
    cases right with
    | ok value' after' => exact both.elim
    | error failure' after' =>
      obtain ⟨rfl, held⟩ := both
      exact .inl ⟨failure, after, after', rfl, rfl, held⟩

/-- Beside a computation that is known to return, the other one is told on its own. -/
theorem of_ok_left {value : α} {after : σ}
    (leads : Leads right (fun value' after' => returned value after value' after') fun _ _ => False) :
    LeadsBoth (.ok value after) right returned failed := by
  cases right with
  | ok value' after' => exact leads
  | error failure after' => exact leads.elim

theorem of_error_left {failure : ε} {after : σ}
    (leads : Leads right (fun _ _ => False) fun failure' after' => failure = failure' ∧ failed failure after after') :
    LeadsBoth (.error failure after) right returned failed := by
  cases right with
  | ok value' after' => exact leads.elim
  | error failure after' => exact leads

theorem mono (both : LeadsBoth left right returned failed)
    (onReturn : ∀ value after value' after', returned value after value' after' → returned' value after value' after')
    (onFailure : ∀ failure after after', failed failure after after' → failed' failure after after') :
    LeadsBoth left right returned' failed' := by
  obtain ⟨failure, after, after', rfl, rfl, held⟩ | ⟨value, after, value', after', rfl, rfl, held⟩ := both.cases
  · exact ⟨rfl, onFailure _ _ _ held⟩
  · exact onReturn _ _ _ _ held

theorem mono_failed (both : LeadsBoth left right returned failed)
    (onFailure : ∀ failure after after', failed failure after after' → failed' failure after after') :
    LeadsBoth left right returned failed' := both.mono (fun _ _ _ _ held => held) onFailure

/-- What one of two computations leads to by itself is told together with the rest. -/
theorem and_left {single : α → σ → Prop} {single' : ε → σ → Prop} (both : LeadsBoth left right returned failed)
    (leads : Leads left single single') :
    LeadsBoth left right (fun value after value' after' => returned value after value' after' ∧ single value after)
      failed := by
  obtain ⟨failure, after, after', rfl, rfl, held⟩ | ⟨value, after, value', after', rfl, rfl, held⟩ := both.cases
  · exact ⟨rfl, held⟩
  · exact ⟨held, leads⟩

theorem and_right {single : β → τ → Prop} {single' : ε → τ → Prop} (both : LeadsBoth left right returned failed)
    (leads : Leads right single single') :
    LeadsBoth left right (fun value after value' after' => returned value after value' after' ∧ single value' after')
      failed := by
  obtain ⟨failure, after, after', rfl, rfl, held⟩ | ⟨value, after, value', after', rfl, rfl, held⟩ := both.cases
  · exact ⟨rfl, held⟩
  · exact ⟨held, leads⟩

/-! ### One rule for each step of two computations -/

theorem bind {left : EStateM ε σ α} {right : EStateM ε τ β} {next : α → EStateM ε σ γ} {next' : β → EStateM ε τ δ}
    {state : σ} {state' : τ} {ended : γ → σ → δ → τ → Prop}
    (first : LeadsBoth (left state) (right state') returned failed)
    (then' : ∀ value after value' after', returned value after value' after' →
      LeadsBoth (next value after) (next' value' after') ended failed) :
    LeadsBoth ((left >>= next) state) ((right >>= next') state') ended failed := by
  obtain ⟨failure, after, after', broke, broke', held⟩ | ⟨value, after, value', after', came, came', held⟩ := first.cases
  · rw [bind_of_error broke, bind_of_error broke']
    exact ⟨rfl, held⟩
  · rw [bind_of_ok came, bind_of_ok came']
    exact then' _ _ _ _ held

/-- What two computations ask of their own states is there. -/
theorem get_bind {next : σ → EStateM ε σ α} {next' : τ → EStateM ε τ β} {state : σ} {state' : τ}
    (rest : LeadsBoth (next state state) (next' state' state') returned failed) :
    LeadsBoth ((get >>= next) state) ((get >>= next') state') returned failed := rest

/-- Two folds over one list lead to where their steps lead: `holds` is true of what is left of the list, and of the values
and states of both. -/
theorem foldlM {step : β → α → EStateM ε σ β} {step' : γ → α → EStateM ε τ γ}
    (holds : List α → β → σ → γ → τ → Prop) {items : List α}
    (steps : ∀ item rest value state value' state', holds (item :: rest) value state value' state' →
      LeadsBoth (step value item state) (step' value' item state') (holds rest) failed)
    {value : β} {state : σ} {value' : γ} {state' : τ} (start : holds items value state value' state') :
    LeadsBoth (items.foldlM step value state) (items.foldlM step' value' state') (holds []) failed := by
  induction items generalizing value state value' state' with
  | nil => exact start
  | cons item rest ih =>
    rw [List.foldlM_cons, List.foldlM_cons]
    exact (steps item rest _ _ _ _ start).bind fun _ _ _ _ held => ih held

theorem foldlM_range {step : β → Nat → EStateM ε σ β} {step' : γ → Nat → EStateM ε τ γ}
    (holds : Nat → β → σ → γ → τ → Prop) {count : Nat}
    (steps : ∀ index value state value' state', index < count → holds index value state value' state' →
      LeadsBoth (step value index state) (step' value' index state') (holds (index + 1)) failed)
    {value : β} {state : σ} {value' : γ} {state' : τ} (start : holds 0 value state value' state') :
    LeadsBoth ((List.range count).foldlM step value state) ((List.range count).foldlM step' value' state')
      (holds count) failed := by
  induction count with
  | zero => exact start
  | succ count ih =>
    rw [List.range_succ, List.foldlM_append, List.foldlM_append]
    refine (ih fun index _ _ _ _ below => steps index _ _ _ _ (by omega)).bind fun _ _ _ _ held => ?_
    rw [List.foldlM_cons, List.foldlM_cons]
    exact (steps count _ _ _ _ (by omega) held).bind fun _ _ _ _ held => held

theorem adaptExcept {left : EStateM ε σ α} {right : EStateM ε τ β} {state : σ} {state' : τ} {adapt : ε → ε'}
    {failed : ε' → σ → τ → Prop}
    (both : LeadsBoth (left state) (right state') returned fun failure => failed (adapt failure)) :
    LeadsBoth (left.adaptExcept adapt state) (right.adaptExcept adapt state') returned failed := by
  unfold EStateM.adaptExcept
  obtain ⟨failure, after, after', broke, broke', held⟩ | ⟨value, after, value', after', came, came', held⟩ := both.cases
  · rw [broke, broke']
    exact ⟨rfl, held⟩
  · rw [came, came']
    exact held

theorem onFirst {left : EStateM ε σ α} {right : EStateM ε σ' β} {world : σ × τ} {world' : σ' × τ'}
    {returned : α → σ × τ → β → σ' × τ' → Prop} {failed : ε → σ × τ → σ' × τ' → Prop}
    (both : LeadsBoth (left world.1) (right world'.1)
      (fun value first value' first' => returned value (first, world.2) value' (first', world'.2))
      fun failure first first' => failed failure (first, world.2) (first', world'.2)) :
    LeadsBoth (BlockImage.onFirst left world) (BlockImage.onFirst right world') returned failed := by
  unfold BlockImage.onFirst
  obtain ⟨failure, after, after', broke, broke', held⟩ | ⟨value, after, value', after', came, came', held⟩ := both.cases
  · rw [broke, broke']
    exact ⟨rfl, held⟩
  · rw [came, came']
    exact held

theorem inWorld {left : EStateM ε ω α} {right : EStateM ε ω' β} {run : Run ω} {run' : Run ω'}
    {returned : α → Run ω → β → Run ω' → Prop} {failed : ε → Run ω → Run ω' → Prop}
    (both : LeadsBoth (left run.world) (right run'.world)
      (fun value world value' world' => returned value { run with world } value' { run' with world := world' })
      fun failure world world' => failed failure { run with world } { run' with world := world' }) :
    LeadsBoth (Transfer.inWorld left run) (Transfer.inWorld right run') returned failed := by
  unfold Transfer.inWorld
  obtain ⟨failure, after, after', broke, broke', held⟩ | ⟨value, after, value', after', came, came', held⟩ := both.cases
  · rw [broke, broke']
    exact ⟨rfl, held⟩
  · rw [came, came']
    exact held

theorem settling {left : Transfer ω α} {right : Transfer ω' β} {run : Run ω} {run' : Run ω'}
    {returned : α → Run ω → β → Run ω' → Prop} {failed : Error → Run ω → Run ω' → Prop}
    (both : LeadsBoth (left run) (right run') returned fun failure after after' => failed failure
      { after with session := { after.session with phase := .failed } }
      { after' with session := { after'.session with phase := .failed } }) :
    LeadsBoth (Transfer.settling left run) (Transfer.settling right run') returned failed := by
  obtain ⟨failure, after, after', broke, broke', held⟩ | ⟨value, after, value', after', came, came', held⟩ := both.cases
  · rw [Transfer.settling, Transfer.settling, bind_of_ok (attempt_of_error broke), bind_of_ok (attempt_of_error broke')]
    exact ⟨rfl, held⟩
  · rw [Transfer.settling, Transfer.settling, bind_of_ok (attempt_of_ok came), bind_of_ok (attempt_of_ok came')]
    exact held

end LeadsBoth

/-- Two streams that are read on in pieces of the same sizes are read exactly alike. -/
theorem Stream.readExactly_leadsBoth {stream : Stream ω} {other : Stream ω'} {related : ω → ω' → Prop}
    (reads : ∀ wanted world world', related world world' → LeadsBoth (stream.read wanted world)
      (other.read wanted world') (fun bytes after bytes' after' => bytes'.size = bytes.size ∧ related after after')
      fun _ => related)
    (wanted : Nat) {world : ω} {world' : ω'} (held : related world world') :
    LeadsBoth (stream.readExactly wanted world) (other.readExactly wanted world')
      (fun bytes after bytes' after' => bytes'.size = bytes.size ∧ related after after') fun _ => related := by
  suffices more : ∀ got got' : ByteArray, got'.size = got.size →
      LeadsBoth (stream.readMore got wanted world) (other.readMore got' wanted world')
        (fun bytes after bytes' after' => bytes'.size = bytes.size ∧ related after after') fun _ => related from
    more _ _ rfl
  induction wanted using Nat.strongRecOn generalizing world world' with
  | ind wanted ih =>
    intro got got' same
    rw [Stream.readMore, Stream.readMore]
    split
    next none => exact ⟨same, held⟩
    next some =>
      refine (reads wanted world world' held).bind ?_
      rintro bytes after bytes' after' ⟨size, held⟩
      rw [size]
      split
      next empty => exact ⟨rfl, held⟩
      next filled =>
        refine ih _ (by omega) held _ _ ?_
        rw [ByteArray.size_append, ByteArray.size_append, same, size]

end BlockImage
