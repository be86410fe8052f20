import BlockImage.Proofs.Leads

/-!
# Computations with traps

A transfer cuts buffers, divides, and computes places on devices as if nothing could be wrong with that. A computation
with traps does the same, but looks first, and is caught where it could not be done. If it `Follows` a computation
without traps then nothing catches it, and both come to the same end.
-/
namespace BlockImage

variable {ω α β : Type}

/-- Where a computation is caught. -/
inductive Trap
  /-- A piece is cut that does not lie within its buffer. -/
  | outside
  | zeroDivisor
  /-- A place on a device, or a number of blocks, is beyond what 64 bits can tell. -/
  | farPlace
  deriving DecidableEq, Repr

/-! ### Steps that may be caught -/

namespace Trapping

def byte (buffer : ByteArray) (index : Nat) : Except Trap UInt8 :=
  if h : index < buffer.size then return buffer[index] else throw .outside

/-- The piece of a buffer from `start` on and before `stop`. -/
def slice (buffer : ByteArray) (start stop : Nat) : Except Trap ByteArray :=
  if start ≤ stop ∧ stop ≤ buffer.size then return buffer.extract start stop else throw .outside

/-- The front of a working area, of which only the size is known. -/
def front (area size : Nat) : Except Trap Unit := if size ≤ area then return () else throw .outside

def quotient (dividend divisor : Nat) : Except Trap Nat :=
  if divisor = 0 then throw .zeroDivisor else return dividend / divisor

def remainder (dividend divisor : Nat) : Except Trap Nat :=
  if divisor = 0 then throw .zeroDivisor else return dividend % divisor

/-- A place on a device. -/
def place (offset : Nat) : Except Trap Nat := if offset < UInt64.size then return offset else throw .farPlace

theorem byte_of_lt {buffer : ByteArray} {index : Nat} (inside : index < buffer.size) :
    byte buffer index = .ok (Bytes.byteAt buffer index) := by
  rw [byte, dif_pos inside, Bytes.byteAt, dif_pos inside]
  rfl

theorem slice_of_le {buffer : ByteArray} {start stop : Nat} (ordered : start ≤ stop) (within : stop ≤ buffer.size) :
    slice buffer start stop = .ok (buffer.extract start stop) := if_pos ⟨ordered, within⟩

theorem front_of_le {area size : Nat} (within : size ≤ area) : front area size = .ok () := if_pos within

theorem quotient_of_pos (dividend : Nat) {divisor : Nat} (some : 0 < divisor) :
    quotient dividend divisor = .ok (dividend / divisor) := if_neg (Nat.ne_of_gt some)

theorem remainder_of_pos (dividend : Nat) {divisor : Nat} (some : 0 < divisor) :
    remainder dividend divisor = .ok (dividend % divisor) := if_neg (Nat.ne_of_gt some)

theorem place_of_lt {offset : Nat} (near : offset < UInt64.size) : place offset = .ok offset := if_pos near

end Trapping

/-! ### Transfers that may be caught -/

/-- Why a computation comes to no value. -/
inductive Halt
  | failure (failure : Error)
  | trap (trap : Trap)
  deriving DecidableEq, Repr

abbrev Trapping (ω α : Type) := EStateM Halt (Run ω) α

namespace Trapping

/-- A computation that nothing can catch. -/
def plain (body : Transfer ω α) : Trapping ω α := body.adaptExcept .failure

def demand (given : Except Trap α) : Trapping ω α :=
  match given with
  | .ok value => return value
  | .error trap => throw (.trap trap)

/-- What `outer` makes of the end that a computation comes to. It has no say in a trap. -/
def within (outer : Transfer ω α → Transfer ω β) (body : Trapping ω α) : Trapping ω β := fun run =>
  match body run with
  | .ok value after => plain (outer fun _ => .ok value after) run
  | .error (.failure failure) after => plain (outer fun _ => .error failure after) run
  | .error (.trap trap) after => .error (.trap trap) after

variable {trapping : Trapping ω α} {body : Transfer ω α} {run after : Run ω} {trap : Trap}

/-- What is plain is caught in no trap. -/
theorem plain_ne_trap : plain body run ≠ .error (.trap trap) after := by
  unfold plain EStateM.adaptExcept
  cases body run with
  | ok value there => exact nofun
  | error failure there => exact nofun

theorem plain_bind (next : α → Transfer ω β) :
    plain (body >>= next) run = (plain body >>= fun value => plain (next value)) run := by
  simp only [plain, EStateM.adaptExcept, bind, EStateM.bind]
  cases body run <;> rfl

theorem within_eq {outer : Transfer ω α → Transfer ω β}
    (goes : outer body run = outer (fun _ => body run) run) (same : trapping run = plain body run) :
    within outer trapping run = plain (outer body) run := by
  have around : plain (outer body) run = plain (outer fun _ => body run) run := by
    simp only [plain, EStateM.adaptExcept, goes]
  rw [within, same, around]
  unfold plain EStateM.adaptExcept
  cases body run <;> rfl

/-! ### Computations that follow others -/

/-- From `run` on no trap catches the one computation, and both come to an end that is as `returned` says. -/
structure Follows (trapping : Trapping ω α) (body : Transfer ω α) (run : Run ω) (returned : α → Run ω → Prop) :
    Prop where
  same : trapping run = plain body run
  leads : Leads (body run) returned fun _ _ => True

namespace Follows

variable {returned returned' : α → Run ω → Prop}

theorem plain (leads : Leads (body run) returned fun _ _ => True) : Follows (plain body) body run returned :=
  ⟨rfl, leads⟩

theorem plain_any (body : Transfer ω α) (run : Run ω) : Follows (Trapping.plain body) body run fun _ _ => True :=
  .plain (.of_all (fun _ _ => trivial) fun _ _ => trivial)

theorem pure {value : α} (holds : returned value run) : Follows (Pure.pure value) (Pure.pure value) run returned :=
  ⟨rfl, holds⟩

theorem throw (failure : Error) : Follows (throw (.failure failure)) (MonadExcept.throw failure) run returned :=
  ⟨rfl, trivial⟩

theorem weaken (follows : Follows trapping body run returned)
    (onReturn : ∀ value after, returned value after → returned' value after) : Follows trapping body run returned' :=
  ⟨follows.same, follows.leads.weaken onReturn⟩

theorem any (follows : Follows trapping body run returned) : Follows trapping body run fun _ _ => True :=
  follows.weaken fun _ _ _ => trivial

theorem bind {next : α → Trapping ω β} {next' : α → Transfer ω β} {between : α → Run ω → Prop}
    {returned : β → Run ω → Prop} (first : Follows trapping body run between)
    (later : ∀ value there, between value there → Follows (next value) (next' value) there returned) :
    Follows (trapping >>= next) (body >>= next') run returned := by
  obtain ⟨same, leads⟩ := first
  refine ⟨?_, leads_bind.mpr (leads.weaken fun value there held => (later value there held).leads)⟩
  rw [plain_bind]
  simp only [Bind.bind, EStateM.bind, same]
  -- Where the first part returns, both go on alike.
  simp only [Trapping.plain, EStateM.adaptExcept]
  cases came : body run with
  | error failure there => rfl
  | ok value there =>
    rw [came] at leads
    exact (later value there leads).same

theorem demand {given : Except Trap α} {value : α} {next : α → Trapping ω β} {body : Transfer ω β}
    {returned : β → Run ω → Prop} (is : given = .ok value) (rest : Follows (next value) body run returned) :
    Follows (demand given >>= next) body run returned := by
  subst is
  exact rest

theorem discard (follows : Follows trapping body run fun _ _ => True) :
    Follows (Functor.discard trapping) (Functor.discard body) run fun _ _ => True := by
  refine ⟨?_, .of_all (fun _ _ => trivial) fun _ _ => trivial⟩
  change EStateM.map _ trapping run = Trapping.plain (EStateM.map _ body) run
  simp only [EStateM.map, follows.same, Trapping.plain, EStateM.adaptExcept]
  cases body run <;> rfl

theorem get_bind {next : Run ω → Trapping ω β} {next' : Run ω → Transfer ω β} {returned : β → Run ω → Prop}
    (rest : Follows (next run) (next' run) run returned) : Follows (get >>= next) (get >>= next') run returned :=
  ⟨rest.same, rest.leads⟩

theorem ite {holds : Prop} [Decidable holds] {other : Trapping ω α} {other' : Transfer ω α}
    (yes : holds → Follows trapping body run returned) (no : ¬ holds → Follows other other' run returned) :
    Follows (if holds then trapping else other) (if holds then body else other') run returned := by
  split
  next held => exact yes held
  next absent => exact no absent

/-- What lies round a computation leaves it as it is. -/
theorem within {outer : Transfer ω α → Transfer ω β} (follows : Follows trapping body run fun _ _ => True)
    (goes : outer body run = outer (fun _ => body run) run) :
    Follows (within outer trapping) (outer body) run fun _ _ => True :=
  ⟨within_eq goes follows.same, .of_all (fun _ _ => trivial) fun _ _ => trivial⟩

section Loops

variable {ι : Type} {step : β → ι → Trapping ω β} {step' : β → ι → Transfer ω β}

theorem foldlM (holds : List ι → β → Run ω → Prop) {items : List ι}
    (steps : ∀ item rest value run, item ∈ items → holds (item :: rest) value run →
      Follows (step value item) (step' value item) run (holds rest))
    {value : β} {run : Run ω} (start : holds items value run) :
    Follows (items.foldlM step value) (items.foldlM step' value) run (holds []) := by
  induction items generalizing value run with
  | nil => exact .pure start
  | cons item rest ih =>
    have later (other : ι) (left : List ι) (value : β) (run : Run ω) (member : other ∈ rest) :=
      steps other left value run (List.mem_cons_of_mem _ member)
    rw [List.foldlM_cons, List.foldlM_cons]
    exact (steps item rest value run List.mem_cons_self start).bind fun _ _ held => ih later held

/-- Of a loop from whose steps nothing is to be known but that they follow. -/
theorem foldlM_any {items : List ι}
    (steps : ∀ item ∈ items, ∀ value run, Follows (step value item) (step' value item) run fun _ _ => True) (value : β)
    (run : Run ω) : Follows (items.foldlM step value) (items.foldlM step' value) run fun _ _ => True :=
  .foldlM (fun _ _ _ => True) (fun item _ value run member _ => steps item member value run) trivial

theorem foldlM_range {step : β → Nat → Trapping ω β} {step' : β → Nat → Transfer ω β} (holds : Nat → β → Run ω → Prop)
    {count : Nat} (steps : ∀ index value run, index < count → holds index value run →
      Follows (step value index) (step' value index) run (holds (index + 1)))
    {value : β} {run : Run ω} (start : holds 0 value run) :
    Follows ((List.range count).foldlM step value) ((List.range count).foldlM step' value) run (holds count) := by
  -- What is left of the range begins at the index that is next.
  refine (foldlM (fun rest value run => ∃ index ≤ count, rest = List.range' index (count - index) ∧
    holds index value run) ?_ ⟨0, Nat.zero_le _, by rw [List.range_eq_range', Nat.sub_zero], start⟩).weaken ?_
  · rintro item rest value run - ⟨index, within, listed, held⟩
    obtain ⟨rfl, more, listed⟩ := List.range'_eq_cons_iff.mp listed.symm
    exact (steps index value run (by omega) held).weaken fun value after held =>
      ⟨index + 1, by omega, by rw [listed, Nat.sub_sub], held⟩
  · rintro value after ⟨index, within, rest, held⟩
    have all : count - index = 0 := List.range'_eq_nil_iff.mp rest.symm
    obtain rfl : index = count := by omega
    exact held

end Loops

end Follows

end Trapping

end BlockImage
